import CodeAudit.Decimal.Shortest
import CodeAudit.Proofs.Decimal.Rounding
import CodeAudit.Proofs.Digits
import Mathlib.Data.List.TakeWhile

/-!
# Shortest Decimals

That the digits of a number of the format are read as that number.

A number is written with the first decimal that is read as it, among the candidates on finer and
finer grids of powers of ten. The search ends with seventeen digits, where the nearest decimal is
taken whether it has been tried or not. So there are two cases. A candidate that has been tried is
read as the number, and one that has not is so close to it that it is.

The digits found are written without the zeros at their end, and the text is read with a mantissa
and an exponent of its own. Neither changes the value, and a decimal is read as its value tells:
the bounds on the exponent, beyond which a decimal is not looked at, keep out only decimals that
are rounded to zero or to an infinite number.

## Main definitions

* `Double.onGrid`: A ratio on the grid of the multiples of a power of ten.
* `Double.decimalValue`: The value of digits with a point.

## Theorems

* `Double.ofDecimal_eq`: A decimal is read as its value is rounded.
* `Double.ofDecimal_congr`: What a decimal is read as depends on its value alone.
* `Double.near_of_seventeen`: With seventeen digits the nearest decimal is close enough.
* `Double.searchGrids_reads`: The search finds a decimal that is read as the number.
* `Double.shortest_reads`: The digits of a number are those of a decimal that is read as the
  number.
-/

namespace CodeAudit

namespace Double

/-! ## Decimals -/

theorem ten_zpow_pos (e : Int) : (0 : ℚ) < 10 ^ e :=
  zpow_pos (by norm_num) e

/-- Three factors of two are less than one of ten. -/
theorem twoTo_mul_three_le (n : Nat) : twoTo (3 * n) ≤ tenTo n := by
  have hle : 2 ^ 3 ≤ 10 := by decide
  calc twoTo (3 * n) = (2 ^ 3) ^ n := Nat.pow_mul 2 3 n
    _ ≤ tenTo n := Nat.pow_le_pow_left hle n

/-- A decimal as a ratio. -/
theorem decimal_ratio (digits : Nat) (e : Int) :
    (digits : ℚ) * 10 ^ e =
      if e < 0 then (digits : ℚ) / tenTo (-e).toNat else ((digits * tenTo e.toNat : Nat) : ℚ) := by
  by_cases he : e < 0
  · have hexp : ((-e).toNat : Int) = -e := by omega
    rw [if_pos he, cast_tenTo, hexp, zpow_neg, div_inv_eq_mul]
  · have hexp : (e.toNat : Int) = e := by omega
    rw [if_neg he, Nat.cast_mul, cast_tenTo, hexp]

/-- A decimal with an exponent that large is beyond the range. -/
theorem decimal_large (digits : Nat) (e : Int) (hdigits : 0 < digits) (he : 400 < e) :
    (2 : ℚ) ^ (1024 : Int) ≤ (digits * tenTo e.toNat : Nat) := by
  have hle : twoTo 1024 ≤ digits * tenTo e.toNat := by
    calc twoTo 1024 ≤ twoTo (3 * 400) := twoTo_le_twoTo (by decide)
      _ ≤ tenTo 400 := twoTo_mul_three_le 400
      _ ≤ tenTo e.toNat := tenTo_le_tenTo (by omega)
      _ ≤ digits * tenTo e.toNat := Nat.le_mul_of_pos_left _ hdigits
  have hcast := cast_twoTo 1024
  rw [Nat.cast_ofNat] at hcast
  rw [← hcast]
  exact Nat.cast_le.mpr hle

/-- A decimal with so few digits and an exponent that small is below half the least number. -/
theorem decimal_small (digits : Nat) (e : Int)
    (he : ((digits.log2 / 3 + 1 : Nat) : Int) + e < -400) :
    (digits : ℚ) * 10 ^ e < 2 ^ (-1075 : Int) := by
  have hdigits : digits < tenTo (digits.log2 / 3 + 1) := by
    calc digits < twoTo (digits.log2 + 1) := Nat.lt_log2_self
      _ ≤ twoTo (3 * (digits.log2 / 3 + 1)) := twoTo_le_twoTo (by omega)
      _ ≤ tenTo (digits.log2 / 3 + 1) := twoTo_mul_three_le _
  have hpow : twoTo 1075 ≤ tenTo 401 :=
    Nat.le_trans (twoTo_le_twoTo (by decide)) (twoTo_mul_three_le 401)
  have hpow : (2 : ℚ) ^ (1075 : Int) ≤ 10 ^ (401 : Int) := by
    rw [← Nat.cast_le (α := ℚ), cast_twoTo, cast_tenTo] at hpow
    exact hpow
  calc (digits : ℚ) * 10 ^ e < tenTo (digits.log2 / 3 + 1) * 10 ^ e :=
        mul_lt_mul_of_pos_right (Nat.cast_lt.mpr hdigits) (ten_zpow_pos e)
    _ = 10 ^ (((digits.log2 / 3 + 1 : Nat) : Int) + e) := by
        rw [cast_tenTo, zpow_add₀ (by norm_num)]
    _ ≤ 10 ^ (-401 : Int) := zpow_le_zpow_right₀ (by norm_num) (by omega)
    _ = (10 ^ (401 : Int))⁻¹ := zpow_neg _ _
    _ ≤ (2 ^ (1075 : Int))⁻¹ := inv_anti₀ (two_zpow_pos _) hpow
    _ = 2 ^ (-1075 : Int) := (zpow_neg _ _).symm

/-- A decimal is read as the number nearest to its value. The bounds beyond which nothing is
    computed change nothing about that. -/
theorem ofDecimal_eq (negative : Bool) (digits : Nat) (e : Int) (hdigits : 0 < digits) :
    ∃ num den : Nat, 0 < num ∧ 0 < den ∧ (num : ℚ) / den = digits * 10 ^ e ∧
      ofDecimal negative digits e = roundRatio negative num den := by
  have hzero : ¬ (digits == 0) = true := fun h => by
    rw [beq_iff_eq] at h
    omega
  have hten : ∀ n, 0 < tenTo n := tenTo_pos
  have hvalue := decimal_ratio digits e
  rw [ofDecimal]
  simp only [if_neg hzero]
  by_cases hneg : e < 0
  · rw [if_pos hneg] at hvalue
    refine ⟨digits, tenTo (-e).toNat, hdigits, hten _, hvalue.symm, ?_⟩
    rw [if_neg (by omega)]
    by_cases hsize : Int.ofNat digits.log2 / 3 + 1 + e < -400
    · -- A value with so few digits is below half the least number.
      rw [if_pos hsize, roundRatio_of_small negative digits _ hdigits (hten _)]
      rw [← hvalue]
      exact decimal_small digits e hsize
    · rw [if_neg hsize, if_pos hneg]
  · rw [if_neg hneg] at hvalue
    refine ⟨digits * tenTo e.toNat, 1, Nat.mul_pos hdigits (hten _), one_pos, ?_, ?_⟩
    · rw [Nat.cast_one, div_one, hvalue]
    · by_cases hlarge : e > 400
      · rw [if_pos hlarge, roundRatio_of_large negative _ _ one_pos]
        rw [Nat.cast_one, div_one]
        exact decimal_large digits e hdigits hlarge
      · rw [if_neg hlarge, if_neg (by simp only [Int.ofNat_eq_natCast]; omega), if_neg hneg]

/-- What a decimal is read as depends on its value alone. -/
theorem ofDecimal_congr (negative : Bool) (digits digits' : Nat) (e e' : Int)
    (h : (digits : ℚ) * 10 ^ e = digits' * 10 ^ e') :
    ofDecimal negative digits e = ofDecimal negative digits' e' := by
  have hiff : digits = 0 ↔ digits' = 0 := by
    have hleft : (digits : ℚ) * 10 ^ e = 0 ↔ digits = 0 := by
      rw [mul_eq_zero, or_iff_left (ten_zpow_pos e).ne', Nat.cast_eq_zero]
    have hright : (digits' : ℚ) * 10 ^ e' = 0 ↔ digits' = 0 := by
      rw [mul_eq_zero, or_iff_left (ten_zpow_pos e').ne', Nat.cast_eq_zero]
    rw [← hleft, ← hright, h]
  by_cases hzero : digits = 0
  · rw [hzero, hiff.mp hzero]
    rfl
  · have hzero' : digits' ≠ 0 := fun h => hzero (hiff.mpr h)
    rcases ofDecimal_eq negative digits e (by omega) with ⟨n, d, _, hd, hvalue, heq⟩
    rcases ofDecimal_eq negative digits' e' (by omega) with ⟨n', d', _, hd', hvalue', heq'⟩
    rw [heq, heq', roundRatio_congr negative n d n' d' hd hd' (by rw [hvalue, hvalue', h])]

/-- A decimal close enough to a number of the format is read as that number. -/
theorem ofDecimal_of_near (negative : Bool) (digits m : Nat) (e f : Int) (hform : IsForm m f)
    (h : |(digits : ℚ) * 10 ^ e - m * 2 ^ f| < m * 2 ^ f / 2 ^ 54) :
    ofDecimal negative digits e = .finite negative m f := by
  have hdigits : 0 < digits := by
    by_contra hnot
    have hzero : digits = 0 := by omega
    have hpos : (0 : ℚ) ≤ m * 2 ^ f := mul_nonneg (Nat.cast_nonneg m) (two_zpow_pos f).le
    rw [hzero, Nat.cast_zero, zero_mul, zero_sub, abs_neg, abs_of_nonneg hpos] at h
    linarith
  rcases ofDecimal_eq negative digits e hdigits with ⟨n, d, hn, hd, hvalue, heq⟩
  rw [heq, roundRatio_of_near negative n d m f hn hd hform (hvalue ▸ h)]

/-- The sign of a decimal has no part in how it is read. -/
theorem ofDecimal_of_positive (negative : Bool) (digits m : Nat) (e f : Int) (hdigits : 0 < digits)
    (h : ofDecimal false digits e = .finite false m f) :
    ofDecimal negative digits e = .finite negative m f := by
  rcases ofDecimal_eq negative digits e hdigits with ⟨n, d, _, hd, hvalue, heq⟩
  rcases ofDecimal_eq false digits e hdigits with ⟨n', d', _, hd', hvalue', heq'⟩
  rw [heq', roundRatio_congr false n' d' n d hd' hd (by rw [hvalue, hvalue'])] at h
  rw [heq, roundRatio_of_positive negative n d m f h]

/-! ## The search -/

/-- The whole part of a ratio raised by a power of ten has as many digits as the position of
    the point says. -/
theorem pow_le_of_magnitude (num den : Nat) (hden : 0 < den) (h : den ≤ num * tenTo 400) :
    tenTo ((Nat.toDigits 10 (num * tenTo 400 / den)).length - 1) * den ≤ num * tenTo 400 := by
  rw [← Nat.le_div_iff_mul_le hden]
  -- The whole part is all that counts from here on.
  generalize hN : num * tenTo 400 / den = N
  have hN1 : 1 ≤ N := by
    rw [← hN, Nat.le_div_iff_mul_le hden, Nat.one_mul]
    exact h
  by_cases hlen : (Nat.toDigits 10 N).length - 1 = 0
  · rw [hlen]
    exact hN1
  · have hiff : (Nat.toDigits 10 N).length ≤ (Nat.toDigits 10 N).length - 1 ↔
        N < tenTo ((Nat.toDigits 10 N).length - 1) :=
      Nat.length_toDigits_le_iff (by omega) (by omega)
    -- A number with fewer digits would be smaller than the power of ten.
    have hnot : ¬ (Nat.toDigits 10 N).length ≤ (Nat.toDigits 10 N).length - 1 := by omega
    rw [hiff] at hnot
    omega

theorem le_of_magnitude (num den : Nat) (hden : 0 < den) (h : den ≤ num * tenTo 400) :
    (10 : ℚ) ^ (magnitude num den - 1) ≤ num / den := by
  have hpow := pow_le_of_magnitude num den hden h
  have hpos : 0 < (Nat.toDigits 10 (num * tenTo 400 / den)).length := Nat.length_toDigits_pos
  rw [magnitude]
  generalize (Nat.toDigits 10 (num * tenTo 400 / den)).length = len at hpow hpos ⊢
  rw [← Nat.cast_le (α := ℚ), Nat.cast_mul, Nat.cast_mul, cast_tenTo, cast_tenTo] at hpow
  have hexp : (Int.ofNat len - 400 - 1 : Int) = ((len - 1 : Nat) : Int) - (400 : Nat) := by
    simp only [Int.ofNat_eq_natCast]
    omega
  rw [hexp, zpow_sub₀ (by norm_num), div_le_div_iff₀ (ten_zpow_pos _) (by exact_mod_cast hden)]
  exact hpow

/-- A ratio on the grid of the multiples of a power of ten. -/
def onGrid (num den : Nat) (grid : Int) : Nat × Nat :=
  if grid < 0 then (num * tenTo (-grid).toNat, den) else (num, den * tenTo grid.toNat)

theorem onGrid_value (num den : Nat) (grid : Int) :
    ((onGrid num den grid).1 : ℚ) / (onGrid num den grid).2 = (num : ℚ) / den / 10 ^ grid := by
  rw [onGrid]
  by_cases hgrid : grid < 0
  · have hexp : ((-grid).toNat : Int) = -grid := by omega
    rw [if_pos hgrid, Nat.cast_mul, cast_tenTo, hexp, zpow_neg, ← div_eq_mul_inv, div_right_comm]
  · have hexp : (grid.toNat : Int) = grid := by omega
    rw [if_neg hgrid, Nat.cast_mul, cast_tenTo, hexp, div_div]

theorem onGrid_den_pos (num den : Nat) (grid : Int) (hden : 0 < den) :
    0 < (onGrid num den grid).2 := by
  rw [onGrid]
  by_cases hgrid : grid < 0
  · rw [if_pos hgrid]
    exact hden
  · rw [if_neg hgrid]
    exact Nat.mul_pos hden (tenTo_pos _)

/-- The first candidate is the nearest multiple. -/
theorem headD_candidates (num den : Nat) (grid : Int) :
    (candidates num den grid).headD 0 =
      roundHalfEven (onGrid num den grid).1 (onGrid num den grid).2 := by
  have hcandidates : candidates num den grid =
      if roundHalfEven (onGrid num den grid).1 (onGrid num den grid).2 ==
          (onGrid num den grid).1 / (onGrid num den grid).2 then
        [(onGrid num den grid).1 / (onGrid num den grid).2,
          (onGrid num den grid).1 / (onGrid num den grid).2 + 1]
      else
        [(onGrid num den grid).1 / (onGrid num den grid).2 + 1,
          (onGrid num den grid).1 / (onGrid num den grid).2] := rfl
  rw [hcandidates]
  by_cases hlow : (roundHalfEven (onGrid num den grid).1 (onGrid num den grid).2 ==
      (onGrid num den grid).1 / (onGrid num den grid).2) = true
  · rw [if_pos hlow, List.headD_cons]
    exact (beq_iff_eq.mp hlow).symm
  · rw [if_neg hlow, List.headD_cons]
    rw [beq_iff_eq] at hlow
    exact ((roundHalfEven_cases _ _).resolve_left hlow).symm

/-- With seventeen digits the nearest decimal is close enough. -/
theorem near_of_seventeen (num den : Nat) (hden : 0 < den) (h : den ≤ num * tenTo 400) :
    |((candidates num den (magnitude num den - 17)).headD 0 : ℚ) *
        10 ^ (magnitude num den - 17) - num / den| < num / den / 2 ^ 54 := by
  have hlow := le_of_magnitude num den hden h
  generalize magnitude num den = p at hlow ⊢
  have hunit : (0 : ℚ) < 10 ^ (p - 17) := ten_zpow_pos _
  have hscale : (10 : ℚ) ^ (p - 1) = 10 ^ (16 : Int) * 10 ^ (p - 17) := by
    rw [← zpow_add₀ (by norm_num)]
    congr 1
    omega
  have hnear := roundHalfEven_near (onGrid num den (p - 17)).1 _
    (onGrid_den_pos num den (p - 17) hden)
  rw [← headD_candidates, onGrid_value] at hnear
  generalize (candidates num den (p - 17)).headD 0 = c at hnear ⊢
  generalize (num : ℚ) / den = v at hlow hnear ⊢
  -- The distance is at most half a unit of the last digit.
  have hhalf : |(c : ℚ) * 10 ^ (p - 17) - v| ≤ 1 / 2 * 10 ^ (p - 17) := by
    have hmul : (c : ℚ) * 10 ^ (p - 17) - v = -((v / 10 ^ (p - 17) - c) * 10 ^ (p - 17)) := by
      rw [sub_mul, div_mul_cancel₀ _ hunit.ne', neg_sub]
    rw [hmul, abs_neg, abs_mul, abs_of_pos hunit]
    exact mul_le_mul_of_nonneg_right hnear hunit.le
  rw [hscale] at hlow
  norm_num at hlow
  linarith

/-- The search finds a decimal that is read as the number. -/
theorem searchGrids_reads (num den m : Nat) (e : Int) (hden : 0 < den) (hform : IsForm m e)
    (hvalue : (num : ℚ) / den = m * 2 ^ e) (h : den ≤ num * tenTo 400) :
    ∀ fuel k, fuel + k = 17 →
      ofDecimal false
          (searchGrids (.finite false m e) num den (magnitude num den) fuel k).1
          (searchGrids (.finite false m e) num den (magnitude num den) fuel k).2 =
        .finite false m e := by
  intro fuel
  induction fuel with
  | zero =>
      intro k hk
      have hk : k = 17 := by omega
      rw [searchGrids, hk]
      -- The grid is fine enough, whatever the shorter ones gave.
      have hnear := near_of_seventeen num den hden h
      rw [hvalue] at hnear
      exact ofDecimal_of_near false _ m _ e hform hnear
  | succ fuel ih =>
      intro k hk
      rw [searchGrids]
      cases hfind : (candidates num den (magnitude num den - Int.ofNat k)).find? fun c =>
          ofDecimal false c (magnitude num den - Int.ofNat k) == .finite false m e with
      | some c =>
          have hread := List.find?_some hfind
          exact beq_iff_eq.mp hread
      | none => exact ih (k + 1) (by omega)

/-! ## The digits -/

/-- A list is what is kept of it, with what is taken away at its end behind. -/
theorem exists_zeros_behind (ds : List Char) :
    ∃ n, ds = (ds.reverse.dropWhile (· == '0')).reverse ++ List.replicate n '0' := by
  refine ⟨(ds.reverse.takeWhile (· == '0')).length, ?_⟩
  have hzeros : ds.reverse.takeWhile (· == '0') =
      List.replicate (ds.reverse.takeWhile (· == '0')).length '0' := by
    refine List.eq_replicate_of_mem (fun c hc => ?_)
    have hkept := List.mem_takeWhile_imp hc
    exact beq_iff_eq.mp hkept
  rw [← List.reverse_inj, List.reverse_append, List.reverse_replicate, List.reverse_reverse,
    ← hzeros, List.takeWhile_append_dropWhile]

/-- The value of digits with a point at a position counted from their front. -/
def decimalValue (digits : List Char) (point : Int) : ℚ :=
  decimalNat digits * 10 ^ (point - digits.length)

/-- Without the zeros at its end a multiple of a power of ten has the same value. -/
theorem decimalValue_pointed (c : Nat) (grid : Int) :
    decimalValue (pointed (c, grid)).1 (pointed (c, grid)).2 = c * 10 ^ grid := by
  rcases exists_zeros_behind (Nat.toDigits 10 c) with ⟨n, hn⟩
  have hlen := congrArg List.length hn
  have hc := decimalNat_toDigits c
  rw [hn, decimalNat_append_zeros] at hc
  rw [List.length_append, List.length_replicate] at hlen
  rw [decimalValue, pointed]
  simp only [Int.ofNat_eq_natCast]
  generalize ((Nat.toDigits 10 c).reverse.dropWhile (· == '0')).reverse = kept at hlen hc ⊢
  have hexp : ((Nat.toDigits 10 c).length : Int) + grid - kept.length = (n : Int) + grid := by
    omega
  rw [hexp, ← hc, Nat.cast_mul, cast_tenTo, zpow_add₀ (by norm_num), mul_assoc]

/-- Removing from the end of a list stops before an element that is kept. -/
theorem dropWhile_concat (p : Char → Bool) (xs : List Char) (d : Char) (hd : p d = false) :
    (xs ++ [d]).dropWhile p = xs.dropWhile p ++ [d] := by
  induction xs with
  | nil => rw [List.nil_append, List.dropWhile_nil, List.nil_append, List.dropWhile_cons, hd]; rfl
  | cons x xs ih =>
      rw [List.cons_append, List.dropWhile_cons, List.dropWhile_cons]
      by_cases hx : p x = true
      · rw [if_pos hx, if_pos hx, ih]
      · rw [if_neg hx, if_neg hx, List.cons_append]

/-- The digits of a positive multiple of a power of ten: the first one is not a zero. -/
theorem pointed_digits (c : Nat) (grid : Int) (hc : 0 < c) :
    ∃ d ds, (pointed (c, grid)).1 = d :: ds ∧ d ≠ '0' ∧
      ∀ x ∈ (pointed (c, grid)).1, x.isDigit = true := by
  rcases toDigits_head_ne_zero c hc with ⟨d, ds, hdigits, hd⟩
  -- Zeros are taken away at the end, which never reaches the first digit.
  have hkept : (pointed (c, grid)).1 = d :: (ds.reverse.dropWhile (· == '0')).reverse := by
    rw [pointed, hdigits, List.reverse_cons,
      dropWhile_concat (· == '0') _ _ (beq_eq_false_iff_ne.mpr hd), List.reverse_append]
    rfl
  refine ⟨d, (ds.reverse.dropWhile (· == '0')).reverse, hkept, hd, fun x hx => ?_⟩
  refine isDigit_of_mem_toDigits c x ?_
  rw [pointed, List.mem_reverse] at hx
  exact List.mem_reverse.mp ((List.dropWhile_sublist _).subset hx)

/-- The digits of a number are those of a decimal that is read as the number. -/
theorem shortest_reads (num den m : Nat) (e : Int) (hnum : 0 < num) (hden : 0 < den)
    (hform : IsForm m e) (hvalue : (num : ℚ) / den = m * 2 ^ e) (h : den ≤ num * tenTo 400) :
    (∃ d ds, (shortest num den).1 = d :: ds ∧ d ≠ '0' ∧
      ∀ x ∈ (shortest num den).1, x.isDigit = true) ∧
    ∀ negative (digits : Nat) f,
      (digits : ℚ) * 10 ^ f = decimalValue (shortest num den).1 (shortest num den).2 →
      ofDecimal negative digits f = .finite negative m e := by
  have hv : (0 : ℚ) < m * 2 ^ e := by
    rw [← hvalue]
    positivity
  have hx : roundRatio false num den = .finite false m e := by
    refine roundRatio_of_near false num den m e hnum hden hform ?_
    rw [hvalue, sub_self, abs_zero]
    positivity
  have hreads := searchGrids_reads num den m e hden hform hvalue h 16 1 rfl
  rw [shortest, hx]
  generalize searchGrids (.finite false m e) num den (magnitude num den) 16 1 = found at hreads ⊢
  rcases found with ⟨c, grid⟩
  -- A zero would not be read as a positive number.
  have hc : 0 < c := by
    by_contra hnot
    have hzero : c = 0 := by omega
    have hm : 0 = m := by
      rw [hzero] at hreads
      exact (Double.finite.inj hreads).2.1
    rw [← hm, Nat.cast_zero, zero_mul] at hv
    exact lt_irrefl _ hv
  refine ⟨pointed_digits c grid hc, fun negative digits f hdecimal => ?_⟩
  rw [decimalValue_pointed] at hdecimal
  rw [ofDecimal_congr negative digits c f grid hdecimal]
  exact ofDecimal_of_positive negative c m grid e hc hreads

end Double

end CodeAudit

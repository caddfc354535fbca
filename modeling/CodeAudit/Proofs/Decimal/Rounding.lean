import CodeAudit.Decimal.Double
import Mathlib.Algebra.Order.Floor.Semifield
import Mathlib.Data.Int.Log
import Mathlib.Data.Rat.Floor
import Mathlib.Tactic.Linarith
import Mathlib.Tactic.NormNum
import Mathlib.Tactic.Positivity
import Mathlib.Tactic.Ring

/-!
# Rounding

What the rounding of a ratio gives, said of the value of the ratio.

A ratio of natural numbers is rounded in steps that look at numerator and denominator: the exponent
is guessed from their lengths and put right, one of them is shifted, and a quotient is rounded half
to even. All of it depends on the value alone. The exponent is that of the binary logarithm, but
not less than the least one, so the value divided by that power of two, `mantissaOf`, is less than
`2 ^ 53` and, above the least exponent, not less than `2 ^ 52`. What is rounded to a whole number is
this mantissa.

That is why a value close to a number of the format is rounded to it: close means by less than half
a unit of its last place. One part in `2 ^ 54` of the number will do, also at the powers of two,
where the unit below is half the unit above.

## Main definitions

* `Double.exponentAt`, `Double.mantissaOf`: The exponent at which a value is rounded, and what is
  left of it.
* `Double.packed`: A mantissa with its exponent, as a number of the format.
* `Double.IsForm`, `Double.IsCanonical`: The numbers of the format.

## Theorems

* `roundHalfEven_near`: A ratio is rounded to a whole number that is next to it.
* `Double.roundRatio_eq`: What rounding gives, from the value of the ratio.
* `Double.roundRatio_congr`: Rounding depends on the value of the ratio alone.
* `Double.isCanonical_roundRatio`: The result is a number of the format.
* `Double.roundRatio_of_large`, `Double.roundRatio_of_small`: Values out of the range.
* `Double.roundRatio_of_near`: Values close to a number of the format.
-/

namespace CodeAudit

theorem cast_twoTo (n : Nat) : (twoTo n : ℚ) = 2 ^ (n : Int) := by
  rw [twoTo, Nat.pow_eq, Nat.cast_pow, Nat.cast_ofNat, zpow_natCast]

theorem cast_tenTo (n : Nat) : (tenTo n : ℚ) = 10 ^ (n : Int) := by
  rw [tenTo, Nat.pow_eq, Nat.cast_pow, Nat.cast_ofNat, zpow_natCast]

/-! ## Whole numbers -/

theorem roundHalfEven_mul_right (num den k : Nat) (hk : 0 < k) :
    roundHalfEven (num * k) (den * k) = roundHalfEven num den := by
  -- Both comparisons with the half are multiplied by the same factor.
  have hlow : ∀ r, 2 * (r * k) < den * k ↔ 2 * r < den := fun r => by
    rw [← Nat.mul_assoc]
    exact Nat.mul_lt_mul_right hk
  have hhigh : ∀ r, den * k < 2 * (r * k) ↔ den < 2 * r := fun r => by
    rw [← Nat.mul_assoc]
    exact Nat.mul_lt_mul_right hk
  simp only [roundHalfEven, Nat.mul_div_mul_right _ _ hk, Nat.mul_mod_mul_right, hlow, hhigh]

/-- Rounding depends on the value of the ratio alone. -/
theorem roundHalfEven_congr (n d n' d' : Nat) (hd : 0 < d) (hd' : 0 < d')
    (h : (n : ℚ) / d = n' / d') : roundHalfEven n d = roundHalfEven n' d' := by
  -- The ratios are made equal by their cross product.
  have hcross : n * d' = n' * d := by
    rw [div_eq_div_iff (by positivity) (by positivity)] at h
    exact_mod_cast h
  calc roundHalfEven n d = roundHalfEven (n * d') (d * d') :=
        (roundHalfEven_mul_right n d d' hd').symm
    _ = roundHalfEven (n' * d) (d' * d) := by rw [hcross, Nat.mul_comm d]
    _ = roundHalfEven n' d' := roundHalfEven_mul_right n' d' d hd

theorem roundHalfEven_cases (n d : Nat) :
    roundHalfEven n d = n / d ∨ roundHalfEven n d = n / d + 1 := by
  rw [roundHalfEven]
  split
  · exact Or.inl rfl
  · split
    · exact Or.inr rfl
    · split
      · exact Or.inl rfl
      · exact Or.inr rfl

theorem roundHalfEven_near (n d : Nat) (hd : 0 < d) :
    |(n : ℚ) / d - roundHalfEven n d| ≤ 1 / 2 := by
  have hdiv : (n : ℚ) = d * (n / d : Nat) + (n % d : Nat) := by
    exact_mod_cast (Nat.div_add_mod n d).symm
  have hmod : n % d < d := Nat.mod_lt n hd
  have hpos : (0 : ℚ) < d := by exact_mod_cast hd
  -- The distance is told by the remainder, from below or from above.
  have hbelow : (n : ℚ) / d - (n / d : Nat) = (n % d : Nat) / d := by
    rw [hdiv]
    field_simp
    ring
  have hrange : (0 : ℚ) ≤ (n % d : Nat) / d := by positivity
  have hsmall : 2 * (n % d) ≤ d → |(n : ℚ) / d - (n / d : Nat)| ≤ 1 / 2 := by
    intro h
    have hq : (2 : ℚ) * (n % d : Nat) ≤ d := by exact_mod_cast h
    rw [hbelow, abs_of_nonneg hrange, div_le_div_iff₀ hpos (by norm_num)]
    linarith
  have hlarge : d ≤ 2 * (n % d) → |(n : ℚ) / d - (n / d + 1 : Nat)| ≤ 1 / 2 := by
    intro h
    have hq : (d : ℚ) ≤ 2 * (n % d : Nat) := by exact_mod_cast h
    have hlt : ((n % d : Nat) : ℚ) < d := by exact_mod_cast hmod
    have hone : ((n % d : Nat) : ℚ) / d < 1 := (div_lt_one hpos).mpr hlt
    have hhalf : (1 : ℚ) / 2 ≤ (n % d : Nat) / d := by
      rw [div_le_div_iff₀ (by norm_num) hpos]
      linarith
    rw [Nat.cast_add, Nat.cast_one, abs_le]
    constructor
    · linarith
    · linarith
  rw [roundHalfEven]
  split
  · exact hsmall (by omega)
  · split
    · exact hlarge (by omega)
    · split
      · exact hsmall (by omega)
      · exact hlarge (by omega)

theorem roundHalfEven_eq_of_close (n d m : Nat) (hd : 0 < d)
    (h : |(n : ℚ) / d - m| < 1 / 2) : roundHalfEven n d = m := by
  have hnear := roundHalfEven_near n d hd
  -- Two whole numbers whose distance is below one are the same.
  have hdist : |((roundHalfEven n d : Nat) : ℚ) - m| < 1 := by
    rw [abs_le] at hnear
    rw [abs_lt] at h ⊢
    constructor
    · linarith
    · linarith
  have hint : |((roundHalfEven n d : Nat) : ℤ) - m| < 1 := by exact_mod_cast hdist
  have hzero := Int.abs_lt_one_iff.mp hint
  omega

namespace Double

/-! ## The exponent -/

/-- The exponent at which a positive value is rounded. -/
def exponentAt (v : ℚ) : Int :=
  max (Int.log 2 v - 52) minExponent

theorem scaled_value (num den : Nat) (e : Int) :
    ((scaled num den e).1 : ℚ) / (scaled num den e).2 = (num : ℚ) / den / 2 ^ e := by
  rw [scaled]
  by_cases he : e < 0
  · have hexp : ((-e).toNat : Int) = -e := by omega
    rw [if_pos he, Nat.cast_mul, cast_twoTo, hexp, zpow_neg, ← div_eq_mul_inv, div_right_comm]
  · have hexp : (e.toNat : Int) = e := by omega
    rw [if_neg he, Nat.cast_mul, cast_twoTo, hexp, div_div]

theorem scaled_den_pos (num den : Nat) (e : Int) (hden : 0 < den) :
    0 < (scaled num den e).2 := by
  rw [scaled]
  by_cases he : e < 0
  · rw [if_pos he]
    exact hden
  · rw [if_neg he]
    exact Nat.mul_pos hden (twoTo_pos _)

theorem two_zpow_pos (e : Int) : (0 : ℚ) < 2 ^ e :=
  zpow_pos (by norm_num) e

/-- The binary logarithm is known from the two powers a value lies between. -/
theorem log_eq_of_bounds (v : ℚ) (e : Int) (hlow : (2 : ℚ) ^ e ≤ v) (hhigh : v < 2 ^ (e + 1)) :
    Int.log 2 v = e := by
  have hpos : 0 < v := lt_of_lt_of_le (two_zpow_pos e) hlow
  have hle : e ≤ Int.log 2 v :=
    (Int.zpow_le_iff_le_log (by norm_num) hpos).mp (by exact_mod_cast hlow)
  have hlt : Int.log 2 v < e + 1 :=
    (Int.lt_zpow_iff_log_lt (by norm_num) hpos).mp (by exact_mod_cast hhigh)
  omega

theorem two_zpow_log2_le (n : Nat) (hn : 0 < n) : (2 : ℚ) ^ (n.log2 : Int) ≤ n := by
  rw [zpow_natCast]
  exact_mod_cast Nat.log2_self_le (by omega)

theorem lt_two_zpow_log2 (n : Nat) : (n : ℚ) < 2 ^ ((n.log2 : Int) + 1) := by
  rw [← Nat.cast_one, ← Nat.cast_add, zpow_natCast]
  exact_mod_cast Nat.lt_log2_self

/-- The exponent is the one that the logarithm of the value tells. -/
theorem exponentFor_eq (num den : Nat) (hnum : 0 < num) (hden : 0 < den) :
    exponentFor num den = exponentAt ((num : ℚ) / den) := by
  have hd : (0 : ℚ) < den := by exact_mod_cast hden
  rw [exponentFor, exponentAt]
  simp only [Int.ofNat_eq_natCast]
  generalize hg : (num.log2 : Int) - den.log2 - 52 = guess
  -- The guess is right or one too large.
  have hlow : (2 : ℚ) ^ (guess + 51) < num / den := by
    rw [lt_div_iff₀ hd]
    calc (2 : ℚ) ^ (guess + 51) * den < 2 ^ (guess + 51) * 2 ^ ((den.log2 : Int) + 1) := by
          have := lt_two_zpow_log2 den
          have := two_zpow_pos (guess + 51)
          gcongr
      _ = 2 ^ (num.log2 : Int) := by
          rw [← zpow_add₀ (by norm_num)]
          congr 1
          omega
      _ ≤ num := two_zpow_log2_le num hnum
  have hhigh : (num : ℚ) / den < 2 ^ (guess + 53) := by
    rw [div_lt_iff₀ hd]
    calc (num : ℚ) < 2 ^ ((num.log2 : Int) + 1) := lt_two_zpow_log2 num
      _ = 2 ^ (guess + 53) * 2 ^ (den.log2 : Int) := by
          rw [← zpow_add₀ (by norm_num)]
          congr 1
          omega
      _ ≤ 2 ^ (guess + 53) * den := by
          have := two_zpow_log2_le den hden
          have := two_zpow_pos (guess + 53)
          gcongr
  have hvalue := scaled_value num den guess
  have hpos := scaled_den_pos num den guess hden
  -- The test compares the value with the power of two between them.
  have hiff : (scaled num den guess).1 / (scaled num den guess).2 < twoTo 52 ↔
      (num : ℚ) / den < 2 ^ (guess + 52) := by
    have hcast : (0 : ℚ) < (scaled num den guess).2 := by exact_mod_cast hpos
    rw [Nat.div_lt_iff_lt_mul hpos, zpow_add₀ (by norm_num), mul_comm ((2 : ℚ) ^ guess),
      ← div_lt_iff₀ (two_zpow_pos guess), ← hvalue, div_lt_iff₀ hcast]
    simp only [twoTo, Nat.pow_eq]
    norm_cast
  by_cases htest : (scaled num den guess).1 / (scaled num den guess).2 < twoTo 52
  · rw [if_pos htest, log_eq_of_bounds _ (guess + 51) hlow.le
      (by rw [show guess + 51 + 1 = guess + 52 by omega]; exact hiff.mp htest)]
    congr 1
    omega
  · have hge : (2 : ℚ) ^ (guess + 52) ≤ num / den := not_lt.mp (fun h => htest (hiff.mpr h))
    rw [if_neg htest, log_eq_of_bounds _ (guess + 52) hge
      (by rw [show guess + 52 + 1 = guess + 53 by omega]; exact hhigh)]
    congr 1
    omega

/-! ## The mantissa -/

/-- A mantissa with its exponent. One that has become a bit too long is halved, and an
    exponent beyond the largest one makes the number infinite. -/
def packed (negative : Bool) (m : Nat) (e : Int) : Double :=
  let (m, e) := if m == twoTo 53 then (twoTo 52, e + 1) else (m, e)
  if e > maxExponent then .infinite negative else .finite negative m e

/-- A value divided by the power of two at which it is rounded. -/
def mantissaOf (v : ℚ) : ℚ :=
  v / 2 ^ exponentAt v

theorem roundRatio_eq (negative : Bool) (num den : Nat) (hnum : 0 < num) (hden : 0 < den) :
    ∃ n d : Nat, 0 < d ∧ (n : ℚ) / d = mantissaOf (num / den) ∧
      roundRatio negative num den =
        packed negative (roundHalfEven n d) (exponentAt (num / den)) := by
  have hzero : ¬ (num == 0) = true := fun h => by
    rw [beq_iff_eq] at h
    omega
  refine ⟨(scaled num den (exponentFor num den)).1, (scaled num den (exponentFor num den)).2,
    scaled_den_pos num den _ hden, ?_, ?_⟩
  · rw [scaled_value, exponentFor_eq num den hnum hden, mantissaOf]
  · rw [roundRatio, if_neg hzero, ← exponentFor_eq num den hnum hden]
    rfl

/-- A value is rounded to the whole number it is close to. -/
theorem roundRatio_of_close (negative : Bool) (num den m : Nat) (hnum : 0 < num) (hden : 0 < den)
    (h : |mantissaOf (num / den) - m| < 1 / 2) :
    roundRatio negative num den = packed negative m (exponentAt (num / den)) := by
  rcases roundRatio_eq negative num den hnum hden with ⟨n, d, hd, hvalue, heq⟩
  rw [heq, roundHalfEven_eq_of_close n d m hd (hvalue ▸ h)]

/-- Rounding depends on the value of the ratio alone. -/
theorem roundRatio_congr (negative : Bool) (num den num' den' : Nat) (hden : 0 < den)
    (hden' : 0 < den') (h : (num : ℚ) / den = num' / den') :
    roundRatio negative num den = roundRatio negative num' den' := by
  have hd : (0 : ℚ) < den := by exact_mod_cast hden
  have hd' : (0 : ℚ) < den' := by exact_mod_cast hden'
  by_cases hnum : num = 0
  · have hnum' : num' = 0 := by
      rw [hnum, Nat.cast_zero, zero_div, eq_comm, div_eq_zero_iff] at h
      exact_mod_cast h.resolve_right hd'.ne'
    rw [hnum, hnum']
    rfl
  · have hnum' : num' ≠ 0 := fun hzero => by
      rw [hzero, Nat.cast_zero, zero_div, div_eq_zero_iff] at h
      exact hnum (by exact_mod_cast h.resolve_right hd.ne')
    rcases roundRatio_eq negative num den (by omega) hden with ⟨n, d, hpos, hvalue, heq⟩
    rcases roundRatio_eq negative num' den' (by omega) hden' with ⟨n', d', hpos', hvalue', heq'⟩
    rw [heq, heq', h, roundHalfEven_congr n d n' d' hpos hpos' (by rw [hvalue, hvalue', h])]

theorem exponentAt_le (v : ℚ) : minExponent ≤ exponentAt v :=
  le_max_right _ _

theorem mantissaOf_lt (v : ℚ) : mantissaOf v < 2 ^ 53 := by
  rw [mantissaOf, div_lt_iff₀ (two_zpow_pos _), ← zpow_natCast, ← zpow_add₀ (by norm_num)]
  have hlog : v < (2 : ℚ) ^ (Int.log 2 v + 1) := by
    exact_mod_cast Int.lt_zpow_succ_log_self (b := 2) (by norm_num) v
  have hexp : Int.log 2 v - 52 ≤ exponentAt v := le_max_left _ _
  exact lt_of_lt_of_le hlog (zpow_le_zpow_right₀ (by norm_num) (by push_cast; omega))

/-- Unless the exponent is the least one, the mantissa has 53 bits. -/
theorem le_mantissaOf (v : ℚ) (hv : 0 < v) (h : exponentAt v ≠ minExponent) :
    2 ^ 52 ≤ mantissaOf v := by
  have hexp : exponentAt v = Int.log 2 v - 52 := by
    rw [exponentAt] at h ⊢
    omega
  have hlog : (2 : ℚ) ^ Int.log 2 v ≤ v := by
    exact_mod_cast Int.zpow_log_le_self (b := 2) (by norm_num) hv
  rw [mantissaOf, le_div_iff₀ (two_zpow_pos _), ← zpow_natCast, ← zpow_add₀ (by norm_num), hexp]
  exact le_trans (le_of_eq (by congr 1; push_cast; omega)) hlog

/-- The sign of a number has no part in its rounding. -/
theorem roundRatio_of_positive (negative : Bool) (num den m : Nat) (e : Int)
    (h : roundRatio false num den = .finite false m e) :
    roundRatio negative num den = .finite negative m e := by
  rw [roundRatio] at h ⊢
  by_cases hzero : (num == 0) = true
  · rw [if_pos hzero, zero, Double.finite.injEq] at h
    rw [if_pos hzero, zero, h.2.1, h.2.2]
  · rw [if_neg hzero] at h ⊢
    -- Both make the same choices, as neither the exponent nor the whole number depends on the
    -- sign.
    generalize exponentFor num den = k at h ⊢
    generalize roundHalfEven (scaled num den k).1 (scaled num den k).2 = n at h ⊢
    revert h
    simp only []
    split
    all_goals
      split
      · exact fun h => Double.noConfusion h
      · intro h
        rw [Double.finite.injEq] at h
        rw [h.2.1, h.2.2]

/-! ## Numbers in their one form -/

/-- The mantissa and the exponent of a number of the format: the mantissa has 53 bits unless
    the exponent is the least one. -/
def IsForm (m : Nat) (e : Int) : Prop :=
  m < twoTo 53 ∧ (twoTo 52 ≤ m ∨ e = minExponent) ∧ minExponent ≤ e ∧ e ≤ maxExponent

/-- A number of the format. -/
def IsCanonical : Double → Prop
  | .finite _ m e => IsForm m e
  | _ => True

theorem isCanonical_zero (negative : Bool) : (zero negative).IsCanonical :=
  ⟨by decide, Or.inr rfl, Int.le_refl _, by decide⟩

theorem isCanonical_packed (negative : Bool) (m : Nat) (e : Int) (hm : m ≤ twoTo 53)
    (he : minExponent ≤ e) (hbits : twoTo 52 ≤ m ∨ e = minExponent) :
    (packed negative m e).IsCanonical := by
  rw [packed]
  by_cases hcarry : (m == twoTo 53) = true
  · simp only [if_pos hcarry]
    by_cases hbig : e + 1 > maxExponent
    · rw [if_pos hbig]
      exact trivial
    · rw [if_neg hbig]
      exact ⟨by decide, Or.inl (Nat.le_refl _), by omega, by omega⟩
  · simp only [if_neg hcarry]
    rw [beq_iff_eq] at hcarry
    by_cases hbig : e > maxExponent
    · rw [if_pos hbig]
      exact trivial
    · rw [if_neg hbig]
      exact ⟨by omega, hbits, he, by omega⟩

/-- The result of rounding is a number of the format. -/
theorem isCanonical_roundRatio (negative : Bool) (num den : Nat) (hden : 0 < den) :
    (roundRatio negative num den).IsCanonical := by
  by_cases hnum : num = 0
  · rw [hnum]
    exact isCanonical_zero negative
  · rcases roundRatio_eq negative num den (by omega) hden with ⟨n, d, hd, hvalue, heq⟩
    have hnear := abs_le.mp (roundHalfEven_near n d hd)
    rw [hvalue] at hnear
    have hv : (0 : ℚ) < num / den := by
      have : 0 < num := by omega
      positivity
    rw [heq]
    refine isCanonical_packed negative _ _ ?_ (exponentAt_le _) ?_
    · -- The value is below the bound, and the nearest whole number is not beyond it.
      have hlt := mantissaOf_lt (num / den)
      have hbound : ((roundHalfEven n d : Nat) : ℚ) < (twoTo 53 + 1 : Nat) := by
        rw [show (twoTo 53 + 1 : Nat) = 2 ^ 53 + 1 from rfl]
        push_cast
        linarith
      have := Nat.cast_lt.mp hbound
      omega
    · by_cases hmin : exponentAt (num / den) = minExponent
      · exact Or.inr hmin
      · have hge := le_mantissaOf _ hv hmin
        have hbound : ((twoTo 52 : Nat) : ℚ) < (roundHalfEven n d + 1 : Nat) := by
          rw [show twoTo 52 = 2 ^ 52 from rfl]
          push_cast
          linarith
        have := Nat.cast_lt.mp hbound
        exact Or.inl (by omega)

/-! ## What a value is rounded to -/

/-- Values beyond the range are rounded to an infinite number. -/
theorem roundRatio_of_large (negative : Bool) (num den : Nat) (hden : 0 < den)
    (h : (2 : ℚ) ^ (1024 : Int) ≤ num / den) :
    roundRatio negative num den = .infinite negative := by
  have hv : (0 : ℚ) < num / den := lt_of_lt_of_le (two_zpow_pos _) h
  have hnum : num ≠ 0 := fun hzero => by
    rw [hzero, Nat.cast_zero, zero_div] at hv
    exact lt_irrefl _ hv
  rcases roundRatio_eq negative num den (by omega) hden with ⟨n, d, _, _, heq⟩
  have hlog : 1024 ≤ Int.log 2 ((num : ℚ) / den) :=
    (Int.zpow_le_iff_le_log (by norm_num) hv).mp (by exact_mod_cast h)
  -- One bit more by a carry would only make the exponent larger still.
  have hexp : maxExponent < exponentAt (num / den) := by
    rw [exponentAt, maxExponent]
    omega
  rw [heq, packed]
  by_cases hcarry : (roundHalfEven n d == twoTo 53) = true
  · simp only [if_pos hcarry]
    exact if_pos (by omega)
  · simp only [if_neg hcarry]
    exact if_pos hexp

/-- Values below half the least number are rounded to zero. -/
theorem roundRatio_of_small (negative : Bool) (num den : Nat) (hnum : 0 < num) (hden : 0 < den)
    (h : (num : ℚ) / den < 2 ^ (-1075 : Int)) :
    roundRatio negative num den = zero negative := by
  have hv : (0 : ℚ) < num / den := by positivity
  have hlog : Int.log 2 ((num : ℚ) / den) < -1075 :=
    (Int.lt_zpow_iff_log_lt (by norm_num) hv).mp (by exact_mod_cast h)
  have hexp : exponentAt (num / den) = minExponent := by
    rw [exponentAt, minExponent]
    omega
  -- Less than half of the least number is less than half of one at the least exponent.
  have hclose : |mantissaOf ((num : ℚ) / den) - (0 : Nat)| < 1 / 2 := by
    rw [mantissaOf, hexp, minExponent, Nat.cast_zero, sub_zero, abs_of_pos
      (div_pos hv (two_zpow_pos _)), div_lt_iff₀ (two_zpow_pos _)]
    calc (num : ℚ) / den < 2 ^ (-1075 : Int) := h
      _ = 1 / 2 * 2 ^ (-1074 : Int) := by
          rw [show (-1075 : Int) = -1 + -1074 by norm_num, zpow_add₀ (by norm_num), zpow_neg_one,
            one_div]
  rw [roundRatio_of_close negative num den 0 hnum hden hclose, hexp]
  rfl

/-- The exponent at which a value is rounded is known from the mantissa it has there. -/
theorem exponentAt_eq (v : ℚ) (e : Int) (hv : 0 < v) (hmin : minExponent ≤ e)
    (hhigh : v / 2 ^ e < 2 ^ 53) (hlow : 2 ^ 52 ≤ v / 2 ^ e ∨ e = minExponent) :
    exponentAt v = e := by
  have hlt : Int.log 2 v < e + 53 := by
    rw [div_lt_iff₀ (two_zpow_pos e), ← zpow_natCast, ← zpow_add₀ (by norm_num)] at hhigh
    refine (Int.lt_zpow_iff_log_lt (by norm_num) hv).mp ?_
    rw [add_comm e]
    exact_mod_cast hhigh
  rw [exponentAt]
  rcases hlow with hbits | hleast
  · have hle : e + 52 ≤ Int.log 2 v := by
      rw [le_div_iff₀ (two_zpow_pos e), ← zpow_natCast, ← zpow_add₀ (by norm_num)] at hbits
      refine (Int.zpow_le_iff_le_log (by norm_num) hv).mp ?_
      rw [add_comm e]
      exact_mod_cast hbits
    omega
  · omega

/-- A value that differs from a number of the format by less than one part in `2 ^ 54` is
    rounded to it. -/
theorem roundRatio_of_near (negative : Bool) (num den m : Nat) (e : Int) (hnum : 0 < num)
    (hden : 0 < den) (hform : IsForm m e)
    (h : |(num : ℚ) / den - m * 2 ^ e| < m * 2 ^ e / 2 ^ 54) :
    roundRatio negative num den = .finite negative m e := by
  rcases hform with ⟨hm, hbits, hmin, hmax⟩
  have hv : (0 : ℚ) < num / den := by positivity
  have htwo : (0 : ℚ) < 2 ^ e := two_zpow_pos e
  -- The distance in units of the last place is less than a half.
  have hdist : |(num : ℚ) / den / 2 ^ e - m| < m / 2 ^ 54 := by
    rw [← mul_lt_mul_iff_left₀ htwo, ← abs_of_pos htwo, ← abs_mul, abs_of_pos htwo, sub_mul,
      div_mul_cancel₀ _ htwo.ne', div_mul_eq_mul_div]
    exact h
  have hsmall : (m : ℚ) + 1 ≤ 2 ^ 53 := by exact_mod_cast hm
  have habs := abs_lt.mp hdist
  by_cases hbelow : (num : ℚ) / den / 2 ^ e < 2 ^ 52 ∧ e ≠ minExponent
  · -- The value lies just below a power of two, where the numbers are twice as dense.
    have hpow : m = 2 ^ 52 := by
      have hge : 2 ^ 52 ≤ m := hbits.resolve_right hbelow.2
      have hlt : (m : ℚ) < (2 ^ 52 + 1 : Nat) := by
        push_cast
        linarith
      have := Nat.cast_lt.mp hlt
      omega
    have hhalf : (num : ℚ) / den / 2 ^ (e - 1) = 2 * (num / den / 2 ^ e) := by
      rw [zpow_sub_one₀ (by norm_num)]
      field_simp
    have hexp : exponentAt (num / den) = e - 1 := by
      refine exponentAt_eq _ _ hv (by omega) ?_ (Or.inl ?_)
      · rw [hhalf]
        linarith
      · rw [hhalf]
        rw [hpow] at habs
        push_cast at habs
        linarith
    have hclose : |mantissaOf ((num : ℚ) / den) - (twoTo 53 : Nat)| < 1 / 2 := by
      rw [mantissaOf, hexp, hhalf, show (twoTo 53 : Nat) = 2 ^ 53 from rfl, abs_lt]
      rw [hpow] at habs
      push_cast at habs ⊢
      constructor
      · linarith
      · linarith
    rw [roundRatio_of_close negative num den _ hnum hden hclose, hexp, hpow, packed]
    simp only [beq_self_eq_true, if_true, Int.sub_add_cancel]
    exact if_neg (by omega)
  · have hlow : 2 ^ 52 ≤ (num : ℚ) / den / 2 ^ e ∨ e = minExponent := by
      by_contra hnot
      rw [not_or, not_le] at hnot
      exact hbelow hnot
    have hexp : exponentAt (num / den) = e :=
      exponentAt_eq _ _ hv hmin (by linarith) hlow
    have hclose : |mantissaOf ((num : ℚ) / den) - m| < 1 / 2 := by
      rw [mantissaOf, hexp]
      linarith
    have hne : ¬ (m == twoTo 53) = true := fun heq => by
      rw [beq_iff_eq] at heq
      omega
    rw [roundRatio_of_close negative num den m hnum hden hclose, hexp, packed]
    simp only [if_neg hne]
    exact if_neg (by omega)

end Double

end CodeAudit

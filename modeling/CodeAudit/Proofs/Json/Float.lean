import CodeAudit.Proofs.Decimal.Shortest
import CodeAudit.Proofs.Json.Number

/-!
# JSON Texts of Floating Point Numbers

That a floating point number is read back from its text.

The digits of a number are chosen so that, as a decimal, they are read as the number. What is
left is their layout: with a point in front of them, among them or behind them, or with an
exponent. Each of the three is read as a decimal of the same value, though seldom with the
same digits and exponent, and the value is all that the reading of a decimal depends on.

Only numbers in the one form of the format are read back. Every result of rounding is one,
and so is every number that is read.

## Main definitions

* `Double.WritesValue`: A text is read as a decimal of a value.
* `Double.WritesNumber`: A text is read as a decimal which is a number of the format.
* `Double.IsNumberChar`: A character of a number.

## Theorems

* `Double.isCanonical_mul`: A product is in the one form of the format.
* `Double.writesValue_layout`: Digits with a point are read as a decimal of their value.
* `Double.text_finite`: The text of a number is read as a decimal which is that number.
* `Json.readScalar_number`: A number is read back from its text.
-/

namespace CodeAudit

namespace Double

theorem ratio?_den_pos (x : Double) (negative : Bool) (num den : Nat)
    (h : x.ratio? = some (negative, num, den)) : 0 < den := by
  cases x with
  | finite s m e =>
      rw [ratio?] at h
      by_cases he : e < 0
      · rw [if_pos he, Option.some.injEq, Prod.mk.injEq, Prod.mk.injEq] at h
        rw [← h.2.2]
        exact twoTo_pos _
      · rw [if_neg he, Option.some.injEq, Prod.mk.injEq, Prod.mk.injEq] at h
        rw [← h.2.2]
        exact Nat.one_pos
  | infinite s => exact nomatch h
  | nan => exact nomatch h

theorem isCanonical_mul (a b : Double) : (a.mul b).IsCanonical := by
  unfold mul
  split
  case h_5 =>
    split
    case h_1 s n d t m e ha hb =>
      have hd := ratio?_den_pos _ _ _ _ ha
      have he := ratio?_den_pos _ _ _ _ hb
      exact isCanonical_roundRatio _ _ _ (Nat.mul_pos hd he)
    case h_2 => exact trivial
  all_goals
    repeat' split
    all_goals exact trivial

/-! ## The layout -/

theorem exponentText_eq (e : Int) :
    ∃ sign ds, exponentText e = sign :: ds ∧ (sign = '+' ∨ sign = '-') ∧ ds ≠ [] ∧
      (∀ c ∈ ds, c.isDigit = true) ∧ Json.exponentOf sign ds = e := by
  have hdigit := isDigit_of_mem_toDigits e.natAbs
  have hsign : (if e < 0 then '-' else '+') = '+' ∨ (if e < 0 then '-' else '+') = '-' := by
    by_cases he : e < 0
    · exact Or.inr (if_pos he)
    · exact Or.inl (if_neg he)
  have hvalue : ∀ ds, decimalNat ds = e.natAbs →
      Json.exponentOf (if e < 0 then '-' else '+') ds = e := by
    intro ds hds
    by_cases he : e < 0
    · simp only [Json.exponentOf, if_pos he, hds, beq_self_eq_true, signed, if_true,
        Int.ofNat_eq_natCast]
      omega
    · have hplus : ('+' == '-') = false := rfl
      simp only [Json.exponentOf, if_neg he, hds, hplus, signed, Bool.false_eq_true, if_false,
        Int.ofNat_eq_natCast]
      omega
  rw [exponentText]
  -- An exponent has two digits at least.
  by_cases hlen : (Nat.toDigits 10 e.natAbs).length < 2
  · refine ⟨_, '0' :: Nat.toDigits 10 e.natAbs, by simp only [if_pos hlen], hsign,
      List.cons_ne_nil _ _, List.forall_mem_cons.mpr ⟨rfl, hdigit⟩, hvalue _ ?_⟩
    exact (decimalNat_zeros_append 1 _).trans (decimalNat_toDigits _)
  · exact ⟨_, Nat.toDigits 10 e.natAbs, by simp only [if_neg hlen], hsign,
      Nat.toDigits_ne_nil, hdigit, hvalue _ (decimalNat_toDigits _)⟩

theorem isDigit_of_mem_replicate (n : Nat) : ∀ c ∈ List.replicate n '0', c.isDigit = true := by
  intro c hc
  rw [List.eq_of_mem_replicate hc]
  rfl

/-- A text is read as a decimal of a value, and starts with a digit. -/
structure WritesValue (text : List Char) (v : ℚ) : Prop where
  reads : ∃ (digits : Nat) (e : Int),
    Json.ReadsAsDecimal text digits e ∧ (digits : ℚ) * 10 ^ e = v
  head : ∃ d more, text = d :: more ∧ d.isDigit = true

/-- The point stands before the digits, with zeros between the two. -/
theorem writesValue_before (ds : List Char) (point : Int) (hpoint : point ≤ 0) (hne : ds ≠ [])
    (hdigit : ∀ c ∈ ds, c.isDigit = true) :
    WritesValue ('0' :: '.' :: (List.replicate (-point).toNat '0' ++ ds))
      (decimalValue ds point) := by
  have hzero : Json.IsNumeral ['0'] := ⟨isDigit_of_mem_replicate 1, Or.inl rfl⟩
  refine ⟨⟨_, _, Json.readsAsDecimal_fraction ['0'] _ hzero ?_
    (List.forall_mem_append.mpr ⟨isDigit_of_mem_replicate _, hdigit⟩), ?_⟩, '0', _, rfl, rfl⟩
  · exact fun h => hne (List.append_eq_nil_iff.mp h).2
  · have hdigits : decimalNat (['0'] ++ (List.replicate (-point).toNat '0' ++ ds)) =
        decimalNat ds :=
      (decimalNat_zeros_append 1 _).trans (decimalNat_zeros_append _ ds)
    rw [hdigits, decimalValue, List.length_append, List.length_replicate]
    congr 2
    omega

/-- The point stands behind the digits, with zeros between the two. -/
theorem writesValue_behind (ds : List Char) (point : Int) (d : Char) (more : List Char)
    (hds : ds = d :: more) (hd : d ≠ '0') (hdigit : ∀ c ∈ ds, c.isDigit = true)
    (hlen : (ds.length : Int) ≤ point) :
    WritesValue (ds ++ List.replicate (point.toNat - ds.length) '0' ++ ['.', '0'])
      (decimalValue ds point) := by
  have hnum : Json.IsNumeral (ds ++ List.replicate (point.toNat - ds.length) '0') := by
    refine ⟨List.forall_mem_append.mpr ⟨hdigit, isDigit_of_mem_replicate _⟩, Or.inr ?_⟩
    rw [hds, List.cons_append]
    exact ⟨d, _, rfl, hd⟩
  have hfirst : d.isDigit = true := hdigit d (hds ▸ List.mem_cons_self)
  refine ⟨⟨_, _, Json.readsAsDecimal_fraction _ ['0'] hnum (List.cons_ne_nil _ _)
    (isDigit_of_mem_replicate 1), ?_⟩, d, _, by rw [hds]; rfl, hfirst⟩
  -- The zero behind the point is one more zero behind the digits.
  have hzeros : ds ++ List.replicate (point.toNat - ds.length) '0' ++ ['0'] =
      ds ++ List.replicate (point.toNat - ds.length + 1) '0' := by
    rw [List.replicate_succ', List.append_assoc]
  have hexp : point - ds.length = ((point.toNat - ds.length + 1 : Nat) : Int) + (-1) := by omega
  rw [hzeros, decimalNat_append_zeros, decimalValue, hexp, zpow_add₀ (by norm_num), Nat.cast_mul,
    cast_tenTo, mul_assoc]
  rfl

/-- The point stands among the digits. -/
theorem writesValue_among (ds : List Char) (point : Int) (d : Char) (more : List Char)
    (hds : ds = d :: more) (hd : d ≠ '0') (hdigit : ∀ c ∈ ds, c.isDigit = true)
    (hpoint : 0 < point) (hlen : point < ds.length) :
    WritesValue (ds.take point.toNat ++ '.' :: ds.drop point.toNat) (decimalValue ds point) := by
  have htake : ds.take point.toNat = d :: more.take (point.toNat - 1) := by
    rw [hds, List.take_cons (by omega)]
  have hnum : Json.IsNumeral (ds.take point.toNat) :=
    ⟨fun c hc => hdigit c (List.mem_of_mem_take hc), Or.inr ⟨d, _, htake, hd⟩⟩
  have hfirst : d.isDigit = true := hdigit d (hds ▸ List.mem_cons_self)
  have hne : ds.drop point.toNat ≠ [] := fun h => by
    rw [List.drop_eq_nil_iff] at h
    omega
  refine ⟨⟨_, _, Json.readsAsDecimal_fraction _ _ hnum hne
    (fun c hc => hdigit c (List.mem_of_mem_drop hc)), ?_⟩, d, _, by rw [htake]; rfl, hfirst⟩
  rw [List.take_append_drop, decimalValue, List.length_drop]
  congr 2
  omega

/-- The point stands behind the first digit, if there is another one, and an exponent behind
    the digits. -/
theorem writesValue_scientific (d : Char) (ds : List Char) (point : Int) (hd : d ≠ '0')
    (hdigit : ∀ c ∈ d :: ds, c.isDigit = true) :
    WritesValue
      (match d :: ds with
        | [] => []
        | [d] => d :: 'e' :: exponentText (point - 1)
        | d :: ds => d :: '.' :: ds ++ 'e' :: exponentText (point - 1))
      (decimalValue (d :: ds) point) := by
  have hfirst : d.isDigit = true := hdigit d List.mem_cons_self
  have hone : Json.IsNumeral [d] :=
    ⟨fun c hc => hdigit c (List.mem_cons.mpr (Or.inl (List.mem_singleton.mp hc))),
      Or.inr ⟨d, [], rfl, hd⟩⟩
  rcases exponentText_eq (point - 1) with ⟨sign, es, hexp, hsign, hne, hes, hvalue⟩
  cases ds with
  | nil =>
      simp only [hexp]
      refine ⟨⟨_, _, Json.readsAsDecimal_exponent [d] es sign hone hsign hne hes, ?_⟩, d, _, rfl,
        hfirst⟩
      rw [hvalue]
      rfl
  | cons e more =>
      simp only [hexp, List.cons_append]
      refine ⟨⟨_, _, Json.readsAsDecimal_scientific [d] (e :: more) es sign hone
        (List.cons_ne_nil _ _) (fun c hc => hdigit c (List.mem_cons_of_mem d hc)) hsign hne hes,
        ?_⟩, d, _, rfl, hfirst⟩
      rw [hvalue, decimalValue, List.cons_append, List.nil_append]
      simp only [List.length_cons]
      congr 2
      omega

/-- Digits with a point are read as a decimal of their value. The first digit must not be a
    zero, so that the reader takes what stands in front of the point whole. -/
theorem writesValue_layout (d : Char) (ds : List Char) (point : Int) (hd : d ≠ '0')
    (hdigit : ∀ c ∈ d :: ds, c.isDigit = true) :
    WritesValue (layout (d :: ds) point) (decimalValue (d :: ds) point) := by
  unfold layout
  by_cases hplace : -4 < point ∧ point ≤ 16
  · rw [if_pos hplace]
    by_cases hfront : point ≤ 0
    · rw [if_pos hfront]
      exact writesValue_before (d :: ds) point hfront (List.cons_ne_nil _ _) hdigit
    · rw [if_neg hfront]
      simp only []
      by_cases hlen : ((d :: ds).length : Int) ≤ point
      · have htake : (d :: ds).take point.toNat = d :: ds := List.take_of_length_le (by omega)
        have hdrop : (d :: ds).drop point.toNat = [] := List.drop_of_length_le (by omega)
        rw [htake, hdrop]
        exact writesValue_behind (d :: ds) point d ds rfl hd hdigit hlen
      · have htake : ((d :: ds).take point.toNat).length = point.toNat := by
          rw [List.length_take]
          omega
        have hne : ¬ ((d :: ds).drop point.toNat).isEmpty = true := fun h => by
          rw [List.isEmpty_iff, List.drop_eq_nil_iff] at h
          omega
        rw [htake, Nat.sub_self, List.replicate_zero, List.append_nil, if_neg hne]
        exact writesValue_among (d :: ds) point d ds rfl hd hdigit (by omega) (by omega)
  · rw [if_neg hplace]
    exact writesValue_scientific d ds point hd hdigit

/-- A character of a number: a digit, a point, the mark of an exponent or a sign. -/
def IsNumberChar (c : Char) : Prop :=
  c.isDigit = true ∨ c ∈ ['.', 'e', '+', '-']

theorem isNumberChar_exponentText (e : Int) : ∀ c ∈ exponentText e, IsNumberChar c := by
  intro c hc
  rcases exponentText_eq e with ⟨sign, ds, heq, hsign, _, hds, _⟩
  rw [heq, List.mem_cons] at hc
  rcases hc with h | h
  · rw [h]
    rcases hsign with hs | hs
    all_goals rw [hs]; exact Or.inr (by decide)
  · exact Or.inl (hds c h)

theorem isNumberChar_layout (ds : List Char) (point : Int)
    (hds : ∀ c ∈ ds, c.isDigit = true) : ∀ c ∈ layout ds point, IsNumberChar c := by
  have hdigits : ∀ c ∈ ds, IsNumberChar c := fun c hc => Or.inl (hds c hc)
  have hzeros : ∀ n, ∀ c ∈ List.replicate n '0', IsNumberChar c :=
    fun n c hc => Or.inl (isDigit_of_mem_replicate n c hc)
  have hpoint : IsNumberChar '.' := Or.inr (by decide)
  have hmark : IsNumberChar 'e' := Or.inr (by decide)
  have hexponent := List.forall_mem_cons.mpr ⟨hmark, isNumberChar_exponentText (point - 1)⟩
  unfold layout
  by_cases hplace : -4 < point ∧ point ≤ 16
  · rw [if_pos hplace]
    by_cases hfront : point ≤ 0
    · rw [if_pos hfront]
      exact List.forall_mem_cons.mpr ⟨Or.inl rfl, List.forall_mem_cons.mpr
        ⟨hpoint, List.forall_mem_append.mpr ⟨hzeros _, hdigits⟩⟩⟩
    · rw [if_neg hfront]
      have hwhole : ∀ c ∈ ds.take point.toNat, IsNumberChar c :=
        fun c hc => hdigits c (List.mem_of_mem_take hc)
      refine List.forall_mem_append.mpr ⟨List.forall_mem_append.mpr ⟨hwhole, hzeros _⟩,
        List.forall_mem_cons.mpr ⟨hpoint, ?_⟩⟩
      by_cases hempty : (ds.drop point.toNat).isEmpty = true
      · rw [if_pos hempty]
        exact hzeros 1
      · rw [if_neg hempty]
        exact fun c hc => hdigits c (List.mem_of_mem_drop hc)
  · rw [if_neg hplace]
    match ds, hdigits with
    | [], _ => exact fun _ hc => absurd hc (List.not_mem_nil)
    | [d], hd => exact List.forall_mem_cons.mpr ⟨hd d List.mem_cons_self, hexponent⟩
    | d :: d' :: more, hd =>
      have hrest : ∀ c ∈ d' :: more, IsNumberChar c := fun c hc => hd c (List.mem_cons_of_mem d hc)
      have hfront := List.forall_mem_cons.mpr
        ⟨hd d List.mem_cons_self, List.forall_mem_cons.mpr ⟨hpoint, hrest⟩⟩
      exact List.forall_mem_append.mpr ⟨hfront, hexponent⟩

/-- The largest denominator of a number of the format is below the power of ten by which
    values are raised. -/
theorem twoTo_le_tenTo (k : Nat) (hk : k ≤ 1074) : twoTo k ≤ tenTo 400 := by
  have hle : twoTo k ≤ twoTo (3 * 400) := twoTo_le_twoTo (by omega)
  exact Nat.le_trans hle (twoTo_mul_three_le 400)

/-- A text behind a sign is that of a number: it is read as a decimal which is the number. -/
structure WritesNumber (text : List Char) (m : Nat) (e : Int) : Prop where
  reads : ∃ (digits : Nat) (f : Int), Json.ReadsAsDecimal text digits f ∧
    ∀ negative, ofDecimal negative digits f = .finite negative m e
  head : ∃ d more, text = d :: more ∧ d.isDigit = true
  chars : ∀ c ∈ text, IsNumberChar c

theorem writesNumber_shortest (num den m : Nat) (e : Int) (hnum : 0 < num) (hden : 0 < den)
    (hform : IsForm m e) (hvalue : (num : ℚ) / den = m * 2 ^ e) (h : den ≤ tenTo 400) :
    WritesNumber (layout (shortest num den).1 (shortest num den).2) m e := by
  have hle : den ≤ num * tenTo 400 := Nat.le_trans h (Nat.le_mul_of_pos_left _ hnum)
  rcases shortest_reads num den m e hnum hden hform hvalue hle with
    ⟨⟨d, ds, heq, hd, hdigit⟩, hreads⟩
  have hchars := isNumberChar_layout _ (shortest num den).2 hdigit
  rw [heq] at hdigit hchars hreads ⊢
  rcases writesValue_layout d ds (shortest num den).2 hd hdigit with
    ⟨⟨digits, f, hdecimal, hsame⟩, hhead⟩
  exact ⟨⟨digits, f, hdecimal, fun negative => hreads negative digits f hsame⟩, hhead, hchars⟩

theorem writesNumber_zero (e : Int) (h : IsForm 0 e) : WritesNumber ['0', '.', '0'] 0 e := by
  have he : e = minExponent := h.2.1.resolve_left (by decide)
  have hzero : Json.IsNumeral ['0'] := ⟨isDigit_of_mem_replicate 1, Or.inl rfl⟩
  refine ⟨⟨_, _, Json.readsAsDecimal_fraction ['0'] ['0'] hzero (List.cons_ne_nil _ _)
    (isDigit_of_mem_replicate 1), fun negative => ?_⟩, ⟨'0', _, rfl, rfl⟩,
    isNumberChar_layout ['0'] 1 (isDigit_of_mem_replicate 1)⟩
  rw [he]
  rfl

-- A number is written as a quotient of naturals. It is zero, has a power of two below the line,
-- or has one above it.
theorem text_finite (negative : Bool) (m : Nat) (e : Int) (h : IsForm m e) :
    ∃ t, WritesNumber t m e ∧
      (Double.finite negative m e).text.toList = (if negative then ['-'] else []) ++ t := by
  have hexp := h.2.2.1
  simp only [minExponent] at hexp
  by_cases hm : m = 0
  · refine ⟨_, hm ▸ writesNumber_zero e (hm ▸ h), ?_⟩
    rw [hm]
    by_cases he : e < 0
    · simp only [text, ratio?, if_pos he, String.toList_ofList]
    · simp only [text, ratio?, if_neg he, Nat.zero_mul, String.toList_ofList]
  · by_cases he : e < 0
    · have hvalue : (m : ℚ) / twoTo (-e).toNat = m * 2 ^ e := by
        have hneg : ((-e).toNat : Int) = -e := by omega
        rw [cast_twoTo, hneg, zpow_neg, div_inv_eq_mul]
      refine ⟨_, writesNumber_shortest m (twoTo (-e).toNat) m e (by omega) (twoTo_pos _) h hvalue
        (twoTo_le_tenTo _ (by omega)), ?_⟩
      -- The case of zero is behind, so the text of a positive value is left.
      rcases Nat.exists_eq_succ_of_ne_zero hm with ⟨k, rfl⟩
      simp only [text, ratio?, if_pos he, String.toList_ofList]
    · have hpos : 0 < m * twoTo e.toNat := Nat.mul_pos (by omega) (twoTo_pos _)
      have hvalue : ((m * twoTo e.toNat : Nat) : ℚ) / (1 : Nat) = m * 2 ^ e := by
        have htoNat : (e.toNat : Int) = e := by omega
        rw [Nat.cast_one, div_one, Nat.cast_mul, cast_twoTo, htoNat]
      refine ⟨_, writesNumber_shortest (m * twoTo e.toNat) 1 m e hpos Nat.one_pos h hvalue
        (twoTo_le_tenTo 0 (by omega)), ?_⟩
      simp only [text, ratio?, if_neg he]
      generalize m * twoTo e.toNat = n at hpos ⊢
      rcases Nat.exists_eq_succ_of_ne_zero hpos.ne' with ⟨k, rfl⟩
      simp only [String.toList_ofList]

end Double

namespace Json

theorem readScalar_named (name : String) (rest : List Char) (v : Value)
    (h : (name, v) ∈ namedValues) : readScalar (name.toList ++ rest) = .ok (v, rest) := by
  unfold readScalar
  simp only [readName_append name rest v h]

/-- A number is read back from its text, whatever stands behind it. -/
theorem readScalar_number (x : Double) (h : x.IsCanonical) (rest : List Char)
    (hrest : EndsNumber rest) : readScalar (number x ++ rest) = .ok (.float x, rest) := by
  cases x with
  | nan =>
      exact readScalar_named "NaN" rest _
        (by simp only [namedValues, List.mem_cons, true_or, or_true])
  | infinite negative =>
      cases negative with
      | false =>
          exact readScalar_named "Infinity" rest _
            (by simp only [namedValues, List.mem_cons, true_or, or_true])
      | true =>
          exact readScalar_named "-Infinity" rest _
            (by simp only [namedValues, List.mem_cons, true_or, or_true])
  | finite negative m e =>
      rcases Double.text_finite negative m e h with
        ⟨t, ⟨⟨digits, f, hreads, hvalue⟩, hhead, _⟩, htext⟩
      rw [number]
      · rw [htext, readScalar_decimal negative t digits f hreads hhead rest hrest,
          hvalue negative]
      · exact fun heq => Double.noConfusion heq
      · exact fun _ heq => Double.noConfusion heq

/-- The characters of the text of a number: those of a number, or of a name. -/
theorem number_chars (x : Double) (h : x.IsCanonical) :
    ∀ c ∈ number x, Double.IsNumberChar c ∨ ∃ name ∈ valueNames, c ∈ name.toList := by
  intro c hc
  cases x with
  | nan => exact Or.inr ⟨"NaN", by decide, hc⟩
  | infinite negative =>
      cases negative with
      | false => exact Or.inr ⟨"Infinity", by decide, hc⟩
      | true => exact Or.inr ⟨"-Infinity", by decide, hc⟩
  | finite negative m e =>
      rcases Double.text_finite negative m e h with ⟨t, hwrites, htext⟩
      rw [number] at hc
      · rw [htext, List.mem_append] at hc
        rcases hc with hsign | hmem
        · cases negative with
          | false => exact absurd hsign List.not_mem_nil
          | true =>
              rw [if_pos rfl, List.mem_singleton] at hsign
              rw [hsign]
              exact Or.inl (Or.inr (by decide))
        · exact Or.inl (hwrites.chars c hmem)
      · exact fun heq => Double.noConfusion heq
      · exact fun _ heq => Double.noConfusion heq

end Json

end CodeAudit

import CodeAudit.Decimal.Double
import CodeAudit.Text.Integer

/-!
# Written Numbers

That a number is read back from its digits.

Three kinds of digits are written by the library: decimal digits of whole numbers, the same
with a sign, and hexadecimal digits of a fixed width. The readers are more lenient than the
writers, since they know the digits of every script; on the digits that are written they
agree with positional notation, which is all that is needed here.

The first digit of a positive number is not a zero. Formats that forbid leading zeros rely
on it.

## Theorems

* `digitValue?_of_isDigit`: The value of an ASCII digit.
* `decimalNat_toDigits`: A number is read back from its decimal digits.
* `toDigits_head_ne_zero`: The first digit of a positive number is not a zero.
* `toString_int_toList`: The characters of a written integer.
* `toString_nat_inj`, `toString_int_inj`: Different numbers are written differently.
* `length_paddedHex`: Four hexadecimal digits are enough for a sixteen bit unit.
* `hexNumber_paddedHex`: A number is read back from its padded hexadecimal digits.
-/

namespace CodeAudit

theorem digitValue?_of_isDigit (c : Char) (h : c.isDigit = true) :
    digitValue? c = some (c.toNat - 48) := by
  have hlow : 48 ≤ c.toNat := by
    simp only [Char.isDigit, Bool.and_eq_true, decide_eq_true_eq] at h
    exact h.1
  have hhigh : c.toNat ≤ 57 := by
    simp only [Char.isDigit, Bool.and_eq_true, decide_eq_true_eq] at h
    exact h.2
  rw [digitValue?, digitZeros, digitValueIn, if_neg (by omega), if_pos (by omega)]

/-- On ASCII digits the lenient reading is positional notation. -/
theorem decimalNat_of_isDigit (cs : List Char) (h : ∀ c ∈ cs, c.isDigit = true) :
    decimalNat cs = Nat.ofDigitChars 10 cs 0 := by
  have hmap : cs.map (fun c => (digitValue? c).getD 0) = cs.map (fun c => c.toNat - 48) := by
    refine List.map_congr_left (fun c hc => ?_)
    rw [digitValue?_of_isDigit c (h c hc), Option.getD_some]
  rw [decimalNat, hmap, ofDigits, List.foldl_map, Nat.ofDigitChars_eq_foldl]
  rfl

theorem decimalNat_concat (cs : List Char) (c : Char) :
    decimalNat (cs ++ [c]) = 10 * decimalNat cs + (digitValue? c).getD 0 := by
  simp only [decimalNat, ofDigits, List.map_append, List.map_cons, List.map_nil,
    List.foldl_append, List.foldl_cons, List.foldl_nil]

/-- Zeros behind the digits of a number raise it by powers of ten. -/
theorem decimalNat_append_zeros (cs : List Char) (n : Nat) :
    decimalNat (cs ++ List.replicate n '0') = decimalNat cs * tenTo n := by
  induction n with
  | zero =>
      rw [List.replicate_zero, List.append_nil]
      exact (Nat.mul_one _).symm
  | succ n ih =>
      have hzero : digitValue? '0' = some 0 := digitValue?_of_isDigit '0' rfl
      have hten : tenTo (n + 1) = tenTo n * 10 := tenTo_add n 1
      rw [List.replicate_succ', ← List.append_assoc, decimalNat_concat, ih, hzero,
        Option.getD_some, Nat.add_zero, hten, Nat.mul_comm 10, Nat.mul_assoc]

/-- Zeros in front of the digits of a number do not count. -/
theorem decimalNat_zeros_append (n : Nat) (cs : List Char) :
    decimalNat (List.replicate n '0' ++ cs) = decimalNat cs := by
  induction n with
  | zero => rw [List.replicate_zero, List.nil_append]
  | succ n ih =>
      have hzero : digitValue? '0' = some 0 := digitValue?_of_isDigit '0' rfl
      rw [List.replicate_succ, List.cons_append, decimalNat, List.map_cons, hzero, ofDigits,
        List.foldl_cons]
      exact ih

theorem isDigit_of_mem_toDigits (n : Nat) : ∀ c ∈ Nat.toDigits 10 n, c.isDigit = true :=
  fun _ hc => Nat.isDigit_of_mem_toDigits (by omega) (by omega) hc

theorem decimalNat_toDigits (n : Nat) : decimalNat (Nat.toDigits 10 n) = n := by
  rw [decimalNat_of_isDigit _ (isDigit_of_mem_toDigits n), Nat.ofDigitChars_ten_toDigits]

theorem toDigits_head_ne_zero (n : Nat) (hn : 0 < n) :
    ∃ d ds, Nat.toDigits 10 n = d :: ds ∧ d ≠ '0' := by
  induction n using Nat.strongRecOn with
  | ind n ih =>
      -- The digits of a number are those of its tenth, and one more.
      rw [Nat.toDigits_eq_if (by omega)]
      by_cases hlt : n < 10
      · refine ⟨n.digitChar, [], by rw [if_pos hlt], fun h => ?_⟩
        rw [Nat.digitChar_eq_zero] at h
        omega
      · rcases ih (n / 10) (by omega) (by omega) with ⟨d, ds, heq, hd⟩
        exact ⟨d, ds ++ [(n % 10).digitChar], by rw [if_neg hlt, heq, List.cons_append], hd⟩

theorem toString_nat_toList (n : Nat) : (toString n).toList = Nat.toDigits 10 n := by
  rw [Nat.toString_eq_repr, Nat.toList_repr]

theorem toString_int_toList (i : Int) :
    (toString i).toList =
      if 0 ≤ i then Nat.toDigits 10 i.natAbs else '-' :: Nat.toDigits 10 i.natAbs := by
  rw [Int.toString_eq_repr, Int.repr_eq_if]
  by_cases h : 0 ≤ i
  · rw [if_pos h, if_pos h, Nat.toList_repr]
    congr 1
    omega
  · rw [if_neg h, if_neg h, String.toList_append, Nat.toList_repr]
    -- Behind the sign stand the digits of the absolute value.
    have habs : (-i).toNat = i.natAbs := by omega
    rw [habs]
    rfl

/-- A number can be read back from its digits, so the digits tell it. -/
theorem toDigits_inj (m n : Nat) (h : Nat.toDigits 10 m = Nat.toDigits 10 n) : m = n := by
  rw [← decimalNat_toDigits m, ← decimalNat_toDigits n, h]

theorem toString_nat_inj (m n : Nat) (h : toString m = toString n) : m = n := by
  refine toDigits_inj m n ?_
  rw [← toString_nat_toList, ← toString_nat_toList, h]

theorem toDigits_ne_minus (n : Nat) (cs : List Char) : Nat.toDigits 10 n ≠ '-' :: cs := by
  intro h
  have hminus := isDigit_of_mem_toDigits n '-' (h ▸ List.mem_cons_self)
  exact absurd hminus (by decide)

theorem toString_int_inj (i j : Int) (h : toString i = toString j) : i = j := by
  have htexts := congrArg String.toList h
  rw [toString_int_toList, toString_int_toList] at htexts
  -- The sign tells apart what the digits do not.
  by_cases hi : 0 ≤ i
  · by_cases hj : 0 ≤ j
    · rw [if_pos hi, if_pos hj] at htexts
      have habs := toDigits_inj _ _ htexts
      omega
    · rw [if_pos hi, if_neg hj] at htexts
      exact absurd htexts (toDigits_ne_minus _ _)
  · by_cases hj : 0 ≤ j
    · rw [if_neg hi, if_pos hj] at htexts
      exact absurd htexts.symm (toDigits_ne_minus _ _)
    · rw [if_neg hi, if_neg hj] at htexts
      have habs := toDigits_inj _ _ (List.cons.inj htexts).2
      omega

/-! ## Hexadecimal digits -/

theorem hexValue?_digitChar (d : Nat) (h : d < 16) : hexValue? d.digitChar = some d := by
  revert d
  decide

theorem hexNumber_append (cs : List Char) (c : Char) :
    hexNumber (cs ++ [c]) = 16 * hexNumber cs + (hexValue? c).getD 0 := by
  simp only [hexNumber, List.foldl_append, List.foldl_cons, List.foldl_nil]

theorem hexNumber_toDigits (n : Nat) : hexNumber (Nat.toDigits 16 n) = n := by
  induction n using Nat.strongRecOn with
  | ind n ih =>
      rw [Nat.toDigits_eq_if (by omega)]
      by_cases hlt : n < 16
      · rw [if_pos hlt, ← List.nil_append [n.digitChar], hexNumber_append,
          hexValue?_digitChar n hlt, Option.getD_some]
        simp only [hexNumber, List.foldl_nil, Nat.mul_zero, Nat.zero_add]
      · rw [if_neg hlt, hexNumber_append, ih (n / 16) (by omega),
          hexValue?_digitChar _ (Nat.mod_lt n (by omega)), Option.getD_some]
        exact Nat.div_add_mod n 16

theorem isHexDigit_of_mem_toDigits (n : Nat) :
    ∀ c ∈ Nat.toDigits 16 n, isHexDigit c = true := by
  induction n using Nat.strongRecOn with
  | ind n ih =>
      intro c hc
      rw [Nat.toDigits_eq_if (by omega)] at hc
      by_cases hlt : n < 16
      · rw [if_pos hlt, List.mem_singleton] at hc
        rw [hc, isHexDigit, hexValue?_digitChar n hlt, Option.isSome_some]
      · rw [if_neg hlt, List.mem_append, List.mem_singleton] at hc
        rcases hc with hc | hc
        · exact ih (n / 16) (by omega) c hc
        · rw [hc, isHexDigit, hexValue?_digitChar _ (Nat.mod_lt n (by omega)),
            Option.isSome_some]

theorem paddedHex_toList (width n : Nat) :
    (paddedHex width n).toList =
      List.replicate (width - (Nat.toDigits 16 n).length) '0' ++ Nat.toDigits 16 n := by
  rw [paddedHex, String.toList_ofList]

theorem length_paddedHex (n : Nat) (h : n < 0x10000) :
    (paddedHex 4 n).toList.length = 4 := by
  -- The number has no more digits than there is room for.
  have hle : (Nat.toDigits 16 n).length ≤ 4 :=
    (Nat.length_toDigits_le_iff (by omega) (by omega)).mpr (by omega)
  rw [paddedHex_toList, List.length_append, List.length_replicate]
  omega

theorem isHexDigit_of_mem_paddedHex (width n : Nat) :
    ∀ c ∈ (paddedHex width n).toList, isHexDigit c = true := by
  intro c hc
  rw [paddedHex_toList, List.mem_append] at hc
  rcases hc with hc | hc
  · rw [List.eq_of_mem_replicate hc]
    decide
  · exact isHexDigit_of_mem_toDigits n c hc

/-- Zeros in front of hexadecimal digits do not count. -/
theorem hexNumber_replicate_zero (k : Nat) (cs : List Char) :
    hexNumber (List.replicate k '0' ++ cs) = hexNumber cs := by
  induction k with
  | zero => rfl
  | succ k ih =>
      rw [List.replicate_succ, List.cons_append, hexNumber, List.foldl_cons]
      exact ih

theorem hexNumber_paddedHex (width n : Nat) : hexNumber (paddedHex width n).toList = n := by
  rw [paddedHex_toList, hexNumber_replicate_zero, hexNumber_toDigits]

end CodeAudit

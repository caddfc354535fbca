import CodeAudit.Json.Read
import CodeAudit.Json.Write
import CodeAudit.Proofs.Digits

/-!
# JSON Strings

That a text is read back from its JSON string.

The writer turns a text into ASCII one character at a time, and the reader takes the
characters back one at a time, so `readStringFrom_escaped` about a single character carries
the whole. The one case with an argument in it is a character beyond the sixteen bit units:
it is written as two units, the halves of a pair, and the reader puts them together. A single
unit is never taken for half of a pair, because no character is one.

The reader counts its steps down from the length of what is left of the document. It takes
one step for a character, and a character is written with at least one, so the steps last.

## Theorems

* `readCode_unit`: A unit that is no half of a pair is read as its character.
* `readCode_pair`: Two halves are read as one character.
* `escaped_cases`: The ways in which a character is written.
* `readStringFrom_escaped`: One written character is read back.
* `readString_string`: A text is read back from its JSON string.
-/

namespace CodeAudit

namespace Json

theorem readUnit_paddedHex (n : Nat) (h : n < 0x10000) (rest : List Char) :
    readUnit ((paddedHex 4 n).toList ++ rest) = some (n, rest) := by
  have hlen := length_paddedHex n h
  have hhex := isHexDigit_of_mem_paddedHex 4 n
  have hval := hexNumber_paddedHex 4 n
  -- What the reader checks is the number of digits and each of them, not which they are.
  generalize (paddedHex 4 n).toList = ds at hlen hhex hval
  match ds, hlen with
  | [a, b, c, d], _ =>
    have hall : [a, b, c, d].all isHexDigit = true := List.all_eq_true.mpr hhex
    simp only [List.cons_append, List.nil_append, readUnit]
    rw [if_pos hall, hval]

/-- The code of a character is not one of the halves of a pair. -/
theorem not_surrogate (c : Char) :
    c.toNat < 0xD800 ∨ 0xE000 ≤ c.toNat ∧ c.toNat < 0x110000 := by
  rcases c.valid with h | h
  · exact Or.inl h
  · refine Or.inr ⟨?_, h.2⟩
    have := h.1
    simp only [Char.toNat]
    omega

theorem readCode_unit (c : Char) (h : c.toNat < 0x10000) (rest : List Char) :
    readCode ((paddedHex 4 c.toNat).toList ++ rest) = some (c, rest) := by
  rw [readCode, readUnit_paddedHex c.toNat h rest]
  have hc := not_surrogate c
  -- The code is neither a first half nor a second one, so it stands for itself.
  have hhigh : ¬ ((decide (0xD800 ≤ c.toNat) && decide (c.toNat < 0xDC00)) = true) := by
    simp only [Bool.and_eq_true, decide_eq_true_eq]
    omega
  have hlow : ¬ ((decide (0xDC00 ≤ c.toNat) && decide (c.toNat < 0xE000)) = true) := by
    simp only [Bool.and_eq_true, decide_eq_true_eq]
    omega
  simp only []
  rw [if_neg hhigh, if_neg hlow, Char.ofNat_toNat]

-- Both units are in the ranges for surrogates, and a pair of them stands for the code whose
-- quotient and remainder they carry.
theorem readCode_pair (c : Char) (h : 0x10000 ≤ c.toNat) (rest : List Char) :
    readCode ((paddedHex 4 (0xD800 + (c.toNat - 0x10000) / 0x400)).toList ++
      '\\' :: 'u' :: ((paddedHex 4 (0xDC00 + (c.toNat - 0x10000) % 0x400)).toList ++ rest)) =
        some (c, rest) := by
  have hc := not_surrogate c
  have hfirst : 0xD800 + (c.toNat - 0x10000) / 0x400 < 0xDC00 := by omega
  have hsecond : 0xDC00 + (c.toNat - 0x10000) % 0x400 < 0xE000 := by omega
  rw [readCode, readUnit_paddedHex _ (by omega)]
  have hhigh : (decide (0xD800 ≤ 0xD800 + (c.toNat - 0x10000) / 0x400) &&
      decide (0xD800 + (c.toNat - 0x10000) / 0x400 < 0xDC00)) = true := by
    simp only [Bool.and_eq_true, decide_eq_true_eq]
    omega
  simp only []
  rw [if_pos hhigh]
  simp only [readUnit_paddedHex _ (show 0xDC00 + (c.toNat - 0x10000) % 0x400 < 0x10000 by omega)]
  have hlow : (decide (0xDC00 ≤ 0xDC00 + (c.toNat - 0x10000) % 0x400) &&
      decide (0xDC00 + (c.toNat - 0x10000) % 0x400 < 0xE000)) = true := by
    simp only [Bool.and_eq_true, decide_eq_true_eq]
    omega
  rw [if_pos hlow]
  -- The two halves are the quotient and the remainder of the code above the units.
  have hcode : 0x10000 + (0xD800 + (c.toNat - 0x10000) / 0x400 - 0xD800) * 0x400 +
      (0xDC00 + (c.toNat - 0x10000) % 0x400 - 0xDC00) = c.toNat := by omega
  rw [hcode, Char.ofNat_toNat]

theorem readStringFrom_quote (fuel : Nat) (acc rest : List Char) :
    readStringFrom (fuel + 1) acc ('"' :: rest) = some (acc.reverse, rest) := rfl

/-- A letter behind a backslash gives its character, unless it announces a code. -/
theorem readStringFrom_escape (fuel : Nat) (acc rest : List Char) (e c : Char) (hu : e ≠ 'u')
    (h : escapeChar? e = some c) :
    readStringFrom (fuel + 1) acc ('\\' :: e :: rest) = readStringFrom fuel (c :: acc) rest := by
  rw [readStringFrom]
  · simp only [h]
  · exact hu

theorem readStringFrom_code (fuel : Nat) (acc cs rest : List Char) (c : Char)
    (h : readCode cs = some (c, rest)) :
    readStringFrom (fuel + 1) acc ('\\' :: 'u' :: cs) = readStringFrom fuel (c :: acc) rest := by
  rw [readStringFrom]
  simp only [h]

theorem readStringFrom_plain (fuel : Nat) (acc rest : List Char) (c : Char) (hq : c ≠ '"')
    (hb : c ≠ '\\') (hc : 0x20 ≤ c.toNat) :
    readStringFrom (fuel + 1) acc (c :: rest) = readStringFrom fuel (c :: acc) rest := by
  rw [readStringFrom]
  · have hkeep : ¬ ((decide (c.toNat < 0x20) || c == '\\') = true) := by
      simp only [Bool.or_eq_true, decide_eq_true_eq, beq_iff_eq, not_or]
      exact ⟨by omega, hb⟩
    rw [if_neg hkeep]
  · exact fun heq => hq heq
  · exact fun _ heq => absurd heq hb
  · exact fun _ _ heq => absurd heq hb

/-- A character beyond the sixteen bit units is written as two of them. -/
theorem escaped_wide (c : Char) (h : 0x10000 ≤ c.toNat) :
    escaped c = unitEscape (0xD800 + (c.toNat - 0x10000) / 0x400) ++
      unitEscape (0xDC00 + (c.toNat - 0x10000) % 0x400) := by
  -- None of the characters with a letter of their own is so large.
  have hne : ∀ x : Char, x.toNat < 0x10000 → ¬ ((c == x) = true) := by
    intro x hx heq
    rw [beq_iff_eq] at heq
    subst heq
    omega
  rw [escaped, if_neg (hne _ (by decide)), if_neg (hne _ (by decide)), if_neg (hne _ (by decide)),
    if_neg (hne _ (by decide)), if_neg (hne _ (by decide)), if_neg (hne _ (by decide)),
    if_neg (hne _ (by decide)), if_neg (by simp only [Bool.and_eq_true, decide_eq_true_eq]; omega),
    if_neg (by omega)]

/-- The four ways in which a character is written: by a letter behind a backslash, as it is,
    as one unit, or as two. -/
theorem escaped_cases (c : Char) :
    (∃ e, escaped c = ['\\', e] ∧ escapeChar? e = some c) ∨
    (escaped c = [c] ∧ c ≠ '"' ∧ c ≠ '\\' ∧ 0x20 ≤ c.toNat ∧ c.toNat < 0x7F) ∨
    (escaped c = unitEscape c.toNat ∧ c.toNat < 0x10000) ∨
    (escaped c = unitEscape (0xD800 + (c.toNat - 0x10000) / 0x400) ++
      unitEscape (0xDC00 + (c.toNat - 0x10000) % 0x400) ∧ 0x10000 ≤ c.toNat) := by
  by_cases hq : c = '"'
  · subst hq
    exact Or.inl ⟨'"', rfl, rfl⟩
  by_cases hb : c = '\\'
  · subst hb
    exact Or.inl ⟨'\\', rfl, rfl⟩
  by_cases hn : c = '\n'
  · subst hn
    exact Or.inl ⟨'n', rfl, rfl⟩
  by_cases hr : c = '\r'
  · subst hr
    exact Or.inl ⟨'r', rfl, rfl⟩
  by_cases ht : c = '\t'
  · subst ht
    exact Or.inl ⟨'t', rfl, rfl⟩
  by_cases h8 : c = '\x08'
  · subst h8
    exact Or.inl ⟨'b', rfl, rfl⟩
  by_cases hc : c = '\x0c'
  · subst hc
    exact Or.inl ⟨'f', rfl, rfl⟩
  by_cases hw : 0x10000 ≤ c.toNat
  · exact Or.inr (Or.inr (Or.inr ⟨escaped_wide c hw, hw⟩))
  rw [escaped]
  simp only [beq_iff_eq, if_neg hq, if_neg hb, if_neg hn, if_neg hr, if_neg ht, if_neg h8,
    if_neg hc]
  by_cases hp : (decide (0x20 ≤ c.toNat) && decide (c.toNat < 0x7F)) = true
  · rw [if_pos hp]
    simp only [Bool.and_eq_true, decide_eq_true_eq] at hp
    exact Or.inr (Or.inl ⟨rfl, hq, hb, hp.1, hp.2⟩)
  · rw [if_neg hp, if_pos (by omega)]
    exact Or.inr (Or.inr (Or.inl ⟨rfl, by omega⟩))

theorem unitEscape_append (n : Nat) (rest : List Char) :
    unitEscape n ++ rest = '\\' :: 'u' :: ((paddedHex 4 n).toList ++ rest) := by
  simp only [unitEscape, List.cons_append]

theorem readStringFrom_escaped (fuel : Nat) (acc rest : List Char) (c : Char) :
    readStringFrom (fuel + 1) acc (escaped c ++ rest) = readStringFrom fuel (c :: acc) rest := by
  rcases escaped_cases c with ⟨e, he, hletter⟩ | ⟨he, hq, hb, hlow, _⟩ | ⟨he, hu⟩ | ⟨he, hw⟩
  · rw [he]
    refine readStringFrom_escape fuel acc rest e c (fun hu => ?_) hletter
    -- The letter of a code stands for no character.
    rw [hu, show escapeChar? 'u' = none from rfl] at hletter
    exact absurd hletter (by simp only [reduceCtorEq, not_false_eq_true])
  · rw [he]
    exact readStringFrom_plain fuel acc rest c hq hb hlow
  · rw [he, unitEscape_append]
    exact readStringFrom_code fuel acc _ rest c (readCode_unit c hu rest)
  · rw [he, List.append_assoc, unitEscape_append, unitEscape_append]
    exact readStringFrom_code fuel acc _ rest c (readCode_pair c hw rest)

theorem readStringFrom_flatMap (cs : List Char) :
    ∀ (fuel : Nat) (acc rest : List Char), cs.length < fuel →
      readStringFrom fuel acc (cs.flatMap escaped ++ '"' :: rest) =
        some (acc.reverse ++ cs, rest) := by
  -- Each character takes one step of the fuel, and goes to what has been read so far.
  induction cs with
  | nil =>
      intro fuel acc rest h
      rcases Nat.exists_eq_succ_of_ne_zero (Nat.ne_of_gt h) with ⟨k, rfl⟩
      simp only [List.flatMap_nil, List.nil_append, List.append_nil]
      exact readStringFrom_quote k acc rest
  | cons c cs ih =>
      intro fuel acc rest h
      simp only [List.length_cons] at h
      rcases Nat.exists_eq_succ_of_ne_zero (show fuel ≠ 0 by omega) with ⟨k, rfl⟩
      rw [List.flatMap_cons, List.append_assoc, readStringFrom_escaped,
        ih k (c :: acc) rest (by omega), List.reverse_cons, List.append_assoc]
      rfl

theorem escaped_ne_nil (c : Char) : escaped c ≠ [] := by
  rcases escaped_cases c with ⟨e, he, _⟩ | ⟨he, _⟩ | ⟨he, _⟩ | ⟨he, _⟩
  all_goals rw [he]; exact List.cons_ne_nil _ _

/-- A text is no longer than it is when it is written. -/
theorem length_le_flatMap_escaped (cs : List Char) :
    cs.length ≤ (cs.flatMap escaped).length := by
  induction cs with
  | nil => exact Nat.le_refl _
  | cons c cs ih =>
      have hpos := List.length_pos_iff.mpr (escaped_ne_nil c)
      rw [List.flatMap_cons, List.length_append, List.length_cons]
      omega

theorem readString_string (cs rest : List Char) :
    readString (cs.flatMap escaped ++ '"' :: rest) = some (cs, rest) := by
  have hlen := length_le_flatMap_escaped cs
  rw [readString, readStringFrom_flatMap cs _ [] rest ?_]
  · rfl
  · rw [List.length_append]
    omega

end Json

end CodeAudit

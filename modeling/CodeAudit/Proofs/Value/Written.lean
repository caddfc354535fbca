import CodeAudit.Label
import CodeAudit.Proofs.Digits
import CodeAudit.Proofs.Text.Words

/-!
# Values That Cannot Be Written

What is known of a value with an integer too long to be written.

Such a value is that integer or a collection, so its written form begins with a digit, a sign or
a bracket. None of these is a blank, and none changes with the case of letters. Words begin with
letters, and so no such value spells one: a value that spells a word can be written.

## Theorems

* `Value.told_eq_ok_iff`: A value has a text if it can be written.
* `Value.exists_head_of_not_isWritable`: How a value begins that cannot be written.
* `Value.isWritable_of_uppered`: A value that spells a word can be written.
-/

namespace CodeAudit

theorem head?_trim (cs : List Char) (c : Char) (hc : ¬ isBlank c = true)
    (h : cs.head? = some c) : (trim cs).head? = some c := by
  have hstart : trimStart cs = cs :=
    trimStart_eq_self cs fun d hd => by
      rw [h, Option.some.injEq] at hd
      exact hd ▸ hc
  -- The first character is no blank, so something is left, and it begins as the text does.
  have hsome : trimEnd cs ≠ [] := by
    intro hnil
    rw [trimEnd, List.reverse_eq_nil_iff, List.dropWhile_eq_nil_iff] at hnil
    exact hc (hnil c (List.mem_reverse.mpr (List.mem_of_mem_head? h)))
  rw [trim, hstart]
  rcases trimEnd_prefix cs with ⟨rest, hrest⟩
  rw [← hrest] at h
  cases hcut : trimEnd cs with
  | nil => exact absurd hcut hsome
  | cons d ds =>
      rw [hcut, List.cons_append] at h
      exact h

namespace Value

/-- The characters with which a value can begin that cannot be written. -/
def openings : List Char := "-0123456789[(\x7b".toList

theorem openings_of_isDigit (c : Char) (h : c.isDigit = true) : c ∈ openings := by
  have hbounds : 48 ≤ c.toNat ∧ c.toNat ≤ 57 := by
    rw [Char.isDigit, Bool.and_eq_true, decide_eq_true_eq, decide_eq_true_eq] at h
    exact h
  have hall : ∀ n < 10, Char.ofNat (n + 48) ∈ openings := by decide
  have hc := hall (c.toNat - 48) (by omega)
  rwa [Nat.sub_add_cancel hbounds.1, Char.ofNat_toNat] at hc

/-- A value that cannot be written is an integer or a collection, and begins as these do. -/
theorem exists_head_of_not_isWritable :
    ∀ v : Value, v.isWritable = false → ∃ c ∈ openings, v.quoted.toList.head? = some c
  | .int i, _ => by
      rw [quoted, toString_int_toList]
      by_cases hi : 0 ≤ i
      · rw [if_pos hi]
        cases hdigits : Nat.toDigits 10 i.natAbs with
        | nil => exact absurd hdigits Nat.toDigits_ne_nil
        | cons d ds =>
            refine ⟨d, openings_of_isDigit d ?_, rfl⟩
            exact isDigit_of_mem_toDigits i.natAbs d (hdigits ▸ List.mem_cons_self)
      · rw [if_neg hi]
        exact ⟨'-', by decide, rfl⟩
  | .list items, _ => by
      refine ⟨'[', by decide, ?_⟩
      simp only [quoted, String.toList_append, String.reduceToList, List.cons_append,
        List.head?_cons]
  | .pair a b, _ => by
      refine ⟨'(', by decide, ?_⟩
      simp only [quoted, String.toList_append, String.reduceToList, List.cons_append,
        List.head?_cons]
  | .set (v :: rest), _ => by
      refine ⟨'\x7b', by decide, ?_⟩
      simp only [quoted, String.toList_append, String.reduceToList, List.cons_append,
        List.head?_cons]
  | .mapping entries, _ => by
      refine ⟨'\x7b', by decide, ?_⟩
      simp only [quoted, String.toList_append, String.reduceToList, List.cons_append,
        List.head?_cons]
  -- What contains itself is written as its outline is.
  | .knot outline _, h => by
      rw [isWritable] at h
      rw [quoted]
      exact exists_head_of_not_isWritable outline h

theorem told_text (s : String) : (Value.text s).told = .ok s := rfl

/-- A value has a text if it can be written, and then it is the one that it shows. -/
theorem told_eq_ok_iff (v : Value) (s : String) :
    v.told = .ok s ↔ v.isWritable = true ∧ v.shown = s := by
  rw [told]
  by_cases h : v.isWritable = true
  · rw [if_pos h, Except.ok.injEq]
    exact ⟨fun hs => ⟨h, hs⟩, And.right⟩
  · rw [if_neg h]
    exact ⟨(fun hs => nomatch hs), fun hs => absurd hs.1 h⟩

theorem shown_of_not_isWritable (v : Value) (h : v.isWritable = false) : v.shown = v.quoted := by
  cases v with
  | text s => exact nomatch h
  | date d => exact nomatch h
  | moment m => exact nomatch h
  | _ => rfl

/-- A value that spells a word in capital letters can be written, if the word begins with none of
    the characters with which one begins that cannot. -/
theorem isWritable_of_uppered (v : Value) (word : String)
    (hword : (openings.all fun c => word.toList.head? != some c) = true)
    (h : uppered (trimmed v.shown) = word) : v.isWritable = true := by
  by_contra hlong
  rw [Bool.not_eq_true] at hlong
  rcases exists_head_of_not_isWritable v hlong with ⟨c, hc, hhead⟩
  -- The first character is no blank and has no case, so the word begins with it.
  have hopenings : (openings.all fun c => !isBlank c && capitalChars c == [c]) = true := by
    decide +kernel
  have hplain := List.all_eq_true.mp hopenings c hc
  rw [Bool.and_eq_true, Bool.not_eq_true', beq_iff_eq] at hplain
  have htrim := head?_trim _ c (Bool.eq_false_iff.mp hplain.1) hhead
  refine bne_iff_ne.mp (List.all_eq_true.mp hword c hc) ?_
  rw [← h, uppered, String.toList_ofList, shown_of_not_isWritable v hlong, trimmed,
    String.toList_ofList]
  cases hrest : trim v.quoted.toList with
  | nil =>
      rw [hrest] at htrim
      exact nomatch htrim
  | cons d rest =>
      rw [hrest, List.head?_cons, Option.some.injEq] at htrim
      rw [htrim, upperText, List.flatMap_cons, hplain.2]
      rfl

end Value

end CodeAudit

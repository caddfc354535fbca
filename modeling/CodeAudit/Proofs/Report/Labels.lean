import CodeAudit.Proofs.Operation
import CodeAudit.Proofs.Value.Written

/-!
# Labels Read Back

That every word of a vocabulary is read as the member it stands for.

The words are compared after their blanks are taken off and their letters are folded, and
severities are written in small letters but compared in capitals. So it is not the spelling
that makes a word come back, and each vocabulary is gone through word by word.

## Theorems

* `Severity.parse_label`, `Category.parse_label`, …: A word is read as its member.
* `label_inj_of_parse`: Different members have different words.
* `spelledMember_eq_ok_iff`: A member is spelled by its word, up to blanks and the case of letters.
-/

namespace CodeAudit

theorem Severity.parse_label (s : Severity) : Severity.parse (.text s.label) = .ok s := by
  cases s
  all_goals rfl

theorem Category.parse_label (c : Category) : Category.parse (.text c.label) = .ok c := by
  cases c
  all_goals rfl

theorem Framework.parse_label (f : Framework) : Framework.parse (.text f.label) = .ok f := by
  cases f
  all_goals rfl

theorem PatternKind.parse_label (k : PatternKind) :
    PatternKind.parse (.text k.label) = .ok k := by
  cases k
  all_goals rfl

theorem FixKind.parse_label (k : FixKind) : FixKind.parse (.text k.label) = .ok k := by
  cases k
  all_goals rfl

theorem Status.parse_label (s : Status) : Status.parse (.text s.label) = .ok s := by
  cases s
  all_goals rfl

/-- What is read back from its word has that word to itself. -/
theorem label_inj_of_parse {α : Type} (label : α → String) (parse : Value → Except Fault α)
    (h : ∀ a, parse (.text (label a)) = .ok a) (a b : α) (hab : label a = label b) : a = b := by
  have hparsed := h a
  rw [hab, h b] at hparsed
  exact (Except.ok.inj hparsed).symm

/-- A value spells a member of a vocabulary if it can be written and its text is the word, up to
    blanks around it and the case of letters. -/
theorem spelledMember_eq_ok_iff {α : Type} (kind : String) (word : α → String) (all : List α)
    (fold : String → String) (hall : ∀ a, a ∈ all) (hword : ∀ a b, word a = word b → a = b)
    (v : Value) (a : α) :
    spelledMember kind word all fold v = .ok a ↔
      v.isWritable = true ∧ fold (trimmed v.shown) = word a := by
  by_cases hwritable : v.isWritable = true
  · rw [spelledMember, (v.told_eq_ok_iff v.shown).mpr ⟨hwritable, rfl⟩, ok_bind, memberOf?,
      and_iff_right hwritable]
    cases hfind : all.find? fun b => word b == fold (trimmed v.shown) with
    | none =>
        have hne := List.find?_eq_none.mp hfind a (hall a)
        rw [beq_iff_eq] at hne
        refine ⟨fun h => ?_, fun h => absurd h.symm hne⟩
        cases h
    | some b =>
        have hb := List.find?_some hfind
        rw [beq_iff_eq] at hb
        rw [← hb]
        exact ⟨fun h => congrArg word (Except.ok.inj h), fun h => congrArg Except.ok (hword b a h)⟩
  · rw [spelledMember, Value.told, if_neg hwritable]
    refine ⟨fun h => ?_, fun h => absurd h.1 hwritable⟩
    cases h

theorem Severity.parse_eq_ok_iff (v : Value) (s : Severity) :
    Severity.parse v = .ok s ↔ uppered (trimmed v.shown) = s.name := by
  have hspelled : Severity.parse v = .ok s ↔
      v.isWritable = true ∧ uppered (trimmed v.shown) = s.name := by
    refine spelledMember_eq_ok_iff "severity" name all uppered (fun s => ?_) (fun s t => ?_) v s
    · cases s
      all_goals decide
    · cases s
      all_goals
        cases t
        all_goals decide
  -- No name of a severity begins as a value does that cannot be written.
  have hname : (Value.openings.all fun c => s.name.toList.head? != some c) = true := by
    cases s
    all_goals decide
  rw [hspelled]
  exact and_iff_right_of_imp (v.isWritable_of_uppered s.name hname)

end CodeAudit

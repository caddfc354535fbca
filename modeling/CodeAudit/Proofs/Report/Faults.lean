import CodeAudit.Failure
import CodeAudit.Proofs.Json.Readers
import CodeAudit.Proofs.Value.Parts
import CodeAudit.Source
import Mathlib.Tactic.SplitIfs

/-!
# Faults of Stored Reports

What can be wrong with a file that is read as a report.

A stored report is read through four layers: the bytes of the file, their characters, the JSON
text and the decoded document. Each layer has errors of its own, and nearly all of them cost no
more than the report they are met in. There is one exception. An integer that is asked of an
infinite number is a fault of another kind, and no layer turns it into a mistake of the report.

Such a number has to be in the document. So the decoders are followed here under the assumption
that it is not: the parts of a bounded value are bounded, and no demand on a bounded value gives
that one fault. `Bounded` speaks of all parts of a value, keys of mappings among them, because
a decoder that walks through a mapping walks through its keys.

## Main definitions

* `Value.Bounded`: No part of a value is an infinite number.
* `Avoids`: A result that is not a certain fault.
* `Fits`: A result that is not the fault of a number that is too large.

## Theorems

* `Fits.bind`, `Fits.map`, `Avoids.mapM`: Steps that fit make a run that fits.
* `Value.fits_toInteger`: A bounded value is no integer that is too large.
* `Report.fits_decode`: Decoding a bounded document does not break off.
* `Json.spoilsReport_of_read`: A text that is not read costs no more than the report.
-/

namespace CodeAudit

namespace Value

/-- No part of a value is an infinite number. -/
def Bounded (v : Value) : Prop :=
  ∀ negative, ¬ Within (.float (.infinite negative)) v

theorem hereditary_bounded : Hereditary Bounded where
  -- What is infinite in a part would be infinite in the whole.
  part _ _ hw hwithin negative hpart := hw negative (hpart.trans hwithin)
  null _ h := by cases h
  int _ _ h := by cases h
  text _ _ h := by cases h
  emptyList _ h := by
    cases h with
    | item v _ hmem _ => exact absurd hmem List.not_mem_nil
  emptyMapping _ h := by
    cases h with
    | key k v _ hmem _ => exact absurd hmem List.not_mem_nil
    | entry k v _ hmem _ => exact absurd hmem List.not_mem_nil

theorem Bounded.entry {entries : Entries} (h : Bounded (.mapping entries)) (k v : Value)
    (hmem : (k, v) ∈ entries) : v.Bounded :=
  hereditary_bounded.part v _ h (.entry k v entries hmem .self)

theorem Bounded.tail {e : Value × Value} {entries : Entries}
    (h : Bounded (.mapping (e :: entries))) : Bounded (.mapping entries) := by
  intro negative hpart
  cases hpart with
  | key k v _ hmem hwithin =>
      exact h negative (.key k v _ (List.mem_cons_of_mem _ hmem) hwithin)
  | entry k v _ hmem hwithin =>
      exact h negative (.entry k v _ (List.mem_cons_of_mem _ hmem) hwithin)

theorem Bounded.fieldOr {v default : Value} (h : v.Bounded) (hdefault : default.Bounded)
    (key : String) (w : Value) (hw : v.fieldOr key default = .ok w) : w.Bounded :=
  hereditary_bounded.fieldOr h hdefault key w hw

end Value

/-! ## Results that fit -/

/-- A result that is not a certain fault. -/
def Avoids {α : Type} (fault : Fault) (x : Except Fault α) : Prop :=
  x ≠ .error fault

/-- A result that is not the fault of a number that is too large. -/
abbrev Fits {α : Type} (x : Except Fault α) : Prop :=
  Avoids .tooLarge x

namespace Avoids

variable {α β : Type} {fault : Fault}

theorem ok (a : α) : Avoids fault (Except.ok a : Except Fault α) :=
  fun h => nomatch h

theorem bind {x : Except Fault α} {f : α → Except Fault β} (hx : Avoids fault x)
    (hf : ∀ a, x = .ok a → Avoids fault (f a)) : Avoids fault (x >>= f) := by
  cases x with
  | error e => exact fun h => hx (congrArg _ (Except.error.inj h))
  | ok a => exact hf a rfl

theorem map {x : Except Fault α} (f : α → β) (hx : Avoids fault x) : Avoids fault (x.map f) := by
  cases x with
  | error e => exact fun h => hx (congrArg _ (Except.error.inj h))
  | ok a => exact ok (f a)

theorem mapM {decode : α → Except Fault β} (as : List α)
    (h : ∀ a ∈ as, Avoids fault (decode a)) : Avoids fault (as.mapM decode) := by
  induction as with
  | nil => exact ok []
  | cons a as ih =>
      rw [List.forall_mem_cons] at h
      rw [List.mapM_cons]
      exact bind h.1 fun b _ => bind (ih h.2) fun bs _ => ok (b :: bs)

end Avoids

namespace Value

theorem fits_integerIn (base : Nat) (s : String) : Fits (integerIn base s) := by
  unfold integerIn
  cases readIntegerIn base s.toList with
  | ok i => exact .ok i
  | error e =>
      -- A text is read or refused, and neither is a matter of size.
      cases e with
      | malformed => exact fun h => nomatch h
      | tooLong digits => exact fun h => nomatch h

/-- A bounded value is no integer that is too large. -/
theorem fits_toInteger (v : Value) (h : v.Bounded) : Fits v.toInteger := by
  cases v with
  | float x =>
      cases x with
      | infinite negative => exact absurd .self (h negative)
      | nan => exact fun heq => nomatch heq
      | finite negative m e =>
          -- A finite number is a ratio, and a ratio has a whole part.
          have htruncate : ∃ i, (Double.finite negative m e).truncate? = some i := by
            unfold Double.truncate? Double.ratio?
            by_cases he : e < 0
            · simp only [if_pos he, Option.some.injEq, exists_eq']
            · simp only [if_neg he, Option.some.injEq, exists_eq']
          rcases htruncate with ⟨i, hi⟩
          simp only [toInteger, hi]
          exact .ok i
  | text s => exact fits_integerIn 10 s
  | bool b => exact .ok _
  | int i => exact .ok i
  | _ => exact fun heq => nomatch heq

theorem fits_field (key : String) (v : Value) : Fits (v.field key) := by
  cases v with
  | mapping entries => exact .ok _
  | _ => exact fun h => nomatch h

theorem fits_fieldOr (key : String) (v default : Value) : Fits (v.fieldOr key default) :=
  (fits_field key v).map _

theorem fits_demand (key : String) (v : Value) : Fits (v.demand key) := by
  cases v with
  | mapping entries =>
      simp only [demand]
      cases Value.get? key entries with
      | none => exact fun h => by cases h
      | some w => exact .ok w
  | _ => exact fun h => by cases h

theorem fits_items (v : Value) : Fits v.items := by
  cases v <;> exact fun h => nomatch h

theorem fits_entriesOf (v : Value) : Fits v.entriesOf := by
  cases v <;> exact fun h => nomatch h

/-- The only thing that can be wrong with a text is that it is too long. -/
theorem avoids_told (fault : Fault) (hfault : fault ≠ .integerTooLong 0) (v : Value) :
    Avoids fault v.told := by
  unfold told
  by_cases h : v.isWritable = true
  · rw [if_pos h]
    exact .ok _
  · rw [if_neg h]
    exact fun heq => hfault (Except.error.inj heq).symm

theorem avoids_toldUnlessNull (fault : Fault) (hfault : fault ≠ .integerTooLong 0) (v : Value) :
    Avoids fault v.toldUnlessNull := by
  unfold toldUnlessNull
  split
  · exact .ok _
  · exact (avoids_told fault hfault _).map _

theorem fits_told (v : Value) : Fits v.told :=
  avoids_told .tooLarge (fun h => nomatch h) v

/-- What is wrong with a value is its fault, or that it cannot be quoted. -/
theorem blamed_ne (fault : Fault) (hlong : fault ≠ .integerTooLong 0) (of : Value → Fault)
    (hof : ∀ v, fault ≠ of v) (v : Value) : v.blamed of ≠ fault := by
  unfold blamed
  by_cases h : v.isWritable = true
  · rw [if_pos h]
    exact (hof v).symm
  · rw [if_neg h]
    exact hlong.symm

end Value

/-! ## The decoders -/

theorem avoids_spelledMember {α : Type} (fault : Fault) (hlong : fault ≠ .integerTooLong 0)
    (hfault : ∀ kind v, fault ≠ .unknownLabel kind v) (kind : String) (word : α → String)
    (all : List α) (fold : String → String) (v : Value) :
    Avoids fault (spelledMember kind word all fold v) := by
  unfold spelledMember
  refine (Value.avoids_told fault hlong v).bind fun s _ => ?_
  -- Behind that a label that is not known is the only fault.
  cases memberOf? word all (fold (trimmed s)) with
  | none => exact fun h => hfault kind v (Except.error.inj h).symm
  | some a => exact .ok a

theorem fits_spelledMember {α : Type} (kind : String) (word : α → String) (all : List α)
    (fold : String → String) (v : Value) : Fits (spelledMember kind word all fold v) :=
  avoids_spelledMember .tooLarge (fun h => nomatch h) (fun _ _ h => nomatch h) kind word all fold v

theorem Severity.fits_parse (v : Value) : Fits (Severity.parse v) :=
  fits_spelledMember "severity" name all uppered v

theorem Category.fits_parse (v : Value) : Fits (Category.parse v) :=
  fits_spelledMember "RuleCategory" label all lowered v

theorem Status.fits_parse (v : Value) : Fits (Status.parse v) := by
  cases v with
  | text s =>
      simp only [Status.parse]
      cases memberOf? label all s with
      | none => exact fun h => nomatch h
      | some state => exact .ok state
  | _ =>
      exact fun h => Value.blamed_ne .tooLarge (fun h => nomatch h) .notAStatus
        (fun _ h => nomatch h) _ (Except.error.inj h)

theorem ComplianceTag.fits_decode (v : Value) : Fits (decode v) := by
  unfold decode
  refine (v.fits_demand _).bind fun w _ => ?_
  refine Avoids.bind (fits_spelledMember _ _ _ _ w) fun framework _ => ?_
  refine (v.fits_demand _).bind fun w _ => ?_
  refine w.fits_told.bind fun control _ => ?_
  refine (v.fits_fieldOr _ _).bind fun w _ => ?_
  exact w.fits_told.bind fun requirement _ => .ok _

theorem QuickFix.fits_decode (v : Value) : Fits (decode v) := by
  unfold decode
  refine (v.fits_fieldOr _ _).bind fun replacement _ => ?_
  refine (v.fits_demand _).bind fun w _ => ?_
  refine Avoids.bind (fits_spelledMember _ _ _ _ w) fun kind _ => ?_
  refine (v.fits_fieldOr _ _).bind fun w _ => ?_
  refine w.fits_told.bind fun description _ => ?_
  exact (replacement.avoids_toldUnlessNull .tooLarge fun h => nomatch h).bind fun text _ => .ok _

namespace Finding

theorem fits_textField (key : String) (v : Value) : Fits (textField key v) :=
  (v.fits_fieldOr key _).bind fun w _ => w.fits_told

theorem fits_countField (key : String) (v : Value) (h : v.Bounded) : Fits (countField key v) :=
  (v.fits_fieldOr key _).bind fun w hw =>
    -- The number that is missing is taken as zero, which is bounded too.
    w.fits_toInteger (h.fieldOr (Value.hereditary_bounded.int 0) key w hw)

theorem fits_listField (key : String) (v : Value) : Fits (listField key v) :=
  (v.fits_fieldOr key _).bind fun w _ => (w.orElse _).fits_items

theorem fits_decodeFix (v : Value) : Fits (decodeFix v) := by
  unfold decodeFix
  by_cases h : v.isTruthy = true
  · rw [if_pos h]
    exact (QuickFix.fits_decode v).map _
  · rw [if_neg h]
    exact .ok none

theorem fits_decodeStatus (v : Value) : Fits (decodeStatus v) := by
  unfold decodeStatus
  by_cases h : v.isTruthy = true
  · rw [if_pos h]
    exact (Status.fits_parse v).map _
  · rw [if_neg h]
    exact .ok none

/-- The two numbers of a finding are the only integers that are asked of it. -/
theorem fits_decode (v : Value) (h : v.Bounded) : Fits (decode v) := by
  unfold decode
  refine (v.fits_fieldOr _ _).bind fun status _ => ?_
  refine (v.fits_fieldOr _ _).bind fun quickFix _ => ?_
  refine (v.fits_demand _).bind fun w _ => ?_
  refine w.fits_told.bind fun ruleId _ => ?_
  refine (fits_textField _ v).bind fun ruleName _ => ?_
  refine (v.fits_demand _).bind fun w _ => ?_
  refine Avoids.bind (fits_spelledMember _ _ _ _ w) fun severity _ => ?_
  refine (v.fits_demand _).bind fun w _ => ?_
  refine Avoids.bind (fits_spelledMember _ _ _ _ w) fun category _ => ?_
  refine (fits_textField _ v).bind fun description _ => ?_
  refine (v.fits_demand _).bind fun w _ => ?_
  refine w.fits_told.bind fun path _ => ?_
  refine (fits_countField _ v h).bind fun line _ => ?_
  refine (fits_countField _ v h).bind fun column _ => ?_
  refine (fits_textField _ v).bind fun snippet _ => ?_
  refine (fits_textField _ v).bind fun matched _ => ?_
  refine (fits_listField _ v).bind fun tags _ => ?_
  refine (Avoids.mapM tags fun t _ => ComplianceTag.fits_decode t).bind fun compliance _ => ?_
  refine (fits_decodeFix quickFix).bind fun fix _ => ?_
  refine (fits_decodeStatus status).bind fun state _ => ?_
  refine (v.fits_fieldOr _ _).bind fun firstDetected _ => ?_
  refine (v.fits_fieldOr _ _).bind fun lastDetected _ => ?_
  exact (fits_textField _ v).bind fun fingerprint _ => .ok _

end Finding

theorem bounded_orElse_mapping (v : Value) (h : v.Bounded) (key : String) (w : Value)
    (hw : v.fieldOr key .null = .ok w) : (w.orElse (.mapping [])).Bounded :=
  Value.orElse_induction (h.fieldOr Value.hereditary_bounded.null key w hw)
    Value.hereditary_bounded.emptyMapping

namespace Summary

theorem fits_decodeCounts {α : Type} [DecidableEq α] (parse : Value → Except Fault α)
    (hparse : ∀ v, Fits (parse v)) (entries : Value.Entries) :
    ∀ counts, Value.Bounded (.mapping entries) → Fits (decodeCounts parse entries counts) := by
  induction entries with
  | nil => exact fun counts _ => .ok counts
  | cons e rest ih =>
      rcases e with ⟨k, v⟩
      intro counts h
      unfold decodeCounts
      refine (hparse k).bind fun key _ => ?_
      -- The count of an entry is part of the document, and so is bounded.
      refine (v.fits_toInteger (h.entry k v List.mem_cons_self)).bind fun count _ => ?_
      exact ih _ h.tail

theorem fits_countsField {α : Type} [DecidableEq α] (parse : Value → Except Fault α)
    (hparse : ∀ v, Fits (parse v)) (key : String) (v : Value) (h : v.Bounded) :
    Fits (countsField parse key v) := by
  unfold countsField
  refine (v.fits_fieldOr _ _).bind fun w hw => ?_
  have hbounded := bounded_orElse_mapping v h key w hw
  refine (Value.fits_entriesOf _).bind fun entries hentries => ?_
  rw [Value.eq_of_entriesOf _ entries hentries] at hbounded
  exact fits_decodeCounts parse hparse entries [] hbounded

theorem fits_decode (v : Value) (h : v.Bounded) : Fits (decode v) := by
  unfold decode
  refine (Finding.fits_countField _ v h).bind fun total _ => ?_
  refine (Finding.fits_countField _ v h).bind fun new _ => ?_
  refine (Finding.fits_countField _ v h).bind fun persistent _ => ?_
  refine (Finding.fits_countField _ v h).bind fun closed _ => ?_
  refine (fits_countsField _ Severity.fits_parse _ v h).bind fun bySeverity _ => ?_
  refine (fits_countsField _ Category.fits_parse _ v h).bind fun byCategory _ => ?_
  exact (fits_countsField _ Status.fits_parse _ v h).bind fun byStatus _ => .ok _

end Summary

theorem FrameworkStatus.fits_decode (v : Value) (h : v.Bounded) : Fits (decode v) := by
  unfold decode
  refine (v.fits_demand _).bind fun w _ => ?_
  refine Avoids.bind (fits_spelledMember _ _ _ _ w) fun framework _ => ?_
  refine (Finding.fits_countField _ v h).bind fun totalControls _ => ?_
  refine (Finding.fits_countField _ v h).bind fun passedControls _ => ?_
  refine (Finding.fits_countField _ v h).bind fun failedControls _ => ?_
  refine (Finding.fits_listField _ v).bind fun items hitems => ?_
  refine (Avoids.mapM items fun x hx => ?_).bind fun violations _ => .ok _
  exact Finding.fits_decode x (Value.hereditary_bounded.listField h _ items hitems x hx)

namespace Report

theorem fits_decodeCompliance (entries : Value.Entries) :
    ∀ found, Value.Bounded (.mapping entries) → Fits (decodeCompliance entries found) := by
  induction entries with
  | nil => exact fun found _ => .ok found
  | cons e rest ih =>
      rcases e with ⟨k, v⟩
      intro found h
      unfold decodeCompliance
      refine Avoids.bind (fits_spelledMember _ _ _ _ k) fun framework _ => ?_
      have hstatus := FrameworkStatus.fits_decode v (h.entry k v List.mem_cons_self)
      refine hstatus.bind fun status _ => ?_
      exact ih _ h.tail

/-- Decoding a bounded document does not break off. -/
theorem fits_decode (v : Value) (h : v.Bounded) : Fits (decode v) := by
  unfold decode
  refine (v.fits_demand _).bind fun w _ => ?_
  refine w.fits_told.bind fun id _ => ?_
  refine (Finding.fits_textField _ v).bind fun projectName _ => ?_
  refine (Finding.fits_textField _ v).bind fun projectPath _ => ?_
  refine (v.fits_demand _).bind fun start hstart => ?_
  -- The times stand in the document itself, where nothing is put in for them.
  have hbounded := Value.hereditary_bounded.demand h _ start hstart
  refine (start.fits_toInteger hbounded).bind fun startTime _ => ?_
  refine (v.fits_demand _).bind fun stop hstop => ?_
  have hbounded := Value.hereditary_bounded.demand h _ stop hstop
  refine (stop.fits_toInteger hbounded).bind fun endTime _ => ?_
  refine (Finding.fits_countField _ v h).bind fun duration _ => ?_
  refine (v.fits_fieldOr _ _).bind fun w _ => ?_
  refine w.fits_told.bind fun version _ => ?_
  refine (Finding.fits_listField _ v).bind fun items hitems => ?_
  refine (Avoids.mapM items fun x hx => Finding.fits_decode x
    (Value.hereditary_bounded.listField h _ items hitems x hx)).bind fun findings _ => ?_
  refine (v.fits_fieldOr _ _).bind fun w hw => ?_
  refine (Summary.fits_decode _ (bounded_orElse_mapping v h _ w hw)).bind fun summary _ => ?_
  refine (Finding.fits_countField _ v h).bind fun rulesExecuted _ => ?_
  refine (Finding.fits_countField _ v h).bind fun filesScanned _ => ?_
  refine (Finding.fits_countField _ v h).bind fun linesScanned _ => ?_
  refine (v.fits_fieldOr _ _).bind fun previousId _ => ?_
  refine (v.fits_fieldOr _ _).bind fun w hw => ?_
  refine (Value.fits_entriesOf _).bind fun entries hentries => ?_
  have hbounded := bounded_orElse_mapping v h _ w hw
  rw [Value.eq_of_entriesOf _ entries hentries] at hbounded
  exact (fits_decodeCompliance entries [] hbounded).bind fun compliance _ => .ok _

end Report

/-! ## Texts that are not JSON -/

namespace Json

/-- An error of reading that costs no more than the report it is met in. -/
def ReadError.Spoils (e : ReadError) : Prop :=
  (Failure.ofJson e).spoilsReport = true

theorem spoils_of_readNumber (negative : Bool) (cs : List Char) (e : ReadError)
    (rest : List Char) (h : readNumber negative cs = some (.error e, rest)) : e.Spoils := by
  unfold readNumber at h
  cases hwhole : takeWhole cs with
  | none =>
      rw [hwhole] at h
      exact nomatch h
  | some found =>
      rcases found with ⟨whole, behind⟩
      rw [hwhole] at h
      simp only at h
      -- Only a whole number of too many digits is refused.
      split_ifs at h with hfloat hlong
      · exact nomatch h
      · rw [Option.some.injEq, Prod.mk.injEq, Except.error.injEq] at h
        exact h.1 ▸ rfl
      · exact nomatch h

/-- Reading carries nothing but reasons that cost no more than the report. -/
theorem carried_spoils : Carried (fun _ => True) (fun _ => True) ReadError.Spoils where
  malformed := rfl
  fault := spoils_of_readNumber
  number _ _ _ _ _ := trivial
  name _ _ _ := trivial
  text _ := trivial
  list _ _ := trivial
  nil := trivial
  put _ _ _ _ _ := trivial
  mapping _ _ := trivial

/-- A text that is not read costs no more than the report. -/
theorem spoilsReport_of_read (cs : List Char) (e : ReadError) (h : read cs = .error e) :
    (Failure.ofJson e).spoilsReport = true := by
  have hread := carried_spoils.holds_read cs
  rw [h] at hread
  exact hread

end Json

end CodeAudit

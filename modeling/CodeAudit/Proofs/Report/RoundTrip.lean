import CodeAudit.Proofs.Json.RoundTrip
import CodeAudit.Proofs.Operation
import CodeAudit.Proofs.Report.Labels
import CodeAudit.Report.Basic

/-!
# Reports Read Back

That a report is read back from its document.

For each kind of record there are two facts about its form in a document: it is plain, so
that it is read back from its JSON text, and it is decoded to the record. The share of controls
passed has a place in the form and is not decoded, but worked out again from the counts.

Two fields hold whatever was read: the times of a finding and the identifier of the report
before. `Storable` says that JSON has a form for what they hold, and that is all that the two
facts need. `Typed` says more, that they hold what the program puts there itself.

## Main definitions

* `Finding.Typed`, `Report.Typed`: The fields that hold any value hold what belongs there.
* `Finding.Keeps`: The values kept by a finding have a property.
* `Report.Storable`: JSON has a form for what the fields that hold any value hold.

## Theorems

* `Summary.decodeCounts_map`: Counts are read back in their order.
* `Finding.decode_encode`: A finding is read back from its form.
* `Report.plain_encode`: The form of a report is plain.
* `Report.decode_of_encode`: A report is read back from its form.
-/

namespace CodeAudit

open Json

/-- A time that may be missing. -/
def Value.IsTime (v : Value) : Prop :=
  v = .null ∨ ∃ i, v = .int i

/-- The times of a finding are times, or missing. -/
structure Finding.Typed (f : Finding) : Prop where
  first : f.firstDetected.IsTime
  last : f.lastDetected.IsTime

/-- No key of the tables of a summary comes up twice. -/
structure Summary.Typed (s : Summary) : Prop where
  severities : (s.bySeverity.map Prod.fst).Nodup
  categories : (s.byCategory.map Prod.fst).Nodup
  statuses : (s.byStatus.map Prod.fst).Nodup

/-- The fields of a report that hold any value hold what belongs there, and no key of its
    tables comes up twice. -/
structure Report.Typed (r : Report) : Prop where
  findings : ∀ f ∈ r.findings, f.Typed
  summary : r.summary.Typed
  previous : r.previousId = .null ∨ ∃ s, r.previousId = .text s
  frameworks : (r.compliance.map Prod.fst).Nodup
  violations : ∀ p ∈ r.compliance, ∀ f ∈ p.2.violations, f.Typed

/-- The values kept by a finding have a property. -/
structure Finding.Keeps (P : Value → Prop) (f : Finding) : Prop where
  first : P f.firstDetected
  last : P f.lastDetected

/-- A report whose fields that hold any value hold what JSON has a form for. No key of its
    tables comes up twice. -/
structure Report.Storable (r : Report) : Prop where
  findings : ∀ f ∈ r.findings, f.Keeps Plain
  summary : r.summary.Typed
  previous : Plain r.previousId
  frameworks : (r.compliance.map Prod.fst).Nodup
  violations : ∀ p ∈ r.compliance, ∀ f ∈ p.2.violations, f.Keeps Plain

/-! ## Values read back -/

theorem mapM_map_ok {ε α : Type} (encode : α → Value) (decode : Value → Except ε α)
    (as : List α) (h : ∀ a ∈ as, decode (encode a) = .ok a) :
    (as.map encode).mapM decode = .ok as := by
  rw [List.mapM_map, mapM_eq_map (decode ∘ encode) id as h, List.map_id]

theorem items_orElse_list (vs : List Value) :
    ((Value.list vs).orElse (.list [])).items = .ok vs := by
  cases vs with
  | nil => rfl
  | cons v vs => rfl

theorem entriesOf_orElse_mapping (es : Value.Entries) :
    ((Value.mapping es).orElse (.mapping [])).entriesOf = .ok es := by
  cases es with
  | nil => rfl
  | cons e es => rfl

theorem Value.IsTime.plain {v : Value} (h : v.IsTime) : Plain v := by
  rcases h with h | ⟨i, h⟩
  · rw [h]
    exact .null
  · rw [h]
    exact .int i

theorem Finding.Typed.plain {f : Finding} (h : f.Typed) : f.Keeps Plain :=
  ⟨h.first.plain, h.last.plain⟩

/-- JSON has a form for what belongs into the fields of a report. -/
theorem Report.Typed.storable {r : Report} (h : r.Typed) : r.Storable := by
  refine ⟨fun f hf => (h.findings f hf).plain, h.summary, ?_, h.frameworks,
    fun p hp f hf => (h.violations p hp f hf).plain⟩
  rcases h.previous with hnone | ⟨s, hsome⟩
  · rw [hnone]
    exact .null
  · rw [hsome]
    exact .text s

/-! ## Tags and fixes -/

theorem toldUnlessNull_optionalText (s : Option String) :
    (optionalText s).toldUnlessNull = .ok s := by
  cases s with
  | none => rfl
  | some s => rfl

namespace ComplianceTag

theorem plain_encode (t : ComplianceTag) : Plain t.encode := by
  refine Plain.mapping [("framework", .text t.framework.label), ("control", .text t.control),
    ("requirement", .text t.requirement)]
    (show ["framework", "control", "requirement"].Nodup by decide) ?_
  simp only [List.forall_mem_cons]
  exact ⟨.text _, .text _, .text _, fun _ h => absurd h List.not_mem_nil⟩

theorem decode_encode (t : ComplianceTag) : decode t.encode = .ok t := by
  generalize hv : t.encode = v
  have hframework : v.demand "framework" = .ok (.text t.framework.label) := by rw [← hv]; rfl
  have hcontrol : v.demand "control" = .ok (.text t.control) := by rw [← hv]; rfl
  have hrequirement : v.fieldOr "requirement" (.text "") = .ok (.text t.requirement) := by
    rw [← hv]; rfl
  rw [decode, hframework, ok_bind, Framework.parse_label, ok_bind, hcontrol, ok_bind,
    Value.told_text, ok_bind, hrequirement, ok_bind, Value.told_text, ok_bind]
  rfl

end ComplianceTag

namespace QuickFix

theorem plain_encode (q : QuickFix) : Plain q.encode := by
  refine Plain.mapping [("type", .text q.kind.label), ("description", .text q.description),
    ("replacement", optionalText q.replacement)]
    (show ["type", "description", "replacement"].Nodup by decide) ?_
  simp only [List.forall_mem_cons]
  refine ⟨.text _, .text _, ?_, fun _ h => absurd h List.not_mem_nil⟩
  cases q.replacement with
  | none => exact .null
  | some s => exact .text s

theorem decode_encode (q : QuickFix) : decode q.encode = .ok q := by
  generalize hv : q.encode = v
  have hreplacement : v.fieldOr "replacement" .null = .ok (optionalText q.replacement) := by
    rw [← hv]; rfl
  have hkind : v.demand "type" = .ok (.text q.kind.label) := by rw [← hv]; rfl
  have hdescription : v.fieldOr "description" (.text "") = .ok (.text q.description) := by
    rw [← hv]; rfl
  rw [decode, hreplacement, ok_bind, hkind, ok_bind, FixKind.parse_label, ok_bind, hdescription,
    ok_bind, Value.told_text, ok_bind, toldUnlessNull_optionalText, ok_bind]
  rfl

end QuickFix

/-! ## Findings -/

namespace Finding

-- The form is written out as the list that the constructor for tables takes; the keys are seen to
-- be different by looking at them, and the values one by one.
theorem plain_encode (f : Finding) (h : f.Keeps Plain) : Plain f.encode := by
  refine Plain.mapping
    [("ruleId", .text f.ruleId), ("ruleName", .text f.ruleName),
     ("severity", .text f.severity.label), ("category", .text f.category.label),
     ("description", .text f.description), ("filePath", .text f.path),
     ("lineNumber", .int f.line), ("columnNumber", .int f.column),
     ("codeSnippet", .text f.snippet), ("matchedText", .text f.matched),
     ("compliance", .list (f.compliance.map ComplianceTag.encode)),
     ("quickFix", encodeFix f.quickFix), ("status", encodeStatus f.status),
     ("firstDetected", f.firstDetected), ("lastDetected", f.lastDetected),
     ("fingerprint", .text f.fingerprint)]
    (show ["ruleId", "ruleName", "severity", "category", "description", "filePath", "lineNumber",
      "columnNumber", "codeSnippet", "matchedText", "compliance", "quickFix", "status",
      "firstDetected", "lastDetected", "fingerprint"].Nodup by decide) ?_
  have htags : ∀ v ∈ f.compliance.map ComplianceTag.encode, Plain v := by
    intro v hv
    rcases List.mem_map.mp hv with ⟨t, _, ht⟩
    rw [← ht]
    exact t.plain_encode
  simp only [List.forall_mem_cons]
  refine ⟨.text _, .text _, .text _, .text _, .text _, .text _, .int _, .int _, .text _, .text _,
    .list _ htags, ?_, ?_, h.first, h.last, .text _,
    fun _ hm => absurd hm List.not_mem_nil⟩
  · cases f.quickFix with
    | none => exact .null
    | some q => exact q.plain_encode
  · cases f.status with
    | none => exact .null
    | some s => exact .text _

theorem plain_map_encode (fs : List Finding) (h : ∀ f ∈ fs, f.Keeps Plain) :
    ∀ v ∈ fs.map encode, Plain v := by
  intro v hv
  rcases List.mem_map.mp hv with ⟨f, hf, heq⟩
  rw [← heq]
  exact f.plain_encode (h f hf)

theorem decodeFix_encodeFix (q : Option QuickFix) : decodeFix (encodeFix q) = .ok q := by
  cases q with
  | none => rfl
  | some q =>
      have htruthy : q.encode.isTruthy = true := rfl
      rw [encodeFix, decodeFix, htruthy, q.decode_encode]
      rfl

theorem decodeStatus_encodeStatus (s : Option Status) :
    decodeStatus (encodeStatus s) = .ok s := by
  cases s with
  | none => rfl
  | some s =>
      have htruthy : (Value.text s.label).isTruthy = true := by
        cases s
        all_goals rfl
      rw [encodeStatus, decodeStatus, htruthy, s.parse_label]
      rfl

theorem decode_encode (f : Finding) : decode f.encode = .ok f := by
  have htags : (f.compliance.map ComplianceTag.encode).mapM ComplianceTag.decode =
      .ok f.compliance := mapM_map_ok _ _ _ fun t _ => t.decode_encode
  -- The document stays a name while the fields are read, so that each is looked up in it
  -- once and the rest of the decoder is not touched.
  generalize hv : f.encode = v
  have hstatus : v.fieldOr "status" .null = .ok (encodeStatus f.status) := by rw [← hv]; rfl
  have hfix : v.fieldOr "quickFix" .null = .ok (encodeFix f.quickFix) := by rw [← hv]; rfl
  have hruleId : v.demand "ruleId" = .ok (.text f.ruleId) := by rw [← hv]; rfl
  have hruleName : textField "ruleName" v = .ok f.ruleName := by rw [← hv]; rfl
  have hseverity : v.demand "severity" = .ok (.text f.severity.label) := by rw [← hv]; rfl
  have hcategory : v.demand "category" = .ok (.text f.category.label) := by rw [← hv]; rfl
  have hdescription : textField "description" v = .ok f.description := by rw [← hv]; rfl
  have hpath : v.demand "filePath" = .ok (.text f.path) := by rw [← hv]; rfl
  have hline : countField "lineNumber" v = .ok f.line := by rw [← hv]; rfl
  have hcolumn : countField "columnNumber" v = .ok f.column := by rw [← hv]; rfl
  have hsnippet : textField "codeSnippet" v = .ok f.snippet := by rw [← hv]; rfl
  have hmatched : textField "matchedText" v = .ok f.matched := by rw [← hv]; rfl
  have hcompliance : listField "compliance" v =
      .ok (f.compliance.map ComplianceTag.encode) := by
    rw [← hv]
    exact items_orElse_list _
  have hfirst : v.fieldOr "firstDetected" .null = .ok f.firstDetected := by rw [← hv]; rfl
  have hlast : v.fieldOr "lastDetected" .null = .ok f.lastDetected := by rw [← hv]; rfl
  have hfingerprint : textField "fingerprint" v = .ok f.fingerprint := by rw [← hv]; rfl
  rw [decode, hstatus, ok_bind, hfix, ok_bind, hruleId, ok_bind, Value.told_text, ok_bind,
    hruleName, ok_bind, hseverity,
    ok_bind, Severity.parse_label, ok_bind, hcategory, ok_bind, Category.parse_label, ok_bind,
    hdescription, ok_bind, hpath, ok_bind, Value.told_text, ok_bind, hline, ok_bind, hcolumn, ok_bind, hsnippet, ok_bind,
    hmatched, ok_bind, hcompliance, ok_bind, htags, ok_bind, decodeFix_encodeFix, ok_bind,
    decodeStatus_encodeStatus, ok_bind, hfirst, ok_bind, hlast, ok_bind, hfingerprint, ok_bind]
  rfl

end Finding

/-! ## Summaries -/

/-- An entry under a new key goes behind the others. -/
theorem Keyed.put_of_not_mem {κ β : Type} [DecidableEq κ] (key : κ) (b : β)
    (entries : Keyed κ β) (h : key ∉ entries.map Prod.fst) :
    Keyed.put key b entries = entries ++ [(key, b)] := by
  induction entries with
  | nil => rfl
  | cons e entries ih =>
      rw [List.map_cons, List.mem_cons, not_or] at h
      -- `put` is a case of `adjust`, and it is `adjust` that goes through the entries.
      have hrest := ih h.2
      rw [Keyed.put] at hrest ⊢
      rw [Keyed.adjust, if_neg (Ne.symm h.1), hrest]
      rfl

namespace Summary

/-- Counts are read back in their order, behind those that have been read. -/
theorem decodeCounts_map {α : Type} [DecidableEq α] (label : α → String)
    (parse : Value → Except Fault α) (hparse : ∀ a, parse (.text (label a)) = .ok a)
    (counts : Keyed α Int) :
    ∀ done : Keyed α Int, (done.map Prod.fst ++ counts.map Prod.fst).Nodup →
      decodeCounts parse (counts.map fun p => (.text (label p.1), .int p.2)) done =
        .ok (done ++ counts) := by
  induction counts with
  | nil =>
      intro done _
      rw [List.append_nil]
      rfl
  | cons p counts ih =>
      intro done hkeys
      -- The key read now is none of those before, so `put` goes to the end of the table.
      rcases next_key done p.1 p.2 counts hkeys with ⟨hnew, hkeys'⟩
      have hrest := ih (done ++ [p]) hkeys'
      rw [List.append_assoc] at hrest
      rw [List.map_cons, decodeCounts]
      rw [hparse, ok_bind, Value.toInteger, ok_bind, Keyed.put_of_not_mem p.1 p.2 done hnew]
      exact hrest

theorem plain_encodeCounts {α : Type} (label : α → String)
    (hlabel : ∀ a b, label a = label b → a = b) (counts : Keyed α Int)
    (h : (counts.map Prod.fst).Nodup) : Plain (encodeCounts label counts) := by
  have hentries : encodeCounts label counts =
      .mapping (textEntries (counts.map fun p => (label p.1, .int p.2))) := by
    rw [encodeCounts, textEntries, List.map_map]
    rfl
  rw [hentries]
  refine Plain.mapping _ ?_ ?_
  · -- Different members have different words, so the words come up once as the members do.
    rw [List.map_map]
    have hkeys : (counts.map (Prod.fst ∘ fun p => (label p.1, Value.int p.2))) =
        (counts.map Prod.fst).map label := by
      rw [List.map_map]
      rfl
    rw [hkeys]
    exact List.Pairwise.map label (fun a b hne heq => hne (hlabel a b heq)) h
  · intro e he
    rcases List.mem_map.mp he with ⟨p, _, hp⟩
    rw [← hp]
    exact .int _

theorem countsField_encodeCounts {α : Type} [DecidableEq α] (label : α → String)
    (parse : Value → Except Fault α) (hparse : ∀ a, parse (.text (label a)) = .ok a)
    (counts : Keyed α Int) (hkeys : (counts.map Prod.fst).Nodup) (key : String) (v : Value)
    (h : v.fieldOr key .null = .ok (encodeCounts label counts)) :
    countsField parse key v = .ok counts := by
  have hentries : ((encodeCounts label counts).orElse (.mapping [])).entriesOf =
      .ok (counts.map fun p => (.text (label p.1), .int p.2)) := entriesOf_orElse_mapping _
  rw [countsField, h, ok_bind, hentries, ok_bind]
  exact decodeCounts_map label parse hparse counts [] hkeys

theorem plain_encode (s : Summary) (h : s.Typed) : Plain s.encode := by
  refine Plain.mapping
    [("total", .int s.total), ("new", .int s.new), ("persistent", .int s.persistent),
     ("closed", .int s.closed), ("bySeverity", encodeCounts Severity.label s.bySeverity),
     ("byCategory", encodeCounts Category.label s.byCategory),
     ("byStatus", encodeCounts Status.label s.byStatus)]
    (show ["total", "new", "persistent", "closed", "bySeverity", "byCategory",
      "byStatus"].Nodup by decide) ?_
  have hseverity := label_inj_of_parse Severity.label _ Severity.parse_label
  have hcategory := label_inj_of_parse Category.label _ Category.parse_label
  have hstatus := label_inj_of_parse Status.label _ Status.parse_label
  simp only [List.forall_mem_cons]
  exact ⟨.int _, .int _, .int _, .int _, plain_encodeCounts _ hseverity _ h.severities,
    plain_encodeCounts _ hcategory _ h.categories, plain_encodeCounts _ hstatus _ h.statuses,
    fun _ hm => absurd hm List.not_mem_nil⟩

theorem decode_encode (s : Summary) (h : s.Typed) : decode s.encode = .ok s := by
  generalize hv : s.encode = v
  have htotal : Finding.countField "total" v = .ok s.total := by rw [← hv]; rfl
  have hnew : Finding.countField "new" v = .ok s.new := by rw [← hv]; rfl
  have hpersistent : Finding.countField "persistent" v = .ok s.persistent := by rw [← hv]; rfl
  have hclosed : Finding.countField "closed" v = .ok s.closed := by rw [← hv]; rfl
  have hseverity : countsField Severity.parse "bySeverity" v = .ok s.bySeverity :=
    countsField_encodeCounts Severity.label _ Severity.parse_label _ h.severities _ v
      (by rw [← hv]; rfl)
  have hcategory : countsField Category.parse "byCategory" v = .ok s.byCategory :=
    countsField_encodeCounts Category.label _ Category.parse_label _ h.categories _ v
      (by rw [← hv]; rfl)
  have hstatus : countsField Status.parse "byStatus" v = .ok s.byStatus :=
    countsField_encodeCounts Status.label _ Status.parse_label _ h.statuses _ v
      (by rw [← hv]; rfl)
  rw [decode, htotal, ok_bind, hnew, ok_bind, hpersistent, ok_bind, hclosed, ok_bind, hseverity,
    ok_bind, hcategory, ok_bind, hstatus, ok_bind]
  rfl

end Summary

/-! ## Frameworks -/

namespace FrameworkStatus

/-- The share of controls is a result of rounding. -/
theorem isCanonical_percentage (s : FrameworkStatus) (x : Double) (h : s.percentage = .ok x) :
    x.IsCanonical := by
  rw [percentage] at h
  -- With no controls at all the share is zero, else a quotient that was multiplied: neither is
  -- out of range, the second because multiplication rounds.
  by_cases htotal : s.totalControls ≤ 0
  · rw [if_pos htotal] at h
    rw [← Except.ok.inj h]
    exact Double.isCanonical_zero false
  · rw [if_neg htotal] at h
    cases hquotient : Double.quotient? s.passedControls s.totalControls.toNat with
    | none =>
        simp only [hquotient, reduceCtorEq] at h
    | some y =>
        simp only [hquotient, Except.ok.injEq] at h
        rw [← h]
        exact Double.isCanonical_mul y (.ofInt 100)

theorem plain_encodeWith (s : FrameworkStatus) (x : Double) (hx : x.IsCanonical)
    (h : ∀ f ∈ s.violations, f.Keeps Plain) : Plain (s.encodeWith x) := by
  refine Plain.mapping
    [("framework", .text s.framework.label), ("totalControls", .int s.totalControls),
     ("passedControls", .int s.passedControls), ("failedControls", .int s.failedControls),
     ("compliancePercentage", .float x), ("violations", .list (s.violations.map Finding.encode))]
    (show ["framework", "totalControls", "passedControls", "failedControls",
      "compliancePercentage", "violations"].Nodup by decide) ?_
  simp only [List.forall_mem_cons]
  exact ⟨.text _, .int _, .int _, .int _, .float x hx, .list _ (Finding.plain_map_encode _ h),
    fun _ hm => absurd hm List.not_mem_nil⟩

theorem decode_encodeWith (s : FrameworkStatus) (x : Double) : decode (s.encodeWith x) = .ok s := by
  generalize hv : s.encodeWith x = v
  have hframework : v.demand "framework" = .ok (.text s.framework.label) := by rw [← hv]; rfl
  have htotal : Finding.countField "totalControls" v = .ok s.totalControls := by rw [← hv]; rfl
  have hpassed : Finding.countField "passedControls" v = .ok s.passedControls := by rw [← hv]; rfl
  have hfailed : Finding.countField "failedControls" v = .ok s.failedControls := by rw [← hv]; rfl
  have hviolations : Finding.listField "violations" v =
      .ok (s.violations.map Finding.encode) := by
    rw [← hv]
    exact items_orElse_list _
  have hfindings : (s.violations.map Finding.encode).mapM Finding.decode = .ok s.violations :=
    mapM_map_ok _ _ _ fun f _ => f.decode_encode
  rw [decode, hframework, ok_bind, Framework.parse_label, ok_bind, htotal, ok_bind, hpassed,
    ok_bind, hfailed, ok_bind, hviolations, ok_bind, hfindings, ok_bind]
  rfl

theorem exists_of_encode (s : FrameworkStatus) (form : Value) (h : s.encode = .ok form) :
    ∃ x, x.IsCanonical ∧ form = s.encodeWith x := by
  rw [encode] at h
  cases hx : s.percentage with
  | error e =>
      rw [hx] at h
      exact nomatch h
  | ok x =>
      rw [hx] at h
      exact ⟨x, isCanonical_percentage s x hx, (Except.ok.inj h).symm⟩

end FrameworkStatus

namespace Report

/-- The entries of frameworks, if all can be made, are made one after the other. -/
theorem mapM_encodeStatus_cons (p : Framework × FrameworkStatus)
    (compliance : Keyed Framework FrameworkStatus) (entries : Value.Entries)
    (h : (p :: compliance).mapM encodeStatus = .ok entries) :
    ∃ x rest, x.IsCanonical ∧ compliance.mapM encodeStatus = .ok rest ∧
      entries = (.text p.1.label, p.2.encodeWith x) :: rest := by
  rw [List.mapM_cons] at h
  cases hform : p.2.encode with
  | error e =>
      simp only [encodeStatus, hform, bind, Except.bind] at h
      exact nomatch h
  | ok form =>
      rcases FrameworkStatus.exists_of_encode p.2 form hform with ⟨x, hx, hx'⟩
      cases hrest : compliance.mapM encodeStatus with
      | error e =>
          simp only [encodeStatus, hform, hrest, bind, Except.bind, pure, Except.pure] at h
          exact nomatch h
      | ok rest =>
          simp only [encodeStatus, hform, hrest, bind, Except.bind, pure, Except.pure,
            Except.ok.injEq] at h
          -- `hx'` says which form it is that was put into the entries.
          exact ⟨x, rest, hx, rfl, by rw [← h, hx']⟩

-- The keys of the entries are the words of the frameworks, in the same order, so that they are
-- different if the frameworks are.
theorem plain_mapM_encodeStatus (compliance : Keyed Framework FrameworkStatus) :
    ∀ entries, compliance.mapM encodeStatus = .ok entries →
      (∀ p ∈ compliance, ∀ f ∈ p.2.violations, f.Keeps Plain) →
      ∃ es, entries = textEntries es ∧
        es.map Prod.fst = compliance.map (fun p => p.1.label) ∧ ∀ e ∈ es, Plain e.2 := by
  induction compliance with
  | nil =>
      intro entries h _
      exact ⟨[], (Except.ok.inj h).symm, rfl, fun _ hm => absurd hm List.not_mem_nil⟩
  | cons p compliance ih =>
      intro entries h htyped
      rw [List.forall_mem_cons] at htyped
      rcases mapM_encodeStatus_cons p compliance entries h with ⟨x, rest, hx, hrest, heq⟩
      rcases ih rest hrest htyped.2 with ⟨es, hes, hkeys, hplain⟩
      refine ⟨(p.1.label, p.2.encodeWith x) :: es, ?_, ?_, ?_⟩
      · rw [heq, hes]
        rfl
      · rw [List.map_cons, List.map_cons, hkeys]
      · exact List.forall_mem_cons.mpr ⟨p.2.plain_encodeWith x hx htyped.1, hplain⟩

/-- The frameworks are read back in their order, behind those that have been read. -/
theorem decodeCompliance_mapM (compliance : Keyed Framework FrameworkStatus) :
    ∀ entries done, compliance.mapM encodeStatus = .ok entries →
      (done.map Prod.fst ++ compliance.map Prod.fst).Nodup →
      decodeCompliance entries done = .ok (done ++ compliance) := by
  induction compliance with
  | nil =>
      intro entries done h _
      rw [← Except.ok.inj h, List.append_nil]
      rfl
  | cons p compliance ih =>
      intro entries done h hkeys
      rcases mapM_encodeStatus_cons p compliance entries h with ⟨x, rest, _, hrest, heq⟩
      rcases next_key done p.1 p.2 compliance hkeys with ⟨hnew, hkeys'⟩
      have hdecoded := ih rest (done ++ [p]) hrest hkeys'
      rw [List.append_assoc] at hdecoded
      rw [heq, decodeCompliance, Framework.parse_label, ok_bind, p.2.decode_encodeWith, ok_bind,
        Keyed.put_of_not_mem p.1 p.2 done hnew]
      exact hdecoded

/-! ## Reports -/

theorem plain_encodeWith (r : Report) (h : r.Storable) (entries : List (String × Value))
    (hkeys : (entries.map Prod.fst).Nodup) (hentries : ∀ e ∈ entries, Plain e.2) :
    Plain (r.encodeWith (textEntries entries)) := by
  refine Plain.mapping
    [("reportId", .text r.id), ("projectName", .text r.projectName),
     ("projectPath", .text r.projectPath), ("scanStartTime", .int r.startTime),
     ("scanEndTime", .int r.endTime), ("scanDuration", .int r.duration),
     ("version", .text r.version), ("vulnerabilities", .list (r.findings.map Finding.encode)),
     ("summary", r.summary.encode), ("rulesExecuted", .int r.rulesExecuted),
     ("filesScanned", .int r.filesScanned), ("linesScanned", .int r.linesScanned),
     ("previousReportId", r.previousId),
     ("complianceStatus", .mapping (textEntries entries))]
    (show ["reportId", "projectName", "projectPath", "scanStartTime", "scanEndTime",
      "scanDuration", "version", "vulnerabilities", "summary", "rulesExecuted", "filesScanned",
      "linesScanned", "previousReportId", "complianceStatus"].Nodup by decide) ?_
  simp only [List.forall_mem_cons]
  exact ⟨.text _, .text _, .text _, .int _, .int _, .int _, .text _,
    .list _ (Finding.plain_map_encode _ h.findings), r.summary.plain_encode h.summary, .int _,
    .int _, .int _, h.previous, .mapping entries hkeys hentries,
    fun _ hm => absurd hm List.not_mem_nil⟩

theorem exists_of_encode (r : Report) (form : Value) (h : r.encode = .ok form) :
    ∃ entries, r.compliance.mapM encodeStatus = .ok entries ∧ form = r.encodeWith entries := by
  rw [encode] at h
  cases hentries : r.compliance.mapM encodeStatus with
  | error e =>
      rw [hentries] at h
      exact nomatch h
  | ok entries =>
      rw [hentries] at h
      exact ⟨entries, rfl, (Except.ok.inj h).symm⟩

/-- The form of a report is plain. -/
theorem plain_encode (r : Report) (h : r.Storable) (form : Value) (hform : r.encode = .ok form) :
    Plain form := by
  rcases exists_of_encode r form hform with ⟨entries, hentries, heq⟩
  -- The entries are text entries, which is what the constructor for tables asks for.
  rcases plain_mapM_encodeStatus r.compliance entries hentries h.violations with
    ⟨es, hes, hkeys, hplain⟩
  rw [heq, hes]
  refine plain_encodeWith r h es ?_ hplain
  have hlabel := label_inj_of_parse Framework.label _ Framework.parse_label
  have hmap : r.compliance.map (fun p => p.1.label) =
      (r.compliance.map Prod.fst).map Framework.label := by
    rw [List.map_map]
    rfl
  rw [hkeys, hmap]
  exact List.Pairwise.map Framework.label (fun a b hne hab => hne (hlabel a b hab)) h.frameworks

/-- A report is read back from its form. -/
theorem decode_of_encode (r : Report) (h : r.Storable) (form : Value)
    (hform : r.encode = .ok form) : decode form = .ok r := by
  rcases exists_of_encode r form hform with ⟨entries, hentries, heq⟩
  rw [heq]
  generalize hv : r.encodeWith entries = v
  have hid : v.demand "reportId" = .ok (.text r.id) := by rw [← hv]; rfl
  have hname : Finding.textField "projectName" v = .ok r.projectName := by rw [← hv]; rfl
  have hpath : Finding.textField "projectPath" v = .ok r.projectPath := by rw [← hv]; rfl
  have hstart : v.demand "scanStartTime" = .ok (.int r.startTime) := by rw [← hv]; rfl
  have hend : v.demand "scanEndTime" = .ok (.int r.endTime) := by rw [← hv]; rfl
  have hduration : Finding.countField "scanDuration" v = .ok r.duration := by rw [← hv]; rfl
  have hversion : v.fieldOr "version" (.text defaultVersion) = .ok (.text r.version) := by
    rw [← hv]; rfl
  have hlist : Finding.listField "vulnerabilities" v = .ok (r.findings.map Finding.encode) := by
    rw [← hv]
    exact items_orElse_list _
  have hdecoded : (r.findings.map Finding.encode).mapM Finding.decode = .ok r.findings :=
    mapM_map_ok _ _ _ fun f _ => f.decode_encode
  have hsummary : v.fieldOr "summary" .null = .ok r.summary.encode := by rw [← hv]; rfl
  have hsummary' : r.summary.encode.orElse (.mapping []) = r.summary.encode := rfl
  have hrules : Finding.countField "rulesExecuted" v = .ok r.rulesExecuted := by rw [← hv]; rfl
  have hfiles : Finding.countField "filesScanned" v = .ok r.filesScanned := by rw [← hv]; rfl
  have hlines : Finding.countField "linesScanned" v = .ok r.linesScanned := by rw [← hv]; rfl
  have hprevious' : v.fieldOr "previousReportId" .null = .ok r.previousId := by rw [← hv]; rfl
  have hstatus : v.fieldOr "complianceStatus" .null = .ok (.mapping entries) := by
    rw [← hv]; rfl
  have hcompliance := decodeCompliance_mapM r.compliance entries [] hentries h.frameworks
  rw [decode, hid, ok_bind, Value.told_text, ok_bind, hname, ok_bind, hpath, ok_bind, hstart, ok_bind, Value.toInteger,
    ok_bind, hend, ok_bind, Value.toInteger, ok_bind, hduration, ok_bind, hversion, ok_bind,
    Value.told_text, ok_bind, hlist, ok_bind, hdecoded, ok_bind, hsummary, ok_bind, hsummary', r.summary.decode_encode h.summary,
    ok_bind, hrules, ok_bind, hfiles, ok_bind, hlines, ok_bind, hprevious', ok_bind, hstatus,
    ok_bind, entriesOf_orElse_mapping, ok_bind, hcompliance, ok_bind]
  rfl

end Report

end CodeAudit

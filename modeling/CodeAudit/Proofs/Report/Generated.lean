import CodeAudit.Proofs.Report.Compliance
import CodeAudit.Proofs.Report.RoundTrip
import CodeAudit.Report.Generate

/-!
# Generated Reports

That a report the program makes can be read back as it is.

A report that comes from a document may hold anything in the fields that are kept as they
are read. One that was generated does not: the times of its findings are set by the tracker,
and where the first time is taken over from the report before, it is one that was set
earlier or is set now. The tables of a generated report come from counting, which gives
each key one entry.

## Theorems

* `Finding.keeps_trackSince`: The times of tracked findings are those of the report before, or
  integers.
* `Report.exists_encode_generateReport`: A generated report has a form in a document.
* `Report.typed_generateReport`, `Report.storable_generateReport`: A generated report is typed, or
  storable, if the findings of the report before are.
-/

namespace CodeAudit

theorem nodup_counts {α : Type} [DecidableEq α] (keys : List α) :
    ((counts keys).map Prod.fst).Nodup := by
  have hkeys : (counts keys).map Prod.fst = (Keyed.tally keys).map Prod.fst := by
    rw [counts, List.map_map]
    rfl
  rw [hkeys]
  exact Keyed.nodup_tally keys

/-! ## Tracked findings -/

namespace Finding

section

-- What is said of the times of findings, where every integer is such a time.
variable {P : Value → Prop} (hP : ∀ i, P (.int i))

include hP

theorem keeps_seenSince (f : Finding) (status : Status) (now : Int) (first : Value)
    (h : P first) : (f.seenSince status now first).Keeps P :=
  ⟨h, hP now⟩

theorem firstSeen_keeps (f : Finding) (now : Int) (h : f.Keeps P) : P (firstSeen f now) := by
  rw [firstSeen]
  split
  · exact hP now
  · exact h.first

theorem keeps_trackOne (previous : List Finding) (now : Int) (f : Finding)
    (h : ∀ p ∈ previous, p.Keeps P) : (trackOne previous now f).Keeps P := by
  rw [trackOne]
  cases hfound : findByFingerprint? previous f.fingerprint with
  | none => exact keeps_seenSince hP f .new now _ (hP now)
  | some prior =>
      -- The first time comes from the finding before, and that is where `h` is used.
      have hprior : prior.Keeps P := h prior (List.mem_of_find?_eq_some hfound)
      exact keeps_seenSince hP f .persistent now _ (firstSeen_keeps hP prior now hprior)

theorem keeps_closeGone (now : Int) (previous : List Finding) :
    ∀ seen, (∀ p ∈ previous, p.Keeps P) → ∀ f ∈ closeGone now seen previous, f.Keeps P := by
  induction previous with
  | nil => exact fun _ _ f hf => absurd hf List.not_mem_nil
  | cons prior rest ih =>
      intro seen h
      rw [List.forall_mem_cons] at h
      rw [closeGone]
      split
      · -- Closing keeps the first time of a finding and sets the last, in whatever order the
        -- findings come, so what was seen does not matter.
        exact ih seen h.2
      · exact List.forall_mem_cons.mpr ⟨⟨h.1.first, hP now⟩, ih _ h.2⟩

/-- The times of tracked findings are those of the report before, or integers. -/
theorem keeps_trackSince (previous : Option Report) (current : List Finding) (now : Int)
    (h : ∀ r, previous = some r → ∀ f ∈ r.findings, f.Keeps P) :
    ∀ f ∈ trackSince previous current now, f.Keeps P := by
  intro f hf
  cases previous with
  | none =>
      rcases List.mem_map.mp hf with ⟨g, _, heq⟩
      rw [← heq]
      exact keeps_seenSince hP g .new now _ (hP now)
  | some r =>
      have hprevious := h r rfl
      rcases List.mem_append.mp hf with hcurrent | hgone
      · rcases List.mem_map.mp hcurrent with ⟨g, _, heq⟩
        rw [← heq]
        exact keeps_trackOne hP r.findings now g hprevious
      · exact keeps_closeGone hP now r.findings _ hprevious f hgone

end

end Finding

/-- No key of the tables of a summary that was counted comes up twice. -/
theorem typed_summarize (fs : List Finding) : (summarize fs).Typed :=
  ⟨nodup_counts _, nodup_counts _, nodup_counts _⟩

/-! ## Reports -/

theorem FrameworkStatus.exists_percentage (s : FrameworkStatus) (h : s.passedControls = 0) :
    ∃ x, s.percentage = .ok x := by
  rw [percentage, h]
  split
  · exact ⟨_, rfl⟩
  · exact ⟨_, rfl⟩

theorem Report.exists_mapM_encodeStatus (compliance : Keyed Framework FrameworkStatus)
    (h : ∀ p ∈ compliance, p.2.passedControls = 0) :
    ∃ entries, compliance.mapM encodeStatus = .ok entries := by
  induction compliance with
  | nil => exact ⟨[], rfl⟩
  | cons p compliance ih =>
      rw [List.forall_mem_cons] at h
      rcases p.2.exists_percentage h.1 with ⟨x, hx⟩
      rcases ih h.2 with ⟨entries, hentries⟩
      have hstatus : encodeStatus p = .ok (.text p.1.label, p.2.encodeWith x) := by
        rw [encodeStatus, FrameworkStatus.encode, hx]
        rfl
      refine ⟨(.text p.1.label, p.2.encodeWith x) :: entries, ?_⟩
      rw [List.mapM_cons, hstatus, ok_bind, hentries, ok_bind]
      rfl

/-- A generated report has a form in a document: no control is seen to pass, so that every
    share of controls can be worked out. -/
theorem Report.exists_encode_generateReport (path name : String) (result : ScanResult)
    (previous : Option Report) (now : Int) (number : Nat) :
    ∃ form, (generateReport path name result previous now number).encode = .ok form := by
  -- The quotient of zero by any number of controls is a number, which spares the case of one
  -- that is too large.
  have hpassed : ∀ p ∈ (generateReport path name result previous now number).compliance,
      p.2.passedControls = 0 := by
    intro p hp
    rw [eq_of_mem_aggregateCompliance _ p hp]
    rfl
  rcases exists_mapM_encodeStatus _ hpassed with ⟨entries, hentries⟩
  rw [encode, hentries]
  exact ⟨_, rfl⟩

theorem Report.nodup_frameworks_generateReport (path name : String) (result : ScanResult)
    (previous : Option Report) (now : Int) (number : Nat) :
    ((generateReport path name result previous now number).compliance.map Prod.fst).Nodup := by
  have hkeys := keys_aggregateCompliance (trackSince previous result.findings now)
  exact hkeys ▸ nodup_frameworksOf _

/-- A generated report is typed, if the findings of the report before are. -/
theorem Report.typed_generateReport (path name : String) (result : ScanResult)
    (previous : Option Report) (now : Int) (number : Nat)
    (h : ∀ r, previous = some r → ∀ f ∈ r.findings, f.Typed) :
    (generateReport path name result previous now number).Typed := by
  have hint : ∀ i, (Value.int i).IsTime := fun i => Or.inr ⟨i, rfl⟩
  have hkeeps := Finding.keeps_trackSince hint previous result.findings now fun r hr f hf =>
    ⟨(h r hr f hf).first, (h r hr f hf).last⟩
  have hfindings : ∀ f ∈ trackSince previous result.findings now, f.Typed := fun f hf =>
    ⟨(hkeeps f hf).first, (hkeeps f hf).last⟩
  refine ⟨hfindings, typed_summarize _, ?_,
    nodup_frameworks_generateReport path name result previous now number, ?_⟩
  · cases previous with
    | none => exact Or.inl rfl
    | some r => exact Or.inr ⟨r.id, rfl⟩
  · intro p hp f hf
    exact hfindings f (violations_subset _ p hp f hf)

/-- JSON has a form for what a generated report keeps, if it has one for what the findings of
    the report before do. -/
theorem Report.storable_generateReport (path name : String) (result : ScanResult)
    (previous : Option Report) (now : Int) (number : Nat)
    (h : ∀ r, previous = some r → ∀ f ∈ r.findings, f.Keeps Json.Plain) :
    (generateReport path name result previous now number).Storable := by
  have hfindings := Finding.keeps_trackSince Json.Plain.int previous result.findings now h
  refine ⟨hfindings, typed_summarize _, ?_,
    nodup_frameworks_generateReport path name result previous now number, ?_⟩
  · cases previous with
    | none => exact .null
    | some r => exact .text r.id
  · intro p hp f hf
    exact hfindings f (violations_subset _ p hp f hf)

end CodeAudit

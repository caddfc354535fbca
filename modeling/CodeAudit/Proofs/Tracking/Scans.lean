import CodeAudit.Report.Generate

/-!
# Runs of Scans

What a series of scans has shown, and what one report does with it.

A report knows the past only through the report before, and the two questions it puts to it
are answered here. `findByFingerprint?` finds a finding again, and `closeGone` goes through
those that are not there any more. The second closes each fingerprint once, whatever number
of findings had it, which takes a list of what has been closed so far; the statements about
it are therefore about any such list.

The other half is about the scans themselves: whether a fingerprint was ever seen, and when
it was seen first. Both only look at the scans and not at any report.

## Main definitions

* `Handover`: The way a report reaches the next scan.
* `ScanStep`: One scan of a series.
* `isSeen`: A fingerprint was seen in one of some scans.
* `firstTime`: The time of the first of some scans that shows a fingerprint.

## Theorems

* `firstTime_append_of_isSeen`: Later scans do not change the first time.
* `firstTime_append_of_not_isSeen`: A fingerprint that is new is first seen now.
* `nodup_closeGone`: Each fingerprint is closed once.
* `mem_closeGone`: The fingerprints that are closed are those that are gone.
-/

namespace CodeAudit

/-- The way the report before reaches a scan: it is still in memory, or was saved and is
    loaded again. -/
inductive Handover where
  | memory
  | store
deriving DecidableEq

/-- One scan of a series: the project, what was found, the time and number that the report
    is made with, and the way the report before reaches it. -/
structure ScanStep where
  path : String
  name : String
  result : ScanResult
  now : Int
  number : Nat
  handover : Handover

namespace ScanStep

/-- The fingerprints of the findings of a scan. -/
def fingerprints (s : ScanStep) : List String :=
  s.result.findings.map Finding.fingerprint

/-- The report about a scan, compared with the report before. -/
def report (s : ScanStep) (previous : Option Report) : Report :=
  generateReport s.path s.name s.result previous s.now s.number

end ScanStep

/-- A fingerprint was seen in one of some scans. -/
def isSeen (steps : List ScanStep) (fingerprint : String) : Bool :=
  steps.any fun s => s.fingerprints.contains fingerprint

/-- The time of the first of some scans that shows a fingerprint. -/
def firstTime (steps : List ScanStep) (fingerprint : String) : Value :=
  match steps.find? fun s => s.fingerprints.contains fingerprint with
  | some s => .int s.now
  | none => .null

/-! ## What was seen -/

theorem isSeen_append (steps more : List ScanStep) (fingerprint : String) :
    isSeen (steps ++ more) fingerprint = (isSeen steps fingerprint || isSeen more fingerprint) :=
  List.any_append

theorem isSeen_concat (steps : List ScanStep) (s : ScanStep) (fingerprint : String) :
    isSeen (steps ++ [s]) fingerprint = true ↔
      isSeen steps fingerprint = true ∨ fingerprint ∈ s.fingerprints := by
  rw [isSeen_append, Bool.or_eq_true, isSeen, isSeen, List.any_cons, List.any_nil, Bool.or_false,
    List.contains_iff_mem]

theorem find?_of_isSeen (steps : List ScanStep) (fingerprint : String)
    (h : isSeen steps fingerprint = true) :
    ∃ s, steps.find? (fun s => s.fingerprints.contains fingerprint) = some s := by
  rw [isSeen, List.any_eq_true] at h
  exact Option.isSome_iff_exists.mp (List.find?_isSome.mpr h)

theorem find?_of_not_isSeen (steps : List ScanStep) (fingerprint : String)
    (h : ¬ isSeen steps fingerprint = true) :
    steps.find? (fun s => s.fingerprints.contains fingerprint) = none := by
  rw [isSeen, List.any_eq_true] at h
  exact List.find?_eq_none.mpr fun s hs hshows => h ⟨s, hs, hshows⟩

theorem firstTime_of_isSeen (steps : List ScanStep) (fingerprint : String)
    (h : isSeen steps fingerprint = true) : ∃ t, firstTime steps fingerprint = .int t := by
  rcases find?_of_isSeen steps fingerprint h with ⟨s, hs⟩
  exact ⟨s.now, by rw [firstTime, hs]⟩

/-- Later scans do not change the first time. -/
theorem firstTime_append_of_isSeen (steps more : List ScanStep) (fingerprint : String)
    (h : isSeen steps fingerprint = true) :
    firstTime (steps ++ more) fingerprint = firstTime steps fingerprint := by
  rcases find?_of_isSeen steps fingerprint h with ⟨s, hs⟩
  rw [firstTime, firstTime, List.find?_append, hs, Option.some_or]

/-- A fingerprint that is new is first seen now. -/
theorem firstTime_append_of_not_isSeen (steps : List ScanStep) (s : ScanStep)
    (fingerprint : String) (h : ¬ isSeen steps fingerprint = true)
    (hs : fingerprint ∈ s.fingerprints) :
    firstTime (steps ++ [s]) fingerprint = .int s.now := by
  have hshows : s.fingerprints.contains fingerprint = true := List.contains_iff_mem.mpr hs
  rw [firstTime, List.find?_append, find?_of_not_isSeen steps fingerprint h, Option.none_or,
    List.find?_cons]
  simp only [hshows]

/-! ## Findings of the report before -/

theorem findByFingerprint?_some (fs : List Finding) (fingerprint : String) (prior : Finding)
    (h : findByFingerprint? fs fingerprint = some prior) :
    prior ∈ fs ∧ prior.fingerprint = fingerprint := by
  refine ⟨List.mem_of_find?_eq_some h, ?_⟩
  have hfound := List.find?_some h
  exact beq_iff_eq.mp hfound

theorem findByFingerprint?_none (fs : List Finding) (fingerprint : String)
    (h : findByFingerprint? fs fingerprint = none) :
    fingerprint ∉ fs.map Finding.fingerprint := by
  rw [findByFingerprint?, List.find?_eq_none] at h
  intro hmem
  rcases List.mem_map.mp hmem with ⟨f, hf, heq⟩
  exact h f hf (beq_iff_eq.mpr heq)

/-- What is closed was in the report before. -/
theorem exists_of_mem_closeGone (now : Int) (previous : List Finding) :
    ∀ (seen : List String) (c : Finding), c ∈ closeGone now seen previous →
      ∃ p ∈ previous, c = p.withStatus .closed now := by
  induction previous with
  | nil => exact fun _ c hc => absurd hc List.not_mem_nil
  | cons prior rest ih =>
      intro seen c hc
      rw [closeGone] at hc
      by_cases hseen : seen.contains prior.fingerprint = true
      · rw [if_pos hseen] at hc
        rcases ih seen c hc with ⟨p, hp, heq⟩
        exact ⟨p, List.mem_cons_of_mem prior hp, heq⟩
      · rw [if_neg hseen, List.mem_cons] at hc
        rcases hc with heq | hrest
        · exact ⟨prior, List.mem_cons_self, heq⟩
        · rcases ih _ c hrest with ⟨p, hp, heq⟩
          exact ⟨p, List.mem_cons_of_mem prior hp, heq⟩

/-- The fingerprints that are closed are those that are gone. -/
theorem mem_closeGone (now : Int) (previous : List Finding) :
    ∀ (seen : List String) (fingerprint : String),
      fingerprint ∈ (closeGone now seen previous).map Finding.fingerprint ↔
        fingerprint ∈ previous.map Finding.fingerprint ∧ fingerprint ∉ seen := by
  induction previous with
  | nil =>
      intro seen fingerprint
      exact ⟨fun h => absurd h List.not_mem_nil, fun h => absurd h.1 List.not_mem_nil⟩
  | cons prior rest ih =>
      intro seen fingerprint
      rw [closeGone, List.map_cons, List.mem_cons]
      by_cases hseen : seen.contains prior.fingerprint = true
      · rw [if_pos hseen, ih]
        rw [List.contains_iff_mem] at hseen
        -- What has been seen is passed by, and it is not among what is asked for.
        refine ⟨fun h => ⟨Or.inr h.1, h.2⟩, fun h => ⟨h.1.resolve_left fun heq => ?_, h.2⟩⟩
        exact h.2 (heq ▸ hseen)
      · rw [if_neg hseen, List.map_cons, List.mem_cons, ih, List.mem_cons, not_or]
        rw [List.contains_iff_mem] at hseen
        -- What is closed here counts as seen from here on, which is why it is closed once.
        by_cases heq : fingerprint = prior.fingerprint
        · exact ⟨fun _ => ⟨Or.inl heq, heq ▸ hseen⟩, fun _ => Or.inl heq⟩
        · refine ⟨fun h => ?_, fun h => ?_⟩
          · have hrest := h.resolve_left heq
            exact ⟨Or.inr hrest.1, hrest.2.2⟩
          · exact Or.inr ⟨h.1.resolve_left heq, heq, h.2⟩

/-- Each fingerprint is closed once. -/
theorem nodup_closeGone (now : Int) (previous : List Finding) :
    ∀ seen : List String, ((closeGone now seen previous).map Finding.fingerprint).Nodup := by
  induction previous with
  | nil => exact fun _ => List.nodup_nil
  | cons prior rest ih =>
      intro seen
      rw [closeGone]
      by_cases hseen : seen.contains prior.fingerprint = true
      · rw [if_pos hseen]
        exact ih seen
      · rw [if_neg hseen, List.map_cons, List.nodup_cons]
        refine ⟨fun hmem => ?_, ih _⟩
        have hnot := ((mem_closeGone now rest (prior.fingerprint :: seen) _).mp hmem).2
        exact hnot List.mem_cons_self

end CodeAudit

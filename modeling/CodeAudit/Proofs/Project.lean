import CodeAudit.Proofs.Operation
import CodeAudit.Proofs.Store.Save

/-!
# Scans of Projects

What has happened when a scan of a project succeeds.

Most of what a scan of a project does is to tell about it, which changes nothing but the log.
Between that are four steps: the latest report is read, the files are searched, the report is
made and it is saved. They start from the same disk, since nothing before the last of them
writes, and the log is all that the first two see of what was told.

## Theorems

* `exists_of_executeScan`: A scan of a project that succeeds is a success of each step.
* `executeScan_of_not_isFolder`: Without a folder a scan reports nothing and saves nothing.
-/

namespace CodeAudit

/-! ## Steps that succeed -/

theorem exists_of_ofAttempt {α : Type} (x : Attempt α) (w w' : World) (a : α)
    (h : (Action.ofAttempt x).run.run w = (.ok a, w')) :
    ∃ log, x.run.run w.scan.log = (.ok a, log) ∧ w' = w.withLog log := by
  rw [Action.run_ofAttempt] at h
  rcases hrun : x.run.run w.scan.log with ⟨result, log⟩
  rw [hrun, Prod.mk.injEq] at h
  exact ⟨log, by rw [← h.1], h.2.symm⟩

theorem exists_of_ofScanning {α : Type} (x : Scanning α) (w w' : World) (a : α)
    (h : (Action.ofScanning x).run.run w = (.ok a, w')) :
    ∃ t, x.run.run w.scan = (.ok a, t) ∧ w' = { w with scan := t } := by
  rw [Action.run_ofScanning] at h
  rcases hrun : x.run.run w.scan with ⟨result, t⟩
  rw [hrun, Prod.mk.injEq] at h
  exact ⟨t, by rw [← h.1], h.2.symm⟩

theorem exists_of_ofFiling {α : Type} (x : Filing α) (w w' : World) (a : α)
    (h : (Action.ofFiling x).run.run w = (.ok a, w')) :
    ∃ d, Filing.outcome x w.disk = (.ok a, d) ∧ w' = { w with disk := d } := by
  rw [Action.run_ofFiling] at h
  rcases hrun : (ExceptT.run x).run w.disk with ⟨result, d⟩
  rw [hrun, Prod.mk.injEq] at h
  refine ⟨d, ?_, h.2.symm⟩
  rw [← h.1]
  exact hrun

theorem eq_of_drawNumber (w w' : World) (number : Nat)
    (h : Action.drawNumber.run.run w = (.ok number, w')) :
    w' = { w with nextNumber := w.nextNumber + 1 } :=
  (Prod.mk.inj h).2.symm

theorem exists_of_tellPrevious (previous : Option Report) (w w' : World)
    (h : (tellPrevious previous).run.run w = (.ok (), w')) : ∃ log, w' = w.withLog log := by
  cases previous with
  | none => exact ⟨_, (Prod.mk.inj h).2.symm⟩
  | some r => exact ⟨_, (Prod.mk.inj h).2.symm⟩

theorem outcome_of_keepReport (root : String) (r : Report) (w w' : World) (path : String)
    (h : (keepReport root r).run.run w = (.ok path, w')) :
    Filing.outcome (ReportStore.save root r) w.disk = (.ok path, w'.disk) := by
  -- The report is saved first; what follows only tells where.
  unfold keepReport at h
  rcases exists_of_run_bind _ _ _ _ _ h with ⟨file, w₁, hsave, h⟩
  rcases exists_of_ofFiling _ w w₁ file hsave with ⟨d, houtcome, hw₁⟩
  rw [run_bind _ _ _ _ _ (run_get _), run_bind _ _ _ _ _ (Action.run_tell _ w₁), run_pure,
    Prod.mk.injEq, Except.ok.injEq] at h
  have hdisk : w'.disk = d := by
    rw [← h.2, hw₁]
    rfl
  rw [hdisk, ← h.1]
  exact houtcome

/-! ## Scans -/

/-- A scan of a project that succeeds is a success of each of its steps. -/
theorem exists_of_executeScan (p : Package) (root name : String) (c : Config) (stopAt : StopAt)
    (clock : Clock) (w w' : World) (r : Report) (s : ScanResult)
    (hroot : w.disk.isFolder root = true)
    (h : (executeScan p root name c stopAt clock).run.run w = (.ok (r, s), w')) :
    ∃ (previous : Option Report) (number : Nat) (log log' : Log) (t t' : ScanState)
      (path : String),
      (ReportStore.latest w.disk root).run.run log = (.ok previous, log') ∧
      t.matcher = w.scan.matcher ∧
      (scan p w.disk root c stopAt clock.elapsed).run.run t = (.ok s, t') ∧
      r = generateReport (w.disk.absolute root) name s previous clock.now number ∧
      Filing.outcome (ReportStore.save root r) w.disk = (.ok path, w'.disk) := by
  unfold executeScan at h
  rw [run_bind _ _ w _ () (Action.run_tell _ w), run_bind _ _ _ _ _ (run_get _)] at h
  generalize hstart : w.withLog _ = w₀ at h
  have hdisk₀ : w₀.disk = w.disk := by rw [← hstart]; rfl
  have hmatcher₀ : w₀.scan.matcher = w.scan.matcher := by rw [← hstart]; rfl
  simp only [hdisk₀, hroot, if_true] at h
  rcases exists_of_run_bind _ _ _ _ _ h with ⟨previous, w₁, hlatest, h⟩
  rcases exists_of_ofAttempt _ w₀ w₁ previous hlatest with ⟨log, hlatest, hw₁⟩
  rcases exists_of_run_bind _ _ _ _ _ h with ⟨_, w₂, htold, h⟩
  rcases exists_of_tellPrevious previous w₁ w₂ htold with ⟨more, hw₂⟩
  rcases exists_of_run_bind _ _ _ _ _ h with ⟨result, w₃, hscan, h⟩
  rcases exists_of_ofScanning _ w₂ w₃ result hscan with ⟨t', hscan, hw₃⟩
  rw [tellResult, run_bind _ _ _ _ _ (Action.run_tell _ w₃)] at h
  rcases exists_of_run_bind _ _ _ _ _ h with ⟨number, w₄, hnumber, h⟩
  have hw₄ := eq_of_drawNumber _ w₄ number hnumber
  rcases exists_of_run_bind _ _ _ _ _ h with ⟨path, w₅, hkeep, h⟩
  have hsave := outcome_of_keepReport root _ w₄ w₅ path hkeep
  rw [tellSummary, run_bind _ _ _ _ _ (Action.run_tell _ w₅), run_pure, Prod.mk.injEq,
    Except.ok.injEq, Prod.mk.injEq] at h
  rcases h with ⟨⟨hr, hs⟩, hw'⟩
  -- The disk stays as it is up to the saving, and the matcher up to the search.
  have hdisk : w₄.disk = w.disk := by
    rw [hw₄, ← hdisk₀, hw₃, hw₂, hw₁]
    rfl
  have hdisk' : w'.disk = w₅.disk := by
    rw [← hw']
    rfl
  have hmatcher : w₂.scan.matcher = w.scan.matcher := by
    rw [hw₂, hw₁, ← hmatcher₀]
    rfl
  rw [hdisk, hr, ← hdisk'] at hsave
  rw [hs] at hscan hr
  exact ⟨previous, number, w₀.scan.log, log, w₂.scan, t', path, hlatest, hmatcher, hscan, hr.symm,
    hsave⟩

/-- Without a folder a scan reports nothing and saves nothing. -/
theorem executeScan_of_not_isFolder (p : Package) (root name : String) (c : Config)
    (stopAt : StopAt) (clock : Clock) (w w' : World) (r : Report) (s : ScanResult)
    (hroot : w.disk.isFolder root = false)
    (h : (executeScan p root name c stopAt clock).run.run w = (.ok (r, s), w')) :
    r.findings = [] ∧ w'.disk = w.disk := by
  unfold executeScan at h
  rw [run_bind _ _ w _ () (Action.run_tell _ w), run_bind _ _ _ _ _ (run_get _)] at h
  generalize hstart : w.withLog _ = w₀ at h
  have hdisk₀ : w₀.disk = w.disk := by rw [← hstart]; rfl
  simp only [hdisk₀, hroot, Bool.false_eq_true, if_false] at h
  rw [run_bind _ _ _ _ _ (Action.run_tell _ w₀)] at h
  rcases exists_of_run_bind _ _ _ _ _ h with ⟨number, w₁, hnumber, h⟩
  have hw₁ := eq_of_drawNumber _ w₁ number hnumber
  rw [run_pure, Prod.mk.injEq, Except.ok.injEq, Prod.mk.injEq] at h
  rw [← h.1.1, ← h.2, hw₁]
  exact ⟨rfl, hdisk₀⟩

end CodeAudit

import CodeAudit.Proofs.CommandLine.Reporting
import CodeAudit.Proofs.Report.Counted
import CodeAudit.Proofs.Scan.Filtering

/-!
# The Exit Code of a Scan

That the exit code of a scan and the counts of its report agree.

A build stops at the exit code of a scan, and a reader looks at the table of severities. The code is
not read off the table: the command goes through the findings that are still there and asks each of
them how serious it is. That the two agree comes from the counting, and from the two greatest
severities being those that the command asks for. It holds for every scan that ends with a report,
and one that ends without a report ends with a code of its own.

## Main definitions

* `Report.countOf`: How many findings of a severity a report counts.
* `Report.Calm`: No finding that is still there is serious, by the counts of a report.

## Theorems

* `isSerious_iff`: A report is serious if its counts say so.
* `counted_of_makes`: The report of a scan is counted from its findings.
* `counts_agree`: The counts of a report agree with each other and with the exit code.
-/

namespace CodeAudit

/-- How many findings of a severity a report counts. -/
def Report.countOf (r : Report) (severity : Severity) : Int :=
  (Keyed.get? severity r.summary.bySeverity).getD 0

/-- By the counts of a report, none of the findings that are still there is serious. -/
def Report.Calm (r : Report) : Prop :=
  r.countOf .high = 0 ∧ r.countOf .critical = 0

theorem Severity.atLeast_high_iff (s : Severity) :
    s.atLeast .high = true ↔ s = .high ∨ s = .critical := by
  cases s <;> decide

/-- A report that is counted from its findings is serious if its counts say so. -/
theorem isSerious_iff (r : Report) (h : r.summary = summarize r.findings) :
    isSerious r = true ↔ ¬r.Calm := by
  -- The table has an entry for a severity if a finding that is still there has it.
  have hcount : ∀ severity, r.countOf severity = 0 ↔
      severity ∉ (r.findings.filter Finding.isActive).map Finding.severity := by
    intro severity
    rw [Report.countOf, h]
    show (Keyed.get? severity (counts _)).getD 0 = 0 ↔ _
    rw [getD_counts, Nat.cast_eq_zero, List.count_eq_zero]
  rw [Report.Calm, hcount, hcount, not_and_or, not_not, not_not, isSerious, Report.active,
    List.any_eq_true, List.mem_map, List.mem_map, ← exists_or]
  refine exists_congr fun f => ?_
  rw [Severity.atLeast_high_iff, and_or_left]

/-- The report of a scan is counted from its findings. -/
theorem counted_of_makes (p : Package) (o : ScanOptions) (stopAt : StopAt) (clock : Clock)
    (w w₁ : World) (r : Report) (s : ScanResult) (h : o.Makes p stopAt clock w r s w₁) :
    r.summary = summarize r.findings := by
  rcases h with ⟨hroot, c, log, _, hscan⟩
  rcases exists_of_executeScan p o.path _ c stopAt clock (w.withLog log) w₁ r s hroot hscan with
    ⟨_, _, _, _, _, _, _, _, _, _, hr, _⟩
  rw [hr]
  rfl

/-- A scan that ends with a report ends with one if the counts of the report tell of a serious
    finding, and with zero if they do not. Any other code is that of a scan without a report. -/
theorem code_of_runScan (p : Package) (o : ScanOptions) (verbose : Bool) (stopAt : StopAt)
    (clock : Clock) (w w' : World) (outcome : Outcome)
    (h : (runScan p o verbose stopAt clock).run.run w = (.ok outcome, w')) :
    (∃ r s w₁, o.Makes p stopAt clock w r s w₁ ∧
      (outcome.code = 1 ∧ ¬r.Calm ∨ outcome.code = 0 ∧ r.Calm)) ∨
    (outcome.code = 2 ∨ outcome.code = 130) ∧
      ∀ r s w₁, ¬o.Makes p stopAt clock w r s w₁ := by
  rcases cases_of_runScan p o verbose stopAt clock w w' outcome h with
    hnone | ⟨r, s, w₁, _, hmakes, hcode, _, _⟩
  · exact Or.inr hnone
  · have hserious := isSerious_iff r (counted_of_makes p o stopAt clock w w₁ r s hmakes)
    refine Or.inl ⟨r, s, w₁, hmakes, ?_⟩
    by_cases hcalm : r.Calm
    · rw [if_neg fun htrue => hserious.mp htrue hcalm] at hcode
      exact Or.inr ⟨hcode, hcalm⟩
    · rw [if_pos (hserious.mpr hcalm)] at hcode
      exact Or.inl ⟨hcode, hcalm⟩

/-- The counts of a report agree with each other and with the exit code. A summary counts the
    findings that are still there in all, by severity and by category to the same number, and by
    state those that have one; in a generated report moreover every finding is new, persists or is
    closed, and is counted so; and a scan that ends with a report ends with one or zero, and with
    one if and only if the counts of the report for the two greatest severities are not both
    zero. -/
theorem counts_agree :
    (∀ fs, (summarize fs).Counts fs) ∧
    (∀ path name result previous now number,
      (generateReport path name result previous now number).Accounts) ∧
    ∀ p o verbose stopAt clock w w' outcome,
      (Invocation.run p ⟨verbose, .scan o⟩ stopAt clock).run.run w = (.ok outcome, w') →
        (∃ r s w₁, o.Makes p stopAt clock w r s w₁ ∧
          (outcome.code = 1 ∧ ¬r.Calm ∨ outcome.code = 0 ∧ r.Calm)) ∨
        (outcome.code = 2 ∨ outcome.code = 130) ∧
          ∀ r s w₁, ¬o.Makes p stopAt clock w r s w₁ :=
  ⟨Summary.counts_summarize, Report.accounts_generateReport, code_of_runScan⟩

/-- What the command does with a project in which a rule that is serious finds a letter. -/
def lettersRun : Except Failure Outcome × World :=
  (Invocation.run lettersPackage ⟨false, .scan letterOptions⟩ none ⟨1000, 0⟩).run.run
    (World.ofDisk lettersDisk 1000)

/-- The command ends with one, and its report counts a serious finding. -/
theorem counts_agree_letters : ∃ outcome w' r s w₁, lettersRun = (.ok outcome, w') ∧
    outcome.code = 1 ∧
    letterOptions.Makes lettersPackage none ⟨1000, 0⟩ (World.ofDisk lettersDisk 1000) r s w₁ ∧
    ¬r.Calm := by
  rcases exists_run_of_toOption_map lettersRun Outcome.code 1 (by decide +kernel) with
    ⟨outcome, w', hrun, hcode⟩
  rcases counts_agree.2.2 _ _ _ _ _ _ w' outcome hrun with ⟨r, s, w₁, hmakes, hcalm⟩ | ⟨hno, _⟩
  · rcases hcalm with ⟨_, hserious⟩ | ⟨hzero, _⟩
    · exact ⟨outcome, w', r, s, w₁, hrun, hcode, hmakes, hserious⟩
    · omega
  · omega

end CodeAudit

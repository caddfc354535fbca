import CodeAudit.Console
import CodeAudit.Proofs.Report.Counted
import CodeAudit.Proofs.Sorting

/-!
# Findings on the Console

Which findings of a report are shown, and in which order.

The table of findings leaves out those that are closed, and the counts leave out those that are
gone, which are the closed and the fixed ones. The program never calls a finding fixed itself, so in
a report it has made the two are the same. A report that is read may call one fixed, and then
the table has a row for it although it is not counted as active.

The order is by severity first, then by path, then by line. It is total and transitive, but it
does not tell all findings apart, and those which it does not tell apart stay as they come in
the report.

## Main definitions

* `Finding.Precedes`: The order in which findings are shown.
* `Lists`: Rows list findings.
* `Show.listing`: What is shown of rows.

## Theorems

* `comesFirst_iff`: The order, in words.
* `lists_sortBy`: Sorted findings list them.
* `lists_active_iff`: The rows list the active findings if none is fixed.
* `findings_listed`: What is shown without the closed findings.
* `findings_listed_of_generateReport`: In a generated report these are the active ones.
* `not_active_listed`: A fixed finding is shown too.
-/

namespace CodeAudit

/-! ## The order of findings -/

/-- A finding may be shown before another: it is more serious, or as serious and its path comes
    first, or its path is the same and its line does not come later. -/
def Finding.Precedes (a b : Finding) : Prop :=
  b.severity.rank < a.severity.rank ∨
    a.severity = b.severity ∧ (a.path < b.path ∨ a.path = b.path ∧ a.line ≤ b.line)

/-- What the order of findings looks at. -/
def Finding.sortKey (f : Finding) : Severity × String × Int :=
  (f.severity, f.path, f.line)

theorem Severity.rank_inj (s t : Severity) : s.rank = t.rank ↔ s = t := by
  cases s <;> cases t <;> decide

namespace Show

theorem comesFirst_iff (a b : Finding) : comesFirst a b = true ↔ a.Precedes b := by
  rw [comesFirst, Finding.Precedes]
  -- The keys are compared one after the other, and only the first that differs counts.
  by_cases hseverity : a.severity = b.severity
  · simp only [hseverity, bne_self_eq_false, Bool.false_eq_true, if_false, Nat.lt_irrefl, true_and,
      false_or]
    by_cases hpath : a.path = b.path
    · simp only [hpath, bne_self_eq_false, Bool.false_eq_true, if_false, String.lt_irrefl,
        true_and, false_or, decide_eq_true_eq]
    · simp only [bne_iff_ne, ne_eq, hpath, not_false_eq_true, if_true, false_and, or_false,
        decide_eq_true_eq]
  · have hrank : ¬a.severity.rank = b.severity.rank :=
      fun h => hseverity ((Severity.rank_inj _ _).mp h)
    simp only [bne_iff_ne, ne_eq, hrank, not_false_eq_true, if_true, hseverity, false_and, or_false,
      decide_eq_true_eq]

theorem comesFirst_total (a b : Finding) : comesFirst a b = true ∨ comesFirst b a = true := by
  rw [comesFirst_iff, comesFirst_iff, Finding.Precedes, Finding.Precedes]
  rcases Nat.lt_trichotomy a.severity.rank b.severity.rank with hlt | heq | hgt
  · exact Or.inr (Or.inl hlt)
  · rw [Severity.rank_inj] at heq
    rcases Std.lt_trichotomy a.path b.path with hlt | hpath | hgt
    · exact Or.inl (Or.inr ⟨heq, Or.inl hlt⟩)
    · rcases Int.le_total a.line b.line with hle | hle
      · exact Or.inl (Or.inr ⟨heq, Or.inr ⟨hpath, hle⟩⟩)
      · exact Or.inr (Or.inr ⟨heq.symm, Or.inr ⟨hpath.symm, hle⟩⟩)
    · exact Or.inr (Or.inr ⟨heq.symm, Or.inl hgt⟩)
  · exact Or.inl (Or.inl hgt)

theorem comesFirst_trans (a b c : Finding) (hab : comesFirst a b = true)
    (hbc : comesFirst b c = true) : comesFirst a c = true := by
  rw [comesFirst_iff] at hab hbc ⊢
  -- The first key in which any two of the three differ decides between the outer ones as well.
  rcases hab with hab | ⟨hab, hpath⟩
  · rcases hbc with hbc | ⟨hbc, _⟩
    · exact Or.inl (Nat.lt_trans hbc hab)
    · exact Or.inl (hbc ▸ hab)
  · rcases hbc with hbc | ⟨hbc, hpath'⟩
    · exact Or.inl (hab ▸ hbc)
    · refine Or.inr ⟨hab.trans hbc, ?_⟩
      rcases hpath with hlt | ⟨heq, hle⟩
      · rcases hpath' with hlt' | ⟨heq', _⟩
        · exact Or.inl (String.lt_trans hlt hlt')
        · exact Or.inl (heq' ▸ hlt)
      · rcases hpath' with hlt' | ⟨heq', hle'⟩
        · exact Or.inl (heq ▸ hlt')
        · exact Or.inr ⟨heq.trans heq', Int.le_trans hle hle'⟩

end Show

/-! ## Rows -/

/-- Rows list findings: each of them once, in order, and those that the order does not tell apart as
    they come. -/
structure Lists (fs rows : List Finding) : Prop where
  perm : rows.Perm fs
  ordered : rows.Pairwise Finding.Precedes
  stable : ∀ key, rows.filter (fun f => decide (f.sortKey = key)) =
    fs.filter fun f => decide (f.sortKey = key)

theorem lists_sortBy (fs : List Finding) : Lists fs (sortBy Show.comesFirst fs) where
  perm := perm_sortBy Show.comesFirst fs
  ordered := (pairwise_sortBy_of Show.comesFirst Show.comesFirst_total Show.comesFirst_trans
    fs).imp fun {a b} h => (Show.comesFirst_iff a b).mp h
  stable := by
    intro key
    refine filter_sortBy Show.comesFirst _ (fun a b ha hb => ?_) fs
    -- The two differ in none of the three keys, so that each may stand before the other.
    have hkey : a.sortKey = b.sortKey :=
      (of_decide_eq_true ha).trans (of_decide_eq_true hb).symm
    simp only [Finding.sortKey, Prod.mk.injEq] at hkey
    exact (Show.comesFirst_iff a b).mpr
      (Or.inr ⟨hkey.1, Or.inr ⟨hkey.2.1, Int.le_of_eq hkey.2.2⟩⟩)

/-- What is shown of rows: that there are none, or how many there are and a table of them. -/
def Show.listing (verbose : Bool) (rows : List Finding) : List Item :=
  if rows = [] then [.line ("\n" ++ styled "green" "No active findings.")]
  else
    [.line ("\n" ++ styled "bold" (toString rows.length ++ " findings:") ++ "\n"),
     .table ⟨none, findingColumns verbose, rows.map (findingRow verbose)⟩]

/-- The findings are shown in rows that list those of them that are not closed. -/
theorem exists_listing (r : Report) (verbose : Bool) : ∃ rows,
    Lists (r.findings.filter fun f => f.status != some .closed) rows ∧
      Show.findings r verbose false = Show.listing verbose rows := by
  refine ⟨Show.shownFindings r false, lists_sortBy _, ?_⟩
  rw [Show.findings, Show.listing]
  cases Show.shownFindings r false with
  | nil => rfl
  | cons f fs => rfl

/-! ## Closed and fixed findings -/

theorem length_filter_not_closed (fs : List Finding) :
    (fs.filter fun f => f.status != some .closed).length =
      (fs.filter Finding.isActive).length + countStatus fs .fixed := by
  have hclosed : fs.length =
      countStatus fs .closed + (fs.filter fun f => f.status != some .closed).length := by
    rw [countStatus_eq_countP, ← List.countP_eq_length_filter,
      List.length_eq_countP_add_countP fun f => decide (f.status = some .closed)]
    refine congrArg _ (List.countP_congr fun f _ => ?_)
    rw [decide_eq_true_eq, decide_eq_true_eq, bne_iff_ne]
  have hlength := length_eq_active fs
  omega

theorem filter_not_closed (fs : List Finding) (h : ∀ f ∈ fs, f.status ≠ some .fixed) :
    (fs.filter fun f => f.status != some .closed) = fs.filter Finding.isActive := by
  refine List.filter_congr fun f hf => ?_
  have hfixed := h f hf
  rw [Finding.isActive]
  cases hstatus : f.status with
  | none => rfl
  | some state =>
      cases state with
      | fixed => exact absurd hstatus hfixed
      | _ => rfl

/-- Rows that list the findings which are not closed list the active ones if none is fixed, and only
    then. -/
theorem lists_active_iff (r : Report) (rows : List Finding)
    (h : Lists (r.findings.filter fun f => f.status != some .closed) rows) :
    Lists r.active rows ↔ ∀ f ∈ r.findings, f.status ≠ some .fixed := by
  constructor
  · intro hactive f hf hfixed
    have hlength := hactive.perm.length_eq
    rw [h.perm.length_eq, length_filter_not_closed, Report.active] at hlength
    -- With a fixed finding there are more rows than active findings.
    have hpos := (countStatus_pos_iff r.findings .fixed).mpr ⟨f, hf, hfixed⟩
    omega
  · intro hnone
    rw [filter_not_closed r.findings hnone] at h
    exact h

/-- The table of counts has one cell for the number of active findings. -/
theorem activeCell_of_summaryTable (r : Report) (result : Option ScanResult) (table : Table)
    (h : Show.summaryTable r result = .ok (.table table)) :
    table.rows.filter (fun row => row.head? == some "Active findings") =
      [["Active findings", toString r.summary.total]] := by
  rw [Show.summaryTable] at h
  rcases exists_of_bind_ok _ _ _ h with ⟨duration, _, h⟩
  rw [← Item.table.inj (Except.ok.inj h)]
  have hseverities : (Show.severityRows r.summary).filter
      (fun row => row.head? == some "Active findings") = [] := by
    refine List.filter_eq_nil_iff.mpr (List.forall_mem_map.mpr fun severity _ => ?_)
    cases severity <;> simp [Severity.title]
  have hunreadable : (Show.unreadableRows result).filter
      (fun row => row.head? == some "Active findings") = [] := by
    cases result with
    | none => rfl
    | some s =>
        rw [Show.unreadableRows]
        split
        · rfl
        · rfl
  rw [List.filter_append, List.filter_append, List.filter_append, hseverities, hunreadable]
  rfl

/-- What is shown of a report without its closed findings. The rows list the findings that are not
    closed, they are as many as announced, and that there are none is said if there is none. They
    list the active findings if none is fixed, and only then. If the report was counted, there are
    as many of them as the cell for active findings says, and one more for each that is fixed. -/
theorem findings_listed (r : Report) (verbose : Bool) : ∃ rows,
    Show.findings r verbose false = Show.listing verbose rows ∧
      Lists (r.findings.filter fun f => f.status != some .closed) rows ∧
      (Lists r.active rows ↔ ∀ f ∈ r.findings, f.status ≠ some .fixed) ∧
      (r.summary = summarize r.findings → ∀ result table,
        Show.summaryTable r result = .ok (.table table) → ∃ n : Nat,
          table.rows.filter (fun row => row.head? == some "Active findings") =
            [["Active findings", toString n]] ∧
          rows.length = n + countStatus r.findings .fixed) := by
  rcases exists_listing r verbose with ⟨rows, hlists, hshown⟩
  refine ⟨rows, hshown, hlists, lists_active_iff r rows hlists, fun hcounted result table htable =>
    ⟨(r.findings.filter Finding.isActive).length, ?_, ?_⟩⟩
  · rw [activeCell_of_summaryTable r result table htable, hcounted]
    rfl
  · rw [hlists.perm.length_eq, length_filter_not_closed]

/-- A generated report is shown by its active findings. There are as many rows as the cell for them
    says. -/
theorem findings_listed_of_generateReport (path name : String) (result : ScanResult)
    (previous : Option Report) (now : Int) (number : Nat) (verbose : Bool) : ∃ rows,
    Lists (generateReport path name result previous now number).active rows ∧
      Show.findings (generateReport path name result previous now number) verbose false =
        Show.listing verbose rows ∧
      (rows.length : Int) =
        (generateReport path name result previous now number).summary.total := by
  rcases exists_listing (generateReport path name result previous now number) verbose with
    ⟨rows, hlists, hshown⟩
  have hactive := (lists_active_iff _ rows hlists).mpr fun f hf hfixed => by
    have hstatus := status_of_mem_trackSince previous result.findings now f hf
    rw [hfixed] at hstatus
    revert hstatus
    decide
  exact ⟨rows, hactive, hshown, congrArg Nat.cast hactive.perm.length_eq⟩

/-- A report with one finding, which is fixed. -/
def fixedReport : Report :=
  { id := "r", projectName := "", projectPath := "", startTime := 1, endTime := 2, duration := 0,
    version := Report.defaultVersion, findings := [fixedReport.finding],
    summary := summarize [fixedReport.finding], rulesExecuted := 0, filesScanned := 0,
    linesScanned := 0, previousId := .null, compliance := [] }
where
  /-- The finding. -/
  finding : Finding :=
    { ruleId := "R", ruleName := "", severity := .high, category := .security, description := "",
      path := "a.py", line := 0, column := 0, snippet := "", matched := "", compliance := [],
      quickFix := none, status := some .fixed, firstDetected := .null, lastDetected := .null,
      fingerprint := "" }

/-- A fixed finding is shown too. No rows list the active findings of this report and are what is
    shown of it: there is no active finding, and one is announced. -/
theorem not_active_listed : fixedReport.summary = summarize fixedReport.findings ∧
    fixedReport.summary.total = 0 ∧
    Show.findings fixedReport false false = Show.listing false fixedReport.findings ∧
    ¬∃ rows, Lists fixedReport.active rows ∧
      Show.findings fixedReport false false = Show.listing false rows := by
  refine ⟨rfl, by decide, rfl, ?_⟩
  rintro ⟨rows, hactive, hshown⟩
  have hnone : fixedReport.active = [] := by rfl
  rw [hnone] at hactive
  rw [hactive.perm.eq_nil] at hshown
  exact absurd hshown (by decide)

end CodeAudit

import CodeAudit.Proofs.Report.Generated
import CodeAudit.Proofs.Tracking.Rescan

/-!
# Counted Findings

What the counts of a summary have to do with each other.

A summary counts in four ways. There is a number for all findings that are still there, one for
each of three states, and three tables that are filled by going through the findings once more. A
finding is looked at by its state first, and it need not have one, so what the numbers add up to
depends on the states that occur. In a report that was generated every finding has a state, and it
is never the fourth one, so there the numbers account for all findings.

## Main definitions

* `Summary.Counts`: A summary counts findings.
* `Report.Accounts`: The counts of a report account for its findings.

## Theorems

* `Summary.counts_summarize`: What is counted adds up.
* `length_eq_active`, `length_active_eq`: How many findings there are, by their states.
* `status_of_mem_trackSince`: A tracked finding has a state, and is not fixed.
* `Report.accounts_generateReport`: The counts of a generated report account for its findings.
-/

namespace CodeAudit

/-! ## Tables of counts -/

section

variable {α : Type} [DecidableEq α] (keys : List α)

theorem sum_counts : ((counts keys).map Prod.snd).sum = (keys.length : Int) := by
  -- The entries are the natural counts made whole numbers, one by one.
  have hcast : ∀ entries : Keyed α Nat,
      (((entries.map fun p => (p.1, (p.2 : Int))).map Prod.snd).sum : Int) =
        ((entries.map Prod.snd).sum : Nat) := by
    intro entries
    induction entries with
    | nil => rfl
    | cons e entries ih =>
        rw [List.map_cons, List.map_cons, List.map_cons, List.sum_cons, List.sum_cons, ih,
          Nat.cast_add]
  rw [counts, hcast, Keyed.sum_tally]

theorem getD_counts (key : α) :
    (Keyed.get? key (counts keys)).getD 0 = (keys.count key : Int) := by
  have hcast : ∀ entries : Keyed α Nat,
      (Keyed.get? key (entries.map fun p => (p.1, (p.2 : Int)))).getD 0 =
        ((Keyed.get? key entries).getD 0 : Nat) := by
    intro entries
    induction entries with
    | nil => rfl
    | cons e entries ih =>
        rcases e with ⟨k, n⟩
        rw [List.map_cons, Keyed.get?, Keyed.get?]
        split
        · rfl
        · exact ih
  rw [counts, hcast, Keyed.getD_tally]

theorem pos_of_mem_counts (p : α × Int) (hp : p ∈ counts keys) : 0 < p.2 := by
  rcases List.mem_map.mp hp with ⟨q, hq, heq⟩
  rw [← heq]
  exact Int.natCast_pos.mpr (Keyed.pos_of_mem_tally keys q hq)

theorem mem_of_mem_counts (p : α × Int) (hp : p ∈ counts keys) : p.1 ∈ keys := by
  rcases List.mem_map.mp hp with ⟨q, hq, heq⟩
  rw [← heq, ← Keyed.mem_keys_tally]
  exact List.mem_map_of_mem hq

end

/-! ## Summaries -/

/-- A summary counts findings: those that are still there in all, by severity and by category, and
    those that have a state by state. Nothing is counted that is not there. -/
structure Summary.Counts (s : Summary) (fs : List Finding) : Prop where
  total : s.total = ((fs.filter Finding.isActive).length : Int)
  bySeverity : (s.bySeverity.map Prod.snd).sum = s.total
  byCategory : (s.byCategory.map Prod.snd).sum = s.total
  byStatus : (s.byStatus.map Prod.snd).sum = ((fs.filter fun f => f.status.isSome).length : Int)
  positive : (∀ p ∈ s.bySeverity, 0 < p.2) ∧ (∀ p ∈ s.byCategory, 0 < p.2) ∧
    ∀ p ∈ s.byStatus, 0 < p.2

theorem length_filterMap_status (fs : List Finding) :
    (fs.filterMap Finding.status).length = (fs.filter fun f => f.status.isSome).length := by
  rw [List.length_filterMap_eq_countP, List.countP_eq_length_filter]

/-- What is counted adds up. -/
theorem Summary.counts_summarize (fs : List Finding) : (summarize fs).Counts fs where
  total := rfl
  bySeverity := (sum_counts _).trans (by rw [List.length_map]; rfl)
  byCategory := (sum_counts _).trans (by rw [List.length_map]; rfl)
  byStatus := (sum_counts _).trans (by rw [length_filterMap_status])
  positive := ⟨pos_of_mem_counts _, pos_of_mem_counts _, pos_of_mem_counts _⟩

/-! ## Findings by their states -/

theorem countStatus_eq_countP (fs : List Finding) (s : Status) :
    countStatus fs s = fs.countP fun f => decide (f.status = some s) := by
  rw [countStatus, List.count, List.countP_filterMap]
  refine List.countP_congr fun f _ => ?_
  cases f.status with
  | none => simp
  | some state => simp

theorem countStatus_cons (f : Finding) (fs : List Finding) (s : Status) :
    countStatus (f :: fs) s = countStatus fs s + if f.status = some s then 1 else 0 := by
  rw [countStatus_eq_countP, countStatus_eq_countP, List.countP_cons]
  simp only [decide_eq_true_eq]

theorem countStatus_pos_iff (fs : List Finding) (s : Status) :
    0 < countStatus fs s ↔ ∃ f ∈ fs, f.status = some s := by
  rw [countStatus, List.count_pos_iff, List.mem_filterMap]

/-- Findings that are gone are closed or fixed. -/
theorem length_eq_active (fs : List Finding) :
    fs.length = (fs.filter Finding.isActive).length + countStatus fs .closed +
      countStatus fs .fixed := by
  rw [← List.countP_eq_length_filter]
  induction fs with
  | nil => rfl
  | cons f fs ih =>
      -- One finding is counted once on either side.
      have hone : 1 = (if f.isActive = true then 1 else 0) +
          (if f.status = some .closed then 1 else 0) +
          (if f.status = some .fixed then 1 else 0) := by
        rw [Finding.isActive]
        cases f.status with
        | none => rfl
        | some state => cases state <;> rfl
      rw [List.length_cons, List.countP_cons, countStatus_cons, countStatus_cons]
      omega

/-- Findings that are still there are new or persist, or have no state. -/
theorem length_active_eq (fs : List Finding) :
    (fs.filter Finding.isActive).length = countStatus fs .new + countStatus fs .persistent +
      (fs.filter fun f => f.status.isNone).length := by
  rw [← List.countP_eq_length_filter, ← List.countP_eq_length_filter]
  induction fs with
  | nil => rfl
  | cons f fs ih =>
      -- An active finding is new, persists or has no state, and one that is gone is none of
      -- these.
      have hone : (if f.isActive = true then 1 else 0) =
          (if f.status = some .new then 1 else 0) +
          (if f.status = some .persistent then 1 else 0) +
          (if f.status.isNone = true then 1 else 0) := by
        rw [Finding.isActive]
        cases f.status with
        | none => rfl
        | some state => cases state <;> rfl
      rw [List.countP_cons, List.countP_cons, countStatus_cons, countStatus_cons]
      omega

/-! ## Generated reports -/

theorem status_of_standing (previous : Option Report) (now : Int) (fingerprint : String) :
    (standing previous now fingerprint).1 = .new ∨
      (standing previous now fingerprint).1 = .persistent := by
  rw [standing]
  split
  · exact Or.inr rfl
  · exact Or.inl rfl

/-- A tracked finding has a state, and is not fixed. -/
theorem status_of_mem_trackSince (previous : Option Report) (current : List Finding) (now : Int)
    (f : Finding) (hf : f ∈ trackSince previous current now) :
    f.status = some .new ∨ f.status = some .persistent ∨ f.status = some .closed := by
  rw [trackSince_eq, List.mem_append] at hf
  rcases hf with hcurrent | hgone
  · rcases List.mem_map.mp hcurrent with ⟨g, _, heq⟩
    rw [← heq]
    rcases status_of_standing previous now g.fingerprint with hnew | hpersistent
    · exact Or.inl (congrArg some hnew)
    · exact Or.inr (Or.inl (congrArg some hpersistent))
  · exact Or.inr (Or.inr (status_of_mem_goneSince previous now current f hgone))

/-- The counts of a report account for its findings: each of them is new, persists or is closed. -/
structure Report.Accounts (r : Report) : Prop where
  counted : r.summary = summarize r.findings
  total : r.summary.total = r.summary.new + r.summary.persistent
  length : r.summary.total + r.summary.closed = (r.findings.length : Int)
  states : ∀ p ∈ r.summary.byStatus, p.1 = .new ∨ p.1 = .persistent ∨ p.1 = .closed

theorem countStatus_fixed_trackSince (previous : Option Report) (current : List Finding)
    (now : Int) : countStatus (trackSince previous current now) .fixed = 0 := by
  refine Nat.eq_zero_of_not_pos fun hpos => ?_
  rcases (countStatus_pos_iff _ _).mp hpos with ⟨f, hf, hfixed⟩
  have hstatus := status_of_mem_trackSince previous current now f hf
  rw [hfixed] at hstatus
  revert hstatus
  decide

/-- The counts of a generated report account for its findings. -/
theorem Report.accounts_generateReport (path name : String) (result : ScanResult)
    (previous : Option Report) (now : Int) (number : Nat) :
    (generateReport path name result previous now number).Accounts := by
  have hstates := status_of_mem_trackSince previous result.findings now
  have hfixed := countStatus_fixed_trackSince previous result.findings now
  have hnone : (trackSince previous result.findings now).filter
      (fun f => f.status.isNone) = [] := by
    refine List.filter_eq_nil_iff.mpr fun f hf => ?_
    rcases hstates f hf with h | h | h
    all_goals
      rw [h]
      exact Bool.false_ne_true
  -- So of the parts that the states make, two are empty.
  have hactive := length_active_eq (trackSince previous result.findings now)
  have hlength := length_eq_active (trackSince previous result.findings now)
  rw [hnone, List.length_nil, Nat.add_zero] at hactive
  rw [hfixed, Nat.add_zero] at hlength
  refine ⟨rfl, ?_, ?_, fun p hp => ?_⟩
  · exact (congrArg Nat.cast hactive).trans (Nat.cast_add _ _)
  · exact ((congrArg Nat.cast hlength).trans (Nat.cast_add _ _)).symm
  · rcases List.mem_filterMap.mp (mem_of_mem_counts _ p hp) with ⟨f, hf, hstatus⟩
    have hstate := hstates f hf
    rw [hstatus, Option.some.injEq, Option.some.injEq, Option.some.injEq] at hstate
    exact hstate

end CodeAudit

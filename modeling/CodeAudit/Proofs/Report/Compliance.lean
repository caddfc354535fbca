import CodeAudit.Compliance
import CodeAudit.Proofs.Keyed
import CodeAudit.Proofs.Operation
import Mathlib.Data.Finset.Card
import Mathlib.Data.Finset.Dedup

/-!
# The State Of Frameworks

What the table of frameworks says about the findings that it is made from.

The two tables that are filled on the way hold two different things. Under a framework there are the
active findings that refer to it, in their order and one for each place in the list, and there are
the controls of all their tags, each once. Both loops leave no entry for a framework that nothing
refers to, and an active finding that refers to a framework refers to a control of it. So the
frameworks of both tables are the same, and looking up the controls does not fail.

The findings are looked through from the front. What the tables hold is said of those that were
looked at already, and the next one is put behind them.

## Main definitions

* `Finding.touches`: A finding refers to a framework.
* `violating`: The active findings that refer to a framework.
* `controlsOf`: The controls of a framework that active findings refer to.
* `Violations.Tells`: The tables are those of some findings.
* `frameworkState`: What a table of findings says about a framework.

## Theorems

* `groups_foldl_addFinding`, `groups_foldl_addControl`: What the two loops put into the tables.
* `Violations.Tells.add`: One more finding.
* `tabulate_violationsOf`: Looking up the controls of the frameworks does not fail.
* `compliance_of_findings`: The table says what it has to, and the order of the findings does not
  matter.
-/

namespace CodeAudit

open Keyed (Groups)

/-- A finding refers to a control of a framework. -/
def Finding.touches (f : Finding) (framework : Framework) : Bool :=
  f.compliance.any fun t => t.framework == framework

/-- The active findings that refer to a framework. -/
def violating (fs : List Finding) (framework : Framework) : List Finding :=
  fs.filter fun f => f.isActive && f.touches framework

/-- The controls of a framework in some tags. -/
def controlsIn (tags : List ComplianceTag) (framework : Framework) : List String :=
  (tags.filter fun t => t.framework = framework).map ComplianceTag.control

/-- The controls of a framework that active findings refer to, as often as they do. -/
def controlsOf (fs : List Finding) (framework : Framework) : List String :=
  controlsIn ((fs.filter Finding.isActive).flatMap Finding.compliance) framework

/-- The members of a list, put into a set one after the other. -/
def gathered (xs : List String) : List String :=
  xs.foldl (fun seen x => seen.insert x) []

/-! ## Sets of controls -/

theorem gathered_concat (xs : List String) (x : String) :
    gathered (xs ++ [x]) = (gathered xs).insert x := by
  rw [gathered, List.foldl_append]
  rfl

theorem insert_ne_nil (xs : List String) (x : String) : xs.insert x ≠ [] :=
  List.ne_nil_of_mem List.mem_insert_self

theorem gathered_eq_nil_iff (xs : List String) : gathered xs = [] ↔ xs = [] := by
  refine ⟨fun h => ?_, fun h => by rw [h]; rfl⟩
  induction xs using List.reverseRecOn with
  | nil => rfl
  | append_singleton xs x _ =>
      rw [gathered_concat] at h
      exact absurd h (insert_ne_nil _ x)

/-- A set that was gathered has as many members as the list has different ones. -/
theorem length_gathered (xs : List String) : (gathered xs).length = xs.toFinset.card := by
  -- The list is taken from its end, where the last member was put in.
  have hset : (gathered xs).Nodup ∧ (gathered xs).toFinset = xs.toFinset := by
    induction xs using List.reverseRecOn with
    | nil => exact ⟨List.nodup_nil, rfl⟩
    | append_singleton xs x ih =>
        rw [gathered_concat]
        refine ⟨ih.1.insert, ?_⟩
        ext y
        rw [List.mem_toFinset, List.mem_insert_iff, ← List.mem_toFinset, ih.2, List.toFinset_append,
          Finset.mem_union, List.mem_toFinset, List.mem_toFinset, List.mem_singleton, or_comm]
  rw [← hset.2, List.toFinset_card_of_nodup hset.1]

/-! ## Findings -/

theorem nodup_distinct {α : Type} [DecidableEq α] (xs : List α) : (distinct xs).Nodup :=
  Keyed.nodup_tally xs

theorem mem_distinct {α : Type} [DecidableEq α] (xs : List α) (x : α) :
    x ∈ distinct xs ↔ x ∈ xs :=
  Keyed.mem_keys_tally xs x

theorem Finding.touches_iff (f : Finding) (framework : Framework) :
    f.touches framework = true ↔ framework ∈ f.compliance.map ComplianceTag.framework := by
  rw [touches, List.any_eq_true, List.mem_map]
  simp only [beq_iff_eq]

theorem violating_concat (fs : List Finding) (f : Finding) (framework : Framework) :
    violating (fs ++ [f]) framework =
      violating fs framework ++ if f.isActive && f.touches framework then [f] else [] := by
  rw [violating, List.filter_append, List.filter_singleton, Bool.cond_eq_ite]
  rfl

theorem controlsIn_append (ts us : List ComplianceTag) (framework : Framework) :
    controlsIn (ts ++ us) framework = controlsIn ts framework ++ controlsIn us framework := by
  rw [controlsIn, List.filter_append, List.map_append]
  rfl

theorem controlsOf_concat (fs : List Finding) (f : Finding) (framework : Framework) :
    controlsOf (fs ++ [f]) framework =
      controlsOf fs framework ++ if f.isActive then controlsIn f.compliance framework else [] := by
  rw [controlsOf, List.filter_append, List.filter_singleton, List.flatMap_append, controlsIn_append]
  cases f.isActive with
  | true => rw [cond_true, List.flatMap_singleton]; rfl
  | false => rfl

theorem mem_controlsOf (fs : List Finding) (framework : Framework) (control : String) :
    control ∈ controlsOf fs framework ↔ ∃ f ∈ fs, f.isActive = true ∧
      ∃ t ∈ f.compliance, t.framework = framework ∧ t.control = control := by
  simp only [controlsOf, controlsIn, List.mem_map, List.mem_filter, List.mem_flatMap,
    decide_eq_true_eq]
  exact ⟨fun ⟨t, ⟨⟨f, ⟨hf, hactive⟩, ht⟩, hframework⟩, hcontrol⟩ =>
      ⟨f, hf, hactive, t, ht, hframework, hcontrol⟩,
    fun ⟨f, hf, hactive, t, ht, hframework, hcontrol⟩ =>
      ⟨t, ⟨⟨f, ⟨hf, hactive⟩, ht⟩, hframework⟩, hcontrol⟩⟩

theorem mem_violating (fs : List Finding) (framework : Framework) (f : Finding) :
    f ∈ violating fs framework ↔ f ∈ fs ∧ f.isActive = true ∧
      ∃ t ∈ f.compliance, t.framework = framework := by
  rw [violating, List.mem_filter, Bool.and_eq_true, Finding.touches_iff, List.mem_map]

/-- A framework has violations if it has controls that failed. -/
theorem controlsOf_ne_nil (fs : List Finding) (framework : Framework)
    (h : violating fs framework ≠ []) : controlsOf fs framework ≠ [] := by
  rcases List.exists_mem_of_ne_nil _ h with ⟨f, hf⟩
  rcases (mem_violating fs framework f).mp hf with ⟨hmem, hactive, t, ht, hframework⟩
  exact List.ne_nil_of_mem
    ((mem_controlsOf fs framework t.control).mpr ⟨f, hmem, hactive, t, ht, hframework, rfl⟩)

/-! ## The two loops -/

/-- A finding is put behind those of some different frameworks. -/
theorem groups_foldl_addFinding (f : Finding) (frameworks : List Framework)
    (hnodup : frameworks.Nodup) : ∀ (table : Keyed Framework (List Finding)) of,
      Groups table of → Groups (frameworks.foldl (addFinding f) table) fun framework =>
        of framework ++ if framework ∈ frameworks then [f] else [] := by
  induction frameworks with
  | nil => exact fun _ of h => h.congr fun framework => (List.append_nil (of framework)).symm
  | cons first rest ih =>
      intro table of h
      rw [List.nodup_cons] at hnodup
      -- The frameworks differ, so the finding is not put behind those of this one again.
      have hfirst := h.adjust first (· ++ [f]) (List.append_ne_nil_of_right_ne_nil _
        (List.cons_ne_nil f []))
      refine (ih hnodup.2 _ _ hfirst).congr fun framework => ?_
      by_cases hsame : framework = first
      · subst hsame
        rw [if_pos rfl, if_neg hnodup.1, List.append_nil, if_pos List.mem_cons_self]
      · simp only [hsame, if_false, List.mem_cons, false_or]

theorem controlsIn_singleton (t : ComplianceTag) (framework : Framework) :
    controlsIn [t] framework = if framework = t.framework then [t.control] else [] := by
  rw [controlsIn, List.filter_singleton]
  by_cases hsame : framework = t.framework
  · simp [hsame]
  · simp [hsame, Ne.symm hsame]

/-- The controls of some tags are put into the sets of their frameworks. -/
theorem groups_foldl_addControl (tags : List ComplianceTag) :
    ∀ (table : Keyed Framework (List String)) (of : Framework → List String),
      Groups table (fun framework => gathered (of framework)) →
        Groups (tags.foldl addControl table) fun framework =>
          gathered (of framework ++ controlsIn tags framework) := by
  induction tags with
  | nil =>
      intro table of h
      refine h.congr fun framework => ?_
      rw [controlsIn, List.filter_nil, List.map_nil, List.append_nil]
  | cons t tags ih =>
      intro table of h
      have hfirst := h.adjust t.framework (·.insert t.control) (insert_ne_nil _ t.control)
      have hone : Groups (addControl table t) fun framework =>
          gathered (of framework ++ controlsIn [t] framework) := by
        refine hfirst.congr fun framework => ?_
        rw [controlsIn_singleton]
        split
        · rw [gathered_concat]
        · rw [List.append_nil]
      refine (ih _ _ hone).congr fun framework => ?_
      rw [List.append_assoc, ← controlsIn_append]
      rfl

/-! ## The tables -/

/-- The tables are those of some findings. -/
structure Violations.Tells (v : Violations) (fs : List Finding) : Prop where
  nodup : (v.findings.map Prod.fst).Nodup
  findings : Groups v.findings (violating fs)
  controls : Groups v.controls fun framework => gathered (controlsOf fs framework)

namespace Violations.Tells

theorem nil : Tells ⟨[], []⟩ [] :=
  ⟨List.nodup_nil, Groups.nil, Groups.nil⟩

/-- One more finding. -/
theorem add {v : Violations} {fs : List Finding} (h : v.Tells fs) (f : Finding) :
    (v.add f).Tells (fs ++ [f]) := by
  rw [Violations.add]
  by_cases hactive : f.isActive = true
  · rw [if_pos hactive]
    have hfindings := groups_foldl_addFinding f _
      (nodup_distinct (f.compliance.map ComplianceTag.framework)) _ _ h.findings
    have hcontrols := groups_foldl_addControl f.compliance _ _ h.controls
    refine ⟨Keyed.nodup_foldl_adjust id _ _ _ h.nodup, hfindings.congr fun framework => ?_,
      hcontrols.congr fun framework => ?_⟩
    · rw [violating_concat, hactive, Bool.true_and]
      simp only [mem_distinct, Finding.touches_iff]
    · rw [controlsOf_concat, if_pos hactive]
  -- A finding that is not active changes neither table.
  · rw [if_neg hactive]
    refine ⟨h.nodup, h.findings.congr fun framework => ?_, h.controls.congr fun framework => ?_⟩
    · rw [violating_concat, Bool.eq_false_of_not_eq_true hactive, Bool.false_and,
        if_neg Bool.false_ne_true, List.append_nil]
    · rw [controlsOf_concat, if_neg hactive, List.append_nil]

end Violations.Tells

/-- The tables that are filled are those of the findings. -/
theorem tells_violationsOf (fs : List Finding) : (violationsOf fs).Tells fs := by
  -- Along the loop the tables are those of the findings seen so far.
  have hrun : ∀ (rest seen : List Finding) (v : Violations), v.Tells seen →
      (rest.foldl Violations.add v).Tells (seen ++ rest) := by
    intro rest
    induction rest with
    | nil => exact fun seen v h => (List.append_nil seen).symm ▸ h
    | cons f rest ih =>
        intro seen v h
        rw [List.foldl_cons, List.append_cons]
        exact ih _ _ (h.add f)
  exact hrun fs [] _ .nil

/-- What a table of findings says about a framework. -/
def frameworkState (fs : List Finding) (framework : Framework) : FrameworkStatus where
  framework
  totalControls := (controlsOf fs framework).toFinset.card
  passedControls := 0
  failedControls := (controlsOf fs framework).toFinset.card
  violations := violating fs framework

/-- The controls of a framework with findings are found. -/
theorem Violations.Tells.stateOf {v : Violations} {fs : List Finding} (h : v.Tells fs)
    (p : Framework × List Finding) (hp : p ∈ v.findings) :
    stateOf v.controls p = .ok (p.1, frameworkState fs p.1) := by
  have hviolating : p.2 = violating fs p.1 := h.findings.eq_of_mem h.nodup hp
  have hsome := (h.findings.mem_keys_iff p.1).mp (List.mem_map_of_mem hp)
  have hcontrols := h.controls p.1
  -- A framework is in the table because of a finding, and that finding has a control for it.
  rw [if_neg fun hnil => controlsOf_ne_nil fs p.1 hsome ((gathered_eq_nil_iff _).mp hnil)]
    at hcontrols
  rw [CodeAudit.stateOf, hcontrols, frameworkState, ← length_gathered, ← hviolating]

/-- The frameworks of the table, in its order. -/
def frameworksOf (fs : List Finding) : List Framework :=
  (violationsOf fs).findings.map Prod.fst

theorem nodup_frameworksOf (fs : List Finding) : (frameworksOf fs).Nodup :=
  (tells_violationsOf fs).nodup

theorem mem_frameworksOf (fs : List Finding) (framework : Framework) :
    framework ∈ frameworksOf fs ↔ violating fs framework ≠ [] :=
  (tells_violationsOf fs).findings.mem_keys_iff framework

theorem mem_frameworksOf_iff (fs : List Finding) (framework : Framework) :
    framework ∈ frameworksOf fs ↔
      ∃ f ∈ fs, f.isActive = true ∧ ∃ t ∈ f.compliance, t.framework = framework := by
  rw [mem_frameworksOf]
  refine ⟨fun hsome => ?_, fun ⟨f, hf, hrest⟩ => ?_⟩
  · rcases List.exists_mem_of_ne_nil _ hsome with ⟨f, hf⟩
    exact ⟨f, (mem_violating fs framework f).mp hf⟩
  · exact List.ne_nil_of_mem ((mem_violating fs framework f).mpr ⟨hf, hrest⟩)

/-- Looking up the controls of the frameworks does not fail. -/
theorem tabulate_violationsOf (fs : List Finding) :
    tabulate fs = .ok ((frameworksOf fs).map fun framework =>
      (framework, frameworkState fs framework)) := by
  rw [tabulate, mapM_eq_map _ _ _ (tells_violationsOf fs).stateOf, frameworksOf, List.map_map]
  rfl

theorem aggregateCompliance_eq (fs : List Finding) :
    aggregateCompliance fs = (frameworksOf fs).map fun framework =>
      (framework, frameworkState fs framework) := by
  rw [aggregateCompliance, tabulate_violationsOf]
  rfl

/-- The table of frameworks. -/
theorem tabulate_eq (fs : List Finding) : tabulate fs = .ok (aggregateCompliance fs) := by
  rw [tabulate_violationsOf, aggregateCompliance_eq]

theorem keys_aggregateCompliance (fs : List Finding) :
    (aggregateCompliance fs).map Prod.fst = frameworksOf fs := by
  rw [aggregateCompliance_eq, List.map_map]
  exact List.map_id _

theorem eq_of_mem_aggregateCompliance (fs : List Finding) (p : Framework × FrameworkStatus)
    (hp : p ∈ aggregateCompliance fs) : p.2 = frameworkState fs p.1 := by
  rw [aggregateCompliance_eq] at hp
  rcases List.mem_map.mp hp with ⟨framework, _, heq⟩
  rw [← heq]

theorem violations_subset (fs : List Finding) (p : Framework × FrameworkStatus)
    (hp : p ∈ aggregateCompliance fs) : ∀ f ∈ p.2.violations, f ∈ fs := by
  rw [eq_of_mem_aggregateCompliance fs p hp]
  exact fun f hf => (List.mem_filter.mp hf).1

/-! ## The order of findings -/

theorem perm_violating {fs fs' : List Finding} (h : fs.Perm fs') (framework : Framework) :
    (violating fs framework).Perm (violating fs' framework) :=
  h.filter _

theorem toFinset_controlsOf_of_perm {fs fs' : List Finding} (h : fs.Perm fs')
    (framework : Framework) :
    (controlsOf fs framework).toFinset = (controlsOf fs' framework).toFinset := by
  have htags : ((fs.filter Finding.isActive).flatMap Finding.compliance).Perm
      ((fs'.filter Finding.isActive).flatMap Finding.compliance) :=
    (h.filter Finding.isActive).flatMap_right Finding.compliance
  exact List.toFinset_eq_of_perm _ _ ((htags.filter _).map ComplianceTag.control)

theorem mem_frameworksOf_of_perm {fs fs' : List Finding} (h : fs.Perm fs')
    (framework : Framework) : framework ∈ frameworksOf fs' ↔ framework ∈ frameworksOf fs := by
  rw [mem_frameworksOf, mem_frameworksOf, Ne, Ne, ← List.perm_nil, ← List.perm_nil]
  exact not_congr ⟨(perm_violating h framework).trans, (perm_violating h framework).symm.trans⟩

/-- The frameworks are tabulated in any case. There is an entry for those that an active finding
    refers to. It holds the active findings that do, one for each place in the list, and the number
    of different controls that they refer to, all of which have failed. In another order of the
    findings the numbers are the same, and so are the findings of an entry but for their order. -/
theorem compliance_of_findings (fs : List Finding) :
    ∃ table, tabulate fs = .ok table ∧ aggregateCompliance fs = table ∧
      (table.map Prod.fst).Nodup ∧
      (∀ framework, framework ∈ table.map Prod.fst ↔
        ∃ f ∈ fs, f.isActive = true ∧ ∃ t ∈ f.compliance, t.framework = framework) ∧
      (∀ p ∈ table, p.2.framework = p.1 ∧
        p.2.violations = fs.filter (fun f => f.isActive && f.touches p.1) ∧
        p.2.totalControls = (controlsOf fs p.1).toFinset.card ∧
        p.2.failedControls = p.2.totalControls ∧ 1 ≤ p.2.totalControls ∧
        p.2.passedControls = 0) ∧
      ∀ fs', fs.Perm fs' → ∃ table', tabulate fs' = .ok table' ∧
        (∀ framework, framework ∈ table'.map Prod.fst ↔ framework ∈ table.map Prod.fst) ∧
        ∀ p ∈ table, ∀ p' ∈ table', p'.1 = p.1 →
          p'.2.totalControls = p.2.totalControls ∧ p'.2.failedControls = p.2.failedControls ∧
          p'.2.passedControls = p.2.passedControls ∧ p'.2.violations.Perm p.2.violations := by
  refine ⟨_, tabulate_eq fs, rfl, ?_, ?_, fun p hp => ?_,
    fun fs' hperm => ⟨_, tabulate_eq fs', ?_, ?_⟩⟩
  · rw [keys_aggregateCompliance]
    exact nodup_frameworksOf fs
  · rw [keys_aggregateCompliance]
    exact mem_frameworksOf_iff fs
  · have hframework : p.1 ∈ frameworksOf fs :=
      keys_aggregateCompliance fs ▸ List.mem_map_of_mem hp
    have hsome := controlsOf_ne_nil fs p.1 ((mem_frameworksOf fs p.1).mp hframework)
    have hpos : 0 < (controlsOf fs p.1).toFinset.card :=
      Finset.card_pos.mpr ((List.toFinset_nonempty_iff _).mpr hsome)
    rw [eq_of_mem_aggregateCompliance fs p hp]
    exact ⟨rfl, rfl, rfl, rfl, Int.ofNat_lt.mpr hpos, rfl⟩
  · rw [keys_aggregateCompliance, keys_aggregateCompliance]
    exact mem_frameworksOf_of_perm hperm
  · intro p hp p' hp' hsame
    rw [eq_of_mem_aggregateCompliance fs p hp, eq_of_mem_aggregateCompliance fs' p' hp', hsame]
    have hcontrols := congrArg (fun s => (s.card : Int)) (toFinset_controlsOf_of_perm hperm p.1)
    exact ⟨hcontrols.symm, hcontrols.symm, rfl, (perm_violating hperm p.1).symm⟩

/-- A finding that refers twice to a control is there twice, and one that is closed refers to
    controls as well. -/
example :
    let finding (status : Status) (compliance : List ComplianceTag) : Finding :=
      { ruleId := "R", ruleName := "N", severity := .high, category := .security,
        description := "D", path := "a.py", line := 1, column := 1, snippet := "", matched := "",
        compliance, quickFix := none, status := some status, firstDetected := .null,
        lastDetected := .null, fingerprint := "" }
    let twice := finding .new [⟨.pciDss, "6.5", ""⟩, ⟨.owasp, "A1", ""⟩, ⟨.pciDss, "6.5", "again"⟩]
    let closed := finding .closed [⟨.pciDss, "3.4", ""⟩, ⟨.gdpr, "32", ""⟩]
    (aggregateCompliance [twice, closed, twice]).map
      (fun p => (p.1, p.2.totalControls, p.2.violations.length)) =
        [(.pciDss, 1, 2), (.owasp, 1, 2)] := by
  decide

end CodeAudit

import CodeAudit.Report.Basic

/-!
# Compliance

The state of the compliance frameworks.

Rules only ever object to something, so a control is never seen to pass: every control that an
active finding refers to has failed.

The findings are looked through once, and two tables are filled by two loops over the tags of a
finding. One keeps the findings under each framework, where a finding counts once however often it
refers to the framework. The other keeps the controls, which are told apart over all findings. The
first table then says which frameworks there are, and their controls are looked up in the second.

## Main definitions

* `distinct`: The members of a list without repetitions.
* `Violations`: The two tables.
* `Violations.add`: Takes a finding into the tables.
* `tabulate`: The state of the frameworks, or that a framework has no controls.
* `aggregateCompliance`: The state of the frameworks.
-/

namespace CodeAudit

/-- The members of a list without repetitions, in the order of first occurrence. -/
def distinct {α : Type} [DecidableEq α] (xs : List α) : List α :=
  (Keyed.tally xs).map Prod.fst

/-- What active findings refer to: the findings under each framework, and the controls of each
    framework without repetitions. -/
structure Violations where
  findings : Keyed Framework (List Finding)
  controls : Keyed Framework (List String)

/-- Puts a finding behind those of a framework. -/
def addFinding (f : Finding) (table : Keyed Framework (List Finding)) (framework : Framework) :
    Keyed Framework (List Finding) :=
  Keyed.adjust framework (fun fs => fs.getD [] ++ [f]) table

/-- Puts the control of a tag among those of its framework. -/
def addControl (table : Keyed Framework (List String)) (t : ComplianceTag) :
    Keyed Framework (List String) :=
  Keyed.adjust t.framework (fun controls => (controls.getD []).insert t.control) table

/-- Takes a finding into the tables, if it is active. -/
def Violations.add (v : Violations) (f : Finding) : Violations :=
  if f.isActive then
    -- A finding that has several controls of one framework violates it once.
    { findings := (distinct (f.compliance.map ComplianceTag.framework)).foldl (addFinding f)
        v.findings
      controls := f.compliance.foldl addControl v.controls }
  else v

/-- The tables of findings. -/
def violationsOf (fs : List Finding) : Violations :=
  fs.foldl Violations.add ⟨[], []⟩

/-- The state of a framework with findings, given the controls of all frameworks. -/
def stateOf (controls : Keyed Framework (List String)) (p : Framework × List Finding) :
    Except Fault (Framework × FrameworkStatus) :=
  match Keyed.get? p.1 controls with
  | some failed =>
    .ok (p.1,
      { framework := p.1, totalControls := failed.length, passedControls := 0,
        -- Controls without a finding are not known, so none of them is passed.
        failedControls := failed.length, violations := p.2 })
  -- Where a framework has a finding, the finding has a tag of it, so this does not come up.
  | none => .error (.missing p.1.label)

/-- The state of the frameworks that active findings refer to. There would be none for a framework
    that has findings and no controls. -/
def tabulate (fs : List Finding) : Except Fault (Keyed Framework FrameworkStatus) :=
  let v := violationsOf fs
  v.findings.mapM (stateOf v.controls)

/-- The state of the frameworks that active findings refer to. Tabulating them does not fail. -/
def aggregateCompliance (fs : List Finding) : Keyed Framework FrameworkStatus :=
  (tabulate fs).toOption.getD []

end CodeAudit

import CodeAudit.Finding.Basic
import CodeAudit.Keyed

/-!
# Reports

What a scan has found, and its form in a document.

A report holds the findings with their states, a summary that counts them, and for each
compliance framework the controls that are violated. The share of controls that are
passed is worked out from the two numbers when it is asked for; with numbers beyond the
range of floating point it cannot be.

## Main definitions

* `Summary`: Counts of findings.
* `FrameworkStatus`: What is known about a compliance framework.
* `FrameworkStatus.percentage`: The share of controls that are passed.
* `Report`: A report.
* `Report.active`: The findings that are still there.
* `Report.decode`, `Report.encode`: Reports in documents.
-/

namespace CodeAudit

/-- Counts of findings. -/
structure Summary where
  total : Int
  new : Int
  persistent : Int
  closed : Int
  bySeverity : Keyed Severity Int
  byCategory : Keyed Category Int
  byStatus : Keyed Status Int
deriving DecidableEq, Repr

namespace Summary

/-- Counts under labels, in the form of a document. -/
def encodeCounts {α : Type} (label : α → String) (counts : Keyed α Int) : Value :=
  .mapping (counts.map fun p => (.text (label p.1), .int p.2))

/-- A summary in the form of a document. -/
def encode (s : Summary) : Value :=
  .mapping
    [(.text "total", .int s.total),
     (.text "new", .int s.new),
     (.text "persistent", .int s.persistent),
     (.text "closed", .int s.closed),
     (.text "bySeverity", encodeCounts Severity.label s.bySeverity),
     (.text "byCategory", encodeCounts Category.label s.byCategory),
     (.text "byStatus", encodeCounts Status.label s.byStatus)]

/-- Reads counts one after the other. Of two counts under one label the later one
    remains. -/
def decodeCounts {α : Type} [DecidableEq α] (parse : Value → Except Fault α) :
    Value.Entries → Keyed α Int → Except Fault (Keyed α Int)
  | [], counts => .ok counts
  | (k, v) :: rest, counts => do
    let key ← parse k
    let count ← v.toInteger
    -- An unknown label ends the reading, as a count that is none does.
    decodeCounts parse rest (Keyed.put key count counts)

/-- The counts under a key of a document. -/
def countsField {α : Type} [DecidableEq α] (parse : Value → Except Fault α) (key : String)
    (v : Value) : Except Fault (Keyed α Int) := do
  let entries ← ((← v.fieldOr key .null).orElse (.mapping [])).entriesOf
  decodeCounts parse entries []

/-- The summary of a document. -/
def decode (v : Value) : Except Fault Summary := do
  let total ← Finding.countField "total" v
  let new ← Finding.countField "new" v
  let persistent ← Finding.countField "persistent" v
  let closed ← Finding.countField "closed" v
  let bySeverity ← countsField Severity.parse "bySeverity" v
  let byCategory ← countsField Category.parse "byCategory" v
  let byStatus ← countsField Status.parse "byStatus" v
  return { total, new, persistent, closed, bySeverity, byCategory, byStatus }

end Summary

/-- What is known about a compliance framework: how many of its controls were looked at,
    how many passed and failed, and the findings that violate one. -/
structure FrameworkStatus where
  framework : Framework
  totalControls : Int
  passedControls : Int
  failedControls : Int
  violations : List Finding
deriving Repr

namespace FrameworkStatus

/-- The share of controls that are passed, in percent. It is zero if none was looked at,
    and out of reach if the quotient is too large. -/
def percentage (s : FrameworkStatus) : Except Fault Double :=
  -- The counts may be anything here, since they can come from a document.
  if s.totalControls ≤ 0 then .ok (.zero false)
  else
    match Double.quotient? s.passedControls s.totalControls.toNat with
    | some x => .ok (x.mul (.ofInt 100))
    | none => .error .tooLarge

/-- The status of a framework in the form of a document, with a share of controls. -/
def encodeWith (percentage : Double) (s : FrameworkStatus) : Value :=
  .mapping
    [(.text "framework", .text s.framework.label),
     (.text "totalControls", .int s.totalControls),
     (.text "passedControls", .int s.passedControls),
     (.text "failedControls", .int s.failedControls),
     (.text "compliancePercentage", .float percentage),
     (.text "violations", .list (s.violations.map Finding.encode))]

/-- The status of a framework in the form of a document. -/
def encode (s : FrameworkStatus) : Except Fault Value := do
  return s.encodeWith (← s.percentage)

/-- The status of a framework of a document. -/
def decode (v : Value) : Except Fault FrameworkStatus := do
  let framework ← Framework.parse (← v.demand "framework")
  let totalControls ← Finding.countField "totalControls" v
  let passedControls ← Finding.countField "passedControls" v
  let failedControls ← Finding.countField "failedControls" v
  let violations ← (← Finding.listField "violations" v).mapM Finding.decode
  return { framework, totalControls, passedControls, failedControls, violations }

end FrameworkStatus

/-- What a scan has found. -/
structure Report where
  id : String
  projectName : String
  projectPath : String
  startTime : Int
  endTime : Int
  duration : Int
  version : String
  findings : List Finding
  summary : Summary
  rulesExecuted : Int
  filesScanned : Int
  linesScanned : Int
  /-- The identifier of the report before, kept as it was read. -/
  previousId : Value
  compliance : Keyed Framework FrameworkStatus
deriving Repr

namespace Report

/-- The findings that are still there. -/
def active (r : Report) : List Finding :=
  r.findings.filter Finding.isActive

/-- The entry of a framework in the form of a document. -/
def encodeStatus (p : Framework × FrameworkStatus) : Except Fault (Value × Value) := do
  return (.text p.1.label, ← p.2.encode)

/-- A report in the form of a document, with the entries of its frameworks. -/
def encodeWith (compliance : Value.Entries) (r : Report) : Value :=
  .mapping
    [(.text "reportId", .text r.id),
     (.text "projectName", .text r.projectName),
     (.text "projectPath", .text r.projectPath),
     (.text "scanStartTime", .int r.startTime),
     (.text "scanEndTime", .int r.endTime),
     (.text "scanDuration", .int r.duration),
     (.text "version", .text r.version),
     (.text "vulnerabilities", .list (r.findings.map Finding.encode)),
     (.text "summary", r.summary.encode),
     (.text "rulesExecuted", .int r.rulesExecuted),
     (.text "filesScanned", .int r.filesScanned),
     (.text "linesScanned", .int r.linesScanned),
     (.text "previousReportId", r.previousId),
     (.text "complianceStatus", .mapping compliance)]

/-- A report in the form of a document. -/
def encode (r : Report) : Except Fault Value := do
  return r.encodeWith (← r.compliance.mapM encodeStatus)

/-- Reads the entries of frameworks one after the other. -/
def decodeCompliance :
    Value.Entries → Keyed Framework FrameworkStatus →
      Except Fault (Keyed Framework FrameworkStatus)
  | [], found => .ok found
  | (k, v) :: rest, found => do
    let framework ← Framework.parse k
    let status ← FrameworkStatus.decode v
    decodeCompliance rest (Keyed.put framework status found)

/-- The version of a report that does not name one. -/
def defaultVersion : String := "1.0.0"

/-- The report of a document. Its identifier and its two times are required. -/
def decode (v : Value) : Except Fault Report := do
  let id ← (← v.demand "reportId").told
  let projectName ← Finding.textField "projectName" v
  let projectPath ← Finding.textField "projectPath" v
  let startTime ← (← v.demand "scanStartTime").toInteger
  let endTime ← (← v.demand "scanEndTime").toInteger
  let duration ← Finding.countField "scanDuration" v
  let version ← (← v.fieldOr "version" (.text defaultVersion)).told
  let findings ← (← Finding.listField "vulnerabilities" v).mapM Finding.decode
  let summary ← Summary.decode ((← v.fieldOr "summary" .null).orElse (.mapping []))
  let rulesExecuted ← Finding.countField "rulesExecuted" v
  let filesScanned ← Finding.countField "filesScanned" v
  let linesScanned ← Finding.countField "linesScanned" v
  let previousId ← v.fieldOr "previousReportId" .null
  let entries ← ((← v.fieldOr "complianceStatus" .null).orElse (.mapping [])).entriesOf
  let compliance ← decodeCompliance entries []
  -- The shares of controls are not read: they follow from the counts.
  return { id, projectName, projectPath, startTime, endTime, duration, version, findings, summary,
           rulesExecuted, filesScanned, linesScanned, previousId, compliance }

end Report

/-- Why a report was not read from a document. A number that is too large is not counted
    among the mistakes of a report. -/
inductive ReportFailure
  | malformed (fault : Fault)
  | tooLarge
deriving Repr

/-- The report of a document, its faults told as mistakes of a report. -/
def Report.read (v : Value) : Except ReportFailure Report :=
  match Report.decode v with
  | .ok r => .ok r
  | .error .tooLarge => .error .tooLarge
  | .error f => .error (.malformed f)

end CodeAudit

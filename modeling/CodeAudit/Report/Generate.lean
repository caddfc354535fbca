import CodeAudit.Compliance
import CodeAudit.Scan

/-!
# Reports of Scans

The report about a scan.

A report compares the findings of its scan with those of the report before, if there is one,
and counts the result. Its identifier is made from the second at which the scan ended and a
number that the caller draws.

## Main definitions

* `reportId`: The identifier of a report.
* `trackSince`: The findings compared with those of the report before.
* `generateReport`: The report about a scan.
-/

namespace CodeAudit

/-- The second a time in milliseconds lies in. -/
def secondOf (millis : Int) : Int :=
  millis / 1000

/-- The identifier of a report that is made at a time, with a number drawn for it. -/
def reportId (now : Int) (number : Nat) : String :=
  "REPORT-" ++ toString (secondOf now) ++ "-" ++ toString number

/-- The findings of a scan with their states, compared with those of the report before. -/
def trackSince (previous : Option Report) (current : List Finding) (now : Int) : List Finding :=
  match previous with
  | none => baseline current now
  | some r => track current r.findings now

/-- The report about a scan. -/
def generateReport (path name : String) (result : ScanResult) (previous : Option Report)
    (now : Int) (number : Nat) : Report :=
  let findings := trackSince previous result.findings now
  { id := reportId now number
    projectName := name
    projectPath := path
    -- The time at which the report is made is the end of the scan, and its start is reckoned
    -- back.
    startTime := now - result.duration
    endTime := now
    duration := result.duration
    version := Report.defaultVersion
    findings
    summary := summarize findings
    rulesExecuted := result.rulesExecuted
    filesScanned := result.filesScanned
    linesScanned := result.linesScanned
    previousId :=
      match previous with
      | some r => .text r.id
      | none => .null
    compliance := aggregateCompliance findings }

end CodeAudit

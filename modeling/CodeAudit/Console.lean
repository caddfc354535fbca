import CodeAudit.Project
import CodeAudit.Timestamp

/-!
# The Console

What is shown to the user.

Everything shown is a list of items: lines of text, panels and tables. Colours are marks in
brackets around a text. How a table is drawn is not decided here, only what is in its cells.

## Main definitions

* `Item`, `Table`: What is shown.
* `Show.banner`: What a scan begins with.
* `Show.findings`: The findings of a report.
* `Show.summary`: The counts of a report.
* `Show.compliance`: The state of the frameworks.
* `Show.reportList`: Reports in a list.
* `Show.ruleList`: Rules in a list.
-/

namespace CodeAudit

/-- A table: its title, the headers of its columns, and its rows. -/
structure Table where
  title : Option String
  columns : List String
  rows : List (List String)
deriving DecidableEq, Repr

/-- Something shown to the user. -/
inductive Item
  | line (s : String)
  | panel (s : String)
  | table (t : Table)
deriving DecidableEq, Repr

namespace Show

/-- The version of the program. -/
def version : String := "1.0.0"

/-- A text in a style. -/
def styled (style s : String) : String :=
  "[" ++ style ++ "]" ++ s ++ "[/" ++ style ++ "]"

/-- The style of a severity. -/
def severityStyle : Severity → String
  | .critical => "bold red"
  | .high => "red"
  | .medium => "yellow"
  | .low => "cyan"
  | .info => "dim"

/-- The style of a state. -/
def statusStyle : Status → String
  | .new => "bold magenta"
  | .persistent => "white"
  | .closed | .fixed => "green"

/-- The cell of a severity. -/
def severityCell (s : Severity) : String :=
  styled (severityStyle s) s.name

/-- The cell of a state. -/
def statusCell : Option Status → String
  | none => "-"
  | some s => styled (statusStyle s) s.label

/-- What a scan begins with. -/
def banner : List Item :=
  [.panel (styled "bold cyan" "SecureCode Guardian" ++ " v" ++ version ++ "\n" ++
    styled "dim" "Rule-driven security & compliance scanner")]

/-- The finding is shown: it is not closed, or closed ones are shown too. -/
def isShown (showClosed : Bool) (f : Finding) : Bool :=
  showClosed || f.status != some .closed

/-- The order in which findings are shown: the serious ones first, then by path and line. -/
def comesFirst (a b : Finding) : Bool :=
  if a.severity.rank != b.severity.rank then decide (b.severity.rank < a.severity.rank)
  else if a.path != b.path then decide (a.path < b.path)
  -- Findings of one line stay in the order in which the report has them.
  else decide (a.line ≤ b.line)

/-- The findings of a report that are shown, in the order in which they are shown. -/
def shownFindings (r : Report) (showClosed : Bool) : List Finding :=
  sortBy comesFirst (r.findings.filter (isShown showClosed))

/-- The row of a finding. -/
def findingRow (verbose : Bool) (f : Finding) : List String :=
  [statusCell f.status, severityCell f.severity, f.ruleId,
   f.path ++ ":" ++ toString f.line ++ ":" ++ toString f.column, f.description] ++
    (if verbose then [if f.snippet.isEmpty then "-" else f.snippet] else [])

/-- The headers of the table of findings. -/
def findingColumns (verbose : Bool) : List String :=
  ["Status", "Severity", "Rule", "Location", "Description"] ++
    (if verbose then ["Snippet"] else [])

/-- The findings of a report. -/
def findings (r : Report) (verbose showClosed : Bool) : List Item :=
  match shownFindings r showClosed with
  | [] => [.line ("\n" ++ styled "green" "No active findings.")]
  | fs =>
    [.line ("\n" ++ styled "bold" (toString fs.length ++ " findings:") ++ "\n"),
     .table ⟨none, findingColumns verbose, fs.map (findingRow verbose)⟩]

/-- The row of a framework. -/
def frameworkRow (framework : Framework) (s : FrameworkStatus) : Except Failure (List String) := do
  -- The share is worked out anew from the counts, whatever the document said.
  let percentage ← orFailure .fault s.percentage
  return [uppered framework.label,
          toString s.failedControls ++ "/" ++ toString s.totalControls,
          toString s.violations.length, percentage.placesText 0 ++ "%"]

/-- Frameworks in the order of their words. -/
def frameworkOrder (a b : Framework × FrameworkStatus) : Bool :=
  decide (a.1.label ≤ b.1.label)

/-- The state of the frameworks of a report. -/
def compliance (r : Report) : Except Failure (List Item) := do
  let rows ← (sortBy frameworkOrder r.compliance).mapM fun p => frameworkRow p.1 p.2
  return [.line "",
          .table ⟨some "Compliance",
            ["Framework", "Controls failed", "Violations", "Compliance"], rows⟩]

/-- The rows that count findings by severity, the most serious ones first. -/
def severityRows (s : Summary) : List (List String) :=
  -- A severity without findings has a row too.
  Severity.all.reverse.map fun severity =>
    [severity.title,
     styled (severityStyle severity) (toString ((Keyed.get? severity s.bySeverity).getD 0))]

/-- A number of milliseconds as seconds. -/
def durationText (millis : Int) : Except Failure String :=
  match Double.quotient? millis 1000 with
  | some x => .ok (x.placesText 2 ++ "s")
  | none => .error (.fault .tooLarge)

/-- The row about files that could not be read. It is there only after a scan that met
    some. -/
def unreadableRows : Option ScanResult → List (List String)
  | some result =>
    if result.failedFiles.isEmpty then []
    else [["Unreadable files", styled "red" (toString result.failedFiles.length)]]
  | none => []

/-- The table of the counts of a report. -/
def summaryTable (r : Report) (result : Option ScanResult) : Except Failure Item := do
  let duration ← durationText r.duration
  return .table ⟨some "Scan Summary", ["Metric", "Value"],
    [["Report", r.id],
     ["Files scanned", toString r.filesScanned],
     ["Lines scanned", toString r.linesScanned],
     ["Rules executed", toString r.rulesExecuted],
     ["Active findings", toString r.summary.total],
     ["New", styled "bold magenta" (toString r.summary.new)],
     ["Persistent", toString r.summary.persistent],
     ["Closed", styled "green" (toString r.summary.closed)]] ++
      severityRows r.summary ++ [["Scan duration", duration]] ++ unreadableRows result⟩

/-- The counts of a report, and the state of the frameworks if there is any. -/
def summary (r : Report) (result : Option ScanResult) : Except Failure (List Item) := do
  let table ← summaryTable r result
  -- Where no rule refers to a framework there is nothing to tell.
  let rest ← if r.compliance.isEmpty then pure [] else compliance r
  return .line "" :: table :: rest

/-- The row of a report in a list. -/
def reportRow (r : Report) : Except Failure (List String) := do
  return [r.id, ← Timestamp.format (.int r.endTime), toString r.summary.total,
          toString r.summary.new, toString r.summary.closed]

/-- Reports in a list. -/
def reportList : List Report → Except Failure (List Item)
  | [] => .ok [.line (styled "yellow" "No reports found.")]
  | rs => do
    let rows ← rs.mapM reportRow
    return [.table ⟨some "Reports", ["Report", "Finished", "Active", "New", "Closed"], rows⟩]

/-- The row of a rule in a list. -/
def ruleRow (r : Rule) : List String :=
  [r.id, severityCell r.severity, r.category.label, r.name, toString r.patterns.length,
   if r.custom then "custom" else "built-in"]

/-- Rules in a list. -/
def ruleList : List Rule → List Item
  | [] => [.line (styled "yellow" "No rules loaded.")]
  | rs =>
    [.table ⟨some "Rules", ["Rule", "Severity", "Category", "Name", "Patterns", "Source"],
      rs.map ruleRow⟩]

end Show

end CodeAudit

import CodeAudit.Report.Store

/-!
# Projects

What the program does with a project.

A scan of a project looks at the latest report, searches the files, makes the report about
what it found and keeps it. A root that is no folder gives a report about nothing, and that
report is not kept.

## Main definitions

* `World`: What changes while the program works.
* `Action`: An operation of the program.
* `Clock`: The time of a scan.
* `executeScan`: Scans a project and keeps the report.
-/

namespace CodeAudit

/-- What changes while the program works: the disk, the state of the scan, and the number
    that the next report is given. -/
structure World where
  disk : Disk
  scan : ScanState
  nextNumber : Nat

/-- A world with a disk, in which nothing has happened yet. -/
def World.ofDisk (d : Disk) (nextNumber : Nat) : World :=
  { disk := d, scan := { matcher := [], log := [], announced := [] }, nextNumber }

/-- An operation of the program. -/
abbrev Action := ExceptT Failure (StateM World)

namespace Action

/-- An operation of a scan, as an operation of the program. -/
def ofScanning {α : Type} (x : Scanning α) : Action α := fun w =>
  let (result, scan) := x w.scan
  (result, { w with scan })

/-- An operation that tells something, as an operation of the program. -/
def ofAttempt {α : Type} (x : Attempt α) : Action α :=
  ofScanning (.ofAttempt x)

/-- An operation that changes the disk, as an operation of the program. -/
def ofFiling {α : Type} (x : Filing α) : Action α := fun w =>
  let (result, disk) := x w.disk
  (result, { w with disk })

/-- Tells an event. -/
def tell (e : Event) : Action Unit :=
  ofAttempt (note e)

/-- The number for a report. No other report is given it. -/
def drawNumber : Action Nat := fun w =>
  (.ok w.nextNumber, { w with nextNumber := w.nextNumber + 1 })

end Action

/-- The time of a scan in milliseconds: when it ends, and how long it takes. -/
structure Clock where
  now : Int
  elapsed : Int
deriving Repr

/-- The name of a project: the given one, or else that of its folder. -/
def projectName (d : Disk) (root : String) (given : Option String) : String :=
  match given with
  | some name => if name.isEmpty then folderName else name
  | none => folderName
where
  /-- The name of the folder of the project. -/
  folderName : String := String.ofList (Path.baseName (d.absolute root).toList)

/-- Keeps a report and tells where. -/
def keepReport (root : String) (r : Report) : Action String := do
  let path ← Action.ofFiling (ReportStore.save root r)
  -- The path is told from the root, however the project was named.
  Action.tell (.reportSaved ((← get).disk.absolute path))
  return path

/-- Tells what the report before a scan is. -/
def tellPrevious : Option Report → Action Unit
  | some r => Action.tell (.previousFound r.id)
  | none => Action.tell .noPrevious

/-- Tells what a scan has counted. -/
def tellResult (r : ScanResult) : Action Unit :=
  Action.tell (.scanComplete r.filesScanned r.linesScanned r.rulesExecuted r.findings.length)

/-- Tells the counts of a summary. -/
def tellSummary (s : Summary) : Action Unit :=
  Action.tell (.counted s.total s.new s.persistent s.closed)

/-- Scans a project and keeps the report. -/
def executeScan (p : Package) (root name : String) (c : Config) (stopAt : StopAt)
    (clock : Clock) : Action (Report × ScanResult) := do
  Action.tell (.scanStarted name root)
  -- The disk is read once, before anything is written, and the scan sees it as it is then.
  let d := (← get).disk
  if d.isFolder root then
    let previous ← Action.ofAttempt (ReportStore.latest d root)
    tellPrevious previous
    let result ← Action.ofScanning (scan p d root c stopAt clock.elapsed)
    tellResult result
    -- The number is drawn before the report is kept, so it is used up also if keeping fails.
    let number ← Action.drawNumber
    let report := generateReport (d.absolute root) name result previous clock.now number
    let _ ← keepReport root report
    tellSummary report.summary
    return (report, result)
  else
    -- There is no folder to keep a report in, so the number is the only thing that changes.
    Action.tell (.nothingScanned root)
    let number ← Action.drawNumber
    return (generateReport (d.absolute root) name {} none clock.now number, {})

end CodeAudit

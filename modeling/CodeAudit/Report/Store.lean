import CodeAudit.Json.Draft
import CodeAudit.Report.Generate

/-!
# The Report Store

Where the reports of a project are kept.

Every report has a file of its own, named for the second at which its scan ended; further
reports of the same second are numbered. A further file holds the latest report. Files are
first written under a temporary name and then moved to their place, so that a reader never
meets half a report, and the file of a report is never written over. A report that turns out
not to have a text leaves what was written of it under the temporary name.

A file that holds no report is left out when reports are read. Only a number that is too
large for floating point is a mistake of another kind, and ends the reading.

## Main definitions

* `ReportStore.folder`, `ReportStore.latestPath`: Where reports are kept.
* `ReportStore.unusedPath`: A path for a report that is not taken.
* `ReportStore.replaceDocument`: Writes a document in the place of another.
* `ReportStore.save`: Keeps a report.
* `ReportStore.readReport`: The report of a file.
* `ReportStore.latest`, `ReportStore.byId`, `ReportStore.all`: Kept reports.
-/

namespace CodeAudit

/-- An operation that changes a disk, also where it fails. -/
abbrev Filing := ExceptT Failure (StateM Disk)

namespace Filing

/-- Changes the disk by an operation that gives it as it is afterwards, about a path. -/
def run (path : String) (operation : Disk → Except FileError Disk) : Filing Unit := do
  match operation (← get) with
  | .ok d => set d
  | .error e => throw (.file path e)

/-- Makes a folder and the folders above it. -/
def makeFolders (path : String) : Filing Unit := do
  -- Folders that were made before the mistake stay.
  let (d, mistake) := (← get).buildFolders (path.length + 1) path
  set d
  match mistake with
  | none => return ()
  | some e => throw (.file path e)

end Filing

namespace ReportStore

/-- The folder of the reports of a project. -/
def folder (root : String) : String :=
  Disk.join root ".securecode/reports"

/-- The name of the file of the latest report. -/
def latestName : String := "latest-report.json"

/-- The path of the file of the latest report. -/
def latestPath (root : String) : String :=
  Disk.join (folder root) latestName

/-- The name of the file of a report, by the time at which its scan ended and a number that
    is zero for the first report of a second. -/
def fileName (endTime : Int) (number : Nat) : String :=
  let stem := "report-" ++ toString (secondOf endTime)
  if number = 0 then stem ++ ".json" else stem ++ "-" ++ toString number ++ ".json"

/-- The path of the file of a report in a folder. -/
def filePath (folder : String) (endTime : Int) (number : Nat) : String :=
  Disk.join folder (fileName endTime number)

/-- A path that is not taken, looked for from a number on. -/
def unusedFrom (d : Disk) (folder : String) (endTime : Int) : Nat → Nat → String
  | 0, number => filePath folder endTime number
  | fuel + 1, number =>
    let path := filePath folder endTime number
    -- A number that is taken was given to another report of the same second.
    if d.exists? path then unusedFrom d folder endTime fuel (number + 1) else path

/-- A path for a report that is not taken. There are more numbers to try than there are
    names in the folder. -/
def unusedPath (d : Disk) (folder : String) (endTime : Int) : String :=
  let taken :=
    match d.names folder with
    | .ok names => names.length
    | .error _ => 0
  unusedFrom d folder endTime (taken + 1) 0

/-- The bytes of the file of a report. -/
def contentOf (v : Value) : List UInt8 :=
  Utf8.encode (Json.write v)

/-- The bytes that are written for the file of a report, which are all of them unless an integer
    has too many digits. -/
def draftOf (v : Value) : List UInt8 :=
  Utf8.encode (Json.draft v)

/-- Writes a document under a temporary name and moves it to its place. A document that cannot be
    written to its end is left under the temporary name, as far as it is written. -/
def replaceDocument (path : String) (form : Value) : Filing Unit := do
  let temporary := path ++ ".tmp"
  -- What is in its place is not touched until the document is complete.
  Filing.run temporary fun d => d.writeFile temporary (draftOf form)
  if Json.hasShortIntegers form then
    Filing.run path fun d => d.moveOver temporary path
  else throw (.fault (.integerTooLong 0))

/-- The form of a report in a document, or the failure that it has none that can be
    written. -/
def formOf (r : Report) : Except Failure Value :=
  match r.encode with
  | .error f => .error (.fault f)
  | .ok form =>
    if Json.hasShortIntegers form then .ok form else .error (.fault (.integerTooLong 0))

/-- A path for a report that is not taken. The second it is named for has to be written. -/
def freshPath (d : Disk) (folder : String) (endTime : Int) : Except Failure String :=
  if isShort (secondOf endTime) then .ok (unusedPath d folder endTime)
  else .error (.fault (.integerTooLong 0))

/-- Keeps a report: in a file of its own, and as the latest one. Gives the path of the
    former. -/
def save (root : String) (r : Report) : Filing String := do
  let folder := folder root
  -- The folder is made first, so it stays even where the report has no form.
  Filing.makeFolders folder
  let form ← ExceptT.mk (pure (orFailure Failure.fault r.encode))
  -- The path is drawn from the disk as it is now, with the folder in it.
  let path ← ExceptT.mk (pure (freshPath (← get) folder r.endTime))
  replaceDocument path form
  -- The report is in a file of its own before it becomes the latest one.
  replaceDocument (latestPath root) form
  return path

/-- The report of a file. -/
def readReport (d : Disk) (path : String) : Except Failure Report := do
  let cs ← readDocument d path
  let v ← orFailure Failure.ofJson (Json.read cs)
  orFailure Failure.ofReport (Report.read v)

/-- The latest report of a project. -/
def latest (d : Disk) (root : String) : Attempt (Option Report) := do
  let path := latestPath root
  if !d.isFile path then return none
  match readReport d path with
  | .ok r => return some r
  | .error e =>
    -- A file that is not a report is told and passed for none. Other failures are not about it.
    if e.spoilsReport then
      note (.latestUnreadable path e)
      return none
    else throw e

/-- The paths of the files of reports, in the order of their names. -/
def reportFiles (d : Disk) (root : String) : List String :=
  match d.names (folder root) with
  | .error _ => []
  | .ok names =>
    let isReport (name : String) : Bool :=
      ".json".toList.isSuffixOf name.toList && name != latestName
    (names.filter isReport).map (Disk.join (folder root))

/-- The first report of files that satisfies a test. Files without a report are told. -/
def findReport (d : Disk) (test : Report → Bool) : List String → Attempt (Option Report)
  | [] => return none
  | path :: rest => do
    match readReport d path with
    | .ok r => if test r then return some r else findReport d test rest
    | .error e =>
      if e.spoilsReport then
        note (.reportSkipped path e)
        findReport d test rest
      else throw e

/-- The reports of files. Files without a report are told. -/
def readReports (d : Disk) : List String → Attempt (List Report)
  | [] => return []
  | path :: rest => do
    match readReport d path with
    | .ok r => return r :: (← readReports d rest)
    | .error e =>
      if e.spoilsReport then
        note (.reportSkipped path e)
        readReports d rest
      else throw e

/-- The first report of a project with an identifier. -/
def byId (d : Disk) (root id : String) : Attempt (Option Report) :=
  findReport d (fun r => r.id == id) (reportFiles d root)

/-- One report does not end before another. -/
def endsNoEarlier (a b : Report) : Bool :=
  decide (b.endTime ≤ a.endTime)

/-- The reports of a project, the one that ended last first. -/
def all (d : Disk) (root : String) : Attempt (List Report) := do
  return sortBy endsNoEarlier (← readReports d (reportFiles d root))

end ReportStore

end CodeAudit

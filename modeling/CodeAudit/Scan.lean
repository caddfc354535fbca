import CodeAudit.Config.Load
import CodeAudit.Matching
import CodeAudit.Rule.Repository
import CodeAudit.Selection
import CodeAudit.Tracking

/-!
# Scans

Searching a project for what its rules object to.

A scan first decides which rules apply and which files are looked at, and then goes through
the files in order. Before each file its turn is announced, and there the user can stop the
scan. A file that cannot be read is counted and told, and contributes nothing; every other
file contributes its lines, and for each rule in turn what the rule objects to. At the end
the findings are given their fingerprints.

## Main definitions

* `filterRules`: The rules that a configuration lets through.
* `resolveRules`: The rules that apply to a project.
* `ScanResult`: What a scan has found and counted.
* `Announcement`: The turn of a file.
* `scan`: A scan.
-/

namespace CodeAudit

/-- A rule is kept by the two lists of a configuration. The list of enabled rules, if there
    is one, makes that of disabled rules void. -/
def Config.keeps (c : Config) (id : String) : Bool :=
  if c.enabledRules.isEmpty then !c.disabledRules.contains id else c.enabledRules.contains id

/-- The rules that a configuration lets through. -/
def filterRules (c : Config) (rules : List Rule) : List Rule :=
  rules.filter fun r => c.keeps r.id && r.severity.atLeast c.minSeverity

/-- The folder of the custom rules of a project. -/
def customFolder (root : String) (c : Config) : String :=
  Disk.join root c.customRulesPath

/-- The rules that apply to a project. -/
def resolveRules (p : Package) (d : Disk) (root : String) (c : Config) : Attempt (List Rule) := do
  return filterRules c (← allRules p d (some (customFolder root c)))

/-- What a scan has found and counted. The duration is in milliseconds. -/
structure ScanResult where
  findings : List Finding := []
  rulesExecuted : Int := 0
  filesScanned : Int := 0
  linesScanned : Int := 0
  duration : Int := 0
  failedFiles : List String := []
deriving Repr

/-- The turn of a file: its path, its place among all files, and their number. -/
structure Announcement where
  path : String
  index : Nat
  total : Nat
deriving DecidableEq, Repr

/-- The file after which the user stops a scan, if any. It is counted from one. -/
abbrev StopAt := Option Nat

/-- What changes during a scan. -/
structure ScanState extends Search where
  announced : List Announcement

/-- An operation of a scan. -/
abbrev Scanning := ExceptT Failure (StateM ScanState)

/-- An operation of a search, as an operation of a scan. -/
def Scanning.ofSearching {α : Type} (x : Searching α) : Scanning α := fun s =>
  let (result, search) := x s.toSearch
  (result, { s with toSearch := search })

/-- An operation that tells something, as an operation of a scan. -/
def Scanning.ofAttempt {α : Type} (x : Attempt α) : Scanning α :=
  .ofSearching (.ofAttempt x)

/-- Announces the turn of a file, where the user can stop the scan. -/
def announce (stopAt : StopAt) (a : Announcement) : Scanning Unit := do
  modify fun s => { s with announced := s.announced ++ [a] }
  if stopAt == some (a.index + 1) then throw .interrupted

/-- What rules object to in the text of a file, one rule after the other. -/
def findingsOf (path : String) (content : Pattern.Subject) : List Rule → Searching (List Finding)
  | [] => return []
  | r :: rest => do
    let found ← matchContent r path content
    return found.map Match.toFinding ++ (← findingsOf path content rest)

/-- What the scan of one file gives: its findings and the number of its lines, or nothing
    if the file cannot be read. -/
abbrev FileResult := Option (List Finding × Nat)

/-- Scans a file. -/
def scanFile (d : Disk) (rules : List Rule) (path shown : String) : Searching FileResult := do
  match ← Searching.ofAttempt (readSource d path) with
  -- What kept the file from being read has been told by the reading.
  | none =>
    Searching.ofAttempt (note (.fileNotScanned shown))
    return none
  | some cs => return some (← findingsOf shown cs.toArray rules, countLines cs)

/-- What a scan has collected from some of the files. -/
structure Harvest where
  findings : List Finding
  lines : Nat
  failed : List String
deriving Repr

/-- A harvest with what the scan of one more file gives. The file comes first. -/
def Harvest.add (shown : String) (r : FileResult) (h : Harvest) : Harvest :=
  match r with
  | none => { h with failed := shown :: h.failed }
  | some (found, lines) => { h with findings := found ++ h.findings, lines := lines + h.lines }

/-- Scans files one after the other. -/
def scanFiles (d : Disk) (root : String) (rules : List Rule) (stopAt : StopAt) (total : Nat) :
    Nat → List String → Scanning Harvest
  | _, [] => return ⟨[], 0, []⟩
  | index, path :: rest => do
    -- What is announced and reported is the way from the root, so that a project can be moved.
    let shown := d.relativeTo root path
    announce stopAt ⟨shown, index, total⟩
    let result ← Scanning.ofSearching (scanFile d rules path shown)
    return (← scanFiles d root rules stopAt total (index + 1) rest).add shown result

/-- Scans a project. The duration is taken by the caller. -/
def scan (p : Package) (d : Disk) (root : String) (c : Config) (stopAt : StopAt)
    (duration : Int) : Scanning ScanResult :=
  if d.isFolder root then do
    let rules ← Scanning.ofAttempt (resolveRules p d root c)
    let files := selectFiles d root c.includes c.excludes
    let harvest ← scanFiles d root rules stopAt files.length 0 files
    -- Fingerprints are given at the end, since they number the findings of the whole scan.
    return { findings := assignFingerprints harvest.findings, rulesExecuted := rules.length,
             filesScanned := files.length, linesScanned := harvest.lines, duration,
             failedFiles := harvest.failed }
  else do
    Scanning.ofAttempt (note (.noProject root))
    return {}

end CodeAudit

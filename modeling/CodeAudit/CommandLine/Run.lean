import CodeAudit.CommandLine.Invocation
import CodeAudit.Console

/-!
# Running Commands

What the program does when it is called.

A command ends with an exit code and has shown something on the two channels: results on
the one, everything else on the other. A configuration that is wrong is shown and ends the
command, and so does the wish of the user to stop a scan. Any other failure ends the
program.

The outcome of a command says what it hands to the console, and the exit code it has if the console
prints that. Whether it does is up to the `Console`, which is not described any further.

A scan exits with one if findings that are still there are serious.

## Main definitions

* `ProgressCall`: What is told to the progress bar.
* `Outcome`: What a command shows, and its exit code.
* `Console`: What can be shown.
* `Outcome.codeOn`: The exit code of a command on a console.
* `ScanOptions.resolve`: The configuration of a scan.
* `runScan`, `runReport`, `runRules`: The commands.
* `Invocation.run`: Runs a command.
-/

namespace CodeAudit

/-- What is told to the progress bar: that there is something to do, how much of it there
    is, and how far it has come. -/
inductive ProgressCall
  | add (text : String)
  | total (n : Nat)
  | completed (n : Nat) (text : String)
deriving DecidableEq, Repr

/-- What a command shows, and its exit code. -/
structure Outcome where
  code : Nat
  out : List Item := []
  err : List Item := []
  progress : List ProgressCall := []
deriving DecidableEq, Repr

/-- The two channels of a console, each with the items that it can print. A text that is shown as it
    was found may have marks in brackets that are no colours, and a console need not be able to print
    it. -/
structure Console where
  out : Item → Bool
  err : Item → Bool

/-- The exit code of a command on a console. If there is an item that the console cannot print, then
    the program ends there with a failure of the console. -/
def Outcome.codeOn (console : Console) (o : Outcome) : Option Nat :=
  if o.out.all console.out && o.err.all console.err then some o.code else none

/-- The last characters of a path. -/
def pathTail (path : String) : String :=
  let cs := path.toList
  String.ofList (cs.drop (cs.length - 60))

/-- What is told to the progress bar about the turn of a file. -/
def turnCall (a : Announcement) : ProgressCall :=
  .completed (a.index + 1) ("Scanning " ++ pathTail a.path)

/-- What is told to the progress bar during a scan. The number of files is told with the
    first of them. -/
def progressCalls (announced : List Announcement) : List ProgressCall :=
  .add "Scanning..." ::
    match announced with
    | [] => []
    | a :: rest => .total a.total :: (a :: rest).map turnCall

/-- A text that says something. -/
def given (s : Option String) : Option String :=
  s.filter fun s => !s.isEmpty

namespace ScanOptions

/-- A configuration with what the user asked for put over it. -/
def override (o : ScanOptions) (c : Config) : Config where
  includes := o.includes.getD c.includes
  excludes := o.excludes.getD c.excludes
  enabledRules := o.enableRules.getD c.enabledRules
  disabledRules := o.disableRules.getD c.disabledRules
  customRulesPath := (given o.rulesFolder).getD c.customRulesPath
  minSeverity := o.minSeverity.getD c.minSeverity

/-- The configuration of a scan: that of the project or of a file that is named, with what
    the user asked for put over it. -/
def resolve (o : ScanOptions) (d : Disk) : Attempt Config := do
  let c ← Config.load d ((given o.config).getD (Config.path o.path))
  return o.override c

end ScanOptions

/-- The outcome of a command that the configuration is wrong for. -/
def wrongConfig (e : ConfigError) : Outcome :=
  { code := 2, err := [.line (Show.styled "red" (e.text Wording.full))] }

/-- A configuration, or the mistake in it. -/
def tryConfig (x : Attempt Config) : Action (Except ConfigError Config) :=
  tryCatch (return .ok (← Action.ofAttempt x)) fun
    | .config e => return .error e
    -- A failure of another kind is not about the configuration, and ends the program.
    | e => throw e

/-- The outcome of a scan, or nothing if the user stopped it. -/
def tryScan (x : Action (Report × ScanResult)) : Action (Option (Report × ScanResult)) :=
  tryCatch (return some (← x)) fun
    | .interrupted => return none
    | e => throw e

/-- A report has findings that are still there and serious. -/
def isSerious (r : Report) : Bool :=
  r.active.any fun f => f.severity.atLeast .high

/-- What is shown about a report. -/
def showReport (r : Report) (result : Option ScanResult) (verbose showClosed : Bool) :
    Except Failure (List Item) := do
  return Show.findings r verbose showClosed ++ (← Show.summary r result)

/-- Writes a report to a file of its own. -/
def exportReport (path : String) (r : Report) : Action Unit :=
  Action.ofFiling do
    let form ← ExceptT.mk (pure (ReportStore.formOf r))
    Filing.run path fun d => d.writeFile path (ReportStore.contentOf form)

/-- Writes a report to the file that the user asked for, if any, and tells so. -/
def exportIfAsked (path : Option String) (r : Report) : Action (List Item) := do
  match given path with
  | none => return []
  | some path =>
    exportReport path r
    return [.line ("\n" ++ Show.styled "green" ("Report exported to " ++ path))]

/-- A result as an operation of the program. -/
def Action.ofExcept {α : Type} (x : Except Failure α) : Action α :=
  ExceptT.mk (pure x)

/-- Scans a project. -/
def runScan (p : Package) (o : ScanOptions) (verbose : Bool) (stopAt : StopAt) (clock : Clock) :
    Action Outcome := do
  -- The project is looked at as it is before anything is written.
  let d := (← get).disk
  if !d.isFolder o.path then
    return { code := 2, err := [.line (Show.styled "red" ("Not a directory: " ++ o.path))] }
  match ← tryConfig (o.resolve d) with
  | .error e => return wrongConfig e
  | .ok config =>
    let name := projectName d o.path none
    let scanned ← tryScan (executeScan p o.path name config stopAt clock)
    -- What has been announced is shown also where the scan was stopped.
    let progress := progressCalls (← get).scan.announced
    match scanned with
    | none =>
      let stopped := Item.line ("\n" ++ Show.styled "yellow" "Scan interrupted.")
      return { code := 130, err := Show.banner ++ [stopped], progress }
    | some (report, result) =>
      -- The report has been kept by now. A failure from here on loses what would be shown.
      let out ← Action.ofExcept (showReport report (some result) verbose o.showClosed)
      let exported ← exportIfAsked o.jsonOutput report
      return { code := if isSerious report then 1 else 0, out, err := Show.banner ++ exported,
               progress }

/-- The report that the user asked for. -/
def askedReport (d : Disk) (o : ReportOptions) : Attempt (Option Report) :=
  match given o.id with
  | some id => ReportStore.byId d o.path id
  | none => ReportStore.latest d o.path

/-- Shows reports of a project. -/
def runReport (o : ReportOptions) (verbose : Bool) : Action Outcome := do
  let d := (← get).disk
  if o.all then
    let reports ← Action.ofAttempt (ReportStore.all d o.path)
    -- The list is made before anything is shown, so a report that cannot be listed hides the
    -- others.
    return { code := 0, out := ← Action.ofExcept (Show.reportList reports) }
  match ← Action.ofAttempt (askedReport d o) with
  | none => return { code := 1, err := [.line (Show.styled "yellow" "No report found.")] }
  | some r =>
    return { code := 0, out := ← Action.ofExcept (showReport r none verbose o.showClosed) }

/-- A rule is one of those that the user asked for. -/
def RuleOptions.wants (o : RuleOptions) (r : Rule) : Bool :=
  o.category.all (· == r.category) && o.severity.all (· == r.severity)

/-- Shows the rules that apply to a project. -/
def runRules (p : Package) (o : RuleOptions) : Action Outcome := do
  let d := (← get).disk
  match ← tryConfig (Config.load d (Config.path o.path)) with
  | .error e => return wrongConfig e
  | .ok config =>
    let rules ← Action.ofAttempt (allRules p d (some (customFolder o.path config)))
    return { code := 0, out := Show.ruleList (rules.filter o.wants) }

/-- The least level of events that are told to the user. -/
def Invocation.logLevel (i : Invocation) : Level :=
  if i.verbose then .debug else .warning

/-- Runs a command. -/
def Invocation.run (p : Package) (i : Invocation) (stopAt : StopAt) (clock : Clock) :
    Action Outcome :=
  match i.command with
  | .scan o => runScan p o i.verbose stopAt clock
  | .report o => runReport o i.verbose
  | .rules o => runRules p o

end CodeAudit

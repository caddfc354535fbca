import CodeAudit.CommandLine.Grammar
import CodeAudit.Label

/-!
# Invocations

What the user asks the program to do.

There are three commands: to scan a project, to show its reports, and to show the rules
that apply to it. Each takes the folder of the project, which is the current folder if none
is given.

## Main definitions

* `ScanOptions`, `ReportOptions`, `RuleOptions`: What the commands are given.
* `Command`, `Invocation`: What the user asks for.
* `Invocation.read`: The invocation of a command line.
-/

namespace CodeAudit

open Arguments

/-- What a scan is given. -/
structure ScanOptions where
  path : String := "."
  config : Option String := none
  includes : Option (List String) := none
  excludes : Option (List String) := none
  enableRules : Option (List String) := none
  disableRules : Option (List String) := none
  rulesFolder : Option String := none
  minSeverity : Option Severity := none
  jsonOutput : Option String := none
  showClosed : Bool := false
deriving DecidableEq, Repr

/-- What is given where reports are shown: one of them can be asked for, or all. -/
structure ReportOptions where
  path : String := "."
  id : Option String := none
  all : Bool := false
  showClosed : Bool := false
deriving DecidableEq, Repr

/-- What is given where rules are shown. -/
structure RuleOptions where
  path : String := "."
  category : Option Category := none
  severity : Option Severity := none
deriving DecidableEq, Repr

/-- What the program is asked to do. -/
inductive Command
  | scan (o : ScanOptions)
  | report (o : ReportOptions)
  | rules (o : RuleOptions)
deriving DecidableEq, Repr

/-- What the user asks for. -/
structure Invocation where
  verbose : Bool
  command : Command
deriving DecidableEq, Repr

namespace Invocation

/-- A flag that asks for help. -/
def helpFlag {σ : Type} : Flag σ :=
  ⟨["-h", "--help"], .none, fun _ _ => .error .help⟩

/-- A flag that is there or not. -/
def switchFlag {σ : Type} (name : String) (turnOn : σ → σ) : Flag σ :=
  ⟨[name], .none, fun _ s => .ok (turnOn s)⟩

/-- A flag with one argument. -/
def valueFlag {σ : Type} (name : String) (assign : String → σ → σ) : Flag σ :=
  ⟨[name], .one, fun args s =>
    match args with
    | [arg] => .ok (assign arg s)
    | _ => .error .wrong⟩

/-- A flag with one argument or more. -/
def listFlag {σ : Type} (name : String) (assign : List String → σ → σ) : Flag σ :=
  ⟨[name], .many, fun args s => .ok (assign args s)⟩

/-- A flag with one argument, which is a word of a vocabulary. -/
def choiceFlag {σ α : Type} (name : String) (word : α → String) (all : List α)
    (assign : α → σ → σ) : Flag σ :=
  ⟨[name], .one, fun args s =>
    match args with
    | [arg] =>
      match memberOf? word all arg with
      | some a => .ok (assign a s)
      | none => .error .wrong
    | _ => .error .wrong⟩

/-- What a scan takes. -/
def scanGrammar : Grammar ScanOptions where
  flags :=
    [helpFlag,
     valueFlag "--config" fun v o => { o with config := some v },
     listFlag "--include" fun vs o => { o with includes := some vs },
     listFlag "--exclude" fun vs o => { o with excludes := some vs },
     listFlag "--enable-rule" fun vs o => { o with enableRules := some vs },
     listFlag "--disable-rule" fun vs o => { o with disableRules := some vs },
     valueFlag "--rules-dir" fun v o => { o with rulesFolder := some v },
     choiceFlag "--min-severity" Severity.label Severity.all fun v o =>
       { o with minSeverity := some v },
     valueFlag "--json-output" fun v o => { o with jsonOutput := some v },
     switchFlag "--show-closed" fun o => { o with showClosed := true }]
  operand := .optional fun path o => { o with path }

/-- What is taken where reports are shown. One report and all reports exclude each
    other. -/
def reportGrammar : Grammar ReportOptions where
  flags :=
    [helpFlag,
     ⟨["--id"], .one, fun args o =>
       match args with
       -- The other flag is looked for in what has been read so far, so the second one is the
       -- wrong one.
       | [id] => if o.all then .error .wrong else .ok { o with id := some id }
       | _ => .error .wrong⟩,
     ⟨["--all"], .none, fun _ o =>
       if o.id.isSome then .error .wrong else .ok { o with all := true }⟩,
     switchFlag "--show-closed" fun o => { o with showClosed := true }]
  operand := .optional fun path o => { o with path }

/-- What is taken where rules are shown. -/
def ruleGrammar : Grammar RuleOptions where
  flags :=
    [helpFlag,
     choiceFlag "--category" Category.label Category.all fun v o => { o with category := some v },
     choiceFlag "--severity" Severity.label Severity.all fun v o => { o with severity := some v }]
  operand := .optional fun path o => { o with path }

/-- What has been read of an invocation: whether it is verbose, its command, and whether
    something strange was met within the command. -/
structure Draft where
  verbose : Bool
  command : Option Command
  strange : Bool

/-- Reads the arguments of a command. -/
def readCommand {σ : Type} (g : Grammar σ) (start : σ) (asCommand : σ → Command)
    (args : List String) (d : Draft) : Except Stop Draft := do
  let p ← g.read args start
  return { d with command := some (asCommand p.state), strange := d.strange || p.strange }

/-- What the program takes. -/
def grammar : Grammar Draft where
  flags :=
    [helpFlag,
     ⟨["--version"], .none, fun _ _ => .error .version⟩,
     ⟨["-v", "--verbose"], .none, fun _ d => .ok { d with verbose := true }⟩]
  operand := .command fun name args d =>
    if name == "scan" then readCommand scanGrammar {} .scan args d
    else if name == "report" then readCommand reportGrammar {} .report args d
    else if name == "rules" then readCommand ruleGrammar {} .rules args d
    else .error .wrong

/-- The invocation of a command line. -/
def read (args : List String) : Except Stop Invocation := do
  let p ← grammar.read args ⟨false, none, false⟩
  match p.state.command with
  | none => throw .wrong
  | some command =>
    -- What was strange is told only after all flags have taken effect, so help comes first.
    if p.strange || p.state.strange then throw .wrong
    else return ⟨p.state.verbose, command⟩

end Invocation

end CodeAudit

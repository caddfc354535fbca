import CodeAudit.Config.Basic
import CodeAudit.Report.Basic
import CodeAudit.Rule.Decode

/-!
# Failures

Why an operation of the program ends without a result.

The parts of the program have error types of their own. Where they are put together, the
errors meet in one type, which keeps the causes apart.

## Main definitions

* `Failure`: A cause.
* `Failure.text`: Its message.
* `Failure.spoilsRule`: A failure that costs no more than one rule.
* `Failure.spoilsReport`: A failure that costs no more than one report.
-/

namespace CodeAudit

/-- Why a moment of time has no text. -/
inductive TimeError
  /-- The number is too large to be a time at all. -/
  | tooLarge
  /-- The system cannot turn the number into a day. -/
  | noSuchDay
  /-- The year is not one of those that are written. -/
  | yearOutOfRange
deriving DecidableEq, Repr

/-- Why an operation ends without a result. -/
inductive Failure
  | rule (e : RuleError)
  /-- A document is not a report. -/
  | report (fault : Fault)
  | config (e : ConfigError)
  /-- A value is not what it has to be. -/
  | fault (f : Fault)
  /-- A scalar of a document is not what it is marked as. -/
  | defect (d : Yaml.Defect)
  | file (path : String) (e : FileError)
  | package (name : String) (e : PackageTrouble)
  /-- The bytes of a file are not a text. -/
  | notText
  /-- A text is not JSON. -/
  | json
  | pattern (e : Pattern.ParseError)
  | time (e : TimeError)
  /-- A path is needed and none is given. -/
  | noPath
  /-- The user asked the program to stop. -/
  | interrupted
deriving Repr

namespace Failure

/-- The message of a time that has no text. -/
def timeText : TimeError → String
  | .tooLarge => "the time is too large"
  | .noSuchDay => "the time is out of range"
  | .yearOutOfRange => "the year is out of range"

/-- The message of a failure, given the wording of what it quotes. -/
def text (w : Wording) : Failure → String
  | .rule e => e.text w
  | .report f => "Malformed report: " ++ w.fault f
  | .config e => e.text w
  | .fault f => w.fault f
  | .defect d => w.defect d
  | .file path e => w.file path e
  | .package name e => w.package name e
  | .notText => w.notText
  | .json => w.json
  | .pattern e => w.pattern e
  | .time e => timeText e
  | .noPath => "no path specified"
  | .interrupted => "interrupted"

/-- A failure to read a rule as a failure. -/
def ofRule : RuleFailure → Failure
  | .invalid e => .rule e
  | .broken f => .fault f
  | .defect d => .defect d

/-- A failure to read a report as a failure. -/
def ofReport : ReportFailure → Failure
  | .malformed f => .report f
  | .tooLarge => .fault .tooLarge

/-- A failure to read JSON as a failure. -/
def ofJson : Json.ReadError → Failure
  | .malformed => .json
  | .fault f => .fault f

/-- A failure to lay a document over a configuration as a failure. -/
def ofOverlay : OverlayError → Failure
  | .config e => .config e
  | .fault f => .fault f

/-- A failure that costs no more than the rule it is met in: the rule is left out. -/
def spoilsRule : Failure → Bool
  | .rule _ | .file _ _ | .notText => true
  | _ => false

/-- A fault that is about how a value is written. -/
def isSpelling : Fault → Bool
  | .unknownLabel _ _ | .notAStatus _ | .notAnInteger _ _ | .integerTooLong _ | .notANumber => true
  | _ => false

/-- A failure that costs no more than the report it is met in: the report is left out. -/
def spoilsReport : Failure → Bool
  | .report _ | .file _ _ | .notText | .json => true
  | .fault f => isSpelling f
  | _ => false

end Failure

/-- A result whose error is turned into a failure. -/
def orFailure {ε α : Type} (asFailure : ε → Failure) : Except ε α → Except Failure α
  | .ok a => .ok a
  | .error e => .error (asFailure e)

end CodeAudit

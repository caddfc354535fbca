import CodeAudit.Failure

/-!
# The Log

What the program tells about its work.

An entry of the log is an event, with the values that it is about. Its level and its text
follow from the event. An operation that tells something is a state transformer on the list
of events so far, and one that can fail keeps what it told before it failed.

## Main definitions

* `Level`: How much an event matters.
* `Event`: Something that happened.
* `Event.level`, `Event.text`: Its level and its text.
* `Attempt`: An operation that can fail and tells what happens.
* `note`: Tells an event.
-/

namespace CodeAudit

/-- How much an event matters. -/
inductive Level
  | debug
  | info
  | warning
deriving DecidableEq, Repr

/-- The word for a level. -/
def Level.label : Level → String
  | .debug => "DEBUG"
  | .info => "INFO"
  | .warning => "WARNING"

/-- Why a source file is left out. -/
inductive SourceTrouble
  /-- The file has too many bytes. -/
  | tooLarge (size : Nat)
  /-- The file is not a text. -/
  | binary
  | unreadable (e : FileError)
deriving DecidableEq, Repr

/-- Something that happened. -/
inductive Event
  /-- A text of a rule is not a regular expression. -/
  | badPattern (ruleId pattern : String) (e : Pattern.ParseError)
  /-- A source file is left out. -/
  | sourceSkipped (path : String) (t : SourceTrouble)
  /-- A file that was selected is not searched. -/
  | fileNotScanned (path : String)
  | packageUnavailable (name : String) (t : PackageTrouble)
  | builtinRuleSkipped (name : String) (why : Failure)
  | customRuleSkipped (path : String) (why : Failure)
  | noConfigFile (path : String)
  | unknownConfigKeys (keys : List String)
  /-- There is no folder to look for files in. -/
  | noProject (root : String)
  /-- There is no folder to scan and to keep a report in. -/
  | nothingScanned (root : String)
  | scanStarted (project root : String)
  | previousFound (id : String)
  | noPrevious
  | scanComplete (files lines rules : Int) (findings : Nat)
  | reportSaved (path : String)
  | counted (total new persistent closed : Int)
  | latestUnreadable (path : String) (why : Failure)
  | reportSkipped (path : String) (why : Failure)
deriving Repr

namespace Event

/-- The level of an event. -/
def level : Event → Level
  | .badPattern .. | .fileNotScanned .. | .packageUnavailable .. | .builtinRuleSkipped ..
  | .customRuleSkipped .. | .unknownConfigKeys .. | .noProject .. | .nothingScanned ..
  | .latestUnreadable .. => .warning
  | .sourceSkipped _ (.tooLarge _) => .warning
  | .sourceSkipped .. | .noConfigFile .. | .reportSkipped .. => .debug
  | .scanStarted .. | .previousFound .. | .noPrevious | .scanComplete .. | .reportSaved ..
  | .counted .. => .info

/-- The text about a source file that is left out. -/
def skippedText (w : Wording) (path : String) : SourceTrouble → String
  | .tooLarge size =>
    "Skipping " ++ path ++ ": exceeds 10MB limit (" ++ toString size ++ " bytes)"
  | .binary => "Skipping binary file " ++ path
  | .unreadable e => "Cannot read " ++ path ++ ": " ++ w.file path e

/-- The text of an event, given the wording of what it quotes. -/
def text (w : Wording) : Event → String
  | .badPattern ruleId pattern e =>
    "Invalid regex in rule " ++ ruleId ++ " (" ++ quoted pattern ++ "): " ++ w.pattern e
  | .sourceSkipped path t => skippedText w path t
  | .fileNotScanned path => "Error scanning file " ++ path ++ ": could not read file"
  | .packageUnavailable name t =>
    "Built-in rule package " ++ name ++ " unavailable: " ++ w.package name t
  | .builtinRuleSkipped name why => "Skipping built-in rule " ++ name ++ ": " ++ why.text w
  | .customRuleSkipped path why => "Skipping custom rule " ++ path ++ ": " ++ why.text w
  | .noConfigFile path => "No config file at " ++ path ++ ", using defaults"
  | .unknownConfigKeys keys => "Ignoring unknown config keys: " ++ String.intercalate ", " keys
  | .noProject root => "Project root " ++ root ++ " does not exist or is not a directory"
  | .nothingScanned root =>
    "Project root " ++ root ++ " is not a directory; nothing scanned or saved"
  | .scanStarted project root => "Starting scan for project " ++ project ++ " at " ++ root
  | .previousFound id =>
    "Found previous report " ++ id ++ "; tracking changes since last scan"
  | .noPrevious => "No previous report found - performing baseline scan"
  | .scanComplete files lines rules findings =>
    "Scan complete: " ++ toString files ++ " files, " ++ toString lines ++ " lines, " ++
      toString rules ++ " rules, " ++ toString findings ++ " findings"
  | .reportSaved path => "Report saved to: " ++ path
  | .counted total new persistent closed =>
    "Summary: total=" ++ toString total ++ " new=" ++ toString new ++ " persistent=" ++
      toString persistent ++ " closed=" ++ toString closed
  | .latestUnreadable path why => "Error loading latest report " ++ path ++ ": " ++ why.text w
  | .reportSkipped path why => "Skipping unreadable report " ++ path ++ ": " ++ why.text w

end Event

/-- The events so far, the latest last. -/
abbrev Log := List Event

/-- An operation that can fail and tells what happens. -/
abbrev Attempt := ExceptT Failure (StateM Log)

/-- Tells an event. -/
def note (e : Event) : Attempt Unit :=
  modify fun log => log ++ [e]

/-- A result as an operation that tells nothing. -/
def Attempt.ofExcept {α : Type} (x : Except Failure α) : Attempt α :=
  ExceptT.mk (pure x)

end CodeAudit

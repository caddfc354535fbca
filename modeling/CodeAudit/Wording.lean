import CodeAudit.Disk
import CodeAudit.Json.Read
import CodeAudit.Pattern.Parse
import CodeAudit.Yaml.Error

/-!
# Wording

How a message words what it quotes from elsewhere.

The messages of this program quote causes that are not its own to word: what is wrong with
a document, why the system refuses a file, what a regular expression lacks. Each message
is therefore a function of a `Wording`. The full wording tells each cause as exactly as it
is known; a caller who needs less can pass another one.

## Main definitions

* `PackageTrouble`: Why a package of rules cannot be looked into.
* `Wording`: The words for each kind of cause.
* `Wording.full`: The words that tell each cause as exactly as it is known.
-/

namespace CodeAudit

/-- Why a package of rules cannot be looked into. -/
inductive PackageTrouble
  /-- There is nothing of that name. -/
  | missing
  /-- What has that name does not hold files. -/
  | notAFolder
deriving DecidableEq, Repr

/-- The message of a package that cannot be looked into. -/
def PackageTrouble.text (name : String) : PackageTrouble → String
  | .missing => "No module named " ++ quoted name
  | .notAFolder => quoted name ++ " is not a package"

/-- The number by which the system knows an error. -/
def FileError.number : FileError → Nat
  | .notFound => 2
  | .exists => 17
  | .notFolder => 20
  | .isFolder => 21
  | .tooManyLinks => 40

/-- The message of an operation that failed at a path. -/
def FileError.at (path : String) (e : FileError) : String :=
  "[Errno " ++ toString e.number ++ "] " ++ e.text ++ ": " ++ quoted path

/-- The words for each kind of cause. -/
structure Wording where
  fault : Fault → String
  trouble : Yaml.Trouble → String
  defect : Yaml.Defect → String
  file : String → FileError → String
  package : String → PackageTrouble → String
  pattern : Pattern.ParseError → String
  notText : String
  json : String

/-- The words that tell each cause as exactly as it is known. -/
def Wording.full : Wording where
  fault := Fault.text
  trouble := Yaml.Trouble.text
  defect := Yaml.Defect.text
  file := FileError.at
  package := PackageTrouble.text
  pattern := Pattern.ParseError.text
  notText := "the file is not written in UTF-8"
  json := Json.ReadError.malformed.text

end CodeAudit

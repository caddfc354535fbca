import CodeAudit.Text.Blank
import CodeAudit.Text.Case
import CodeAudit.Value.Fault

/-!
# Labels

The fixed vocabularies of rules and findings.

Each vocabulary is a type with one constructor for each word, the list of all of
them, and the word itself. A value spells a member if its text is the word, up to
blanks at either end and the case of letters. Severities are ordered, and their
words are compared in capital letters; all others in small ones.

The state of a finding is different: it is written by the program only, and has to
be spelled exactly.

## Main definitions

* `Severity`, `Severity.rank`: How serious a finding is.
* `Category`: What a rule is about.
* `Framework`: A set of requirements that a rule belongs to.
* `PatternKind`: How a pattern finds its matches.
* `FixKind`: What a quick fix does.
* `Status`: The state of a finding between scans.
* `Severity.parse`, `Category.parse`, …: The member a value spells.
-/

namespace CodeAudit

/-- The member of a vocabulary whose word a text is. -/
def memberOf? {α : Type} (word : α → String) (all : List α) (s : String) : Option α :=
  all.find? fun a => word a == s

/-- The member of a vocabulary that a value spells, or the fault of a word that is
    not in it. -/
def spelledMember {α : Type} (kind : String) (word : α → String) (all : List α)
    (fold : String → String) (v : Value) : Except Fault α := do
  let s ← v.told
  match memberOf? word all (fold (trimmed s)) with
  | some a => return a
  | none => throw (.unknownLabel kind v)

/-- How serious a finding is. -/
inductive Severity
  | info
  | low
  | medium
  | high
  | critical
deriving DecidableEq, Repr

namespace Severity

/-- All severities, the most serious one last. -/
def all : List Severity := [.info, .low, .medium, .high, .critical]

/-- The position of a severity in the order of seriousness. -/
def rank : Severity → Nat
  | .info => 0
  | .low => 1
  | .medium => 2
  | .high => 3
  | .critical => 4

/-- The word for a severity, in small letters. -/
def label : Severity → String
  | .info => "info"
  | .low => "low"
  | .medium => "medium"
  | .high => "high"
  | .critical => "critical"

/-- The word for a severity, in capital letters. -/
def name : Severity → String
  | .info => "INFO"
  | .low => "LOW"
  | .medium => "MEDIUM"
  | .high => "HIGH"
  | .critical => "CRITICAL"

/-- The word for a severity with a capital initial. -/
def title : Severity → String
  | .info => "Info"
  | .low => "Low"
  | .medium => "Medium"
  | .high => "High"
  | .critical => "Critical"

/-- A severity is at least as serious as another. -/
def atLeast (s least : Severity) : Bool :=
  least.rank ≤ s.rank

/-- The severity a value spells. -/
def parse (v : Value) : Except Fault Severity :=
  spelledMember "severity" name all uppered v

end Severity

/-- What a rule is about. -/
inductive Category
  | security
  | compliance
  | quality
  | documentation
  | apiSecurity
  | dataSecurity
  | cryptography
  | authentication
  | authorization
  | injection
  | secrets
deriving DecidableEq, Repr

namespace Category

/-- All categories. -/
def all : List Category :=
  [.security, .compliance, .quality, .documentation, .apiSecurity, .dataSecurity,
   .cryptography, .authentication, .authorization, .injection, .secrets]

/-- The word for a category. -/
def label : Category → String
  | .security => "security"
  | .compliance => "compliance"
  | .quality => "quality"
  | .documentation => "documentation"
  | .apiSecurity => "api_security"
  | .dataSecurity => "data_security"
  | .cryptography => "cryptography"
  | .authentication => "authentication"
  | .authorization => "authorization"
  | .injection => "injection"
  | .secrets => "secrets"

/-- The category a value spells. -/
def parse (v : Value) : Except Fault Category :=
  spelledMember "RuleCategory" label all lowered v

end Category

/-- A set of requirements that a rule belongs to. -/
inductive Framework
  | pciDss
  | soc2
  | hipaa
  | gdpr
  | owasp
  | cwe
  | nist
deriving DecidableEq, Repr

namespace Framework

/-- All frameworks. -/
def all : List Framework := [.pciDss, .soc2, .hipaa, .gdpr, .owasp, .cwe, .nist]

/-- The word for a framework. -/
def label : Framework → String
  | .pciDss => "pci_dss"
  | .soc2 => "soc2"
  | .hipaa => "hipaa"
  | .gdpr => "gdpr"
  | .owasp => "owasp"
  | .cwe => "cwe"
  | .nist => "nist"

/-- The framework a value spells. -/
def parse (v : Value) : Except Fault Framework :=
  spelledMember "ComplianceFramework" label all lowered v

end Framework

/-- How a pattern finds its matches. Only regular expressions are searched for; the
    other kinds are accepted and find nothing. -/
inductive PatternKind
  | regex
  | ast
  | semantic
  | taint
deriving DecidableEq, Repr

namespace PatternKind

/-- All kinds of patterns. -/
def all : List PatternKind := [.regex, .ast, .semantic, .taint]

/-- The word for a kind of pattern. -/
def label : PatternKind → String
  | .regex => "regex"
  | .ast => "ast"
  | .semantic => "semantic"
  | .taint => "taint"

/-- The kind of pattern a value spells. -/
def parse (v : Value) : Except Fault PatternKind :=
  spelledMember "PatternType" label all lowered v

end PatternKind

/-- What a quick fix does. -/
inductive FixKind
  | remove
  | replace
  | suggest
  | refactor
deriving DecidableEq, Repr

namespace FixKind

/-- All kinds of quick fixes. -/
def all : List FixKind := [.remove, .replace, .suggest, .refactor]

/-- The word for a kind of quick fix. -/
def label : FixKind → String
  | .remove => "remove"
  | .replace => "replace"
  | .suggest => "suggest"
  | .refactor => "refactor"

/-- The kind of quick fix a value spells. -/
def parse (v : Value) : Except Fault FixKind :=
  spelledMember "QuickFixType" label all lowered v

end FixKind

/-- The state of a finding between scans. -/
inductive Status
  | new
  | persistent
  | closed
  | fixed
deriving DecidableEq, Repr

namespace Status

/-- All states. -/
def all : List Status := [.new, .persistent, .closed, .fixed]

/-- The word for a state. -/
def label : Status → String
  | .new => "NEW"
  | .persistent => "PERSISTENT"
  | .closed => "CLOSED"
  | .fixed => "FIXED"

/-- A finding in this state is still there. -/
def isActive : Status → Bool
  | .new | .persistent => true
  | .closed | .fixed => false

/-- The state a value spells, which has to be a text and spelled exactly. -/
def parse (v : Value) : Except Fault Status :=
  match v with
  | .text s =>
    match memberOf? label all s with
    | some state => .ok state
    | none => .error (.notAStatus v)
  | _ => .error (v.blamed .notAStatus)

end Status

end CodeAudit

import CodeAudit.Label

/-!
# Rules

What a rule says.

A rule names a weakness, says how serious it is and what it is about, and gives the
patterns by which it is found in a source text. It can refer to controls of compliance
frameworks and propose a quick fix.

## Main definitions

* `ComplianceTag`: A control of a framework that a rule refers to.
* `QuickFix`: A proposal to mend a finding.
* `RulePattern`: A way to find a weakness in files of some types.
* `Rule`: A rule.
* `Rule.findById?`: The first rule with an identifier.
* `ComplianceTag.decode`, `QuickFix.decode`: Tags and fixes of a document.
* `ComplianceTag.encode`, `QuickFix.encode`: Their form in a document.
-/

namespace CodeAudit

/-- A control of a framework that a rule refers to. -/
structure ComplianceTag where
  framework : Framework
  control : String
  requirement : String
deriving DecidableEq, Repr

namespace ComplianceTag

/-- The tag of a document. The requirement may be left out. -/
def decode (v : Value) : Except Fault ComplianceTag := do
  let framework ← Framework.parse (← v.demand "framework")
  let control ← (← v.demand "control").told
  let requirement ← (← v.fieldOr "requirement" (.text "")).told
  return ⟨framework, control, requirement⟩

/-- The form of a tag in a document. -/
def encode (t : ComplianceTag) : Value :=
  .mapping
    [(.text "framework", .text t.framework.label),
     (.text "control", .text t.control),
     (.text "requirement", .text t.requirement)]

end ComplianceTag

/-- A text that may be missing, as a value. -/
def optionalText : Option String → Value
  | some s => .text s
  | none => .null

/-- A proposal to mend a finding. -/
structure QuickFix where
  kind : FixKind
  description : String
  replacement : Option String
deriving DecidableEq, Repr

namespace QuickFix

/-- The quick fix of a document. Description and replacement may be left out. -/
def decode (v : Value) : Except Fault QuickFix := do
  let replacement ← v.fieldOr "replacement" .null
  let kind ← FixKind.parse (← v.demand "type")
  let description ← (← v.fieldOr "description" (.text "")).told
  return ⟨kind, description, ← replacement.toldUnlessNull⟩

/-- The form of a quick fix in a document. -/
def encode (q : QuickFix) : Value :=
  .mapping
    [(.text "type", .text q.kind.label),
     (.text "description", .text q.description),
     (.text "replacement", optionalText q.replacement)]

end QuickFix

/-- A way to find a weakness. It applies to files with one of the types, or to all files if
    no type is given, and may have a message of its own. -/
structure RulePattern where
  kind : PatternKind
  text : String
  fileTypes : List String
  message : Option String
deriving DecidableEq, Repr

/-- A rule. -/
structure Rule where
  id : String
  name : String
  description : String
  severity : Severity
  category : Category
  compliance : List ComplianceTag
  patterns : List RulePattern
  quickFix : Option QuickFix
  enabled : Bool
  custom : Bool
deriving DecidableEq, Repr

namespace Rule

/-- The first rule with an identifier. -/
def findById? (rules : List Rule) (id : String) : Option Rule :=
  rules.find? fun r => r.id == id

end Rule

end CodeAudit

import CodeAudit.Rule.Basic

/-!
# Findings

A place in a source text that a rule objects to.

A finding repeats what the rule says about it, so that it can be read without the rule.
Scans over time add a state and the times at which it was first and last seen; these
times are kept as they were read, whatever they are, because nothing is computed from
them. A fingerprint tells whether two findings of different scans are the same.

## Main definitions

* `Finding`: A finding.
* `Finding.isActive`: The finding is still there.
* `Finding.withStatus`: The finding in a new state.
* `Finding.decode`, `Finding.encode`: Findings in documents.
-/

namespace CodeAudit

/-- A place in a source text that a rule objects to. -/
structure Finding where
  ruleId : String
  ruleName : String
  severity : Severity
  category : Category
  description : String
  path : String
  line : Int
  column : Int
  snippet : String
  matched : String
  compliance : List ComplianceTag
  quickFix : Option QuickFix
  status : Option Status
  firstDetected : Value
  lastDetected : Value
  fingerprint : String
deriving Repr

namespace Finding

/-- The finding is still there. A finding without a state counts as there. -/
def isActive (f : Finding) : Bool :=
  match f.status with
  | some s => s.isActive
  | none => true

/-- The finding in a new state, last seen at a time. -/
def withStatus (f : Finding) (status : Status) (now : Int) : Finding :=
  { f with status := some status, lastDetected := .int now }

/-- The finding in a new state, last seen at a time and first seen at another. -/
def seenSince (f : Finding) (status : Status) (now : Int) (first : Value) : Finding :=
  { f.withStatus status now with firstDetected := first }

/-- A quick fix that may be missing, in the form of a document. -/
def encodeFix : Option QuickFix → Value
  | some q => q.encode
  | none => .null

/-- A state that may be missing, in the form of a document. -/
def encodeStatus : Option Status → Value
  | some s => .text s.label
  | none => .null

/-- A finding in the form of a document. -/
def encode (f : Finding) : Value :=
  .mapping
    [(.text "ruleId", .text f.ruleId),
     (.text "ruleName", .text f.ruleName),
     (.text "severity", .text f.severity.label),
     (.text "category", .text f.category.label),
     (.text "description", .text f.description),
     (.text "filePath", .text f.path),
     (.text "lineNumber", .int f.line),
     (.text "columnNumber", .int f.column),
     (.text "codeSnippet", .text f.snippet),
     (.text "matchedText", .text f.matched),
     (.text "compliance", .list (f.compliance.map ComplianceTag.encode)),
     (.text "quickFix", encodeFix f.quickFix),
     (.text "status", encodeStatus f.status),
     (.text "firstDetected", f.firstDetected),
     (.text "lastDetected", f.lastDetected),
     (.text "fingerprint", .text f.fingerprint)]

/-- The text under a key, empty if there is none. -/
def textField (key : String) (v : Value) : Except Fault String := do
  (← v.fieldOr key (.text "")).told

/-- The integer under a key, zero if there is none. -/
def countField (key : String) (v : Value) : Except Fault Int := do
  (← v.fieldOr key (.int 0)).toInteger

/-- The items under a key, none if nothing counts as present there. -/
def listField (key : String) (v : Value) : Except Fault (List Value) := do
  -- A text that stands where a list should counts as its characters do, one by one.
  ((← v.fieldOr key .null).orElse (.list [])).items

/-- The quick fix of a value, none if the value does not count as present. -/
def decodeFix (v : Value) : Except Fault (Option QuickFix) :=
  if v.isTruthy then (QuickFix.decode v).map some else .ok none

/-- The state of a value, none if the value does not count as present. -/
def decodeStatus (v : Value) : Except Fault (Option Status) :=
  if v.isTruthy then (Status.parse v).map some else .ok none

/-- The finding of a document. Rule, severity, category and path are required. -/
def decode (v : Value) : Except Fault Finding := do
  let status ← v.fieldOr "status" .null
  let quickFix ← v.fieldOr "quickFix" .null
  let ruleId ← (← v.demand "ruleId").told
  let ruleName ← textField "ruleName" v
  let severity ← Severity.parse (← v.demand "severity")
  let category ← Category.parse (← v.demand "category")
  let description ← textField "description" v
  let path ← (← v.demand "filePath").told
  let line ← countField "lineNumber" v
  let column ← countField "columnNumber" v
  let snippet ← textField "codeSnippet" v
  let matched ← textField "matchedText" v
  let compliance ← (← listField "compliance" v).mapM ComplianceTag.decode
  -- An empty mapping is no quick fix, and is no mistake either.
  let quickFix ← decodeFix quickFix
  let status ← decodeStatus status
  let firstDetected ← v.fieldOr "firstDetected" .null
  let lastDetected ← v.fieldOr "lastDetected" .null
  let fingerprint ← textField "fingerprint" v
  return { ruleId, ruleName, severity, category, description, path, line, column, snippet,
           matched, compliance, quickFix, status, firstDetected, lastDetected, fingerprint }

end Finding

end CodeAudit

import CodeAudit.Rule.Basic
import CodeAudit.Wording
import CodeAudit.Yaml.Load

/-!
# Rule Documents

The rule that a document describes.

A document is a mapping. It needs an identifier, a name, a description, a severity, a
category and at least one pattern; what else it says is optional. Texts are taken
without the blanks at their ends and file types without leading points and in small
letters, so that an accepted rule is in a normal form.

What a document lacks is told in a fixed order: first what identifies the rule, then the
shape of its lists and switches, then the single values.

Faults of single values are mistakes of the rule and told under its identifier. But before the
single values are asked for, a value that cannot be written breaks the reading off, where its text
is needed: as the text of a required field, or in the message about a switch.

## Main definitions

* `RuleError`: Why a document describes no rule.
* `RuleError.text`: The message of such an error.
* `Rule.decode`: The rule of a document.
* `Rule.load`: The rule of a text.
* `Rule.encode`: The form of a rule in a document.
-/

namespace CodeAudit

/-- Why a document describes no rule. -/
inductive RuleError
  /-- The text is not a document. -/
  | malformed (t : Yaml.Trouble)
  | notAMapping (kind : String)
  | missingField (key : String)
  | notABoolean (id key : String) (found : Value)
  | noPatterns (id : String)
  | complianceNotAList (id : String)
  | patternNotAMapping (kind : String)
  | noPatternText
  | fileTypesNotAList
  /-- A value does not have the shape asked of it. -/
  | unfit (id : String) (fault : Fault)
deriving Repr

/-- The message of an error, given the wording of what it quotes. -/
def RuleError.text (w : Wording) : RuleError → String
  | .malformed t => "malformed YAML: " ++ w.trouble t
  | .notAMapping kind => "rule must be a YAML mapping, got " ++ kind
  | .missingField key => "missing required field '" ++ key ++ "'"
  | .notABoolean id key found =>
    "rule " ++ id ++ ": field '" ++ key ++ "' must be true or false, got " ++ found.quoted
  | .noPatterns id => "rule " ++ id ++ " has no patterns"
  | .complianceNotAList id => "rule " ++ id ++ ": 'compliance' must be a list"
  | .patternNotAMapping kind => "pattern must be a mapping, got " ++ kind
  | .noPatternText => "pattern entry has no 'pattern' text"
  | .fileTypesNotAList => "'fileTypes' must be a list"
  | .unfit id fault => "rule " ++ id ++ ": " ++ w.fault fault

/-- Why no rule was read: the document describes none, or its reading broke off. -/
inductive RuleFailure
  | invalid (e : RuleError)
  /-- A fault that is not told as a mistake of the rule. -/
  | broken (fault : Fault)
  /-- A scalar does not spell what it is marked as. -/
  | defect (d : Yaml.Defect)
deriving Repr

namespace Rule

/-- A fault as one that is told under the identifier of a rule. Only a value that is not a mapping
    where one is needed, and a number that is too large, break the reading off. -/
def unfit (id : String) : Fault → RuleFailure
  -- These two are no faults of the rule but of the reading, and are not put under its name.
  | .notAMapping => .broken .notAMapping
  | .tooLarge => .broken .tooLarge
  | f => .invalid (.unfit id f)

/-- A demand on the document, whose faults are reported under the rule's identifier. -/
def under {α : Type} (id : String) : Except Fault α → Except RuleFailure α
  | .ok a => .ok a
  | .error f => .error (unfit id f)

/-- A required text, without the blanks at its ends. Given is what comes of a value that has no
    text. -/
def requiredText (untold : Fault → RuleFailure) (entries : Value.Entries) (key : String) :
    Except RuleFailure String :=
  match Value.get? key entries with
  | none | some .null => .error (.invalid (.missingField key))
  | some v =>
    match v.told with
    | .error f => .error (untold f)
    | .ok s =>
      -- A text that is there and says nothing is as if it were missing.
      if trimmed s == "" then .error (.invalid (.missingField key)) else .ok (trimmed s)

/-- A switch, with the position it has if it is left out. -/
def switch (entries : Value.Entries) (id key : String) (default : Bool) :
    Except RuleFailure Bool :=
  match Value.get? key entries with
  | none => .ok default
  | some (.bool b) => .ok b
  -- The message quotes the value, which has to be written for that.
  | some v =>
    if v.isWritable then .error (.invalid (.notABoolean id key v))
    else .error (.broken (.integerTooLong 0))

/-- A file type without leading points and in small letters. -/
def normalFileType (s : String) : String :=
  String.ofList (lowerText (s.toList.dropWhile (· == '.')))

/-- The text of a pattern. -/
def patternText (id : String) (entries : Value.Entries) : Except RuleFailure String :=
  match Value.get? "pattern" entries with
  | none | some .null => .error (.invalid .noPatternText)
  | some v => do
    let text ← under id v.told
    if text == "" then throw (.invalid .noPatternText) else return text

/-- The pattern of an entry. -/
def decodePattern (id : String) (v : Value) : Except RuleFailure RulePattern :=
  match v.opened with
  | .mapping entries => do
    let text ← patternText id entries
    let fileTypes ←
      -- An empty value of any kind counts as no types at all.
      match (((Value.get? "fileTypes" entries).getD .null).orElse (.list [])).opened with
      | .list items => .ok items
      | _ => .error (.invalid .fileTypesNotAList)
    let message := (Value.get? "message" entries).getD .null
    let kind ← under id (PatternKind.parse ((Value.get? "type" entries).getD (.text "regex")))
    let fileTypes ← fileTypes.mapM fun t => under id (t.told.map normalFileType)
    return ⟨kind, text, fileTypes, ← under id message.toldUnlessNull⟩
  | v => .error (.invalid (.patternNotAMapping v.kindName))

/-- The quick fix of a document, where it has one. -/
def decodeFix (id : String) (v : Value) : Except RuleFailure (Option QuickFix) :=
  if v.isTruthy then (under id (QuickFix.decode v.opened)).map some else .ok none

/-- The rule that the entries of a document describe. -/
def decodeEntries (entries : Value.Entries) (custom : Bool) : Except RuleFailure Rule := do
  let id ← requiredText .broken entries "id"
  let name ← requiredText .broken entries "name"
  let description ← requiredText .broken entries "description"
  let patterns ←
    match (((Value.get? "patterns" entries).getD .null).orElse (.list [])).opened with
    | .list (p :: ps) => .ok (p :: ps)
    -- A rule without patterns could find nothing.
    | _ => .error (.invalid (.noPatterns id))
  let tags ←
    match (((Value.get? "compliance" entries).getD .null).orElse (.list [])).opened with
    | .list tags => .ok tags
    | _ => .error (.invalid (.complianceNotAList id))
  -- The switches come before the labels, so a mistake in them is told first.
  let enabled ← switch entries id "enabled" true
  let marked ← switch entries id "custom" false
  let severity ← under id (Severity.parse (.text (← requiredText (unfit id) entries "severity")))
  let category ← under id (Category.parse (.text (← requiredText (unfit id) entries "category")))
  let compliance ← tags.mapM fun t => under id (ComplianceTag.decode t.opened)
  let patterns ← patterns.mapM (decodePattern id)
  let quickFix ← decodeFix id ((Value.get? "quickFix" entries).getD .null)
  -- What is marked as custom stays so, wherever it has been read from.
  return { id, name, description, severity, category, compliance, patterns, quickFix, enabled,
           custom := custom || marked }

/-- The rule of a document. It is marked as custom if the document or the caller says so. -/
def decode (v : Value) (custom : Bool) : Except RuleFailure Rule :=
  match v.opened with
  | .mapping entries => decodeEntries entries custom
  | v => .error (.invalid (.notAMapping v.kindName))

/-- The rule of a text that was read under a name. -/
def load (source : String) (cs : List Char) (custom : Bool) : Except RuleFailure Rule :=
  match Yaml.load source cs with
  | .ok v => decode v custom
  | .error (.malformed t) => .error (.invalid (.malformed t))
  | .error (.defect d) => .error (.defect d)

/-- The form of a pattern in a document. -/
def encodePattern (p : RulePattern) : Value :=
  .mapping
    [(.text "type", .text p.kind.label),
     (.text "pattern", .text p.text),
     (.text "fileTypes", .list (p.fileTypes.map .text)),
     (.text "message", optionalText p.message)]

/-- A quick fix as a value, or nothing. -/
def encodeFix : Option QuickFix → Value
  | some q => q.encode
  | none => .null

/-- The form of a rule in a document. -/
def encode (r : Rule) : Value :=
  .mapping
    [(.text "id", .text r.id),
     (.text "name", .text r.name),
     (.text "description", .text r.description),
     (.text "severity", .text r.severity.label),
     (.text "category", .text r.category.label),
     (.text "compliance", .list (r.compliance.map ComplianceTag.encode)),
     (.text "patterns", .list (r.patterns.map encodePattern)),
     (.text "quickFix", encodeFix r.quickFix),
     (.text "enabled", .bool r.enabled),
     (.text "custom", .bool r.custom)]

end Rule

end CodeAudit

import CodeAudit.Label
import CodeAudit.Wording

/-!
# Configurations

What a scan looks at and which rules it applies.

A configuration has six fields. A document overlays some of them on a configuration that is
already there: each key that is present is checked and then takes effect, one after the
other in a fixed order. So a mistake stops the overlay where it is found, and the keys
before it have taken effect. Keys that mean nothing are reported and otherwise ignored.

A document that is not a mapping is asked for the keys all the same. A list has the keys
that are its items, a text those that are parts of it; asking such a document for the value
of a key that it has is a mistake of another kind.

## Main definitions

* `Config`: A configuration.
* `Config.standard`: The configuration of a project that has none.
* `ConfigError`: Why a document is no configuration.
* `Config.overlay`: A configuration with a document laid over it.
-/

namespace CodeAudit

/-- What a scan looks at and which rules it applies. -/
structure Config where
  includes : List String
  excludes : List String
  enabledRules : List String
  disabledRules : List String
  customRulesPath : String
  minSeverity : Severity
deriving DecidableEq, Repr

/-- Why a document is no configuration. -/
inductive ConfigError
  /-- A key needs a list of texts. -/
  | notTexts (key : String)
  /-- The path of the custom rules needs a text. -/
  | pathNotText
  /-- The severity is none of the known ones. -/
  | unfit (fault : Fault)
  /-- The system does not give a file. -/
  | unreadable (path : String) (e : FileError)
  /-- A file is not a document. -/
  | malformed (path : String) (t : Yaml.Trouble)
  /-- A file holds a document that is not a mapping. -/
  | notAMapping (kind path : String)
deriving Repr

/-- The message of a configuration error, given the wording of what it quotes. -/
def ConfigError.text (w : Wording) : ConfigError → String
  | .notTexts key => "'" ++ key ++ "' must be a list of strings"
  | .pathNotText => "'customRulesPath' must be a string"
  | .unfit fault => w.fault fault
  | .unreadable path e => "Error reading config file " ++ path ++ ": " ++ w.file path e
  | .malformed path t => "Malformed YAML in config file " ++ path ++ ": " ++ w.trouble t
  | .notAMapping kind path =>
    "Config file must be a YAML mapping (object), got " ++ kind ++ ": " ++ path

/-- Why the overlay of a document stops. -/
inductive OverlayError
  | config (e : ConfigError)
  /-- The document is of a kind that has no keys. -/
  | fault (f : Fault)
deriving Repr

namespace Config

/-- The configuration of a project that has none. -/
def standard : Config where
  includes := ["**/*.java", "**/*.kt", "**/*.py", "**/*.js", "**/*.ts", "**/*.go"]
  excludes := ["**/test/**", "**/build/**", "**/target/**", "**/node_modules/**", "**/.git/**"]
  enabledRules := []
  disabledRules := []
  customRulesPath := ".securecode/rules"
  minSeverity := .info

/-- A text occurs in another. -/
def occursIn (part : List Char) : List Char → Bool
  | [] => part.isEmpty
  | c :: rest => part.isPrefixOf (c :: rest) || occursIn part rest

/-- The value of a key of a document, if the document has the key. -/
def keyOf (key : String) : Value → Except Fault (Option Value)
  | .mapping entries => .ok (Value.get? key entries)
  -- A text has no keys, but a key can occur in it, and then it is asked for a value.
  | .text s => if occursIn key.toList s.toList then .error .wrongKind else .ok none
  | v => do
    if (← v.items).any (Value.sameKey (.text key)) then .error .wrongKind else .ok none

/-- The texts of values that are all texts. -/
def textsOf : List Value → Option (List String)
  | [] => some []
  | .text s :: rest => (textsOf rest).map (s :: ·)
  | _ :: _ => none

/-- A list of texts. -/
def listOfTexts (key : String) (v : Value) : Except ConfigError (List String) :=
  match v with
  | .list items =>
    match textsOf items with
    | some texts => .ok texts
    | none => .error (.notTexts key)
  | _ => .error (.notTexts key)

/-- The path of the custom rules. -/
def pathText : Value → Except ConfigError String
  | .text s => .ok s
  | _ => .error .pathNotText

/-- The least severity. -/
def severityOf (v : Value) : Except ConfigError Severity :=
  match Severity.parse v with
  | .ok s => .ok s
  | .error f => .error (.unfit f)

/-- A key of configuration documents: how its value is read and which field it sets. -/
structure Key where
  name : String
  assign : Config → Value → Except ConfigError Config

/-- The keys of configuration documents, in the order in which they take effect. -/
def keys : List Key :=
  [⟨"include", fun c v => do return { c with includes := ← listOfTexts "include" v }⟩,
   ⟨"exclude", fun c v => do return { c with excludes := ← listOfTexts "exclude" v }⟩,
   ⟨"enabledRules",
     fun c v => do return { c with enabledRules := ← listOfTexts "enabledRules" v }⟩,
   ⟨"disabledRules",
     fun c v => do return { c with disabledRules := ← listOfTexts "disabledRules" v }⟩,
   ⟨"customRulesPath", fun c v => do return { c with customRulesPath := ← pathText v }⟩,
   ⟨"minSeverity", fun c v => do return { c with minSeverity := ← severityOf v }⟩]

/-- Lets the keys of a document take effect one after the other, up to the first mistake. -/
def assignKeys (data : Value) : List Key → Config → Config × Except OverlayError Unit
  | [], c => (c, .ok ())
  | k :: rest, c =>
    match keyOf k.name data with
    | .error f => (c, .error (.fault f))
    -- What was assigned before the mistake stays assigned.
    | .ok none => assignKeys data rest c
    | .ok (some v) =>
      match k.assign c v with
      | .ok changed => assignKeys data rest changed
      | .error e => (c, .error (.config e))

/-- The members of a list of texts without repetitions. -/
def withoutRepetitions : List String → List String
  | [] => []
  | s :: rest => s :: (withoutRepetitions rest).filter (· != s)

/-- The keys of a document that mean nothing, in order. They have to be texts. -/
def unknownKeys (data : Value) : Except Fault (List String) := do
  let known := keys.map Key.name
  -- A document that is no mapping may hold anything, and its members are its keys.
  let strange := (← data.items).filter fun v => !known.any fun k => v.sameKey (.text k)
  match textsOf strange with
  | some texts => return sortTexts (withoutRepetitions texts)
  | none => throw .wrongKind

/-- A configuration with a document laid over it. The configuration is given as it is
    afterwards, whether the whole document took effect or not, together with the keys that
    mean nothing. -/
def overlay (c : Config) (data : Value) : Config × Except OverlayError (List String) :=
  match assignKeys data keys c with
  | (c, .error e) => (c, .error e)
  | (c, .ok ()) =>
    match unknownKeys data with
    | .ok unknown => (c, .ok unknown)
    | .error f => (c, .error (.fault f))

/-- The form of a configuration in a document. -/
def encode (c : Config) : Value :=
  .mapping
    [(.text "include", .list (c.includes.map .text)),
     (.text "exclude", .list (c.excludes.map .text)),
     (.text "enabledRules", .list (c.enabledRules.map .text)),
     (.text "disabledRules", .list (c.disabledRules.map .text)),
     (.text "customRulesPath", .text c.customRulesPath),
     (.text "minSeverity", .text c.minSeverity.label)]

end Config

end CodeAudit

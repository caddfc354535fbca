import CodeAudit.Yaml.Error

/-!
# Tokens

The parts a document is made of.

Some tokens are characters of the text, others only mark that a block collection
begins or ends at a place: those are told by the indentation. Every token knows where
it starts and where it ends.

## Main definitions

* `Yaml.TokenKind`: What a token is.
* `Yaml.Token`: A token with its places.
* `Yaml.TokenKind.name`: What a message calls a token.
-/

namespace CodeAudit

namespace Yaml

/-- What a token is. -/
inductive TokenKind
  | streamStart
  | streamEnd
  /-- The version a document is written for. -/
  | versionDirective (major : Nat)
  /-- A shorthand for the beginning of tags. -/
  | tagDirective (handle start : String)
  /-- A directive of another name. -/
  | otherDirective
  | documentStart
  | documentEnd
  | blockSequenceStart
  | blockMappingStart
  | blockEnd
  | flowSequenceStart
  | flowMappingStart
  | flowSequenceEnd
  | flowMappingEnd
  | blockEntry
  | flowEntry
  | key
  | value
  | alias (name : String)
  | anchor (name : String)
  | tag (handle : Option String) (suffix : String)
  /-- A scalar, and whether it stands without quotes or indicators. -/
  | scalar (text : String) (plain : Bool)
deriving DecidableEq, Repr

/-- What a message calls a token. -/
def TokenKind.name : TokenKind → String
  | .streamStart => "<stream start>"
  | .streamEnd => "<stream end>"
  | .versionDirective _ | .tagDirective _ _ | .otherDirective => "<directive>"
  | .documentStart => "<document start>"
  | .documentEnd => "<document end>"
  | .blockSequenceStart => "<block sequence start>"
  | .blockMappingStart => "<block mapping start>"
  | .blockEnd => "<block end>"
  | .flowSequenceStart => "["
  | .flowMappingStart => "\x7b"
  | .flowSequenceEnd => "]"
  | .flowMappingEnd => "\x7d"
  | .blockEntry => "-"
  | .flowEntry => ","
  | .key => "?"
  | .value => ":"
  | .alias _ => "<alias>"
  | .anchor _ => "<anchor>"
  | .tag _ _ => "<tag>"
  | .scalar _ _ => "<scalar>"

/-- A token with the places where it starts and ends. -/
structure Token where
  kind : TokenKind
  start : Mark
  stop : Mark
deriving Repr

namespace Token

/-- A token that takes no text. -/
def empty (kind : TokenKind) (mark : Mark) : Token := ⟨kind, mark, mark⟩

/-- What a message calls a token, in quotes. -/
def shown (t : Token) : String := CodeAudit.quoted t.kind.name

end Token

end Yaml

end CodeAudit

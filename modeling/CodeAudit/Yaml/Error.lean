import CodeAudit.Text.Quoted
import CodeAudit.Value.Fault

/-!
# Errors of YAML Documents

Why a YAML document is not read.

There are three kinds of failure. A document may be malformed: then the message says
what was expected, in what context, and at which places of the text. Or the document
is well formed and one of its scalars is marked as something that it does not spell,
for instance a number with a stray letter; then the failure is a `Defect` of that
scalar and carries no place. Or the text is cut off, because what follows cannot be had: then the
failure says whatever is known about that. What it says is of a type `ε`, and where texts are
there as a whole this type is empty.

## Main definitions

* `Yaml.Mark`: A place in a document.
* `Yaml.Trouble`: What is malformed, and where.
* `Yaml.Defect`: What a scalar does not spell.
* `Yaml.LoadError`: The kinds of failure.
* `Yaml.Scan`: The result of reading a part of a document.
* `Yaml.Trouble.text`: The message of a malformed document.
-/

namespace CodeAudit

namespace Yaml

/-- A place in a document. Lines and columns are counted from zero. -/
structure Mark where
  source : String
  line : Nat
  column : Nat
deriving DecidableEq, Repr

namespace Mark

/-- The line of a message that gives a place. -/
def text (m : Mark) : String :=
  "  in \"" ++ m.source ++ "\", line " ++ toString (m.line + 1) ++ ", column " ++
    toString (m.column + 1)

end Mark

/-- What is malformed in a document, and where. -/
inductive Trouble
  /-- A problem at a place, possibly in the context of something that began
      earlier. -/
  | problem (context : Option String) (contextMark : Option Mark) (problem : String) (mark : Mark)
  /-- A character that no document may contain. -/
  | forbidden (source : String) (c : Char) (position : Nat)
deriving Repr

namespace Trouble

/-- The message of a malformed document. The place of the context is left out where
    it is the place of the problem. -/
def text : Trouble → String
  | .problem context contextMark what mark =>
    let place :=
      match contextMark with
      | some m => if m = mark then [] else [m.text]
      | none => []
    String.intercalate "\n" (context.toList ++ place ++ [what, mark.text])
  | .forbidden source c position =>
    "unacceptable character #x" ++ paddedHex 4 c.toNat ++
      ": special characters are not allowed\n  in \"" ++ source ++ "\", position " ++
      toString position

end Trouble

/-- What a scalar does not spell although it is marked as spelling it. -/
inductive Defect
  /-- A number or a character code is badly written. -/
  | badValue (text : String)
  /-- A day or a time of day does not exist. -/
  | noSuchDay
  /-- A word is neither yes nor no. -/
  | notABoolean (word : String)
  /-- A number has no digits at all. -/
  | emptyNumber
  /-- A text is not a time. -/
  | notATime
  /-- A character code, or a number that goes into a floating point number, is beyond any range. -/
  | tooLarge
deriving Repr

/-- The message of a defect. -/
def Defect.text : Defect → String
  | .badValue text => text
  | .noSuchDay => "no such day or time"
  | .notABoolean word => CodeAudit.quoted word
  | .emptyNumber => "a number without digits"
  | .notATime => "not a time"
  | .tooLarge => "a number out of range"

/-- Why a document is not read. -/
inductive LoadError (ε : Type)
  | malformed (t : Trouble)
  | defect (d : Defect)
  /-- The text is cut off before the end of the document. -/
  | cutOff (e : ε)
deriving Repr

/-- A failure, what is known about a text that is cut off said in another way. -/
def LoadError.map {ε δ : Type} (f : ε → δ) : LoadError ε → LoadError δ
  | .malformed t => .malformed t
  | .defect d => .defect d
  | .cutOff e => .cutOff (f e)

/-- The result of reading a part of a document. -/
abbrev Scan (ε α : Type) := Except (LoadError ε) α

section

variable {ε α : Type}

/-- A failure at a place, in a context that began at another place. -/
def troubleIn (context : String) (start : Mark) (problem : String) (mark : Mark) : Scan ε α :=
  .error (.malformed (.problem (some context) (some start) problem mark))

/-- A failure at a place, with no context. -/
def troubleAt (problem : String) (mark : Mark) : Scan ε α :=
  .error (.malformed (.problem none none problem mark))

end

end Yaml

end CodeAudit

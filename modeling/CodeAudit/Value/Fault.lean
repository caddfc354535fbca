import CodeAudit.Text.Integer
import CodeAudit.Value.Print

/-!
# Reading Values

What a document has to hold, and what is wrong when it does not.

Decoding a document is a sequence of demands on its values: a mapping must have a
key, a value must be an integer or be given as one, a label must be known. A demand
that is not met is a `Fault`, which keeps what was found so that the message can
quote it.

The demands are lenient in two respects. Anything that can be walked through counts
as a list: a mapping gives its keys and a text its characters. And any value has a text, except
where an integer in it is too long to be written.

## Main definitions

* `Fault`: Why a value does not have the shape asked of it.
* `Fault.text`: The message of a fault.
* `Value.told`: The text a value gives, if it can be written.
* `Value.blamed`: The fault of a value.
* `Value.field`: The value of an optional key.
* `Value.demand`: The value of a required key.
* `Value.items`: The items a value is walked through by.
* `Value.toInteger`: The integer a value is or spells.
-/

namespace CodeAudit

/-- Why a value does not have the shape asked of it. -/
inductive Fault
  /-- A required key is not there. -/
  | missing (key : String)
  /-- A label is none of the known ones of its kind. -/
  | unknownLabel (kind : String) (found : Value)
  /-- A value is not one of the states of a finding. -/
  | notAStatus (found : Value)
  /-- A text is not an integer written in a base. -/
  | notAnInteger (base : Nat) (found : String)
  /-- A text is an integer of too many digits, or an integer has too many for a text. In the
      latter case they are not counted, and the number is zero. -/
  | integerTooLong (digits : Nat)
  /-- An integer is asked of a value that is not a number. -/
  | notANumber
  /-- An integer is asked of an infinite number, or a number is too large for the
      floating point format. -/
  | tooLarge
  /-- A value is of a kind that the operation is not defined for. -/
  | wrongKind
  /-- A value that is not a mapping is asked for its entries. -/
  | notAMapping
deriving Repr

namespace Fault

/-- The number of characters of a text that a message quotes. -/
def quoteLimit : Nat := 200

/-- The message of a fault. -/
def text : Fault → String
  | .missing key => quoted key
  | .unknownLabel kind found => "Unknown " ++ kind ++ ": " ++ found.quoted
  | .notAStatus found => found.quoted ++ " is not a valid VulnerabilityStatus"
  | .notAnInteger base found =>
    "invalid literal for int() with base " ++ toString base ++ ": " ++
      String.ofList ((quotedChars found.toList).take quoteLimit)
  | .integerTooLong digits =>
    "Exceeds the limit (" ++ toString digitLimit ++ " digits) for integer string conversion" ++
      (if digits = 0 then "" else ": value has " ++ toString digits ++ " digits") ++
      "; use sys.set_int_max_str_digits() to increase the limit"
  | .notANumber => "cannot convert float NaN to integer"
  | .tooLarge => "the number is too large"
  | .wrongKind => "a value is of the wrong kind"
  | .notAMapping => "a value is not a mapping"

end Fault

namespace Value

/-- The text a value gives where a text is asked for. There is none if an integer in it is too
    long to be written. -/
def told (v : Value) : Except Fault String :=
  if v.isWritable then .ok v.shown else .error (.integerTooLong 0)

/-- The text of a value that may be missing. -/
def toldUnlessNull : Value → Except Fault (Option String)
  | .null => .ok none
  | v => v.told.map some

/-- The fault of a value. Its message quotes the value, and where that cannot be written, this is
    what is wrong. -/
def blamed (fault : Value → Fault) (v : Value) : Fault :=
  if v.isWritable then fault v else .integerTooLong 0

/-- The value of an optional key of a mapping. -/
def field (key : String) : Value → Except Fault (Option Value)
  | .mapping entries => .ok (get? key entries)
  | _ => .error .notAMapping

/-- The value of an optional key of a mapping, or a default. -/
def fieldOr (key : String) (v default : Value) : Except Fault Value :=
  (v.field key).map (·.getD default)

/-- The value of a required key of a mapping. -/
def demand (key : String) : Value → Except Fault Value
  | .mapping entries =>
    match get? key entries with
    | some v => .ok v
    | none => .error (.missing key)
  | _ => .error .wrongKind

/-- The items a value is walked through by. -/
def items : Value → Except Fault (List Value)
  | .list vs => .ok vs
  | .set vs => .ok vs
  | .pair a b => .ok [a, b]
  | .mapping entries => .ok (entries.map Prod.fst)
  | .text s => .ok (s.toList.map fun c => .text c.toString)
  | .bytes bs => .ok (bs.map fun b => .int b.toNat)
  | _ => .error .wrongKind

/-- The entries of a mapping. -/
def entriesOf : Value → Except Fault Entries
  | .mapping entries => .ok entries
  | _ => .error .notAMapping

/-- The value itself if it counts as present, and a default otherwise. -/
def orElse (v default : Value) : Value :=
  if v.isTruthy then v else default

/-- The integer written by a text in a base. -/
def integerIn (base : Nat) (s : String) : Except Fault Int :=
  match readIntegerIn base s.toList with
  | .ok i => .ok i
  | .error .malformed => .error (.notAnInteger base s)
  | .error (.tooLong digits) => .error (.integerTooLong digits)

/-- The integer a value is or spells. A number loses its fraction. -/
def toInteger : Value → Except Fault Int
  | .bool b => .ok (if b then 1 else 0)
  | .int i => .ok i
  | .text s => integerIn 10 s
  | .float .nan => .error .notANumber
  | .float x =>
    match x.truncate? with
    | some i => .ok i
    | none => .error .tooLarge
  | _ => .error .wrongKind

end Value

end CodeAudit

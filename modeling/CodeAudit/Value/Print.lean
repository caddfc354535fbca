import CodeAudit.Decimal.Shortest
import CodeAudit.Text.Integer
import CodeAudit.Text.Quoted
import CodeAudit.Value.Basic

/-!
# Values as Text

The text of a value.

Where a text is asked for, any value will do: a text stands for itself, and every
other value is written out. Inside a collection a text is quoted, so that the
written form of a value and the value correspond as far as possible.

An integer of too many digits is not written out, and nothing is that it is a part of. The
written form of a value is defined all the same; `Value.isWritable` says whether there is
anything in it that is not written.

No order of the members of a set is laid down where it is written out. Here it is the order in which
they first appeared.

## Main definitions

* `Value.quoted`: The written form of a value, texts quoted.
* `Value.shown`: The text a value gives where a text is asked for.
* `Value.isWritable`: No integer in a value has too many digits to be written.
* `Value.kindName`: The name of the kind of a value, for messages.
-/

namespace CodeAudit

/-- The name of a kind of collection. -/
def Collection.name : Collection → String
  | .list => "list"
  | .pair => "tuple"
  | .mapping => "dict"

/-- The brackets that stand around the items of a collection when it is written out. -/
def Collection.brackets : Collection → String × String
  | .list => ("[", "]")
  | .pair => ("(", ")")
  | .mapping => ("\x7b", "\x7d")

namespace Value

/-- The name of the kind of a value. -/
def kindName : Value → String
  | .null => "NoneType"
  | .bool _ => "bool"
  | .int _ => "int"
  | .float _ => "float"
  | .text _ => "str"
  | .bytes _ => "bytes"
  | .date _ => "date"
  | .moment _ => "datetime"
  | .list _ => "list"
  | .pair _ _ => "tuple"
  | .set _ => "set"
  | .mapping _ => "dict"
  | .knot outline _ => outline.kindName
  | .again kind => kind.name

mutual

/-- The written form of a value. -/
def quoted : Value → String
  | .null => "None"
  | .bool b => if b then "True" else "False"
  | .int i => toString i
  | .float x => x.text
  | .text s => CodeAudit.quoted s
  | .bytes bs => quotedBytes bs
  | .date d => d.quoted
  | .moment m => m.quoted
  | .list items => "[" ++ String.intercalate ", " (quotedItems items) ++ "]"
  | .pair a b => "(" ++ a.quoted ++ ", " ++ b.quoted ++ ")"
  | .set [] => "set()"
  | .set (v :: rest) => "\x7b" ++ String.intercalate ", " (v.quoted :: quotedItems rest) ++ "\x7d"
  | .mapping entries => "\x7b" ++ String.intercalate ", " (quotedEntries entries) ++ "\x7d"
  | .knot outline _ => outline.quoted
  | .again kind => kind.brackets.1 ++ "..." ++ kind.brackets.2

/-- The written forms of the items of a collection. -/
def quotedItems : List Value → List String
  | [] => []
  | v :: rest => v.quoted :: quotedItems rest

/-- The written forms of the entries of a mapping. -/
def quotedEntries : List (Value × Value) → List String
  | [] => []
  | (k, v) :: rest => (k.quoted ++ ": " ++ v.quoted) :: quotedEntries rest

end

/-- The text a value gives where a text is asked for. -/
def shown : Value → String
  | .text s => s
  | .date d => d.text
  | .moment m => m.text
  | v => v.quoted

mutual

/-- No integer in a value has too many digits to be written. -/
def isWritable : Value → Bool
  | .int i => isShort i
  | .list items => areWritable items
  | .pair a b => a.isWritable && b.isWritable
  | .set items => areWritable items
  | .mapping entries => entriesAreWritable entries
  | .knot outline _ => outline.isWritable
  | _ => true

/-- No integer in some values has too many digits to be written. -/
def areWritable : List Value → Bool
  | [] => true
  | v :: rest => v.isWritable && areWritable rest

/-- No integer in some entries has too many digits to be written. -/
def entriesAreWritable : List (Value × Value) → Bool
  | [] => true
  | (k, v) :: rest => k.isWritable && v.isWritable && entriesAreWritable rest

end

end Value

end CodeAudit

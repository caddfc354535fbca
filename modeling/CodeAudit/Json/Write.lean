import CodeAudit.Text.Integer
import CodeAudit.Value.Print

/-!
# JSON Texts

The JSON text of a value.

Texts are written in ASCII: a character outside it becomes a code of four
hexadecimal digits, or two such codes where one is not enough. Every item and
every entry has a line of its own, indented by two spaces for each level;
collections without items are closed at once. An integer can have no more digits than
are read back.

## Main definitions

* `Json.escaped`: A character as it stands in a JSON text.
* `Json.string`: A text as a JSON string.
* `Json.number`: A floating point number as a JSON number.
* `Json.write`: A value as a JSON text.
* `Json.hasShortIntegers`: No integer of a value has too many digits to be written.
-/

namespace CodeAudit

namespace Json

/-- A sixteen bit unit as an escape of four hexadecimal digits. -/
def unitEscape (n : Nat) : List Char :=
  '\\' :: 'u' :: (paddedHex 4 n).toList

/-- A character as it stands in a JSON text. -/
def escaped (c : Char) : List Char :=
  if c == '"' then ['\\', '"']
  else if c == '\\' then ['\\', '\\']
  else if c == '\n' then ['\\', 'n']
  else if c == '\r' then ['\\', 'r']
  else if c == '\t' then ['\\', 't']
  else if c == '\x08' then ['\\', 'b']
  else if c == '\x0c' then ['\\', 'f']
  -- Only printable ASCII stands for itself.
  else if 0x20 ≤ c.toNat && c.toNat < 0x7F then [c]
  else if c.toNat < 0x10000 then unitEscape c.toNat
  else
    -- Beyond the units a character is written as a pair.
    let n := c.toNat - 0x10000
    unitEscape (0xD800 + n / 0x400) ++ unitEscape (0xDC00 + n % 0x400)

/-- A text as a JSON string. -/
def string (cs : List Char) : List Char :=
  '"' :: cs.flatMap escaped ++ ['"']

/-- A floating point number as a JSON number. The three values that JSON does not
    have are written by name. -/
def number : Double → List Char
  | .nan => "NaN".toList
  | .infinite negative => (if negative then "-Infinity" else "Infinity").toList
  | x => x.text.toList

/-- A new line at a level of nesting. -/
def newline (level : Nat) : List Char :=
  '\n' :: List.replicate (2 * level) ' '

mutual

/-- The JSON text of a value at a level of nesting. -/
def writeAt (level : Nat) : Value → List Char
  | .null => "null".toList
  | .bool b => (if b then "true" else "false").toList
  | .int i => (toString i).toList
  | .float x => number x
  | .text s => string s.toList
  | .list [] => ['[', ']']
  | .list (v :: rest) =>
    '[' :: newline (level + 1) ++ writeAt (level + 1) v ++ writeItems (level + 1) rest ++
      newline level ++ [']']
  | .mapping [] => ['\x7b', '\x7d']
  | .mapping ((k, v) :: rest) =>
    '\x7b' :: newline (level + 1) ++ string k.shown.toList ++ ':' :: ' ' ::
      writeAt (level + 1) v ++ writeEntries (level + 1) rest ++ newline level ++ ['\x7d']
  -- What JSON has no form for is written as the text that it shows.
  | v => string v.shown.toList

/-- The items of a list behind the first one. -/
def writeItems (level : Nat) : List Value → List Char
  | [] => []
  | v :: rest => ',' :: newline level ++ writeAt level v ++ writeItems level rest

/-- The entries of a mapping behind the first one. -/
def writeEntries (level : Nat) : List (Value × Value) → List Char
  | [] => []
  | (k, v) :: rest =>
    ',' :: newline level ++ string k.shown.toList ++ ':' :: ' ' :: writeAt level v ++
      writeEntries level rest

end

/-- The JSON text of a value. -/
def write (v : Value) : List Char :=
  writeAt 0 v

mutual

/-- No integer of a value has too many digits to be written. -/
def hasShortIntegers : Value → Bool
  | .int i => isShort i
  | .list items => itemsAreShort items
  | .mapping entries => entriesAreShort entries
  | _ => true

/-- No integer of the items of a list has too many digits to be written. -/
def itemsAreShort : List Value → Bool
  | [] => true
  | v :: rest => hasShortIntegers v && itemsAreShort rest

/-- No integer of the entries of a mapping has too many digits to be written. -/
def entriesAreShort : List (Value × Value) → Bool
  | [] => true
  | (_, v) :: rest => hasShortIntegers v && entriesAreShort rest

end

end Json

end CodeAudit

import CodeAudit.Value.Fault

/-!
# Reading JSON

The value of a JSON text.

The reader takes a text apart from the left. Every step returns the value it has
read together with the rest of the text, and no step looks behind its value except
for the blanks that may follow it. Besides JSON proper the names of the three
special floating point values are read.

A number without a fraction and an exponent is an integer, any other is a floating
point number. If a mapping has a key twice the later value counts, in the place of
the earlier one.

A text here is made of characters, and half of a surrogate pair is none. So where an escape
spells one that stands alone, the text has U+FFFD, and texts that differ in such halves only are
not told apart.

## Main definitions

* `Json.ReadError`: Why a text is not read.
* `Json.readString`: The text of a string behind its opening quote.
* `Json.readNumber`: A number at the start of a text.
* `Json.read`: The value of a text.
-/

namespace CodeAudit

namespace Json

/-- Why a text is not read. -/
inductive ReadError
  /-- The text is not JSON. -/
  | malformed
  /-- The text has an integer of too many digits. -/
  | fault (f : Fault)
deriving Repr

/-- The message of a reading error. -/
def ReadError.text : ReadError → String
  | .malformed => "the text is not JSON"
  | .fault f => f.text

/-- Blanks between the parts of a JSON text. -/
def isSpace (c : Char) : Bool :=
  c == ' ' || c == '\t' || c == '\n' || c == '\r'

/-- A text without the blanks at its start. -/
def skip (cs : List Char) : List Char :=
  cs.dropWhile isSpace

/-- The unit written by four hexadecimal digits. -/
def readUnit : List Char → Option (Nat × List Char)
  | a :: b :: c :: d :: rest =>
    if [a, b, c, d].all isHexDigit then some (hexNumber [a, b, c, d], rest) else none
  | _ => none

/-- The character of a letter behind a backslash. -/
def escapeChar? : Char → Option Char
  | '"' => some '"'
  | '\\' => some '\\'
  | '/' => some '/'
  | 'b' => some '\x08'
  | 'f' => some '\x0c'
  | 'n' => some '\n'
  | 'r' => some '\r'
  | 't' => some '\t'
  | _ => none

/-- The character of a code behind its mark. Two codes that form a pair give one
    character; a code that would need a partner and has none gives U+FFFD. -/
def readCode (cs : List Char) : Option (Char × List Char) :=
  match readUnit cs with
  | none => none
  | some (n, rest) =>
    -- The first half of a pair needs the second one right behind it.
    if 0xD800 ≤ n && n < 0xDC00 then
      match rest with
      | '\\' :: 'u' :: rest2 =>
        match readUnit rest2 with
        | some (m, rest3) =>
          if 0xDC00 ≤ m && m < 0xE000 then
            some (Char.ofNat (0x10000 + (n - 0xD800) * 0x400 + (m - 0xDC00)), rest3)
          -- The other code is no second half, and is read anew for what it is.
          else some ('\uFFFD', rest)
        | none => some ('\uFFFD', rest)
      | _ => some ('\uFFFD', rest)
    else if 0xDC00 ≤ n && n < 0xE000 then some ('\uFFFD', rest)
    else some (Char.ofNat n, rest)

/-- The text of a string behind its opening quote, and the rest behind the closing
    one. The text read so far is given in reverse. -/
def readStringFrom : Nat → List Char → List Char → Option (List Char × List Char)
  | 0, _, _ => none
  | fuel + 1, acc, cs =>
    match cs with
    | [] => none
    | '"' :: rest => some (acc.reverse, rest)
    | '\\' :: 'u' :: rest =>
      match readCode rest with
      | some (c, rest) => readStringFrom fuel (c :: acc) rest
      | none => none
    | '\\' :: e :: rest =>
      match escapeChar? e with
      | some c => readStringFrom fuel (c :: acc) rest
      | none => none
    -- Control characters have to be written by codes.
    | c :: rest => if c.toNat < 0x20 || c == '\\' then none else readStringFrom fuel (c :: acc) rest

/-- The text of a string behind its opening quote, and the rest behind the closing
    one. -/
def readString (cs : List Char) : Option (List Char × List Char) :=
  readStringFrom (cs.length + 1) [] cs

/-- The digits at the start of a text, and the rest. -/
def spanDigits (cs : List Char) : List Char × List Char :=
  (cs.takeWhile Char.isDigit, cs.dropWhile Char.isDigit)

/-- The digits of a fraction, where one follows. -/
def takeFraction : List Char → Option (List Char × List Char)
  | '.' :: rest =>
    match spanDigits rest with
    | ([], _) => none
    | (ds, rest) => some (ds, rest)
  | _ => none

/-- An exponent, where one follows. -/
def takeExponent : List Char → Option (Int × List Char)
  | e :: rest =>
    if e == 'e' || e == 'E' then
      let (negative, rest) := takeSign rest
      match spanDigits rest with
      | ([], _) => none
      | (ds, rest) => some (signed negative (decimalNat ds), rest)
    else none
  | [] => none

/-- The whole part of a number: a zero, or digits that start with another one. -/
def takeWhole (cs : List Char) : Option (List Char × List Char) :=
  match cs with
  -- Digits behind a zero at the start are no part of the number.
  | '0' :: rest => some (['0'], rest)
  | _ =>
    match spanDigits cs with
    | ([], _) => none
    | (ds, rest) => some (ds, rest)

/-- A number at the start of a text, behind its sign. -/
def readNumber (negative : Bool) (cs : List Char) :
    Option (Except ReadError Value × List Char) :=
  match takeWhole cs with
  | none => none
  | some (whole, rest) =>
    let (fraction, rest, hasFraction) :=
      match takeFraction rest with
      | some (ds, rest) => (ds, rest, true)
      | none => ([], rest, false)
    let (exponent, rest, hasExponent) :=
      -- A letter without digits behind it is no exponent, and stays in the rest.
      match takeExponent rest with
      | some (e, rest) => (e, rest, true)
      | none => ((0 : Int), rest, false)
    if hasFraction || hasExponent then
      -- The digits behind the point only move it, so the number is read without one.
      let digits := decimalNat (whole ++ fraction)
      some (.ok (.float (.ofDecimal negative digits (exponent - fraction.length))), rest)
    -- The limit is on integers. A number with a point can have any number of digits.
    else if whole.length > digitLimit then
      some (.error (.fault (.integerTooLong whole.length)), rest)
    else some (.ok (.int (signed negative (decimalNat whole))), rest)

/-- A name at the start of a text. -/
def dropName (name : String) (cs : List Char) : Option (List Char) :=
  if name.toList.isPrefixOf cs then some (cs.drop name.length) else none

/-- The value named at the start of a text. -/
def readName (cs : List Char) : Option (Value × List Char) :=
  let names : List (String × Value) :=
    [("null", .null), ("true", .bool true), ("false", .bool false), ("NaN", .float .nan),
     ("Infinity", .float (.infinite false)), ("-Infinity", .float (.infinite true))]
  names.findSome? fun p => (dropName p.1 cs).map fun rest => (p.2, rest)

/-- A value that is no collection and no string, at the start of a text. -/
def readScalar (cs : List Char) : Except ReadError (Value × List Char) :=
  -- The minus in front of a name is part of the name, so names are tried before numbers.
  match readName cs with
  | some found => .ok found
  | none =>
    let read :=
      match cs with
      | '-' :: rest => readNumber true rest
      | _ => readNumber false cs
    match read with
    | some (.ok v, rest) => .ok (v, rest)
    | some (.error e, _) => .error e
    | none => .error .malformed

mutual

/-- A value at the start of a text. -/
def readValue : Nat → List Char → Except ReadError (Value × List Char)
  | 0, _ => .error .malformed
  | fuel + 1, cs =>
    match cs with
    | '"' :: rest =>
      match readString rest with
      | some (s, rest) => .ok (.text (String.ofList s), rest)
      | none => .error .malformed
    | '[' :: rest =>
      match skip rest with
      | ']' :: rest => .ok (.list [], rest)
      | rest => readItems fuel [] rest
    | '\x7b' :: rest =>
      match skip rest with
      | '\x7d' :: rest => .ok (.mapping [], rest)
      -- The text behind the brace is at a key now, and behind a comma it has to be again.
      | rest => readEntries fuel [] rest
    | _ => readScalar cs

/-- The items of a list, of which some have been read. -/
def readItems : Nat → List Value → List Char → Except ReadError (Value × List Char)
  | 0, _, _ => .error .malformed
  | fuel + 1, items, cs =>
    match readValue fuel cs with
    | .error e => .error e
    | .ok (v, rest) =>
      match skip rest with
      | ',' :: rest => readItems fuel (v :: items) (skip rest)
      | ']' :: rest => .ok (.list (v :: items).reverse, rest)
      | _ => .error .malformed

/-- The entries of a mapping, of which some have been read. -/
def readEntries : Nat → Value.Entries → List Char → Except ReadError (Value × List Char)
  | 0, _, _ => .error .malformed
  | fuel + 1, entries, cs =>
    match cs with
    | '"' :: rest =>
      match readString rest with
      | none => .error .malformed
      | some (key, rest) =>
        match skip rest with
        | ':' :: rest =>
          match readValue fuel (skip rest) with
          | .error e => .error e
          | .ok (v, rest) =>
            -- A key that comes again keeps its place and gets the later value.
            let entries := Value.put (.text (String.ofList key)) v entries
            match skip rest with
            | ',' :: rest => readEntries fuel entries (skip rest)
            | '\x7d' :: rest => .ok (.mapping entries, rest)
            | _ => .error .malformed
        | _ => .error .malformed
    | _ => .error .malformed

end

/-- The value of a text. Nothing but blanks may stand behind it. -/
def read (cs : List Char) : Except ReadError Value :=
  -- Each level of nesting takes two steps, one for the collection and one for what is in it.
  match readValue (2 * cs.length + 2) (skip cs) with
  | .error e => .error e
  | .ok (v, rest) => if (skip rest).isEmpty then .ok v else .error .malformed

end Json

end CodeAudit

import CodeAudit.Text.Digit
import CodeAudit.Text.Printable

/-!
# Quoted Texts

The quoted form of a text, as it stands in messages.

A text is quoted with apostrophes, unless it contains an apostrophe and no
double quote. The quote itself and the backslash are escaped, and so is
everything that does not print: the three usual layout characters by a letter,
the rest by a code of two, four or eight hexadecimal digits.

## Main definitions

* `quoteMark`: The quote a text is put in.
* `escapedChar`: A character as it stands between quotes.
* `quotedChars`, `quoted`: The quoted form of a text.
* `quotedBytes`: The quoted form of a byte string.
-/

namespace CodeAudit

/-- The quote a text is put in: an apostrophe, unless the text contains an
    apostrophe and no double quote. -/
def quoteMark (cs : List Char) : Char :=
  if cs.contains '\'' && !cs.contains '"' then '"' else '\''

/-- A code point as an escape of two, four or eight hexadecimal digits. -/
def codeEscape (n : Nat) : List Char :=
  if n < 0x100 then '\\' :: 'x' :: (paddedHex 2 n).toList
  else if n < 0x10000 then '\\' :: 'u' :: (paddedHex 4 n).toList
  else '\\' :: 'U' :: (paddedHex 8 n).toList

/-- A character as it stands between quotes of the given kind. -/
def escapedChar (quote c : Char) : List Char :=
  if c == quote || c == '\\' then ['\\', c]
  else if c == '\t' then ['\\', 't']
  else if c == '\n' then ['\\', 'n']
  else if c == '\r' then ['\\', 'r']
  else if isPrintable c then [c]
  else codeEscape c.toNat

/-- The quoted form of a text. -/
def quotedChars (cs : List Char) : List Char :=
  let quote := quoteMark cs
  quote :: cs.flatMap (escapedChar quote) ++ [quote]

/-- The quoted form of a string. -/
def quoted (s : String) : String :=
  String.ofList (quotedChars s.toList)

/-- The quoted form of a byte string: bytes outside ASCII are written as codes,
    and a letter in front of the quote marks it as bytes. -/
def quotedBytes (bs : List UInt8) : String :=
  let cs := bs.map fun b => Char.ofNat b.toNat
  let quote := quoteMark cs
  let body := cs.flatMap fun c => if c.toNat < 128 then escapedChar quote c else codeEscape c.toNat
  String.ofList ('b' :: quote :: body ++ [quote])

end CodeAudit

import CodeAudit.Decimal.Double
import CodeAudit.Text.Integer

/-!
# Written Floating Point Numbers

Reading a floating point number.

A written number is a sign or none, digits with a point somewhere among them or
without one, and an exponent or none; or it is one of the words for an infinite number
and for no number, in letters of either case. Blanks may stand around it.

## Main definitions

* `Double.read?`: The number written by a text.
-/

namespace CodeAudit

namespace Double

/-- The number named by a word. -/
def named? (negative : Bool) (cs : List Char) : Option Double :=
  let word := cs.map Char.toLower
  if word == "inf".toList || word == "infinity".toList then some (.infinite negative)
  else if word == "nan".toList then some .nan
  else none

/-- An exponent that takes the whole of a text, or no text at all. -/
def wholeExponent? : List Char → Option Int
  | [] => some 0
  | e :: rest =>
    if e == 'e' || e == 'E' then
      let (negative, digits) := takeSign rest
      if digits.isEmpty || !digits.all isDecimal then none
      else some (signed negative (decimalNat digits))
    else none

/-- The number written by a text behind its sign. -/
def readUnsigned? (negative : Bool) (cs : List Char) : Option Double :=
  match named? negative cs with
  | some x => some x
  | none =>
    -- A number needs a digit on one side of its point.
    let whole := cs.takeWhile isDecimal
    let rest := cs.dropWhile isDecimal
    let (fraction, rest) :=
      match rest with
      | '.' :: rest => (rest.takeWhile isDecimal, rest.dropWhile isDecimal)
      | _ => ([], rest)
    if whole.isEmpty && fraction.isEmpty then none
    else
      (wholeExponent? rest).map fun e =>
        ofDecimal negative (decimalNat (whole ++ fraction)) (e - fraction.length)

/-- The number written by a text. -/
def read? (cs : List Char) : Option Double :=
  let (negative, rest) := takeSign (trimNumber cs)
  readUnsigned? negative rest

end Double

end CodeAudit

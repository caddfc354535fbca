import CodeAudit.Text.Blank
import CodeAudit.Text.Digit

/-!
# Written Integers

Reading an integer in decimal, or in binary, octal or hexadecimal.

A written integer is a sign or none and digits of any script, with single
underscores allowed between digits and blanks allowed around the whole. Behind
the sign may stand the mark of the base, a zero and a letter. A bound on the
number of decimal digits keeps the running time in check.

## Main definitions

* `IntegerFault`: Why a text is not an integer that is read.
* `digitLimit`: The number of digits up to which an integer is read and written.
* `readIntegerIn`: The integer written by a text in a base.
* `readInteger`: The integer written by a text in decimal.
* `decimalNat`: The number written in decimal by a run of digits.
* `isShort`: An integer has no more digits than are written.
-/

namespace CodeAudit

/-- Why a text is not an integer that is read. -/
inductive IntegerFault
  /-- The text is not a written integer. -/
  | malformed
  /-- The text is a written integer of too many digits. -/
  | tooLong (digits : Nat)
deriving DecidableEq, Repr

/-- The number of digits up to which an integer is read and written. -/
def digitLimit : Nat := 4300

/-- Blanks that may stand around a written integer or number. The four
    information separators are blank but not among them. -/
def isNumberBlank (c : Char) : Bool :=
  isBlank c && !(28 ≤ c.toNat && c.toNat ≤ 31)

/-- The value of a digit of a base up to sixteen. -/
def digitBelow? (base : Nat) (c : Char) : Option Nat :=
  match (digitValue? c).or (hexValue? c) with
  | some d => if d < base then some d else none
  | none => none

/-- The digit values of a run of digits with single underscores between them.
    The flag says that an underscore may come next. -/
def digitValues (base : Nat) : Bool → List Char → Option (List Nat)
  | _, [] => some []
  | mayPause, c :: rest =>
    if c == '_' then
      -- An underscore stands between digits: not at the end, and not behind another one.
      if mayPause && !rest.isEmpty then digitValues base false rest else none
    else
      match digitBelow? base c with
      | some d => (digitValues base true rest).map (d :: ·)
      | none => none

/-- The number with the given digits. -/
def ofDigits (base : Nat) (ds : List Nat) : Nat :=
  ds.foldl (fun n d => base * n + d) 0

/-- The number written in decimal by a run of digits, other characters counting
    as zero. -/
def decimalNat (cs : List Char) : Nat :=
  ofDigits 10 (cs.map fun c => (digitValue? c).getD 0)

/-- A sign or none, and whether it is a minus. -/
def takeSign : List Char → Bool × List Char
  | '-' :: rest => (true, rest)
  | '+' :: rest => (false, rest)
  | cs => (false, cs)

/-- A text without the blanks that may stand around a number. -/
def trimNumber (cs : List Char) : List Char :=
  ((cs.dropWhile isNumberBlank).reverse.dropWhile isNumberBlank).reverse

/-- A number with a sign. -/
def signed (negative : Bool) (n : Nat) : Int :=
  if negative then -Int.ofNat n else Int.ofNat n

/-- The letters that mark a base after a zero. -/
def baseMarks : Nat → List Char
  | 2 => ['b', 'B']
  | 8 => ['o', 'O']
  | 16 => ['x', 'X']
  | _ => []

/-- The digits of a number behind the mark of its base, where it has one, and
    whether an underscore may come next. -/
def dropBaseMark (base : Nat) : List Char → Bool × List Char
  | '0' :: c :: rest => if (baseMarks base).contains c then (true, rest) else (false, '0' :: c :: rest)
  | cs => (false, cs)

/-- The integer written by a text in a base. The bound on the number of digits
    holds where the base is not a power of two. -/
def readIntegerIn (base : Nat) (cs : List Char) : Except IntegerFault Int :=
  let (negative, marked) := takeSign (trimNumber cs)
  let (mayPause, digits) := dropBaseMark base marked
  match digitValues base mayPause digits with
  | none => .error .malformed
  -- A sign or a mark of a base alone is no number.
  | some [] => .error .malformed
  | some ds =>
    if base == 10 && ds.length > digitLimit then .error (.tooLong ds.length)
    else .ok (signed negative (ofDigits base ds))

/-- The integer written by a text in decimal. -/
def readInteger (cs : List Char) : Except IntegerFault Int :=
  readIntegerIn 10 cs

/-- An integer has no more digits than are written. -/
def isShort (i : Int) : Bool :=
  (Nat.toDigits 10 i.natAbs).length ≤ digitLimit

end CodeAudit

import CodeAudit.Text.Ranges

/-!
# Decimal Digits

The decimal digits of every script, and the value of each.

The Unicode character database places the ten digits of a script next to each
other in ascending order, so a script is determined by its digit zero and the
value of a digit is its distance from that zero.

## Main definitions

* `digitZeros`: The digit zero of every script, in ascending order.
* `digitValue?`: The value of a decimal digit.
* `isDecimal`: A character is a decimal digit.
-/

namespace CodeAudit

/-- The digit zero of every script, in ascending order. -/
def digitZeros : List Nat :=
  [48, 1632, 1776, 1984, 2406, 2534, 2662, 2790, 2918, 3046, 3174, 3302, 3430, 3558,
   3664, 3792, 3872, 4160, 4240, 6112, 6160, 6470, 6608, 6784, 6800, 6992, 7088, 7232,
   7248, 42528, 43216, 43264, 43472, 43504, 43600, 44016, 65296, 66720, 68912, 69734, 69872, 69942,
   70096, 70384, 70736, 70864, 71248, 71360, 71472, 71904, 72016, 72784, 73040, 73120, 92768, 92864,
   93008, 120782, 120792, 120802, 120812, 120822, 123200, 123632, 125264, 130032]

/-- The value of a code point as a digit of one of the scripts listed. -/
def digitValueIn : List Nat → Nat → Option Nat
  | [], _ => none
  | first :: rest, n =>
    if n < first then none
    else if n < first + 10 then some (n - first)
    else digitValueIn rest n

/-- The value of a decimal digit of any script. -/
def digitValue? (c : Char) : Option Nat :=
  digitValueIn digitZeros c.toNat

/-- A character is a decimal digit of some script. -/
def isDecimal (c : Char) : Bool :=
  (digitValue? c).isSome

/-- The value of an ASCII hexadecimal digit. -/
def hexValue? (c : Char) : Option Nat :=
  let n := c.toNat
  if 48 ≤ n ∧ n ≤ 57 then some (n - 48)
  else if 97 ≤ n ∧ n ≤ 102 then some (n - 87)
  else if 65 ≤ n ∧ n ≤ 70 then some (n - 55)
  else none

/-- A character is an ASCII hexadecimal digit. -/
def isHexDigit (c : Char) : Bool :=
  (hexValue? c).isSome

/-- The number written by a run of hexadecimal digits, other characters
    counting as zero. -/
def hexNumber (cs : List Char) : Nat :=
  cs.foldl (fun n c => 16 * n + (hexValue? c).getD 0) 0

/-- A number in lower-case hexadecimal, padded with zeros to a width. -/
def paddedHex (width n : Nat) : String :=
  let digits := Nat.toDigits 16 n
  String.ofList (List.replicate (width - digits.length) '0' ++ digits)

end CodeAudit

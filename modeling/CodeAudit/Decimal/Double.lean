/-!
# Binary Floating Point

Numbers of the binary64 format, as exact values.

A finite number is a mantissa times a power of two. Every operation that the
library needs takes exact values to an exact ratio and then rounds that ratio
once, to the nearest number of the format and to the even mantissa where two are
equally near. So the whole arithmetic rests on `roundRatio`, and nothing here
depends on the arithmetic of the machine.

Finite numbers are kept in one form: the exponent is at least -1074, and the
mantissa has 53 bits unless the exponent is the least one. Two finite numbers are
therefore the same number with the same sign only if they are equal as values of
the type.

## Main definitions

* `twoTo`, `tenTo`: Powers of two and of ten.
* `Double`: A number of the format.
* `roundHalfEven`: A ratio rounded to a whole number.
* `Double.roundRatio`: A ratio rounded to a number of the format.
* `Double.ofDecimal`: The number nearest to a decimal.
* `Double.ratio?`: The exact value of a finite number.
* `Double.add`, `Double.mul`: Sum and product.
* `Double.quotient?`: The quotient of two integers, if it is in range.

## Theorems

* `tenTo_add`: The power of a sum.
-/

namespace CodeAudit

/-- A power of two. -/
def twoTo (n : Nat) : Nat :=
  Nat.pow 2 n

/-- A power of ten. -/
def tenTo (n : Nat) : Nat :=
  Nat.pow 10 n

theorem twoTo_pos (n : Nat) : 0 < twoTo n :=
  Nat.pow_pos (by decide)

theorem tenTo_pos (n : Nat) : 0 < tenTo n :=
  Nat.pow_pos (by decide)

/-- The power of a sum. -/
theorem tenTo_add (m n : Nat) : tenTo (m + n) = tenTo m * tenTo n :=
  Nat.pow_add 10 m n

theorem twoTo_le_twoTo {m n : Nat} (h : m ≤ n) : twoTo m ≤ twoTo n :=
  Nat.pow_le_pow_right (by decide) h

theorem tenTo_le_tenTo {m n : Nat} (h : m ≤ n) : tenTo m ≤ tenTo n :=
  Nat.pow_le_pow_right (by decide) h

/-- A ratio rounded to the nearest whole number, a half to the even one. -/
def roundHalfEven (num den : Nat) : Nat :=
  let q := num / den
  let r := num % den
  if 2 * r < den then q
  else if den < 2 * r then q + 1
  else if q % 2 == 0 then q else q + 1

/-- A number of the binary64 format. -/
inductive Double
  /-- The number `mantissa * 2 ^ exponent`, with a sign. -/
  | finite (negative : Bool) (mantissa : Nat) (exponent : Int)
  | infinite (negative : Bool)
  | nan
deriving DecidableEq, Repr

namespace Double

/-- The exponent of the smallest numbers. -/
def minExponent : Int := -1074

/-- The exponent of the largest numbers. -/
def maxExponent : Int := 971

/-- A zero. -/
def zero (negative : Bool) : Double := .finite negative 0 minExponent

/-- A ratio divided by a power of two, as numerator and denominator. -/
def scaled (num den : Nat) (exponent : Int) : Nat × Nat :=
  if exponent < 0 then (num * twoTo (-exponent).toNat, den)
  else (num, den * twoTo exponent.toNat)

/-- The exponent that gives the whole part of a ratio 53 bits, or the least one
    if that is larger. -/
def exponentFor (num den : Nat) : Int :=
  -- The logarithms are each less than one off, so the guess is at most one too large.
  let guess : Int := Int.ofNat num.log2 - Int.ofNat den.log2 - 52
  let (n, d) := scaled num den guess
  max (if n / d < twoTo 52 then guess - 1 else guess) minExponent

/-- The number nearest to a ratio. -/
def roundRatio (negative : Bool) (num den : Nat) : Double :=
  if num == 0 then zero negative
  else
    let e := exponentFor num den
    let (n, d) := scaled num den e
    let m := roundHalfEven n d
    -- Rounding up can carry into one more bit, and then the mantissa is a power of two.
    let (m, e) := if m == twoTo 53 then (twoTo 52, e + 1) else (m, e)
    if e > maxExponent then .infinite negative else .finite negative m e

/-- The number nearest to `digits * 10 ^ exponent`. Exponents far out of range
    are not computed with. -/
def ofDecimal (negative : Bool) (digits : Nat) (exponent : Int) : Double :=
  -- A digit is worth more than three bits, so the number is below ten to this power.
  let size : Int := Int.ofNat digits.log2 / 3 + 1 + exponent
  if digits == 0 then zero negative
  else if exponent > 400 then .infinite negative
  else if size < -400 then zero negative
  else if exponent < 0 then roundRatio negative digits (tenTo (-exponent).toNat)
  else roundRatio negative (digits * tenTo exponent.toNat) 1

/-- The number nearest to an integer. -/
def ofInt (i : Int) : Double :=
  roundRatio (i < 0) i.natAbs 1

/-- The exact value of a finite number: its sign, numerator and denominator. -/
def ratio? : Double → Option (Bool × Nat × Nat)
  | .finite negative m e =>
    if e < 0 then some (negative, m, twoTo (-e).toNat)
    else some (negative, m * twoTo e.toNat, 1)
  | _ => none

/-- A number is a zero of either sign. -/
def isZero : Double → Bool
  | .finite _ 0 _ => true
  | _ => false

/-- A number with the other sign. -/
def neg : Double → Double
  | .finite s m e => .finite (!s) m e
  | .infinite s => .infinite (!s)
  | .nan => .nan

/-- The sign of a number. -/
def isNegative : Double → Bool
  | .finite s _ _ => s
  | .infinite s => s
  | .nan => false

/-- The product of two numbers. -/
def mul (a b : Double) : Double :=
  match a, b with
  | .nan, _ => .nan
  | _, .nan => .nan
  | .infinite s, y => if y.isZero then .nan else .infinite (s != y.isNegative)
  | x, .infinite s => if x.isZero then .nan else .infinite (s != x.isNegative)
  | x, y =>
    match x.ratio?, y.ratio? with
    | some (s, n, d), some (t, m, e) => roundRatio (s != t) (n * m) (d * e)
    | _, _ => .nan

/-- The sum of two numbers. A sum of zero has the sign of the operands if they
    agree, and is positive otherwise. -/
def add (a b : Double) : Double :=
  match a, b with
  | .nan, _ => .nan
  | _, .nan => .nan
  | .infinite s, .infinite t => if s == t then .infinite s else .nan
  | .infinite s, _ => .infinite s
  | _, .infinite s => .infinite s
  | x, y =>
    match x.ratio?, y.ratio? with
    | some (s, n, d), some (t, m, e) =>
      -- Both numerators are brought to the product of the denominators, and the sum is exact.
      let left : Int := if s then -Int.ofNat (n * e) else Int.ofNat (n * e)
      let right : Int := if t then -Int.ofNat (m * d) else Int.ofNat (m * d)
      let sum := left + right
      if sum == 0 then zero (s && t) else roundRatio (sum < 0) sum.natAbs (d * e)
    | _, _ => .nan

/-- The quotient of an integer by a positive number, unless it is too large for
    the format. -/
def quotient? (i : Int) (d : Nat) : Option Double :=
  match roundRatio (i < 0) i.natAbs d with
  | .infinite _ => none
  | x => some x

/-- The whole part of a finite number, towards zero. -/
def truncate? (x : Double) : Option Int :=
  match x.ratio? with
  | some (negative, n, d) => some (if negative then -Int.ofNat (n / d) else Int.ofNat (n / d))
  | none => none

/-- A number equals an integer. -/
def equalsInt (x : Double) (i : Int) : Bool :=
  match x.ratio? with
  | some (negative, n, d) =>
    -- A zero equals the integer zero with either sign.
    n == i.natAbs * d && (n == 0 || negative == decide (i < 0))
  | none => false

/-- Two numbers are equal as keys of a mapping: zeros of either sign agree, and
    so do two values that are not numbers. -/
def sameNumber (x y : Double) : Bool :=
  x == y || (x.isZero && y.isZero)

end Double

end CodeAudit

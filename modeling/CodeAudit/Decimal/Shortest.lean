import CodeAudit.Decimal.Double

/-!
# Shortest Decimals

The text of a floating point number: the fewest digits that read back.

For every number of digits there are two candidates, the neighbours of the value
on the grid of decimals with that many digits. The shortest grid that has a
candidate which reads back as the value wins, and of two such candidates the
nearer one.

The digits are written out in full while the point stays close to them, and with
an exponent beyond that.

## Main definitions

* `Double.magnitude`: The position of the decimal point before the first digit.
* `Double.candidates`: The neighbours of a value on a decimal grid.
* `Double.shortest`: The digits of a value and the position of its point.
* `Double.text`: The text of a number.
* `Double.placesText`: The text of a number with a fixed number of places.
-/

namespace CodeAudit

namespace Double

/-- The least `p` such that the ratio is below `10 ^ p`. The value is raised by a
    power of ten that makes the smallest number of the format exceed one. -/
def magnitude (num den : Nat) : Int :=
  -- The number is made large by a power of ten, so that its digits can be counted.
  Int.ofNat (Nat.toDigits 10 (num * tenTo 400 / den)).length - 400

/-- The neighbours of a ratio among the multiples of `10 ^ grid`, the nearer one
    first, and the lower one first if they are equally near and it is even. -/
def candidates (num den : Nat) (grid : Int) : List Nat :=
  let (n, d) := if grid < 0 then (num * tenTo (-grid).toNat, den) else (num, den * tenTo grid.toNat)
  let near := roundHalfEven n d
  let low := n / d
  if near == low then [low, low + 1] else [low + 1, low]

/-- The first candidate that reads back, over grids of one digit more at a time. -/
def searchGrids (x : Double) (num den : Nat) (p : Int) : Nat → Nat → Nat × Int
  | 0, k => ((candidates num den (p - k)).headD 0, p - k)
  | fuel + 1, k =>
    -- A number of k digits in front of the magnitude stands on this grid.
    let grid := p - Int.ofNat k
    -- If a multiple on this grid reads back, one of the two around the number does.
    match (candidates num den grid).find? fun c => ofDecimal false c grid == x with
    | some c => (c, grid)
    | none => searchGrids x num den p fuel (k + 1)

/-- The digits of a multiple of a power of ten without the zeros at their end, and the
    position of the point counted from the front of the digits. -/
def pointed (found : Nat × Int) : List Char × Int :=
  let digits := Nat.toDigits 10 found.1
  let kept := (digits.reverse.dropWhile (· == '0')).reverse
  (kept, Int.ofNat digits.length + found.2)

/-- The digits of a positive value, and the position of the point counted from
    the front of the digits. -/
def shortest (num den : Nat) : List Char × Int :=
  -- Seventeen digits tell any two numbers apart, and the search begins with one.
  pointed (searchGrids (roundRatio false num den) num den (magnitude num den) 16 1)

/-- The exponent of a number in scientific form: a sign and at least two digits. -/
def exponentText (e : Int) : List Char :=
  let digits := Nat.toDigits 10 e.natAbs
  let sign := if e < 0 then '-' else '+'
  sign :: (if digits.length < 2 then '0' :: digits else digits)

/-- Digits with a point at a position. The point is written in place while it is
    at most sixteen digits behind the front and fewer than four before it;
    otherwise it follows the first digit and an exponent is added. -/
def layout (digits : List Char) (point : Int) : List Char :=
  if -4 < point ∧ point ≤ 16 then
    if point ≤ 0 then '0' :: '.' :: (List.replicate (-point).toNat '0' ++ digits)
    else
      let whole := digits.take point.toNat
      let rest := digits.drop point.toNat
      let filled := whole ++ List.replicate (point.toNat - whole.length) '0'
      filled ++ '.' :: (if rest.isEmpty then ['0'] else rest)
  else
    match digits with
    | [] => []
    | [d] => d :: 'e' :: exponentText (point - 1)
    | d :: ds => d :: '.' :: ds ++ 'e' :: exponentText (point - 1)

/-- The text of a number. -/
def text (x : Double) : String :=
  match x with
  | .nan => "nan"
  | .infinite negative => if negative then "-inf" else "inf"
  | .finite negative m e =>
    let sign : List Char := if negative then ['-'] else []
    match (Double.finite false m e).ratio? with
    -- Zero has no digits to be searched for.
    | some (_, 0, _) => String.ofList (sign ++ ['0', '.', '0'])
    | some (_, n, d) =>
      let digits := shortest n d
      String.ofList (sign ++ layout digits.1 digits.2)
    | none => ""

/-- A whole number of units of `10 ^ (-places)`, written with a point. -/
def placedDigits (places units : Nat) : List Char :=
  let digits := Nat.toDigits 10 units
  -- There is at least one digit in front of the point.
  let padded := List.replicate (places + 1 - digits.length) '0' ++ digits
  let whole := padded.take (padded.length - places)
  if places == 0 then whole else whole ++ '.' :: padded.drop (padded.length - places)

/-- The text of a number with a fixed number of places. The exact value is
    rounded, a half to the even neighbour. -/
def placesText (places : Nat) (x : Double) : String :=
  match x.ratio? with
  | some (negative, n, d) =>
    let sign : List Char := if negative then ['-'] else []
    String.ofList (sign ++ placedDigits places (roundHalfEven (n * tenTo places) d))
  | none => x.text

end Double

end CodeAudit

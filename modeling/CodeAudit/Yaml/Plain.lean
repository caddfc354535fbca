import CodeAudit.Decimal.Read
import CodeAudit.Text.Case
import CodeAudit.Value.Fault
import CodeAudit.Yaml.Error
import CodeAudit.Yaml.Resolve

/-!
# Values of Scalars

What a scalar with a core tag spells.

Numbers may have underscores anywhere, and may be written in base sixty with colons
between the digits. An integer that starts with a zero is binary, hexadecimal or octal.
Bytes are written in base 64.

## Main definitions

* `Yaml.readBool`, `Yaml.readInt`, `Yaml.readFloat`: Truth values and numbers.
* `Yaml.readTime`: A day, or a time of a day.
* `Yaml.readBytes`: Bytes.
-/

namespace CodeAudit

namespace Yaml

variable {ε : Type}

/-- The truth value a word spells, in letters of either case. -/
def readBool (s : String) : Scan ε Value :=
  let word := lowered s
  if ["yes", "true", "on"].contains word then .ok (.bool true)
  else if ["no", "false", "off"].contains word then .ok (.bool false)
  else .error (.defect (.notABoolean word))

/-- The integer written by a text in a base. -/
def integerPart (base : Nat) (cs : List Char) : Scan ε Int :=
  match Value.integerIn base (String.ofList cs) with
  | .ok i => .ok i
  | .error f => .error (.defect (.badValue f.text))

/-- The parts of a text between colons. -/
def colonParts : List Char → List Char → List (List Char)
  | cur, [] => [cur.reverse]
  | cur, c :: rest =>
    if c == ':' then cur.reverse :: colonParts [] rest else colonParts (c :: cur) rest

/-- The integer written by a text behind its sign. -/
def unsignedInt (cs : List Char) : Scan ε Int :=
  match cs with
  | [] => .error (.defect .emptyNumber)
  | ['0'] => .ok 0
  | '0' :: 'b' :: rest => integerPart 2 rest
  | '0' :: 'x' :: rest => integerPart 16 rest
  | '0' :: _ => integerPart 8 cs
  | _ =>
    -- Every digit of the base is read as a number of its own, so each can have a sign.
    if cs.contains ':' then do
      let parts ← (colonParts [] cs).mapM (integerPart 10)
      return parts.foldl (fun n d => 60 * n + d) 0
    else integerPart 10 cs

/-- The integer a scalar spells. -/
def readInt (s : String) : Scan ε Value :=
  match s.toList.filter (· != '_') with
  -- A text of underscores alone has nothing left to be read.
  | [] => .error (.defect .emptyNumber)
  | cs => do
    let (negative, digits) := takeSign cs
    let i ← unsignedInt digits
    return .int (if negative then -i else i)

/-- The floating point number written by a text. -/
def floatPart (cs : List Char) : Scan ε Double :=
  match Double.read? cs with
  | some x => .ok x
  | none =>
    .error (.defect (.badValue
      ("could not convert string to float: " ++ CodeAudit.quoted (String.ofList cs))))

/-- The sum of floating point digits in base sixty, the last digit first. The weight of a digit has
    to be in range. -/
def sumSixties : List Double → Nat → Double → Scan ε Double
  | [], _, sum => .ok sum
  | d :: rest, weight, sum =>
    match Double.quotient? weight 1 with
    | some x => sumSixties rest (weight * 60) (sum.add (d.mul x))
    | none => .error (.defect .tooLarge)

/-- The floating point number written by a text behind its sign. -/
def unsignedFloat (cs : List Char) : Scan ε Double :=
  if cs == ".inf".toList then .ok (.infinite false)
  else if cs.contains ':' then do
    let digits ← (colonParts [] cs).mapM floatPart
    -- The last digit is taken first, since its weight is one and that of each further one is
    -- known.
    sumSixties digits.reverse 1 (.zero false)
  else floatPart cs

/-- The floating point number a scalar spells. -/
def readFloat (s : String) : Scan ε Value :=
  match lowerText (s.toList.filter (· != '_')) with
  | [] => .error (.defect .emptyNumber)
  | cs => do
    let (negative, digits) := takeSign cs
    if digits == ".nan".toList then return .float .nan
    else
      let x ← unsignedFloat digits
      return .float (if negative then x.neg else x)

/-- A fraction of a second in microseconds, further digits left out. -/
def microseconds (fraction : List Char) : Nat :=
  let kept := fraction.take 6
  -- A short fraction is filled up with zeros.
  decimalNat kept * tenTo (6 - kept.length)

/-- The distance of a clock from universal time in minutes. -/
def zoneMinutes (zone : Option (Bool × List Char × List Char)) : Scan ε Int :=
  match zone with
  | none => .ok 0
  | some (negative, hours, minutes) =>
    let distance := signed negative (decimalNat hours * 60 + decimalNat minutes)
    -- An offset has to be less than a day, either way.
    if distance.natAbs < 1440 then .ok distance
    else
      .error (.defect (.badValue
        ("offset must be a timedelta strictly between -timedelta(hours=24) and " ++
          "timedelta(hours=24), not " ++ Moment.spanText distance ++ ".")))

/-- The day or time that written parts make up. -/
def timeOfClock (t : Clock) : Scan ε Value := do
  let date : Date := ⟨decimalNat t.year, decimalNat t.month, decimalNat t.day⟩
  match t.time with
  | none => if date.isValid then return .date date else throw (.defect .noSuchDay)
  | some (hour, minute, second) =>
    -- A time without an offset stays without one, which differs from universal time.
    let offset ←
      match t.zone with
      | none => pure none
      | some zone => (zoneMinutes zone).map some
    let moment : Moment :=
      ⟨date, decimalNat hour, decimalNat minute, decimalNat second, microseconds t.fraction, offset⟩
    if moment.isValid then return .moment moment else throw (.defect .noSuchDay)

/-- The day or time a scalar spells. -/
def readTime (s : String) : Scan ε Value :=
  let cs := s.toList
  -- A block scalar ends with a line feed, which is no part of the time.
  let cs := if cs.getLast? == some '\n' then cs.dropLast else cs
  match Clock.read? cs with
  | some t => timeOfClock t
  | none => .error (.defect .notATime)

/-- The value of a character in base 64. -/
def sextet? (c : Char) : Option Nat :=
  if c.isUpper then some (c.toNat - 'A'.toNat)
  else if c.isLower then some (c.toNat - 'a'.toNat + 26)
  else if c.isDigit then some (c.toNat - '0'.toNat + 52)
  else if c == '+' then some 62
  else if c == '/' then some 63
  else none

/-- The digits of a text in base 64 up to the padding that completes a group of four.
    Characters outside the alphabet are passed over. The count of padding signs starts
    again at every digit. -/
def sextets : Nat → Nat → List Char → List Nat × Bool
  | _, _, [] => ([], false)
  | position, pads, c :: rest =>
    if c == '=' then
      -- A padding sign closes the text only where a group can be complete with it.
      if position ≥ 2 && position + pads + 1 ≥ 4 then ([], true)
      else sextets position (if position ≥ 2 then pads + 1 else pads) rest
    else
      match sextet? c with
      | some n =>
        let (more, closed) := sextets ((position + 1) % 4) 0 rest
        (n :: more, closed)
      | none => sextets position pads rest

/-- The bytes of digits in base 64. What is left of an incomplete group is dropped. -/
def bytesOfSextets : List Nat → List UInt8
  | a :: b :: c :: d :: rest =>
    UInt8.ofNat (a * 4 + b / 16) :: UInt8.ofNat (b % 16 * 16 + c / 4) ::
      UInt8.ofNat (c % 4 * 64 + d) :: bytesOfSextets rest
  | [a, b, c] => [UInt8.ofNat (a * 4 + b / 16), UInt8.ofNat (b % 16 * 16 + c / 4)]
  | [a, b] => [UInt8.ofNat (a * 4 + b / 16)]
  | _ => []

/-- The bytes a scalar at a place spells. -/
def readBytes (mark : Mark) (s : String) : Scan ε Value :=
  match s.toList.findIdx? fun c => c.toNat ≥ 128 with
  | some n =>
    let run := (s.toList.drop n).takeWhile fun c => c.toNat ≥ 128
    let which :=
      -- The first run of characters that are not ASCII is told, by its place or its places.
      match run with
      | [c] => "character '" ++ String.ofList (codeEscape c.toNat) ++ "' in position " ++ toString n
      | _ => "characters in position " ++ toString n ++ "-" ++ toString (n + run.length - 1)
    troubleAt ("failed to convert base64 data into ascii: 'ascii' codec can't encode " ++ which ++
      ": ordinal not in range(128)") mark
  | none =>
    let (digits, closed) := sextets 0 0 s.toList
    -- Without padding the digits have to come out even.
    if closed || digits.length % 4 == 0 then .ok (.bytes (bytesOfSextets digits))
    else if digits.length % 4 == 1 then
      troubleAt ("failed to decode base64 data: Invalid base64-encoded string: " ++
        "number of data characters (" ++ toString digits.length ++
        ") cannot be 1 more than a multiple of 4") mark
    else troubleAt "failed to decode base64 data: Incorrect padding" mark

end Yaml

end CodeAudit

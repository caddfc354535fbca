import CodeAudit.Text.Integer
import CodeAudit.Value.Moment

/-!
# Implicit Tags

What a plain scalar is.

A scalar that stands without quotes and without a tag is a truth value, a number, a
time, nothing, or one of two signs with a meaning of their own, if it is written like
one; otherwise it is a text.

## Main definitions

* `Yaml.coreTag`: The tag of a kind of value.
* `Yaml.isFloat`, `Yaml.isInteger`: A text is written like a number.
* `Yaml.Clock.read?`: The parts of a written time.
* `Yaml.implicitTag`: The tag of a plain scalar.
-/

namespace CodeAudit

namespace Yaml

/-- The tag of a kind of value. -/
def coreTag (kind : String) : String :=
  "tag:yaml.org,2002:" ++ kind

/-- The words for truth values, as they may be written. -/
def booleanWords : List String :=
  ["yes", "Yes", "YES", "no", "No", "NO", "true", "True", "TRUE", "false", "False", "FALSE",
   "on", "On", "ON", "off", "Off", "OFF"]

/-- The words for nothing, as they may be written. -/
def nullWords : List String := ["", "~", "null", "Null", "NULL"]

/-- A digit or an underscore. -/
def isSpacedDigit (c : Char) : Bool :=
  c.isDigit || c == '_'

/-- The text behind a sign. -/
def dropSign (cs : List Char) : List Char :=
  (takeSign cs).2

/-- Nothing, or an exponent with a sign. -/
def isExponent : List Char → Bool
  | [] => true
  | e :: s :: digits =>
    (e == 'e' || e == 'E') && (s == '+' || s == '-') && !digits.isEmpty && digits.all Char.isDigit
  | _ => false

/-- The text behind a colon and a number below sixty, as often as they follow. Nothing is
    given if a colon is not followed by such a number. -/
def dropSixties : Nat → List Char → Option (List Char)
  | 0, cs => some cs
  | fuel + 1, cs =>
    match cs with
    | ':' :: rest =>
      let digits := rest.takeWhile Char.isDigit
      let behind := rest.dropWhile Char.isDigit
      match digits with
      | [_] => dropSixties fuel behind
      -- Behind the first number only numbers below sixty count as digits of the base.
      | [tens, _] => if tens ≤ '5' then dropSixties fuel behind else none
      | _ => none
    | _ => some cs

/-- The text behind the first colon groups of a number in base sixty. -/
def dropBaseSixty (cs : List Char) : Option (List Char) :=
  if cs.head? == some ':' then dropSixties cs.length cs else none

/-- A text behind its sign is written like a floating point number that starts with a
    digit. -/
def isFloatBody (cs : List Char) : Bool :=
  match cs with
  | d :: _ =>
    if d.isDigit then
      -- A number may begin with underscores behind its first digit, or go on without a point at
      -- all.
      match cs.dropWhile isSpacedDigit with
      | '.' :: rest => isExponent (rest.dropWhile isSpacedDigit)
      | rest =>
        -- In base sixty only the last digit may have a fraction.
        match dropBaseSixty rest with
        | some ('.' :: rest) => rest.all isSpacedDigit
        | _ => false
    else false
  | [] => false

/-- A text is written like a floating point number. -/
def isFloat (cs : List Char) : Bool :=
  isFloatBody (dropSign cs) ||
    -- A number that starts with its point has no sign and needs a digit behind the point.
    (match cs with
     | '.' :: d :: rest => d.isDigit && isExponent (rest.dropWhile isSpacedDigit)
     | _ => false) ||
    [".inf".toList, ".Inf".toList, ".INF".toList].contains (dropSign cs) ||
    [".nan".toList, ".NaN".toList, ".NAN".toList].contains cs

/-- A text has characters of a kind only, and at least one. -/
def isRun (test : Char → Bool) (cs : List Char) : Bool :=
  !cs.isEmpty && cs.all test

/-- A text is written like an integer. -/
def isInteger (cs : List Char) : Bool :=
  match dropSign cs with
  -- A zero alone is written in no base.
  | ['0'] => true
  | '0' :: 'b' :: rest => isRun (fun c => c == '0' || c == '1' || c == '_') rest
  | '0' :: 'x' :: rest => isRun (fun c => isHexDigit c || c == '_') rest
  -- Any other zero in front makes the rest octal digits.
  | '0' :: rest => isRun (fun c => ('0' ≤ c && c ≤ '7') || c == '_') rest
  | d :: rest =>
    d.isDigit &&
      (match rest.dropWhile isSpacedDigit with
       | [] => true
       | behind => dropBaseSixty behind == some [])
  | [] => false

/-- The parts of a written time, as runs of digits. A day without a time of day has no
    hour. The offset has a sign, hours, and minutes or none; the letter for universal
    time is an offset without parts. -/
structure Clock where
  year : List Char
  month : List Char
  day : List Char
  time : Option (List Char × List Char × List Char)
  fraction : List Char
  zone : Option (Option (Bool × List Char × List Char))
deriving Repr

namespace Clock

/-- A run of digits whose length is between two bounds, and the rest. -/
def digits (least most : Nat) (cs : List Char) : Option (List Char × List Char) :=
  -- No more digits are taken than the part may have, and the next one has to fit what follows.
  let found := (cs.take most).takeWhile Char.isDigit
  if least ≤ found.length then some (found, cs.drop found.length) else none

/-- The rest behind a character that has to follow. -/
def expect (x : Char) : List Char → Option (List Char)
  | c :: rest => if c == x then some rest else none
  | [] => none

/-- The rest behind what stands between a day and a time of day: the letter T, or
    blanks. -/
def dropGap (cs : List Char) : Option (List Char) :=
  match cs with
  | c :: rest =>
    -- The letter stands alone, and blanks may be any number.
    if c == 'T' || c == 't' then some rest
    else if c == ' ' || c == '\t' then some (cs.dropWhile fun x => x == ' ' || x == '\t')
    else none
  | [] => none

/-- A fraction of a second, where one follows. -/
def fractionOf : List Char → List Char × List Char
  | '.' :: rest => (rest.takeWhile Char.isDigit, rest.dropWhile Char.isDigit)
  | cs => ([], cs)

/-- The offset at the end of a time: none, universal time, or hours and minutes. -/
def zoneOf (cs : List Char) : Option (Option (Option (Bool × List Char × List Char))) :=
  match cs with
  | [] => some none
  | _ =>
    match cs.dropWhile fun x => x == ' ' || x == '\t' with
    -- Universal time is told by the capital letter only.
    | ['Z'] => some (some none)
    | s :: rest =>
      if s == '+' || s == '-' then do
        let (hours, rest) ← digits 1 2 rest
        match rest with
        | [] => some (some (some (s == '-', hours, [])))
        | ':' :: rest =>
          match digits 2 2 rest with
          | some (minutes, []) => some (some (some (s == '-', hours, minutes)))
          | _ => none
        | _ => none
      else none
    | [] => none

/-- A time of day behind the gap: hour, minute and second, and the rest. -/
def timeOf (cs : List Char) : Option ((List Char × List Char × List Char) × List Char) := do
  let (hour, cs) ← digits 1 2 cs
  let (minute, cs) ← digits 2 2 (← expect ':' cs)
  let (second, cs) ← digits 2 2 (← expect ':' cs)
  return ((hour, minute, second), cs)

/-- The parts of a written time. -/
def read? (cs : List Char) : Option Clock := do
  let (year, cs) ← digits 4 4 cs
  let (month, cs) ← digits 1 2 (← expect '-' cs)
  let (day, cs) ← digits 1 2 (← expect '-' cs)
  -- A day without a time of day ends here.
  if cs.isEmpty then
    return { year, month, day, time := none, fraction := [], zone := none }
  else
    let (time, cs) ← timeOf (← dropGap cs)
    let (fraction, cs) := fractionOf cs
    let zone ← zoneOf cs
    return { year, month, day, time := some time, fraction, zone }

/-- A written time is taken for one without a tag: a day alone needs two digits for the
    month and for the day. -/
def isPlain (t : Clock) : Bool :=
  t.time.isSome || (t.month.length == 2 && t.day.length == 2)

end Clock

/-- A text is written like a time. -/
def isTime (cs : List Char) : Bool :=
  match Clock.read? cs with
  | some t => t.isPlain
  | none => false

/-- The tag of a plain scalar. A line feed at the very end is not looked at. -/
def implicitTag (s : String) : String :=
  let cs := s.toList
  let cs := if cs.length > 1 && cs.getLast? == some '\n' then cs.dropLast else cs
  let word := String.ofList cs
  -- A text can be written like several of these, and the first of them counts.
  if booleanWords.contains word then coreTag "bool"
  -- A point tells a floating point number from an integer in base sixty.
  else if isFloat cs then coreTag "float"
  else if isInteger cs then coreTag "int"
  else if word == "<<" then coreTag "merge"
  else if nullWords.contains word then coreTag "null"
  else if isTime cs then coreTag "timestamp"
  else if word == "=" then coreTag "value"
  else coreTag "str"

end Yaml

end CodeAudit

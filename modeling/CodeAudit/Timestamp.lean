import CodeAudit.Failure

/-!
# Timestamps

The written form of a time.

A time is given in milliseconds from the beginning of 1970. It is first turned to seconds as
a floating point number and then rounded to microseconds, so that a time just short of a
second can be that second. A time that is not in one of the years that are written has no
text, and so has one that is beyond the reach of the system.

## Main definitions

* `Timestamp.seconds`: A number of milliseconds in seconds.
* `Timestamp.wholeSeconds`: The second a time is in, after rounding to microseconds.
* `Timestamp.text`: The written form of a time in seconds.
* `Timestamp.format`: The written form of a time in milliseconds.
* `wholeMillis`: A number of seconds in whole milliseconds.
-/

namespace CodeAudit

namespace Timestamp

/-- A number of milliseconds in seconds. -/
def seconds : Value → Except Failure Double
  | .float x =>
    match x.ratio? with
    -- The quotient is rounded once, from the exact value of the number.
    | some (negative, n, d) => .ok (.roundRatio negative n (d * 1000))
    | none => .ok x
  | v =>
    match v.asInt? with
    | some i =>
      match Double.quotient? i 1000 with
      | some x => .ok x
      | none => .error (.fault .tooLarge)
    | none => .error (.fault .wrongKind)

/-- The microseconds of a number of seconds that is not whole, rounded. -/
def microseconds (x whole : Double) : Int :=
  match ((x.add whole.neg).mul (.ofInt 1000000)).ratio? with
  | some (negative, n, d) =>
    let us := Int.ofNat (roundHalfEven n d)
    if negative then -us else us
  | none => 0

/-- The second a time is in, after rounding to microseconds. -/
def wholeSeconds (x : Double) : Except Failure Int :=
  match x.truncate? with
  | none => .error (.time .tooLarge)
  | some whole =>
    let us := microseconds x (.ofInt whole)
    -- Rounding can reach the next second, and in front of zero the second lies below.
    let second := if us ≥ 1000000 then whole + 1 else if us < 0 then whole - 1 else whole
    -- The number of seconds has to fit in a word of the machine.
    if -Int.ofNat (twoTo 63) ≤ second ∧ second < Int.ofNat (twoTo 63) then .ok second
    else .error (.time .tooLarge)

/-- The last second of a year that the system can tell. -/
def lastSecond : Int := 67768036191676799

/-- The first second of a year that the system can tell. -/
def firstSecond : Int := -67768040609740800

/-- The time of day of a number of seconds from midnight. -/
def timeOfDay (seconds : Nat) : String :=
  padded 2 (seconds / 3600) ++ ":" ++ padded 2 (seconds / 60 % 60) ++ ":" ++
    padded 2 (seconds % 60)

/-- The written form of a time in seconds. -/
def text (x : Double) : Except Failure String := do
  let second ← wholeSeconds x
  if second < firstSecond ∨ lastSecond < second then throw (.time .noSuchDay)
  let (year, month, day) := civil (second / 86400)
  if year < 1 ∨ 9999 < year then throw (.time .yearOutOfRange)
  return toString year ++ "-" ++ padded 2 month ++ "-" ++ padded 2 day ++ " " ++
    timeOfDay (second % 86400).toNat ++ " UTC"

/-- The written form of a time in milliseconds. -/
def format (millis : Value) : Except Failure String := do
  text (← seconds millis)

end Timestamp

/-- A number of seconds in whole milliseconds, towards zero. -/
def wholeMillis (seconds : Double) : Except Failure Int :=
  orFailure .fault (Value.float (seconds.mul (.ofInt 1000))).toInteger

end CodeAudit

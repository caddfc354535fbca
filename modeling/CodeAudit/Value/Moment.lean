/-!
# Dates and Times

Calendar days and times of day, and the calendar that counts them.

Days are counted from the first of January 1970 in the Gregorian calendar
continued in both directions. The count goes by eras of 400 years, each of which
has the same number of days, with years taken to begin in March so that the leap
day is the last day of a year.

A time may carry the distance of its clock from universal time, in minutes.

## Main definitions

* `Date`: A calendar day.
* `daysBefore`: The number of days from the first of January 1970 to a day.
* `civil`: The year, month and day with a given count.
* `Date.isValid`: A day exists.
* `Moment`: A day with a time of day.
* `Moment.sameInstant`: Two times are the same point in time.
* `Date.text`, `Moment.text`: The usual written form.
* `Date.quoted`, `Moment.quoted`: The form that names every part.
-/

namespace CodeAudit

/-- A number padded with zeros to a width. -/
def padded (width n : Nat) : String :=
  let digits := Nat.toDigits 10 n
  String.ofList (List.replicate (width - digits.length) '0' ++ digits)

/-- A calendar day. -/
structure Date where
  year : Nat
  month : Nat
  day : Nat
deriving DecidableEq, Repr

/-- A year has a leap day. -/
def isLeap (year : Nat) : Bool :=
  year % 4 == 0 && (year % 100 != 0 || year % 400 == 0)

/-- The number of days of a month. -/
def monthLength (year month : Nat) : Nat :=
  if month == 2 then (if isLeap year then 29 else 28)
  else if [4, 6, 9, 11].contains month then 30
  else 31

/-- A day exists in the calendar of the years 1 to 9999. -/
def Date.isValid (d : Date) : Bool :=
  1 ≤ d.year && d.year ≤ 9999 && 1 ≤ d.month && d.month ≤ 12 &&
    1 ≤ d.day && d.day ≤ monthLength d.year d.month

/-- The number of days from the first of January 1970 to a day. -/
def daysBefore (year : Int) (month day : Nat) : Int :=
  -- The year is taken to start in March, so that a leap day is the last day of it. The calendar
  -- then repeats after four hundred years.
  let y := if month ≤ 2 then year - 1 else year
  let era := Int.fdiv y 400
  let yearOfEra := y - era * 400
  let monthFromMarch : Int := if month > 2 then Int.ofNat month - 3 else Int.ofNat month + 9
  -- The lengths of the months from March on come out of one fraction.
  let dayOfYear := (153 * monthFromMarch + 2) / 5 + Int.ofNat day - 1
  let dayOfEra := yearOfEra * 365 + yearOfEra / 4 - yearOfEra / 100 + dayOfYear
  era * 146097 + dayOfEra - 719468

/-- The year, month and day a given number of days after the first of January
    1970. -/
def civil (days : Int) : Int × Nat × Nat :=
  let z := days + 719468
  let era := Int.fdiv z 146097
  let dayOfEra := z - era * 146097
  -- The leap days of four years and of the era are taken out, and those that centuries lack are
  -- put in, so that all years have one length.
  let yearOfEra := (dayOfEra - dayOfEra / 1460 + dayOfEra / 36524 - dayOfEra / 146096) / 365
  let dayOfYear := dayOfEra - (365 * yearOfEra + yearOfEra / 4 - yearOfEra / 100)
  let monthFromMarch := (5 * dayOfYear + 2) / 153
  let day := dayOfYear - (153 * monthFromMarch + 2) / 5 + 1
  let month := if monthFromMarch < 10 then monthFromMarch + 3 else monthFromMarch - 9
  let year := yearOfEra + era * 400
  (if month ≤ 2 then year + 1 else year, month.toNat, day.toNat)

/-- The usual written form of a day. -/
def Date.text (d : Date) : String :=
  padded 4 d.year ++ "-" ++ padded 2 d.month ++ "-" ++ padded 2 d.day

/-- The form of a day that names every part. -/
def Date.quoted (d : Date) : String :=
  "datetime.date(" ++ toString d.year ++ ", " ++ toString d.month ++ ", " ++ toString d.day ++ ")"

/-- A day with a time of day, and the distance of the clock from universal time
    in minutes where it is known. -/
structure Moment where
  date : Date
  hour : Nat
  minute : Nat
  second : Nat
  microsecond : Nat
  offset : Option Int
deriving DecidableEq, Repr

namespace Moment

/-- The parts of a time of day are in range. -/
def isValid (m : Moment) : Bool :=
  m.date.isValid && m.hour < 24 && m.minute < 60 && m.second < 60

/-- The seconds of a time since the start of 1970, by its own clock. -/
def localSeconds (m : Moment) : Int :=
  daysBefore m.date.year m.date.month m.date.day * 86400 +
    Int.ofNat (m.hour * 3600 + m.minute * 60 + m.second)

/-- Two times are the same point in time. A time whose clock is not known is
    comparable only with others of its kind. -/
def sameInstant (a b : Moment) : Bool :=
  a.offset.isSome == b.offset.isSome && a.microsecond == b.microsecond &&
    a.localSeconds - a.offset.getD 0 * 60 == b.localSeconds - b.offset.getD 0 * 60

/-- A distance from universal time, as hours and minutes with a sign. -/
def offsetText (minutes : Int) : String :=
  (if minutes < 0 then "-" else "+") ++ padded 2 (minutes.natAbs / 60) ++ ":" ++
    padded 2 (minutes.natAbs % 60)

/-- The usual written form of a time. A zero fraction is left out. -/
def text (m : Moment) : String :=
  m.date.text ++ " " ++ padded 2 m.hour ++ ":" ++ padded 2 m.minute ++ ":" ++ padded 2 m.second ++
    (if m.microsecond == 0 then "" else "." ++ padded 6 m.microsecond) ++
    (match m.offset with
     | none => ""
     | some minutes => offsetText minutes)

/-- A span of minutes as days and seconds, the days rounded down and a part that
    is zero left out. -/
def spanText (minutes : Int) : String :=
  -- A negative span is a negative number of days, with seconds that count up from there.
  let days := Int.fdiv minutes 1440
  let seconds := (minutes - days * 1440) * 60
  let parts :=
    (if days == 0 then [] else ["days=" ++ toString days]) ++
      (if seconds == 0 then [] else ["seconds=" ++ toString seconds])
  "datetime.timedelta(" ++ String.intercalate ", " parts ++ ")"

/-- A distance from universal time in the form that names every part. -/
def zoneText (minutes : Int) : String :=
  if minutes == 0 then "datetime.timezone.utc"
  else "datetime.timezone(" ++ spanText minutes ++ ")"

/-- The form of a time that names every part. The second is left out if it and
    the fraction are zero. -/
def quoted (m : Moment) : String :=
  let parts :=
    [m.date.year, m.date.month, m.date.day, m.hour, m.minute] ++
      (if m.microsecond != 0 then [m.second, m.microsecond]
       else if m.second != 0 then [m.second] else [])
  "datetime.datetime(" ++ String.intercalate ", " (parts.map toString) ++
    (match m.offset with
     | none => ""
     | some minutes => ", tzinfo=" ++ zoneText minutes) ++ ")"

end Moment

end CodeAudit

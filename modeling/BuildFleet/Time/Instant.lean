/-!
# Instants and the calendar

An instant is counted in seconds from the start of 1970 in Coordinated Universal Time. Days
are counted in the proleptic Gregorian calendar: `daysFromCivil` and `civilFromDays` go
between a date and its number, in eras of 400 years that start on the first of March, so a
leap day is the last day of its year.
-/

namespace BuildFleet

/-- A point in time. -/
structure Instant where
  /-- Whole seconds since the start of 1970. -/
  seconds : Int
  /-- Billionths of a second after that; a leap second is the billion that follows the last one. -/
  nanos : Nat
  deriving DecidableEq, Inhabited, Repr

/-- The start of the second that an instant lies in; a leap second is a second of its own. -/
def Instant.startOfSecond (i : Instant) : Instant :=
  { i with nanos := if i.nanos < 1000000000 then 0 else 1000000000 }

/-- A date of the Gregorian calendar. -/
structure Civil where
  /-- The year; the one before the first is zero. -/
  year : Int
  /-- From 1 to 12. -/
  month : Nat
  /-- From 1. -/
  day : Nat
  deriving DecidableEq, Repr

namespace Civil

/-- Whether February has a leap day. -/
def isLeap (year : Int) : Bool := year % 4 == 0 && (year % 100 != 0 || year % 400 == 0)

/-- How many days the month has. -/
def monthLength (year : Int) (month : Nat) : Nat :=
  match month with
  | 1 => 31
  | 2 => if isLeap year then 29 else 28
  | 3 => 31
  | 4 => 30
  | 5 => 31
  | 6 => 30
  | 7 => 31
  | 8 => 31
  | 9 => 30
  | 10 => 31
  | 11 => 30
  | 12 => 31
  | _ => 0

/-- Whether the calendar has the date. -/
def isValid (c : Civil) : Bool :=
  1 ≤ c.month && c.month ≤ 12 && 1 ≤ c.day && c.day ≤ monthLength c.year c.month

/-- Whether the year is one of those that dates are kept for. -/
def inRange (c : Civil) : Bool := -262143 ≤ c.year && c.year ≤ 262142

/-- The number of the date, the first of January 1970 being zero. -/
def toDays (c : Civil) : Int :=
  let y := if c.month ≤ 2 then c.year - 1 else c.year
  let era := Int.fdiv y 400
  let yearOfEra := y - era * 400
  let monthFromMarch : Int := (c.month + 9) % 12
  let dayOfYear := (153 * monthFromMarch + 2) / 5 + c.day - 1
  let dayOfEra := yearOfEra * 365 + yearOfEra / 4 - yearOfEra / 100 + dayOfYear
  era * 146097 + dayOfEra - 719468

/-- The date with the number. -/
def ofDays (days : Int) : Civil :=
  let z := days + 719468
  let era := Int.fdiv z 146097
  let dayOfEra := (z - era * 146097).toNat
  let yearOfEra := (dayOfEra - dayOfEra / 1460 + dayOfEra / 36524 - dayOfEra / 146096) / 365
  let dayOfYear := dayOfEra - (365 * yearOfEra + yearOfEra / 4 - yearOfEra / 100)
  let monthFromMarch := (5 * dayOfYear + 2) / 153
  let day := dayOfYear - (153 * monthFromMarch + 2) / 5 + 1
  let month := if monthFromMarch < 10 then monthFromMarch + 3 else monthFromMarch - 9
  let year : Int := yearOfEra + era * 400
  ⟨if month ≤ 2 then year + 1 else year, month, day⟩

end Civil

/-- The date of an instant in Coordinated Universal Time. -/
def Instant.date (i : Instant) : Civil := Civil.ofDays (Int.fdiv i.seconds 86400)

end BuildFleet

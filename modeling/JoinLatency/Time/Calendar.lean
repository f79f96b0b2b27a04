/-! Dates of the Gregorian calendar and their day numbers from 1970-01-01 on. Years are counted
from March inside the conversions, so that the leap day comes last.
-/

namespace JoinLatency.Time

/-- A date: a year of any sign, a month from 1 to 12, and a day of the month. -/
structure Date where
  year : Int
  month : Nat
  day : Nat
  deriving DecidableEq, Repr

namespace Date

/-- Whether a year has a leap day. -/
def isLeapYear (year : Int) : Bool :=
  year % 4 == 0 && (year % 100 != 0 || year % 400 == 0)

/-- The number of days of a month. -/
def daysInMonth (year : Int) (month : Nat) : Nat :=
  match month with
  | 2 => if isLeapYear year then 29 else 28
  | 4 | 6 | 9 | 11 => 30
  | _ => 31

/-- Whether a date exists. -/
def isValid (date : Date) : Bool :=
  1 ≤ date.month && date.month ≤ 12 && 1 ≤ date.day
    && date.day ≤ daysInMonth date.year date.month

/-- The days of the 400 years after which the calendar repeats. -/
def cycle : Int := 146097

/-- The days from the first of March of the year zero to the first of January 1970. -/
def origin : Int := 719468

/-- The day number of a date. -/
def toDays (date : Date) : Int :=
  let year := if date.month ≤ 2 then date.year - 1 else date.year
  let era := Int.fdiv year 400
  let yearOfEra := year - era * 400
  let month : Int := (date.month + 9) % 12
  let dayOfYear := (153 * month + 2) / 5 + date.day - 1
  era * cycle + yearOfEra * 365 + yearOfEra / 4 - yearOfEra / 100 + dayOfYear - origin

/-- The date of a day number. -/
def ofDays (days : Int) : Date :=
  let shifted := days + origin
  let era := Int.fdiv shifted cycle
  let dayOfEra := shifted - era * cycle
  let yearOfEra :=
    (dayOfEra - dayOfEra / 1460 + dayOfEra / 36524 - dayOfEra / 146096) / 365
  let dayOfYear := dayOfEra - (365 * yearOfEra + yearOfEra / 4 - yearOfEra / 100)
  let month := (5 * dayOfYear + 2) / 153
  let day := dayOfYear - (153 * month + 2) / 5 + 1
  let month := if month < 10 then month + 3 else month - 9
  let year := yearOfEra + era * 400
  { year := if month ≤ 2 then year + 1 else year, month := month.toNat, day := day.toNat }

end Date

end JoinLatency.Time

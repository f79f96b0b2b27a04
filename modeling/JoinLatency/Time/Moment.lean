import JoinLatency.Text.Blank
import JoinLatency.Time.Calendar
import JoinLatency.Time.Duration

/-! Moments in universal time, with nanoseconds and leap seconds. They are written with as many
groups of three fraction digits as they need, and read with any offset and blanks between the
fields.
-/

namespace JoinLatency

open JoinLatency.Time

/-- A moment: seconds since the start of 1970 and nanoseconds. In a leap second the nanoseconds
go on past those of a full second.
-/
structure Moment where
  seconds : Int
  nanoseconds : Nat
  deriving DecidableEq, Repr, Inhabited

namespace Moment

/-- The seconds of a day. -/
def secondsPerDay : Int := 86400

/-- The moment after a duration. -/
def plus (moment : Moment) (duration : Duration) : Moment :=
  let total := moment.nanoseconds + duration.nanoseconds
  {
    seconds := moment.seconds + (total / Duration.perSecond : Nat)
    nanoseconds := total % Duration.perSecond
  }

/-! ## Writing -/

/-- A natural with at least a number of digits. -/
def padded (width n : Nat) : String :=
  let digits := Nat.toDigits 10 n
  String.ofList (List.replicate (width - digits.length) '0' ++ digits)

/-- A year of four digits, or with a sign and at least four. -/
def yearText (year : Int) : String :=
  if 0 ≤ year && year ≤ 9999 then padded 4 year.toNat
  else (if year < 0 then "-" else "+") ++ padded 4 year.natAbs

/-- The date and the time of day of a moment, with a text between them. -/
def clockText (moment : Moment) (separator : String) : String :=
  let date := Date.ofDays (Int.fdiv moment.seconds secondsPerDay)
  let second := (Int.fmod moment.seconds secondsPerDay).toNat
  let leap := if Duration.perSecond ≤ moment.nanoseconds then 1 else 0
  s!"{yearText date.year}-{padded 2 date.month}-{padded 2 date.day}{separator}"
    ++ s!"{padded 2 (second / 3600)}:{padded 2 (second / 60 % 60)}"
    ++ s!":{padded 2 (second % 60 + leap)}"

/-- The shortest fraction of three, six or nine digits, if there is one. -/
def fractionText (nanoseconds : Nat) : String :=
  if nanoseconds = 0 then ""
  else if nanoseconds % 1000000 = 0 then "." ++ padded 3 (nanoseconds / 1000000)
  else if nanoseconds % 1000 = 0 then "." ++ padded 6 (nanoseconds / 1000)
  else "." ++ padded 9 nanoseconds

/-- A moment in data texts. -/
def toText (moment : Moment) : String :=
  moment.clockText "T" ++ fractionText (moment.nanoseconds % Duration.perSecond) ++ "Z"

/-- A moment in run logs, to the microsecond. -/
def toLogText (moment : Moment) : String :=
  moment.clockText " " ++ "."
    ++ padded 6 (moment.nanoseconds % Duration.perSecond / 1000)

/-! ## Reading -/

/-- The text without the blanks at its start. -/
def skipBlanks (text : List Char) : List Char :=
  text.dropWhile Text.isBlank

/-- A number of at least one and at most a number of digits. -/
def digits? (most : Nat) (text : List Char) : Option (Nat × List Char) :=
  let digits := (text.takeWhile Char.isDigit).take most
  if digits.isEmpty then none
  else some (Nat.ofDigitChars 10 digits 0, text.drop digits.length)

/-- A two-digit field behind blanks. -/
def field? (text : List Char) : Option (Nat × List Char) :=
  digits? 2 (skipBlanks text)

/-- A year behind blanks: up to four digits, or a sign and any number of them. -/
def year? (text : List Char) : Option (Int × List Char) :=
  match skipBlanks text with
  | '-' :: rest => (digits? rest.length rest).map fun (n, rest) => (-(n : Int), rest)
  | '+' :: rest => (digits? rest.length rest).map fun (n, rest) => ((n : Int), rest)
  | rest => (digits? 4 rest).map fun (n, rest) => ((n : Int), rest)

/-- A mark behind blanks. -/
def mark? (mark : Char) (text : List Char) : Option (List Char) :=
  match skipBlanks text with
  | c :: rest => if c == mark then some rest else none
  | [] => none

/-- The fraction of a second, to nine digits; later digits are dropped. -/
def fraction? (text : List Char) : Option (Nat × List Char) :=
  match text with
  | '.' :: rest => do
      let (n, after) ← digits? 9 rest
      let places := rest.length - after.length
      return (n * Nat.pow 10 (9 - places), after.dropWhile Char.isDigit)
  | _ => some (0, text)

/-- Two digits and what follows them. -/
def twoDigits? : List Char → Option (Nat × List Char)
  | a :: b :: rest =>
      if a.isDigit && b.isDigit then some (Nat.ofDigitChars 10 [a, b] 0, rest) else none
  | _ => none

/-- The hours and minutes of an offset, in seconds; colons and blanks may stand between. -/
def offsetSize? (text : List Char) : Option (Int × List Char) := do
  let (hours, rest) ← twoDigits? text
  let (minutes, rest) ← twoDigits? (rest.dropWhile fun c => c == ':' || Text.isBlank c)
  if minutes < 60 then return ((hours * 3600 + minutes * 60 : Nat), rest) else none

/-- An offset from universal time in seconds: a letter for none, the name of universal time, or
a sign with hours and minutes.
-/
def offset? (text : List Char) : Option (Int × List Char) :=
  match text with
  | u :: t :: c :: rest =>
      if [u.toUpper, t.toUpper, c.toUpper] == ['U', 'T', 'C'] then some (0, rest)
      else signed? text
  | _ => signed? text
where
  /-- An offset that is not the name of universal time. -/
  signed? : List Char → Option (Int × List Char)
    | 'Z' :: rest => some (0, rest)
    | 'z' :: rest => some (0, rest)
    | '+' :: rest => offsetSize? rest
    | '-' :: rest => (offsetSize? rest).map fun (n, rest) => (-n, rest)
    | '\u2212' :: rest => (offsetSize? rest).map fun (n, rest) => (-n, rest)
    | _ => none

/-- The years that a moment may lie in. -/
def isYearInRange (year : Int) : Bool :=
  -262143 ≤ year && year ≤ 262142

/-- The moment of a date, a time of day and an offset, if they exist. The sixtieth second is a
leap second.
-/
def ofFields? (date : Date) (hour minute second fraction : Nat) (offset : Int)
    : Option Moment := do
  if !(date.isValid && isYearInRange date.year) then none
  if !(hour < 24 && minute < 60 && second ≤ 60 && offset.natAbs < 86400) then none
  let leap := if second = 60 then 1 else 0
  let timeOfDay : Int := (hour * 3600 + minute * 60 + (second - leap) : Nat)
  let seconds := date.toDays * secondsPerDay + timeOfDay - offset
  if !isYearInRange (Date.ofDays (Int.fdiv seconds secondsPerDay)).year then none
  return { seconds, nanoseconds := fraction + leap * Duration.perSecond }

/-- The moment of a data text. -/
def ofText? (text : String) : Option Moment := do
  let (year, rest) ← year? text.toList
  let (month, rest) ← mark? '-' rest >>= field?
  let (day, rest) ← mark? '-' rest >>= field?
  let rest ←
    match rest with
    | 'T' :: rest | 't' :: rest | ' ' :: rest => some rest
    | _ => none
  let (hour, rest) ← field? rest
  let (minute, rest) ← mark? ':' rest >>= field?
  let (second, rest) ← mark? ':' rest >>= field?
  let (fraction, rest) ← fraction? rest
  let (offset, rest) ← offset? (skipBlanks rest)
  if (skipBlanks rest).isEmpty then
    ofFields? { year, month, day } hour minute second fraction offset
  else none

end Moment

end JoinLatency

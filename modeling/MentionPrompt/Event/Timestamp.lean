import MentionPrompt.Number.Decimal
import MentionPrompt.Text.Blank

/-!
Points in time, to the nanosecond, in universal time.

A timestamp is read from a date, a time and an offset, and written in universal time with as many
fraction digits as needed of 0, 3, 6 and 9. Dates are counted in days from 1 March of year 0 of the
Gregorian calendar, which puts the leap day at the end of a year. A second numbered 60 is a leap
second.
-/

namespace MentionPrompt

/-- A point in time. -/
structure Timestamp where
  year : Int
  month : Nat
  day : Nat
  hour : Nat
  minute : Nat
  second : Nat
  nanosecond : Nat
  deriving DecidableEq, Repr

namespace Timestamp

/-! ### The calendar -/

/-- The year has a leap day. -/
def isLeapYear (year : Int) : Bool := year % 4 = 0 && (year % 100 != 0 || year % 400 = 0)

/-- The days of a month. -/
def daysInMonth (year : Int) (month : Nat) : Nat :=
  if month = 2 then (if isLeapYear year then 29 else 28)
  else if month ∈ [4, 6, 9, 11] then 30
  else 31

/-- The days from 1 March of year 0 to a date. -/
def dayNumber (year : Int) (month day : Nat) : Int :=
  let year := if month ≤ 2 then year - 1 else year
  let month := (month + 9) % 12
  365 * year + year / 4 - year / 100 + year / 400 + ((153 * month + 2) / 5 + day - 1 : Nat)

/-- The date of a day number: within each cycle of 400 years, the year, and in it the month. -/
def dateOfDay (number : Int) : Int × Nat × Nat :=
  let cycle := number / 146097
  let dayOfCycle := (number % 146097).toNat
  let yearOfCycle :=
    (dayOfCycle - dayOfCycle / 1460 + dayOfCycle / 36524 - dayOfCycle / 146096) / 365
  let dayOfYear := dayOfCycle - (365 * yearOfCycle + yearOfCycle / 4 - yearOfCycle / 100)
  let shifted := (5 * dayOfYear + 2) / 153
  let day := dayOfYear - (153 * shifted + 2) / 5 + 1
  let month := if shifted < 10 then shifted + 3 else shifted - 9
  let year := 400 * cycle + yearOfCycle
  (if month ≤ 2 then year + 1 else year, month, day)

/-- The years that dates may lie in. -/
def yearInRange (year : Int) : Bool := -262143 ≤ year && year ≤ 262142

/-- The date exists. -/
def isDate (year : Int) (month day : Nat) : Bool :=
  yearInRange year && 1 ≤ month && month ≤ 12 && 1 ≤ day && day ≤ daysInMonth year month

/-- The point in time that an offset of so many seconds east calls by this name. -/
def toUniversal? (time : Timestamp) (offset : Int) : Option Timestamp :=
  let minutes : Int := (time.hour * 60 + time.minute : Nat)
  let leap := time.second / 60
  let seconds := minutes * 60 + (time.second - leap : Nat) - offset
  let (year, month, day) :=
    dateOfDay (dayNumber time.year time.month time.day + seconds / 86400)
  let inDay := (seconds % 86400).toNat
  if yearInRange year then
    some { time with
      year, month, day
      hour := inDay / 3600
      minute := inDay / 60 % 60
      second := inDay % 60 + leap }
  else none

/-- The point in time so many seconds, and nanoseconds in a second, after the start of 1970. -/
def ofSeconds (seconds : Int) (nanosecond : Nat) : Timestamp :=
  let (year, month, day) := dateOfDay (dayNumber 1970 1 1 + seconds / 86400)
  let inDay := (seconds % 86400).toNat
  { year, month, day, hour := inDay / 3600, minute := inDay / 60 % 60, second := inDay % 60,
    nanosecond }

/-! ### Writing -/

/-- The year: four digits, and a sign for years that need one. -/
def yearText (year : Int) : String :=
  if 0 ≤ year ∧ year ≤ 9999 then Number.padded 4 year.toNat
  else (if year < 0 then "-" else "+") ++ Number.padded 4 year.natAbs

/-- The fraction of a second. -/
def fractionText (nanosecond : Nat) : String :=
  if nanosecond = 0 then ""
  else if nanosecond % 1000000 = 0 then "." ++ Number.padded 3 (nanosecond / 1000000)
  else if nanosecond % 1000 = 0 then "." ++ Number.padded 6 (nanosecond / 1000)
  else "." ++ Number.padded 9 nanosecond

/-- The point in time as text. -/
def text (time : Timestamp) : String :=
  yearText time.year ++ "-" ++ Number.padded 2 time.month ++ "-" ++ Number.padded 2 time.day ++
    "T" ++ Number.padded 2 time.hour ++ ":" ++ Number.padded 2 time.minute ++ ":" ++
    Number.padded 2 time.second ++ fractionText time.nanosecond ++ "Z"

/-! ### Reading -/

/-- The text without the blanks at its start. -/
def skipBlanks (s : List Char) : List Char := s.dropWhile Text.isBlank

/-- One to `width` digits, blanks before them skipped. -/
def readNumber? (width : Nat) (s : List Char) : Option (Nat × List Char) := do
  let s := skipBlanks s
  let digits := (s.take width).takeWhile Char.isDigit
  return (← Number.read? 10 digits, s.drop digits.length)

/-- The year; one with a sign may have any number of digits. -/
def readYear? (s : List Char) : Option (Int × List Char) :=
  match skipBlanks s with
  | '-' :: rest => do
    let (year, rest) ← signed? rest
    return (-year, rest)
  | '+' :: rest => signed? rest
  | rest => do
    let (year, rest) ← readNumber? 4 rest
    return (year, rest)
where
  signed? (s : List Char) : Option (Int × List Char) := do
    let digits := s.takeWhile Char.isDigit
    return (← Number.read? 10 digits, s.dropWhile Char.isDigit)

/-- A character that must come next, blanks before it skipped. -/
def readMark? (mark : Char) (s : List Char) : Option (List Char) :=
  match skipBlanks s with
  | c :: rest => if c = mark then some rest else none
  | [] => none

/-- The fraction of a second, if there is one; digits after the ninth are dropped. -/
def readFraction? : List Char → Option (Nat × List Char)
  | '.' :: s => do
    let digits := (s.take 9).takeWhile Char.isDigit
    let value ← Number.read? 10 digits
    return (value * Nat.pow 10 (9 - digits.length), s.dropWhile Char.isDigit)
  | s => some (0, s)

/-- The offset in seconds east. -/
def readOffset? (s : List Char) : Option (Int × List Char) :=
  match s with
  | 'Z' :: rest => some (0, rest)
  | 'z' :: rest => some (0, rest)
  | '+' :: rest => hoursAndMinutes? rest
  | '-' :: rest => negated? rest
  | '−' :: rest => negated? rest
  | u :: t :: c :: rest =>
    if [u, t, c].map Char.toLower = ['u', 't', 'c'] then some (0, rest) else none
  | _ => none
where
  hoursAndMinutes? (s : List Char) : Option (Int × List Char) := do
    let (hours, s) ← twoDigits? s
    let (minutes, s) ← twoDigits? (s.dropWhile fun c => c = ':' || Text.isBlank c)
    if minutes < 60 ∧ hours < 24 then
      return (((hours * 60 + minutes) * 60 : Nat), s)
    else none
  negated? (s : List Char) : Option (Int × List Char) := do
    let (offset, s) ← hoursAndMinutes? s
    return (-offset, s)
  twoDigits? : List Char → Option (Nat × List Char)
    | a :: b :: rest => do return (← Number.read? 10 [a, b], rest)
    | _ => none

/-- The point in time that a text names: a date, `T` or a space, a time, and an offset. -/
def read? (text : String) : Option Timestamp := do
  let (year, s) ← readYear? text.toList
  let (month, s) ← readNumber? 2 (← readMark? '-' s)
  let (day, s) ← readNumber? 2 (← readMark? '-' s)
  let s ← match s with
    | 'T' :: rest => some rest
    | 't' :: rest => some rest
    | ' ' :: rest => some rest
    | _ => none
  let (hour, s) ← readNumber? 2 s
  let (minute, s) ← readNumber? 2 (← readMark? ':' s)
  let (second, s) ← readNumber? 2 (← readMark? ':' s)
  let (nanosecond, s) ← readFraction? s
  let (offset, s) ← readOffset? (skipBlanks s)
  if (skipBlanks s).isEmpty && isDate year month day && hour < 24 && minute < 60 && second ≤ 60 then
    toUniversal? { year, month, day, hour, minute, second, nanosecond } offset
  else none

end Timestamp

end MentionPrompt

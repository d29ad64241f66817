/-
This file defines the days of the calendar and numbers them.

The calendar is the Gregorian one carried back without a break, over the years
-262143 to 262142. A date holds the proof that it names a day of this calendar.
Day numbers count from the first of January 1970.
-/

import AccessFeed.Text.Numeral

namespace AccessFeed.Calendar

/-- The first year of the calendar. -/
def firstYear : Int := -262143

/-- The last year of the calendar. -/
def lastYear : Int := 262142

/-- A year is a leap year when four divides it, but of the centuries only every fourth. -/
def isLeapYear (year : Int) : Bool :=
  year % 4 == 0 && (year % 100 != 0 || year % 400 == 0)

/-- The number of days of a month, and none for a number that is no month. -/
def monthLength (year : Int) (month : Nat) : Nat :=
  match month with
  | 1 => 31
  | 2 => if isLeapYear year then 29 else 28
  | 3 => 31
  | 4 => 30
  | 5 => 31
  | 6 => 30
  | 7 => 31
  | 8 => 31
  | 9 => 30
  | 10 => 31
  | 11 => 30
  | 12 => 31
  | _ => 0

/-- Whether a year, a month and a day together name a day of the calendar. -/
def isDay (year : Int) (month day : Nat) : Bool :=
  firstYear ≤ year && year ≤ lastYear && 1 ≤ day && day ≤ monthLength year month

/-- A day of the calendar. -/
structure Date where
  year : Int
  month : Nat
  day : Nat
  inCalendar : isDay year month day = true
deriving DecidableEq, Repr

namespace Date

/-- The date with a given year, month and day. -/
def ofParts? (year : Int) (month day : Nat) : Option Date :=
  if named : isDay year month day = true then some ⟨year, month, day, named⟩ else none

/-- The days from the first of January of year 1 to that of another year. -/
def daysBeforeYear (year : Int) : Int :=
  365 * (year - 1) + (year - 1) / 4 - (year - 1) / 100 + (year - 1) / 400

/-- The days of a year in front of a month. -/
def daysBeforeMonth (year : Int) : Nat → Nat
  | 0 => 0
  | 1 => 0
  | month + 1 => daysBeforeMonth year month + monthLength year month

/-- The number of the first of January 1970, counted from that of year 1. -/
def epochDay : Int := 719162

/-- The number of a day, zero for the first of January 1970. -/
def dayNumber (date : Date) : Int :=
  daysBeforeYear date.year + daysBeforeMonth date.year date.month + date.day - 1 - epochDay

/-- The day behind a date; the last day of the calendar has none. -/
def next? (date : Date) : Option Date :=
  if date.day < monthLength date.year date.month then
    ofParts? date.year date.month (date.day + 1)
  else if date.month < 12 then ofParts? date.year (date.month + 1) 1
  else ofParts? (date.year + 1) 1 1

/-- The year, the month and the day with a given number.

Years are counted from the first of March here, so that a leap day is the last day of its year.
An era has 400 years, and within it the number of whole years follows from the day by taking the
leap days out. -/
def partsOfNumber (number : Int) : Int × Nat × Nat :=
  let shifted := number + 719468
  let era := shifted / 146097
  let dayOfEra := (shifted % 146097).toNat
  let yearOfEra := (dayOfEra - dayOfEra / 1460 + dayOfEra / 36524 - dayOfEra / 146096) / 365
  let dayOfYear := dayOfEra - (365 * yearOfEra + yearOfEra / 4 - yearOfEra / 100)
  let marchMonth := (5 * dayOfYear + 2) / 153
  let day := dayOfYear - (153 * marchMonth + 2) / 5 + 1
  let month := if marchMonth < 10 then marchMonth + 3 else marchMonth - 9
  let year : Int := yearOfEra + era * 400
  (if month ≤ 2 then year + 1 else year, month, day)

/-- The date with a given number, if the calendar has one. -/
def ofDayNumber? (number : Int) : Option Date :=
  let (year, month, day) := partsOfNumber number
  ofParts? year month day

/-- A year with at least four digits, and with a sign and at least four digits outside the years
0 to 9999. -/
def yearText (year : Int) : String :=
  if 0 ≤ year ∧ year ≤ 9999 then Text.paddedDecimal 4 year.toNat
  else (if year < 0 then "-" else "+") ++ Text.paddedDecimal 4 year.natAbs

/-- A date as `<year>-<month>-<day>`. -/
def display (date : Date) : String :=
  yearText date.year ++ "-" ++ Text.paddedDecimal 2 date.month ++ "-" ++
    Text.paddedDecimal 2 date.day

end Date

end AccessFeed.Calendar

/-!
# Calendar

Dates of the Gregorian calendar, extended to all years, and their numbers counted from 1970-01-01.
The count treats March as the first month, so that the leap day is the last day of its year.
-/

namespace Symposium.Time

/-- A year, a month from 1 to 12 and a day from 1 on. -/
structure Date where
  year : Int
  month : Int
  day : Int
  deriving DecidableEq, Repr

/-- Whether a year has 366 days. -/
def isLeap (year : Int) : Bool :=
  year % 4 == 0 && (year % 100 != 0 || year % 400 == 0)

/-- How many days a month has; a number that is no month has none. -/
def daysInMonth (year month : Int) : Int :=
  if month = 2 then if isLeap year then 29 else 28
  else if month = 4 ∨ month = 6 ∨ month = 9 ∨ month = 11 then 30
  else if 1 ≤ month ∧ month ≤ 12 then 31
  else 0

/-- The number of days in 400 years. -/
def daysInEra : Int := 146097

/-- The number of days from the first of March of year 0 to 1970-01-01. -/
def epochDay : Int := 719468

/-- How many days a date is after 1970-01-01. -/
def Date.toDays (date : Date) : Int :=
  let year := if date.month ≤ 2 then date.year - 1 else date.year
  let era := year / 400
  let yearOfEra := year % 400
  let monthOfYear := (date.month + 9) % 12
  let dayOfYear := (153 * monthOfYear + 2) / 5 + date.day - 1
  era * daysInEra + yearOfEra * 365 + yearOfEra / 4 - yearOfEra / 100 + dayOfYear - epochDay

/-- The date that is this many days after 1970-01-01. -/
def Date.ofDays (days : Int) : Date :=
  let days := days + epochDay
  let era := days / daysInEra
  let dayOfEra := days % daysInEra
  let yearOfEra := (dayOfEra - dayOfEra / 1460 + dayOfEra / 36524 - dayOfEra / 146096) / 365
  let dayOfYear := dayOfEra - (365 * yearOfEra + yearOfEra / 4 - yearOfEra / 100)
  let monthOfYear := (5 * dayOfYear + 2) / 153
  let month := (monthOfYear + 2) % 12 + 1
  let year := era * 400 + yearOfEra
  ⟨if month ≤ 2 then year + 1 else year, month, dayOfYear - (153 * monthOfYear + 2) / 5 + 1⟩

end Symposium.Time

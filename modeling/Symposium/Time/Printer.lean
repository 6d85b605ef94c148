import Symposium.Time.Timestamp
import Symposium.Text.Numeral

/-!
# Printing timestamps

Date and time are joined by a `T`, microseconds are shown only when there are any, and an offset is
shown as hours and minutes. The two styles differ in how they show UTC.
-/

namespace Symposium.Timestamp

/-- How a timestamp is written. -/
structure Style where
  /-- What stands for an offset of zero. -/
  utc : String

/-- The style of records: UTC is a `Z`. -/
def Style.record : Style := ⟨"Z"⟩

/-- The style of explanations and clock readings: UTC is an offset like the others. -/
def Style.plain : Style := ⟨"+00:00"⟩

/-- Hours and minutes with a colon between them. -/
def printHourMinute (minutes : Nat) : String :=
  Text.padded 2 (minutes / 60) ++ ":" ++ Text.padded 2 (minutes % 60)

/-- The text of an offset. -/
def printOffset (style : Style) : Option Int → String
  | none => ""
  | some minutes =>
    if minutes = 0 then style.utc
    else (if minutes < 0 then "-" else "+") ++ printHourMinute minutes.natAbs

/-- The text of a date. -/
def printDate (date : Time.Date) : String :=
  Text.padded 4 date.year.toNat ++ "-" ++ Text.padded 2 date.month.toNat ++ "-" ++
    Text.padded 2 date.day.toNat

/-- The text of a time of day. -/
def printTime (microseconds : Nat) : String :=
  let seconds := microseconds / 1000000
  let fraction := microseconds % 1000000
  printHourMinute (seconds / 60) ++ ":" ++ Text.padded 2 (seconds % 60) ++
    (if fraction = 0 then "" else "." ++ Text.padded 6 fraction)

/-- The text of a timestamp. -/
def print (style : Style) (t : Timestamp) : String :=
  printDate t.date ++ "T" ++ printTime t.timeOfDay.toNat ++ printOffset style t.offset

end Symposium.Timestamp

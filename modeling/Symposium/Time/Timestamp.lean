import Symposium.Time.Calendar

/-!
# Timestamps

A timestamp is what a calendar and a clock show, to the microsecond, and possibly how far that
clock is ahead of UTC. That is what is read from texts and numbers, and what the clock of the service
shows; the clock of a region, which is turned back once a year and shows an hour twice, is not the
clock of a timestamp. With an offset a timestamp names an instant; two timestamps of which only one
has an offset cannot be put in order. A timestamp is moved within the years 1 to 9999. Main
statement: among timestamps with an offset the order is that of the instants.
-/

namespace Symposium

/-- A time of day on a date, with or without an offset from UTC. -/
structure Timestamp where
  /-- Microseconds from 1970-01-01T00:00:00 to what the clock shows. -/
  clock : Int
  /-- Minutes that the clock is ahead of UTC. -/
  offset : Option Int
  deriving DecidableEq, Repr, Inhabited

namespace Timestamp

/-- Microseconds in a second. -/
def second : Int := 1000000

/-- Microseconds in a minute. -/
def minute : Int := 60 * second

/-- Microseconds in a day. -/
def day : Int := 1440 * minute

/-- Whether the timestamp has an offset, and so names an instant. -/
def isAware (t : Timestamp) : Bool :=
  t.offset.isSome

/-- Microseconds from the epoch; without an offset, as if the clock showed UTC. -/
def instant (t : Timestamp) : Int :=
  t.clock - t.offset.getD 0 * minute

/-- Whether both timestamps have an offset or neither has. -/
def comparable (a b : Timestamp) : Bool :=
  a.isAware == b.isAware

/-- Whether timestamps can all be put in order. -/
def allComparable : List Timestamp → Bool
  | [] => true
  | t :: ts => ts.all t.comparable

/-- Whether the first is strictly before the second; nothing if they cannot be put in order. -/
def before? (a b : Timestamp) : Option Bool :=
  if a.comparable b then some (a.instant < b.instant) else none

/-- The timestamp some microseconds later. -/
def later (t : Timestamp) (microseconds : Int) : Timestamp :=
  { t with clock := t.clock + microseconds }

/-- Why a timestamp is not moved. -/
inductive Unreachable where
  /-- The date would lie outside of the years 1 to 9999. -/
  | date
  /-- The span has too many days. -/
  | span (days : Int)
  /-- The span has so many days that they are not counted. -/
  | count
  /-- The span has no end. -/
  | endless
  deriving DecidableEq, Repr, Inhabited

/-- The most days that a span may have. -/
def spanDays : Nat := 999999999

/-- The wording of the reason why a timestamp is not moved. -/
def Unreachable.message : Unreachable → String
  | date => "date value out of range"
  | span days => "days=" ++ toString days ++ "; must have magnitude <= " ++ toString spanDays
  | count => "Python int too large to convert to C int"
  | endless => "cannot convert float infinity to integer"

/-- Refuses a span of too many days. -/
def checkSpan (microseconds : Int) : Except Unreachable Unit :=
  let days := microseconds / day
  if days < -0x80000000 ∨ 0x7fffffff < days then .error .count
  else if spanDays < days.natAbs then .error (.span days)
  else .ok ()

/-- Microseconds in so many seconds; half a microsecond goes to the even neighbour. -/
def ofSeconds (seconds : Float) : Int :=
  let size := seconds.abs
  let fraction := (size - size.floor) * 1000000.0
  let part := fraction.floor.toUInt64.toNat
  let rest := fraction - fraction.floor
  let up := rest > 0.5 || (rest == 0.5 && part % 2 == 1)
  let count := size.floor.toUInt64.toNat * 1000000 + part + if up then 1 else 0
  if seconds < 0.0 then -count else count

/-- The date that the calendar shows. -/
def date (t : Timestamp) : Time.Date :=
  Time.Date.ofDays (t.clock / day)

/-- The timestamp some microseconds later, if it can be moved there. -/
def moved (t : Timestamp) (microseconds : Int) : Except Unreachable Timestamp := do
  checkSpan microseconds
  let t := t.later microseconds
  if 1 ≤ t.date.year ∧ t.date.year ≤ 9999 then return t else .error .date

/-- The timestamp some seconds later, if it can be moved there. -/
def movedSeconds (t : Timestamp) (seconds : Float) : Except Unreachable Timestamp :=
  if seconds.isInf then .error .endless else t.moved (ofSeconds seconds)

/-- Microseconds since midnight. -/
def timeOfDay (t : Timestamp) : Int :=
  t.clock % day

/-- Midnight of a date, without an offset. -/
def midnight (date : Time.Date) : Timestamp :=
  ⟨date.toDays * day, none⟩

/-- Timestamps with offsets can be put in order. -/
theorem comparable_of_aware {a b : Timestamp} (ha : a.isAware) (hb : b.isAware) :
    a.comparable b = true := by
  simp [comparable, ha, hb]

/-- Among timestamps with an offset, the order is that of the instants. -/
theorem before?_of_aware {a b : Timestamp} (ha : a.isAware) (hb : b.isAware) :
    a.before? b = some (decide (a.instant < b.instant)) := by
  simp [before?, comparable_of_aware ha hb]

end Timestamp

end Symposium

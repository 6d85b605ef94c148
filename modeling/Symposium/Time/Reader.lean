import Symposium.Json
import Symposium.Text.Numeral
import Symposium.Time.Timestamp

/-!
# Reading timestamps

A timestamp is read from a text with a date and a time, from a text with a date alone (midnight,
without an offset), or from a number that counts seconds of UTC since 1970; a number beyond the
watershed counts milliseconds. A text that is none of these is explained by where reading it as a
date stops.
-/

namespace Symposium.Timestamp

/-- Where reading a text as a date stops. -/
inductive DateError where
  | tooShort
  | year
  | separator
  | month
  | day
  | monthRange
  | dayRange
  | extra
  deriving DecidableEq, Repr

/-- The wording of a date error. -/
def DateError.message : DateError → String
  | .tooShort => "input is too short"
  | .year => "invalid character in year"
  | .separator => "invalid date separator, expected `-`"
  | .month => "invalid character in month"
  | .day => "invalid character in day"
  | .monthRange => "month value is outside expected range of 1-12"
  | .dayRange => "day value is outside expected range"
  | .extra => "unexpected extra characters at the end of the input"

/-- Why a number is no timestamp. -/
inductive RangeError where
  | early
  | late
  | notANumber
  | yearZero
  deriving DecidableEq, Repr

/-- The wording of a range error. -/
def RangeError.message : RangeError → String
  | .early => "dates before 0000 are not supported as unix timestamps"
  | .late => "dates after 9999 are not supported as unix timestamps"
  | .notANumber => "NaN values not permitted"
  | .yearZero => "year 0 is out of range"

/-- Why a value is no timestamp. -/
inductive Unreadable where
  /-- It is neither a text nor a number. -/
  | kind
  /-- Reading the text as a date stops here. -/
  | date (error : DateError)
  /-- The text is a number out of range. -/
  | numeral (error : RangeError)
  /-- The value is out of range. -/
  | range (error : RangeError)
  deriving DecidableEq, Repr

/-- Reads exactly this many digits. -/
def digits? (count : Nat) (cs : List Char) : Option (Nat × List Char) :=
  let digits := cs.take count
  if digits.length = count ∧ digits.all Text.isDigit then some (Text.ofDigits digits, cs.drop count)
  else none

/-- Reads a date at the beginning of a text of this many bytes. -/
def readDate (bytes : Nat) (cs : List Char) : Except DateError (Time.Date × List Char) := do
  if bytes < 10 then throw .tooShort
  let some (year, cs) := digits? 4 cs | throw .year
  let '-' :: cs := cs | throw .separator
  let some (month, cs) := digits? 2 cs | throw .month
  let '-' :: cs := cs | throw .separator
  let some (day, cs) := digits? 2 cs | throw .day
  if month < 1 ∨ 12 < month then throw .monthRange
  if day < 1 ∨ Time.daysInMonth year month < day then throw .dayRange
  return (⟨year, month, day⟩, cs)

/-- Microseconds of the digits after the point; those after the sixth are cut off. -/
def ofFraction (digits : List Char) : Nat :=
  Text.ofDigits (digits.take 6 ++ List.replicate (6 - digits.length) '0')

/-- Reads seconds and their fraction, if a colon comes first; otherwise there are none. -/
def readSeconds? : List Char → Option (Nat × List Char)
  | ':' :: cs => do
    let (seconds, cs) ← digits? 2 cs
    guard (seconds ≤ 59)
    match cs with
    | c :: rest =>
      if c = '.' ∨ c = ',' then
        let digits := rest.takeWhile Text.isDigit
        guard (!digits.isEmpty)
        return (seconds * 1000000 + ofFraction digits, rest.drop digits.length)
      else return (seconds * 1000000, cs)
    | [] => return (seconds * 1000000, [])
  | cs => some (0, cs)

/-- The sign of an offset. -/
def offsetSign? (c : Char) : Option Int :=
  if c = '+' then some 1 else if c = '-' ∨ c = '\u2212' then some (-1) else none

/-- Reads the offset at the end of a text: nothing, a `Z`, or hours and minutes. -/
def readOffset? : List Char → Option (Option Int)
  | [] => some none
  | ['Z'] => some (some 0)
  | ['z'] => some (some 0)
  | c :: cs => do
    let sign ← offsetSign? c
    let (hours, cs) ← digits? 2 cs
    let cs := match cs with
      | ':' :: cs => cs
      | cs => cs
    let (minutes, cs) ← digits? 2 cs
    guard (minutes ≤ 59 ∧ hours ≤ 23 ∧ cs = [])
    return some (sign * (hours * 60 + minutes))

/-- Reads a time of day in microseconds and an offset, up to the end of the text. -/
def readTime? (cs : List Char) : Option (Int × Option Int) := do
  let (hours, cs) ← digits? 2 cs
  let ':' :: cs := cs | none
  let (minutes, cs) ← digits? 2 cs
  guard (hours ≤ 23 ∧ minutes ≤ 59)
  let (microseconds, cs) ← readSeconds? cs
  let offset ← readOffset? cs
  return ((hours * 60 + minutes) * minute + microseconds, offset)

/-- Whether a character may stand between a date and a time. -/
def isSeparator (c : Char) : Bool :=
  c == 'T' || c == 't' || c == ' ' || c == '_'

/-- Reads a text with a date and a time. -/
def readDateTime? (bytes : Nat) (cs : List Char) : Option Timestamp :=
  match readDate bytes cs with
  | .ok (date, c :: cs) =>
    if isSeparator c then
      (readTime? cs).map fun (time, offset) => ⟨date.toDays * day + time, offset⟩
    else none
  | _ => none

/-- A number beyond this one counts milliseconds, others count seconds. -/
def watershed : Int := 20000000000

/-- The first second that a number may mean. -/
def firstSecond : Int := -62167219200

/-- The last second that a number may mean. -/
def lastSecond : Int := 253402300799

/-- The timestamp so many microseconds of UTC after the epoch. -/
def ofMicroseconds (count : Int) : Except RangeError Timestamp :=
  if count / second < firstSecond then .error .early
  else if lastSecond < count / second then .error .late
  else .ok ⟨count, some 0⟩

/-- Microseconds in what a number counts: seconds, or milliseconds beyond the watershed. -/
def unit (beyond : Bool) : Int :=
  if beyond then 1000 else second

/-- The timestamp of an integer. -/
def ofInteger (n : Int) : Except RangeError Timestamp :=
  ofMicroseconds (n * unit (watershed < n.natAbs))

/-- The whole number at or below a double, kept within 64 bits. -/
def wholeBelow (x : Float) : Int :=
  x.floor.toInt64.toInt

/--
The timestamp of a double: what is above the whole number at or below it is rounded to a
microsecond.
-/
def ofDouble (x : Float) : Except RangeError Timestamp :=
  if x.isNaN then .error .notANumber
  else
    let unit := unit (x.abs > Float.ofInt watershed)
    let fraction := if x.isInf then 0.0 else (x - x.floor) * Float.ofInt unit
    ofMicroseconds (wholeBelow x * unit + fraction.round.toUInt64.toNat)

/-- A number written as a text. -/
inductive Numeral where
  | integer (value : Int)
  /-- A number with a point. -/
  | decimal (value : Decimal)
  deriving DecidableEq, Repr

/-- The least integer that does not fit into 64 bits. -/
def wordLimit : Nat := 0x8000000000000000

/-- The power of ten that is all of a text; an empty text is the power zero. -/
def readExponent? : List Char → Option Int
  | [] => some 0
  | cs =>
    match Text.exponent? cs with
    | some (power, width) => if width = cs.length then some power else none
    | none => none

/--
Reads a sign and digits. Without a point they have to fit into 64 bits; after a point there may be
more digits and a power of ten, and there are digits before the point or after it.
-/
def readNumeral? (cs : List Char) : Option Numeral :=
  let (negative, cs) := match cs with
    | '-' :: cs => (true, cs)
    | '+' :: cs => (false, cs)
    | cs => (false, cs)
  let whole := cs.takeWhile Text.isDigit
  match cs.drop whole.length with
  | [] =>
    let value : Int := if negative then -Text.ofDigits whole else Text.ofDigits whole
    if whole.isEmpty ∨ value < -wordLimit ∨ wordLimit ≤ value then none
    else some (.integer value)
  | '.' :: cs =>
    let fraction := cs.takeWhile Text.isDigit
    let digits := whole ++ fraction
    if digits.isEmpty then none
    else
      (readExponent? (cs.drop fraction.length)).map fun power =>
        .decimal ⟨negative, Text.ofDigits digits, power - fraction.length⟩
  | _ => none

/-- The timestamp of a number that was written as a text. -/
def Numeral.timestamp : Numeral → Except RangeError Timestamp
  | .integer n => ofInteger n
  | .decimal value => ofDouble value.toDouble

/-- Why a text is no timestamp: reading it as a date alone says so. -/
def explain (bytes : Nat) (cs : List Char) : Except Unreadable Timestamp :=
  match readDate bytes cs with
  | .ok (date, []) => .ok (midnight date)
  | date =>
    match readNumeral? cs, date with
    | some (.integer n), _ => (ofInteger n).mapError .numeral
    | _, .ok _ => .error (.date .extra)
    | _, .error e => .error (.date e)

/-- Reads a text as a timestamp. -/
def readText (s : String) : Except Unreadable Timestamp :=
  let cs := s.toList
  match readDateTime? s.utf8ByteSize cs with
  | some t => .ok t
  | none =>
    match (readNumeral? cs).map Numeral.timestamp with
    | some (.ok t) => .ok t
    | _ => explain s.utf8ByteSize cs

/-- An integer of this magnitude or a greater one is no double. -/
def doubleLimit : Nat := Nat.pow 2 1024 - Nat.pow 2 970

/-- Reads a value as a timestamp; the year may still be 0. -/
def ofJson : Json → Except Unreadable Timestamp
  | .str s => readText s
  | .int n =>
    if doubleLimit ≤ n.natAbs then .error .kind
    else (ofInteger (max (-wordLimit) (min n (wordLimit - 1)))).mapError .range
  | .real value => (ofDouble value.toDouble).mapError .range
  | .nan => .error (.range .notANumber)
  | .infinity negative => .error (.range (if negative then .early else .late))
  | _ => .error .kind

/-- A timestamp of a year that the calendar has. -/
def inCalendar (t : Timestamp) : Except Unreadable Timestamp :=
  if t.date.year = 0 then .error (.range .yearZero) else .ok t

end Symposium.Timestamp

import Symposium.Check.Checked
import Symposium.Text.Blank

/-!
# Reading members

What passes for a text, an integer, a truth value, a choice, a timestamp, a list or a record.
Reading is lenient: a number may be written as a text, a truth value as a number or a word.
-/

namespace Symposium.Check

variable {α : Type}

/-- A text. -/
def text : Json → Checked String
  | .str s => .fine s
  | json => .refuse .notText json

/-- A text of at least and at most so many characters. -/
def boundedText (least most : Nat) (json : Json) : Checked String :=
  (text json).andThen fun s =>
    if s.length < least then .refuse (.shortText least) json
    else if most < s.length then .refuse (.longText most) json
    else .fine s

/-- Null, or what another reader reads. -/
def nullable (read : Json → Checked α) : Json → Checked (Option α)
  | .null => .fine none
  | json => (read json).map some

/-- Whether digits are separated by single underscores only. -/
def isGrouped : List Char → Bool
  | [] => false
  | [c] => Text.isDigit c
  | c :: '_' :: rest => Text.isDigit c && isGrouped rest
  | c :: rest => Text.isDigit c && isGrouped rest

/-- The most digits of an integer that is written as a text. -/
def textDigits : Nat := 4300

/-- Whether a text begins with an integer of more digits than it may have. -/
def isHuge (cs : List Char) : Bool :=
  let digits := (if cs.head? = some '-' then cs.drop 1 else cs).takeWhile Text.isDigit
  digits.head? != some '0' && textDigits < digits.length

/--
A numeral without the zeros at its start, and the underscores among them. A zero that a digit or a
minus sign does not follow is the numeral.
-/
def withoutZeros? : List Char → Option (List Char)
  | [] => none
  | first :: cs =>
    if first = '0' then
      let skipped := cs.takeWhile fun c => c = '0' || c = '_'
      match cs.drop skipped.length with
      | [] => if skipped.getLast? = some '_' then none else some ['0']
      | '.' :: rest => if skipped.getLast? = some '_' then none else some ('0' :: '.' :: rest)
      | c :: rest => if Text.isDigit c || c = '-' then some (c :: rest) else none
    else if Text.isDigit first then some (first :: cs)
    else none

/-- A numeral without a point and the zeros after it; nothing else may come after a point. -/
def withoutFraction? (cs : List Char) : Option (List Char) :=
  let whole := cs.takeWhile (· ≠ '.')
  match cs.drop whole.length with
  | [] => some whole
  | _ :: zeros => if !zeros.isEmpty && zeros.all (· = '0') then some whole else none

/-- The value of a minus sign, or nothing, and the digits after it. -/
def signed (cs : List Char) : Int × List Char :=
  match cs with
  | '-' :: '_' :: cs => (-1, cs)
  | '-' :: cs => (-1, cs)
  | cs => (1, cs)

/-- The value of digits with single underscores between them, the first of which is no idle zero. -/
def ofGroups? (cs : List Char) : Option Nat :=
  let digits := cs.filter (· ≠ '_')
  let idle := digits.head? = some '0' ∧ 1 < digits.length
  if isGrouped cs ∧ ¬idle ∧ digits.length ≤ textDigits then some (Text.ofDigits digits) else none

/--
An integer written as a text: blanks around it, a sign, digits with single underscores between
them, and possibly a point with zeros after it. After zeros at the start, the sign may come again.
Only a text that begins with the integer is told to be huge.
-/
def integerOfText (s : String) : Except Fault Int :=
  if isHuge s.toList then .error .integerSize
  else
    let cs := Text.trimBlanks s.toList
    let (sign, cs) : Int × List Char := match cs with
      | '-' :: cs => (-1, cs)
      | '+' :: cs => (1, cs)
      | cs => (1, cs)
    let value := do
      let (inner, cs) := signed (← (withoutZeros? cs).bind withoutFraction?)
      guard (sign = 1 ∨ inner = 1)
      return sign * inner * (← ofGroups? cs)
    value.elim (.error .integerText) .ok

/-- The integer that a double is, if it fits into 64 bits. -/
def integerOfDouble (x : Float) : Except Fault Int :=
  if x.floor != x then .error .integerFraction
  else if x.abs < 9223372036854775808.0 then .ok x.toInt64.toInt
  else .error .integerSize

/-- The fault of a reader that gave none, or its value. -/
def ofExcept (json : Json) : Except Fault α → Checked α
  | .ok a => .fine a
  | .error fault => .refuse fault json

/-- An integer. -/
def integer (json : Json) : Checked Int :=
  match json with
  | .int n => .fine n
  | .bool b => .fine (if b then 1 else 0)
  | .str s => ofExcept json (integerOfText s)
  | .real value => ofExcept json (integerOfDouble value.toDouble)
  | .nan => .refuse .notFinite json
  | .infinity _ => .refuse .notFinite json
  | _ => .refuse .notInteger json

/-- An integer above zero. -/
def positive (json : Json) : Checked Int :=
  (integer json).andThen fun n => if 0 < n then .fine n else .refuse (.notAbove 0) json

/-- An integer from one on. -/
def atLeastOne (json : Json) : Checked Int :=
  (integer json).andThen fun n => if 1 ≤ n then .fine n else .refuse (.below 1) json

/-- The words that mean yes. -/
def yesWords : List String := ["1", "t", "true", "y", "yes", "on"]

/-- The words that mean no. -/
def noWords : List String := ["0", "f", "false", "n", "no", "off"]

/-- The truth value of a number. -/
def booleanOfInteger (json : Json) (n : Int) : Checked Bool :=
  if n = 0 then .fine false else if n = 1 then .fine true else .refuse .booleanValue json

/-- Whether an integer fits into 64 bits. -/
def fitsWord (n : Int) : Bool :=
  -9223372036854775808 ≤ n && n ≤ 9223372036854775807

/-- A truth value. -/
def boolean (json : Json) : Checked Bool :=
  match json with
  | .bool b => .fine b
  | .int n => if fitsWord n then booleanOfInteger json n else .refuse .notBoolean json
  | .str s =>
    let word := s.map Char.toLower
    if yesWords.contains word then .fine true
    else if noWords.contains word then .fine false
    else .refuse .booleanValue json
  | .real value =>
    match integerOfDouble value.toDouble with
    | .ok n => booleanOfInteger json n
    | .error _ => .refuse .notBoolean json
  | _ => .refuse .notBoolean json

/-- One of some words, each with its meaning. -/
def choice (meanings : List (String × α)) (json : Json) : Checked α :=
  match json.text?.bind fun s => meanings.lookup s with
  | some a => .fine a
  | none => .refuse (.notAmong (meanings.map (·.1))) json

/-- A timestamp, with or without an offset. -/
def timestamp (json : Json) : Checked Timestamp :=
  match Timestamp.ofJson json >>= Timestamp.inCalendar with
  | .ok t => .fine t
  | .error cause => .refuse (.timestamp cause) json

/-- A timestamp with an offset. -/
def awareTimestamp (json : Json) : Checked Timestamp :=
  match Timestamp.ofJson json with
  | .error cause => .refuse (.timestamp cause) json
  | .ok t => if t.isAware then timestamp json else .refuse .noOffset json

/-- Every item of a list, the findings under the index of their item. -/
def items (read : Json → Checked α) : Nat → List Json → Checked (List α)
  | _, [] => .fine []
  | index, json :: rest =>
    List.cons <$> (read json).under (.item index) <*> items read (index + 1) rest

/-- A list. -/
def list (read : Json → Checked α) (json : Json) : Checked (List α) :=
  match json with
  | .arr elements => items read 0 elements
  | _ => .refuse .notList json

/-- An object with whatever members. -/
def object (json : Json) : Checked Json.Members :=
  match json with
  | .obj members => .fine members
  | _ => .refuse .notObject json

/-- A record of a kind: an object whose members are read by name. -/
def record (kind : String) (read : Json → Checked α) (json : Json) : Checked α :=
  match json with
  | .obj _ => read json
  | _ => .refuse (.notRecord kind) json

/-- A member that has to be there. -/
def required (json : Json) (name : String) (read : Json → Checked α) : Checked α :=
  match json.get? name with
  | some value => (read value).under (.member name)
  | none => .faulty [⟨[.member name], .missing, json⟩]

/-- A member that may be absent, which then counts as a given value. -/
def optional (json : Json) (name : String) (absent : α) (read : Json → Checked α) : Checked α :=
  match json.get? name with
  | some value => (read value).under (.member name)
  | none => .fine absent

/-- A member that may be absent, and whether it was there. -/
def sent (json : Json) (name : String) (read : Json → Checked α) : Checked (Option α) :=
  optional json name none fun value => (read value).map some

end Symposium.Check

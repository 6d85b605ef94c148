import Symposium.Json
import Symposium.Time.Reader

/-!
# Faults

What can be wrong with a value that somebody sent, and where in the request it is. Each fault has a
code for programs and a message for people, and some have a context, which holds the bound or the
reason that the message names. Whoever sent the value gets it back in the report of the finding.
-/

namespace Symposium.Check

/-- What is wrong with a value. -/
inductive Fault where
  /-- A required member is absent. -/
  | missing
  | notText
  | shortText (least : Nat)
  | longText (most : Nat)
  | notInteger
  /-- The text is no integer. -/
  | integerText
  /-- The integer is written with a fraction that is not zero. -/
  | integerFraction
  /-- The integer is written in a way that only holds smaller ones. -/
  | integerSize
  | notFinite
  /-- The number is not greater than this bound. -/
  | notAbove (bound : Int)
  /-- The number is less than this bound. -/
  | below (bound : Int)
  | notBoolean
  /-- The text or number is no truth value. -/
  | booleanValue
  /-- The text is none of these. -/
  | notAmong (choices : List String)
  | notList
  | notObject
  | timestamp (cause : Timestamp.Unreadable)
  /-- The timestamp has no offset. -/
  | noOffset
  /-- The members are fine one by one but not together. -/
  | inconsistent (text : String)
  /-- The value is no record of this kind. -/
  | notRecord (kind : String)
  /-- The body of a request is no object. -/
  | notBody
  /-- The body of a request is no JSON, and what is wrong with it. -/
  | notJson (reason : String)
  deriving DecidableEq, Repr

/-- The words of an alternative: `'a', 'b' or 'c'`. -/
def alternatives : List String → String
  | [] => ""
  | [a] => "'" ++ a ++ "'"
  | [a, b] => "'" ++ a ++ "' or '" ++ b ++ "'"
  | a :: rest => "'" ++ a ++ "', " ++ alternatives rest

/-- A number of characters. -/
def countCharacters (n : Nat) : String :=
  toString n ++ (if n = 1 then " character" else " characters")

/-- The code and the message of a timestamp that was not read. -/
def describeTimestamp : Timestamp.Unreadable → String × String
  | .kind => ("datetime_type", "Input should be a valid datetime")
  | .date e =>
    ("datetime_from_date_parsing", "Input should be a valid datetime or date, " ++ e.message)
  | .numeral e =>
    ("datetime_from_date_parsing", "Input should be a valid datetime or date, " ++ e.message)
  | .range e => ("datetime_parsing", "Input should be a valid datetime, " ++ e.message)

/-- The code and the message of a fault. -/
def Fault.describe : Fault → String × String
  | missing => ("missing", "Field required")
  | notText => ("string_type", "Input should be a valid string")
  | shortText n => ("string_too_short", "String should have at least " ++ countCharacters n)
  | longText n => ("string_too_long", "String should have at most " ++ countCharacters n)
  | notInteger => ("int_type", "Input should be a valid integer")
  | integerText =>
    ("int_parsing", "Input should be a valid integer, unable to parse string as an integer")
  | integerFraction =>
    ("int_from_float", "Input should be a valid integer, got a number with a fractional part")
  | integerSize =>
    ("int_parsing_size", "Unable to parse input string as an integer, exceeded maximum size")
  | notFinite => ("finite_number", "Input should be a finite number")
  | notAbove n => ("greater_than", "Input should be greater than " ++ toString n)
  | below n => ("greater_than_equal", "Input should be greater than or equal to " ++ toString n)
  | notBoolean => ("bool_type", "Input should be a valid boolean")
  | booleanValue => ("bool_parsing", "Input should be a valid boolean, unable to interpret input")
  | notAmong choices => ("enum", "Input should be " ++ alternatives choices)
  | notList => ("list_type", "Input should be a valid list")
  | notObject => ("dict_type", "Input should be a valid dictionary")
  | timestamp cause => describeTimestamp cause
  | noOffset => ("timezone_aware", "Input should have timezone info")
  | inconsistent text => ("value_error", "Value error, " ++ text)
  | notRecord kind =>
    ("model_type", "Input should be a valid dictionary or instance of " ++ kind)
  | notBody =>
    ("model_attributes_type",
      "Input should be a valid dictionary or object to extract fields from")
  | notJson _ => ("json_invalid", "JSON decode error")

/-- The reason why a timestamp was not read. -/
def timestampReason? : Timestamp.Unreadable → Option String
  | .kind => none
  | .date e => some e.message
  | .numeral e => some e.message
  | .range e => some e.message

/-- What a fault is measured by, if anything: a bound, the choices, or a reason. -/
def Fault.context? : Fault → Option (String × Json)
  | shortText n => some ("min_length", .int n)
  | longText n => some ("max_length", .int n)
  | notAbove n => some ("gt", .int n)
  | below n => some ("ge", .int n)
  | notAmong choices => some ("expected", .str (alternatives choices))
  | timestamp cause => (timestampReason? cause).map fun reason => ("error", .str reason)
  | inconsistent _ => some ("error", .obj [])
  | notRecord kind => some ("class_name", .str kind)
  | notJson reason => some ("error", .str reason)
  | missing | notText | notInteger | integerText | integerFraction | integerSize | notFinite
  | notBoolean | booleanValue | notList | notObject | noOffset | notBody => none

/-- The code of a fault. -/
def Fault.code (fault : Fault) : String :=
  fault.describe.1

/-- The message of a fault. -/
def Fault.message (fault : Fault) : String :=
  fault.describe.2

/-- A step from a value into it. -/
inductive Key where
  | member (name : String)
  | item (index : Nat)
  deriving DecidableEq, Repr

/-- A key as it is shown. -/
def Key.toJson : Key → Json
  | member name => .str name
  | item index => .int index

/-- A fault, the way to the value that has it, and that value. -/
structure Finding where
  path : List Key
  fault : Fault
  /-- The refused value; of a missing member, the object that lacks it. -/
  value : Json

/-- The finding as seen from further out. -/
def Finding.under (key : Key) (finding : Finding) : Finding :=
  { finding with path := key :: finding.path }

/-- The members of a finding that name it: code, path and message. -/
def Finding.members (finding : Finding) : Json.Members :=
  [("type", .str finding.fault.code), ("loc", .arr (finding.path.map Key.toJson)),
    ("msg", .str finding.fault.message)]

/-- A finding as it is shown. -/
def Finding.toJson (finding : Finding) : Json :=
  .obj finding.members

/-- A finding as it is reported to whoever sent the value: with the value and the context. -/
def Finding.report (finding : Finding) : Json :=
  let context := finding.fault.context?.map fun (name, value) => ("ctx", .obj [(name, value)])
  .obj (finding.members ++ [("input", finding.value)] ++ context.toList)

end Symposium.Check

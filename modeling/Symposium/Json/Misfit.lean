import Symposium.Json

/-!
# Misfits

Operations on values take values of some kinds only. A misfit tells which operation was asked for
and the kinds of the values that it does not take.
-/

namespace Symposium

/-- The word for the kind of a value. -/
def Json.kindWord : Json → String
  | null => "NoneType"
  | bool _ => "bool"
  | int _ => "int"
  | real _ => "float"
  | nan => "float"
  | infinity _ => "float"
  | str _ => "str"
  | broken => "str"
  | arr _ => "list"
  | obj _ => "dict"

/-- What is not done with values of some kinds. -/
inductive Misfit where
  /-- Values of these kinds are not put in order: none is strictly less, or strictly greater. -/
  | order (less : Bool) (left right : String)
  /-- No integer is added to a value of this kind. -/
  | sum (kind : String)
  /-- The value bounds no list. -/
  | bound
  /-- A value of this kind counts nothing. -/
  | count (kind : String)
  /-- A value of this kind has no upper case. -/
  | upperCase (kind : String)
  deriving DecidableEq, Repr, Inhabited

namespace Misfit

/-- The name of a misfit. -/
def name : Misfit → String
  | upperCase _ => "AttributeError"
  | _ => "TypeError"

/-- Two kinds of values in quotes. -/
def pair (left right : String) : String :=
  "'" ++ left ++ "' and '" ++ right ++ "'"

/-- What a misfit says. -/
def message : Misfit → String
  | order less left right =>
    "'" ++ (if less then "<" else ">") ++ "' not supported between instances of " ++
      pair left right
  | sum kind =>
    if kind = "str" ∨ kind = "list" then
      "can only concatenate " ++ kind ++ " (not \"int\") to " ++ kind
    else "unsupported operand type(s) for +: " ++ pair kind "int"
  | bound => "slice indices must be integers or None or have an __index__ method"
  | count kind => "'" ++ kind ++ "' object cannot be interpreted as an integer"
  | upperCase kind => "'" ++ kind ++ "' object has no attribute 'upper'"

end Misfit

end Symposium

import Symposium.Decimal

/-!
# JSON values

A value keeps what its text said: integers and other numbers keep every digit, and objects keep the
order of their members. Two things that a text may say are no values of the standard and cannot be
shown again: a number that is not finite, and a string with half of a surrogate pair in it.
-/

namespace Symposium

/-- A JSON value. The two non-finite numbers are accepted although the standard has none. -/
inductive Json where
  | null
  | bool (value : Bool)
  | int (value : Int)
  /-- A number written with a point or an exponent. -/
  | real (value : Decimal)
  | nan
  | infinity (negative : Bool)
  | str (value : String)
  /-- A string with half of a surrogate pair in it, which is no text. -/
  | broken
  | arr (items : List Json)
  | obj (members : List (String × Json))
  deriving Inhabited, Repr

namespace Json

/-- The members of an object, in order. -/
abbrev Members := List (String × Json)

/-- The value of a member, if this is an object that has it. -/
def get? (name : String) : Json → Option Json
  | obj members => members.lookup name
  | _ => none

/-- The value of a member; an absent one counts as null. -/
def field (name : String) (json : Json) : Json :=
  (json.get? name).getD null

/-- The text of a value that is one. -/
def text? : Json → Option String
  | str s => some s
  | _ => none

/-- A text or null. -/
def ofText? : Option String → Json
  | some s => str s
  | none => null

/-- Members with one value set: a known name keeps its place, a new one comes last. -/
def put (name : String) (value : Json) : Members → Members
  | [] => [(name, value)]
  | (n, v) :: rest => if n = name then (n, value) :: rest else (n, v) :: put name value rest

mutual

/-- Whether a value can be shown: all numbers in it are finite, and no string in it is broken. -/
def isShowable : Json → Bool
  | nan => false
  | infinity _ => false
  | broken => false
  | arr items => areShowable items
  | obj members => areShowableMembers members
  | _ => true

/-- Whether all of some values can be shown. -/
def areShowable : List Json → Bool
  | [] => true
  | item :: items => isShowable item && areShowable items

/-- Whether the values of all of some members can be shown. -/
def areShowableMembers : List (String × Json) → Bool
  | [] => true
  | (_, value) :: members => isShowable value && areShowableMembers members

end

mutual

/-- How many values stand in each other, the value itself among them. -/
def depth : Json → Nat
  | arr items => 1 + depthOfItems items
  | obj members => 1 + depthOfMembers members
  | _ => 1

/-- The greatest depth of some values. -/
def depthOfItems : List Json → Nat
  | [] => 0
  | item :: items => max (depth item) (depthOfItems items)

/-- The greatest depth of the values of some members. -/
def depthOfMembers : List (String × Json) → Nat
  | [] => 0
  | (_, value) :: members => max (depth value) (depthOfMembers members)

end

end Json

end Symposium

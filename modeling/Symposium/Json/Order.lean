import Symposium.Decimal.Shortest
import Symposium.Json.Misfit
import Symposium.Text.Order

/-!
# The order of values

Numbers are put in order by size, whether they are written with a point or not, and texts by their
characters. Lists are put in order by the first items that differ. Values of other kinds, or of two
kinds, are not put in order.
-/

namespace Symposium.Json

/--
The size of a number: whether it is infinite and on which side, and how many times the least
positive double it is.
-/
def size? : Json → Option (Int × Int)
  | int n => some (0, n * Nat.pow 2 1074)
  | bool b => some (0, if b then Nat.pow 2 1074 else 0)
  | real value =>
    let x := value.toDouble
    if x.isFinite then
      let b := Decimal.Binary.ofDouble x
      let size : Int := b.significand * Nat.pow 2 (b.exponent + 1074).toNat
      some (0, if value.negative then -size else size)
    else some (if value.negative then -1 else 1, 0)
  | infinity negative => some (if negative then -1 else 1, 0)
  | _ => none

/-- Whether a value is a number, one that has no size among them. -/
def isNumber : Json → Bool
  | nan => true
  | value => value.size?.isSome

/-- Whether a number is strictly less than another; one without a size is not. -/
def isLess (a b : Json) : Bool :=
  match a.size?, b.size? with
  | some x, some y => x.1 < y.1 || (x.1 == y.1 && x.2 < y.2)
  | _, _ => false

mutual

/-- Whether two values are worth the same. -/
def alike : Json → Json → Bool
  | null, null => true
  | nan, nan => true
  | str a, str b => a == b
  | arr as, arr bs => alikeItems as bs
  | obj as, obj bs => alikeMembers as bs
  | a, b => a.size?.isSome && a.size? == b.size?

/-- Whether two lists are worth the same, item by item. -/
def alikeItems : List Json → List Json → Bool
  | [], [] => true
  | a :: as, b :: bs => alike a b && alikeItems as bs
  | _, _ => false

/-- Whether two objects are worth the same, member by member. -/
def alikeMembers : List (String × Json) → List (String × Json) → Bool
  | [], [] => true
  | (m, a) :: as, (n, b) :: bs => m == n && alike a b && alikeMembers as bs
  | _, _ => false

end

mutual

/-- Whether a value is strictly less than another one, or strictly greater. -/
def ordered? (less : Bool) : Json → Json → Except Misfit Bool
  | str a, str b => .ok (if less then Text.before a b else Text.before b a)
  | arr as, arr bs => orderedItems? less as bs
  | a, b =>
    if a.isNumber && b.isNumber then .ok (if less then isLess a b else isLess b a)
    else .error (.order less a.kindWord b.kindWord)

/-- Whether a list is strictly less than another one, or strictly greater. -/
def orderedItems? (less : Bool) : List Json → List Json → Except Misfit Bool
  | [], [] => .ok false
  | [], _ :: _ => .ok less
  | _ :: _, [] => .ok (!less)
  | a :: as, b :: bs => if alike a b then orderedItems? less as bs else ordered? less a b

end

end Symposium.Json

/-!
# Decimals

A decimal is what a number with a point or a power of ten says. It is worth the binary double
nearest to it, and a decimal too large for a double is worth infinity.
-/

namespace Symposium

/-- The number `digits · 10 ^ exponent` with a sign, which zero has as well. -/
structure Decimal where
  negative : Bool
  digits : Nat
  exponent : Int
  deriving DecidableEq, Repr, Inhabited

namespace Decimal

/-- The text of a decimal as its digits and a power of ten. -/
def print (d : Decimal) : String :=
  (if d.negative then "-" else "") ++ toString d.digits ++ "e" ++ toString d.exponent

/-- Beyond this many places on either side of the point every decimal is infinite or zero. -/
def doublePlaces : Nat := 400

/-- The double nearest to a decimal. -/
def toDouble (d : Decimal) : Float :=
  let place := d.exponent + (Nat.toDigits 10 d.digits).length
  let magnitude :=
    if d.digits = 0 ∨ place < -doublePlaces then 0.0
    else if place > doublePlaces then 1.0 / 0.0
    else Float.ofScientific d.digits (d.exponent < 0) d.exponent.natAbs
  if d.negative then -magnitude else magnitude

end Decimal

end Symposium

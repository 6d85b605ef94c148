import Symposium.Decimal

/-!
# Shortest decimals

Of the decimals that are worth a double, the shortest one shows it: the grids of powers of ten are
searched from the coarsest on for a point that reads back as the double.
-/

namespace Symposium.Decimal

/-- A positive double, `significand · 2 ^ exponent`. -/
structure Binary where
  significand : Nat
  exponent : Int
  /-- Whether the next double below is only half as far away as the next one above. -/
  narrow : Bool
  deriving DecidableEq, Repr, Inhabited

namespace Binary

/-- The parts of the magnitude of a finite double. -/
def ofDouble (x : Float) : Binary :=
  let bits := x.toBits.toNat % 0x8000000000000000
  let fraction := bits % 0x10000000000000
  let scale := bits / 0x10000000000000
  if scale = 0 then ⟨fraction, -1074, false⟩
  else ⟨0x10000000000000 + fraction, scale - 1075, fraction = 0 ∧ 1 < scale⟩

/-!
Doubles and the points of a grid are measured in units so small that a quarter of the last place is
a whole number of them, and a step `10 ^ place` of the grid is one too.
-/

/-- Units in a quarter of the last place. -/
def quarter (b : Binary) (place : Int) : Nat :=
  Nat.pow 10 (-place).toNat * Nat.pow 2 (b.exponent - 2).toNat

/-- Units in a step of the grid. -/
def step (b : Binary) (place : Int) : Nat :=
  Nat.pow 10 place.toNat * Nat.pow 2 (2 - b.exponent).toNat

/-- Units in the double. -/
def units (b : Binary) (place : Int) : Nat :=
  4 * b.significand * b.quarter place

/--
Whether a point of the grid reads back as the double: a point halfway between two doubles reads as
the one with the even significand.
-/
def ReadsBack (b : Binary) (place : Int) (point : Nat) : Prop :=
  let margin := if b.significand % 2 = 0 then 0 else 1
  let below := (if b.narrow then 1 else 2) * b.quarter place
  b.units place + margin ≤ point * b.step place + below ∧
    point * b.step place + margin ≤ b.units place + 2 * b.quarter place

instance (b : Binary) (place : Int) (point : Nat) : Decidable (b.ReadsBack place point) := by
  unfold ReadsBack; infer_instance

/--
Of the two points of a grid around the double the one that reads back. If both do it is the nearer
one, and the even one if they are equally near.
-/
def gridPoint? (b : Binary) (place : Int) : Option Nat :=
  let point := b.units place / b.step place
  let below := b.units place - point * b.step place
  let above := (point + 1) * b.step place - b.units place
  if b.ReadsBack place point then
    if b.ReadsBack place (point + 1) ∧ (above < below ∨ above = below ∧ point % 2 = 1) then
      some (point + 1)
    else some point
  else if b.ReadsBack place (point + 1) then some (point + 1)
  else none

/-- The power of ten of the coarsest grid on which a double may lie. -/
def coarsest : Int := 308

/-- The number of grids down to the one that is finer than all doubles. -/
def grids : Nat := 633

/-- The digits and the power of ten of the shortest decimal worth a double. -/
def shortest (b : Binary) : Nat × Int :=
  ((List.range grids).findSome? fun finer =>
    let place := coarsest - Int.ofNat finer
    (b.gridPoint? place).map fun point => (point, place)).getD (0, 0)

end Binary

/-- The shortest decimal that is worth a finite double. -/
def ofDouble (x : Float) : Decimal :=
  let b := Binary.ofDouble x
  let negative := 0x8000000000000000 ≤ x.toBits.toNat
  if b.significand = 0 then ⟨negative, 0, 0⟩
  else ⟨negative, b.shortest.1, b.shortest.2⟩

/-- Digits with a point after so many of them, and at least one digit on either side. -/
def pointed (digits : List Char) (before : Int) : List Char :=
  let zeros := List.replicate (1 - before).toNat '0' ++ digits ++
    List.replicate (before + 1 - digits.length).toNat '0'
  let before := (max before 1).toNat
  zeros.take before ++ '.' :: zeros.drop before

/-- A power of ten with its sign and at least two digits. -/
def power (n : Int) : List Char :=
  let digits := Nat.toDigits 10 n.natAbs
  (if n < 0 then '-' else '+') :: List.replicate (2 - digits.length) '0' ++ digits

/--
The text of a decimal without idle zeros: from a ten-thousandth up to sixteen digits it has a point
and no power of ten, otherwise one digit stands before the point, and no point before nothing.
-/
def display (d : Decimal) : String :=
  let digits := Nat.toDigits 10 d.digits
  let before := d.exponent + digits.length
  let magnitude :=
    if d.digits = 0 then "0.0".toList
    else if -3 ≤ before ∧ before ≤ 16 then pointed digits before
    else
      digits.take 1 ++ (if digits.length = 1 then [] else '.' :: digits.drop 1) ++
        'e' :: power (before - 1)
  String.ofList (if d.negative then '-' :: magnitude else magnitude)

end Symposium.Decimal

import PaintScript.Binary64.Basic

/-!
# Rounding to the nearest number

`ofRatio` rounds a quotient of natural numbers, a tie to the even neighbour, and has no result when
the quotient is too large. `ofDecimal` makes a number of a decimal one by a few operations, each of
which is rounded.
-/

namespace PaintScript.Binary64

/-- The integer nearest to a quotient, of two the even one. -/
def nearestEven (numerator denominator : Nat) : Nat :=
  let q := numerator / denominator
  let r := numerator % denominator
  if 2 * r < denominator ∨ (2 * r = denominator ∧ q % 2 = 0) then q else q + 1

/-- The magnitude nearest to a quotient, on the scale that goes on past the largest number. -/
def magnitudeOf (numerator denominator : Nat) : Nat :=
  let scaled := numerator * one
  let shift := Nat.log2 (scaled / denominator) - 52
  shift * 2 ^ 52 + nearestEven scaled (denominator * 2 ^ shift)

def ofRatio (negative : Bool) (numerator denominator : Nat) : Option Binary64 :=
  let magnitude := magnitudeOf numerator denominator
  if h : magnitude < 2047 * 2 ^ 52 then some ⟨negative, magnitude, h⟩ else none

/-- The units of the number nearest to a quotient. -/
def unitsNear (numerator denominator : Nat) : Nat :=
  unitsOf (magnitudeOf numerator denominator)

/-! ### Decimal numbers -/

/-- The units of the number nearest to a power of ten. -/
def unitsOfPower (n : Nat) : Nat :=
  unitsNear (10 ^ n) 1

/-- What so many divisions by `10 ^ 308` leave of a number of units. Each of them is rounded. -/
def lowered : Nat → Nat → Nat
  | 0, units => units
  | times + 1, units =>
    if units = 0 then 0 else lowered times (unitsNear units (unitsOfPower 308))

/-- The number that `digits * 10 ^ exponent` is read as. The digits and the power of ten are rounded
before they are multiplied or divided, and there is no power above `10 ^ 308`, so the result need not
be the number nearest to the decimal one. -/
def ofDecimal (negative : Bool) (digits : Nat) (exponent : Int) : Option Binary64 :=
  let units := unitsNear digits 1
  if 308 < exponent then if units = 0 then some (zero negative) else none
  else if 0 ≤ exponent then ofRatio negative (units * unitsOfPower exponent.toNat) (one * one)
  else
    let below := exponent.natAbs - 1
    ofRatio negative (lowered (below / 308) units) (unitsOfPower (below % 308 + 1))

end PaintScript.Binary64

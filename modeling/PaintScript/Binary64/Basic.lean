import PaintScript.Power

/-!
# Finite binary floating-point numbers

A `Binary64` is a sign and the lower 63 bits of the interchange format, without the patterns of
the infinities and of NaN. Its value is a whole number of units of `2 ^ -1074`.
-/

namespace PaintScript

/-- A finite number of the 64-bit binary format. The magnitude is the exponent field followed by the
52 bits of the fraction. -/
structure Binary64 where
  negative : Bool
  magnitude : Fin (2047 * 2 ^ 52)
  deriving DecidableEq

namespace Binary64

/-- The number of units of `2 ^ -1074` that a magnitude stands for. -/
def unitsOf (magnitude : Nat) : Nat :=
  let exponent := magnitude / 2 ^ 52
  let fraction := magnitude % 2 ^ 52
  if exponent = 0 then fraction else (2 ^ 52 + fraction) * 2 ^ (exponent - 1)

/-- The distance from zero in units of `2 ^ -1074`. -/
def units (x : Binary64) : Nat :=
  unitsOf x.magnitude

/-- The number of units that make a one. -/
def one : Nat :=
  2 ^ 1074

theorem one_pos : 0 < one := by
  simp only [one, Nat.pow_pos, Nat.zero_lt_two]

def zero (negative : Bool) : Binary64 :=
  ⟨negative, 0⟩

/-- The units of a number with its sign. -/
def signedUnits (x : Binary64) : Int :=
  if x.negative then -(x.units : Int) else x.units

/-- Numbers are ordered by their values, so that the two zeros are equally large. -/
instance : LE Binary64 where
  le x y := x.signedUnits ≤ y.signedUnits

instance : LT Binary64 where
  lt x y := x.signedUnits < y.signedUnits

instance (x y : Binary64) : Decidable (x ≤ y) :=
  inferInstanceAs (Decidable (x.signedUnits ≤ y.signedUnits))

instance (x y : Binary64) : Decidable (x < y) :=
  inferInstanceAs (Decidable (x.signedUnits < y.signedUnits))

/-- The integer that comes next to a number towards zero. -/
def trunc (x : Binary64) : Int :=
  x.signedUnits.tdiv one

/-- The units by which a number is beyond its integer part, with its sign. -/
def fract (x : Binary64) : Int :=
  x.signedUnits.tmod one

end Binary64
end PaintScript

import PaintScript.Binary64.Rounding

/-!
# Integers and floating-point numbers

`ofInt64` is the number nearest to an integer and `toInt64` the integer that is left of a number
when its fraction is cut off, held within 64 bits. `int64?` finds the integer in a number that has no
fraction and lies between the numbers of the least and of the greatest integer.
-/

namespace PaintScript.Binary64

theorem nearestEven_le (numerator denominator : Nat) :
    nearestEven numerator denominator ≤ numerator / denominator + 1 := by
  unfold nearestEven
  dsimp only
  split <;> omega

theorem log2_shifted_lt {n width : Nat} (h : n < 2 ^ width) (present : n ≠ 0) (shift : Nat) :
    (n * 2 ^ shift).log2 < width + shift := by
  have nonzero : n * 2 ^ shift ≠ 0 := Nat.mul_ne_zero present (Nat.ne_of_gt (Nat.two_pow_pos shift))
  rw [Nat.log2_lt nonzero, Nat.pow_add]
  exact Nat.mul_lt_mul_of_pos_right h (Nat.two_pow_pos shift)

/-- An integer of 64 bits is far below the numbers that are too large. -/
theorem magnitudeOf_lt {n : Nat} (small : n ≤ 2 ^ 63) : magnitudeOf n 1 < 2047 * 2 ^ 52 := by
  have length : (n * one).log2 < 64 + 1074 := by
    by_cases zero : n = 0
    · rw [zero, Nat.zero_mul]
      decide
    · exact log2_shifted_lt (by omega) zero 1074
  let shift := (n * one).log2 - 52
  have quotient : n * one / 2 ^ shift < 2 ^ 53 := by
    refine Nat.div_lt_of_lt_mul (Nat.lt_of_lt_of_le Nat.lt_log2_self ?_)
    rw [← Nat.pow_add]
    exact Nat.pow_le_pow_right (by decide) (by omega)
  have rounded := nearestEven_le (n * one) (2 ^ shift)
  have result : magnitudeOf n 1 = shift * 2 ^ 52 + nearestEven (n * one) (2 ^ shift) := by
    simp only [magnitudeOf, Nat.div_one, Nat.one_mul, shift]
  omega

/-- The number nearest to an integer, a tie going to the even neighbour. -/
def ofInt64 (n : Int64) : Binary64 :=
  ⟨decide (n < 0), magnitudeOf n.toInt.natAbs 1, magnitudeOf_lt (by
    have least := n.le_toInt
    have greatest := n.toInt_lt
    omega)⟩

/-- The integer of a number without its fraction, or the nearest one of 64 bits. -/
def toInt64 (x : Binary64) : Int64 :=
  Int64.ofIntClamp x.trunc

/-- The integer that a number is. The upper limit is left out, as it was rounded up and is no integer
of 64 bits. -/
def int64? (x : Binary64) : Option Int64 :=
  if x.fract = 0 ∧ ofInt64 Int64.minValue ≤ x ∧ x < ofInt64 Int64.maxValue then some x.toInt64
  else none

end PaintScript.Binary64

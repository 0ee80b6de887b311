import Mathlib.Algebra.Order.Ring.Rat
import Mathlib.Tactic.NormNum.Basic
import PaintScript.Binary64.Integer

/-!
# The value of a floating-point number

`toRat` is the exact value of a number, which its sign, exponent field and fraction denote.
`int64?_eq_some_iff` says that the integer found in a number is this value: between the limits
nothing is rounded, though the greatest integer has no number of its own.
-/

namespace PaintScript.Binary64

/-- The exact value of a number. -/
def toRat (x : Binary64) : ℚ :=
  (x.signedUnits : ℚ) / (one : ℚ)

theorem toRat_eq_int_iff {x : Binary64} {n : Int} :
    x.toRat = n ↔ x.signedUnits = n * (one : Int) := by
  have nonzero : (one : ℚ) ≠ 0 := by exact_mod_cast one_pos.ne'
  rw [toRat, div_eq_iff nonzero]
  exact_mod_cast Iff.rfl

/-! ### Fields of the format -/

theorem cast_two_pow (n : Nat) : ((2 ^ n : Nat) : ℚ) = 2 ^ (n : Int) := by
  induction n with
  | zero => rfl
  | succ n ih =>
    have nonzero : (2 : ℚ) ≠ 0 := two_ne_zero
    have next : ((n + 1 : Nat) : Int) = n + 1 := rfl
    rw [Nat.pow_succ, Nat.cast_mul, ih, next, zpow_add_one₀ nonzero]
    rfl

/-- The value that is written with a sign, an exponent field and a fraction. -/
def valueOf (negative : Bool) (exponent fraction : Nat) : ℚ :=
  let distance : ℚ :=
    if exponent = 0 then fraction * 2 ^ (-1074 : Int)
    else (2 ^ 52 + fraction : Nat) * 2 ^ ((exponent : Int) - 1075)
  if negative then -distance else distance

theorem units_div_one (x : Binary64) :
    (x.units : ℚ) / (one : ℚ) =
      valueOf false (x.magnitude / 2 ^ 52) (x.magnitude % 2 ^ 52) := by
  have nonzero : (2 : ℚ) ≠ 0 := two_ne_zero
  have scale : (one : ℚ) = 2 ^ (1074 : Int) := cast_two_pow 1074
  rw [scale, div_eq_mul_inv, ← zpow_neg, units, unitsOf, valueOf, if_neg Bool.false_ne_true]
  split
  · rfl
  · rename_i normal
    have shift : (((x.magnitude / 2 ^ 52 : Nat) : Int) - 1075) =
        ((x.magnitude / 2 ^ 52 - 1 : Nat) : Int) + -1074 := by omega
    rw [shift, zpow_add₀ nonzero, Nat.cast_mul, cast_two_pow, mul_assoc]

theorem toRat_eq_valueOf (x : Binary64) :
    x.toRat = valueOf x.negative (x.magnitude / 2 ^ 52) (x.magnitude % 2 ^ 52) := by
  have distance := units_div_one x
  rw [toRat, signedUnits]
  cases x.negative with
  | false => rw [if_neg Bool.false_ne_true, Int.cast_natCast, distance]
  | true =>
    rw [if_pos rfl, Int.cast_neg, Int.cast_natCast, neg_div, distance]
    rfl

/-! ### Limits -/

theorem signedUnits_least : (ofInt64 Int64.minValue).signedUnits = -2 ^ 63 * (one : Int) := by
  decide +kernel

/-- The number nearest to the greatest integer is one more than it. -/
theorem signedUnits_greatest : (ofInt64 Int64.maxValue).signedUnits = 2 ^ 63 * (one : Int) := by
  decide +kernel

/-- An integer lies between the limits exactly if it has 64 bits. The upper limit is not among
them. -/
theorem within_limits_iff {x : Binary64} {n : Int} (value : x.signedUnits = n * (one : Int)) :
    ofInt64 Int64.minValue ≤ x ∧ x < ofInt64 Int64.maxValue ↔ -2 ^ 63 ≤ n ∧ n < 2 ^ 63 := by
  have positive : 0 < (one : Int) := by exact_mod_cast one_pos
  change (ofInt64 Int64.minValue).signedUnits ≤ x.signedUnits ∧
    x.signedUnits < (ofInt64 Int64.maxValue).signedUnits ↔ _
  rw [signedUnits_least, signedUnits_greatest, value, Int.mul_le_mul_right positive,
    Int.mul_lt_mul_right positive]

/-! ### Integers -/

theorem fract_eq_zero_iff {x : Binary64} :
    x.fract = 0 ↔ ∃ n : Int, x.signedUnits = n * (one : Int) := by
  constructor
  · intro whole
    exact ⟨x.trunc, (Int.tdiv_mul_cancel_of_tmod_eq_zero whole).symm⟩
  · rintro ⟨n, value⟩
    rw [fract, value, Int.mul_tmod_left]

theorem trunc_eq {x : Binary64} {n : Int} (value : x.signedUnits = n * (one : Int)) :
    x.trunc = n := by
  have nonzero : (one : Int) ≠ 0 := by exact_mod_cast one_pos.ne'
  rw [trunc, value, Int.mul_tdiv_cancel n nonzero]

/-- An integer of 64 bits is not clamped. -/
theorem toInt_ofIntClamp {n : Int} (bounds : -2 ^ 63 ≤ n ∧ n < 2 ^ 63) :
    (Int64.ofIntClamp n).toInt = n := by
  have greatest : Int64.maxValue.toInt = 2 ^ 63 - 1 := by decide
  exact Int64.toInt_ofIntClamp bounds.1 (by omega)

/-- A number holds a 64-bit integer exactly if its value is that integer. -/
theorem int64?_eq_some_iff {x : Binary64} {n : Int64} :
    x.int64? = some n ↔ x.toRat = n.toInt := by
  rw [toRat_eq_int_iff]
  unfold int64? toInt64
  constructor
  · intro found
    split at found
    · rename_i guards
      obtain ⟨k, value⟩ := fract_eq_zero_iff.mp guards.1
      have bounds := (within_limits_iff value).mp guards.2
      cases found
      rw [trunc_eq value, toInt_ofIntClamp bounds]
      exact value
    · cases found
  · intro value
    have bounds : -2 ^ 63 ≤ n.toInt ∧ n.toInt < 2 ^ 63 := ⟨n.le_toInt, n.toInt_lt⟩
    rw [if_pos ⟨fract_eq_zero_iff.mpr ⟨n.toInt, value⟩, (within_limits_iff value).mpr bounds⟩,
      trunc_eq value]
    exact congrArg some (Int64.toInt_inj.mp (toInt_ofIntClamp bounds))

end PaintScript.Binary64

import PaintScript.Binary64.Integer
import PaintScript.Json.Token

/-!
# Numerals with few digits

A numeral is read through rounded powers of ten, so it need not be the number nearest to what is
written. It is if the digits and the power of ten are numbers themselves, for then only the last
operation rounds: `toBinary64?_eq_ofRatio` says so of less than `2 ^ 53` and at most 22 places.
-/

namespace PaintScript.Binary64

/-! ### Exact quotients -/

theorem nearestEven_mul_right (q : Nat) {d : Nat} (positive : 0 < d) : nearestEven (q * d) d = q := by
  simp only [nearestEven, Nat.mul_mod_left, Nat.mul_div_cancel q positive, Nat.mul_zero, positive,
    true_or, if_true]

/-- A magnitude with a full significand stands for the significand, shifted. -/
theorem unitsOf_normal {shift significand : Nat} (least : 2 ^ 52 ≤ significand)
    (most : significand < 2 ^ 53) :
    unitsOf (shift * 2 ^ 52 + significand) = significand * 2 ^ shift := by
  have exponent : (shift * 2 ^ 52 + significand) / 2 ^ 52 = shift + 1 := by omega
  have fraction : (shift * 2 ^ 52 + significand) % 2 ^ 52 = significand - 2 ^ 52 := by omega
  rw [unitsOf, exponent, fraction, if_neg (Nat.succ_ne_zero shift), Nat.add_sub_cancel,
    Nat.add_sub_cancel' least]

theorem unitsOf_small {units : Nat} (small : units < 2 ^ 53) : unitsOf units = units := by
  by_cases normal : 2 ^ 52 ≤ units
  · have shifted : unitsOf (0 * 2 ^ 52 + units) = units * 2 ^ 0 := unitsOf_normal normal small
    rwa [Nat.zero_mul, Nat.zero_add, Nat.pow_zero, Nat.mul_one] at shifted
  · have exponent : units / 2 ^ 52 = 0 := by omega
    rw [unitsOf, exponent, if_pos rfl, Nat.mod_eq_of_lt (Nat.not_le.mp normal)]

/-- A quotient whose units have at most 53 significant bits is not rounded. -/
theorem unitsNear_of_exact {numerator denominator significand shift : Nat}
    (exact : numerator * one = significand * 2 ^ shift * denominator)
    (positive : 0 < denominator) (short : significand < 2 ^ 53) :
    unitsNear numerator denominator = significand * 2 ^ shift := by
  let units := significand * 2 ^ shift
  let cut := units.log2 - 52
  have magnitude : magnitudeOf numerator denominator =
      cut * 2 ^ 52 + nearestEven (units * denominator) (denominator * 2 ^ cut) := by
    simp only [magnitudeOf, exact, Nat.mul_div_cancel _ positive, units, cut]
  rw [unitsNear, magnitude]
  by_cases small : units < 2 ^ 53
  · have whole : cut = 0 := by
      by_cases zero : units = 0
      · simp only [cut, zero, Nat.log2_zero, Nat.zero_sub]
      · have := (Nat.log2_lt zero).mpr small
        omega
    rw [whole, Nat.zero_mul, Nat.zero_add, Nat.pow_zero, Nat.mul_one,
      nearestEven_mul_right units positive, unitsOf_small small]
  · have nonzero : units ≠ 0 := by omega
    have length : 53 ≤ units.log2 := (Nat.le_log2 nonzero).mpr (Nat.not_lt.mp small)
    have bound : units.log2 < 53 + shift := by
      have present : significand ≠ 0 := fun zero => nonzero (by simp only [units, zero, Nat.zero_mul])
      exact log2_shifted_lt short present shift
    let quotient := significand * 2 ^ (shift - cut)
    have split : units = quotient * 2 ^ cut := by
      have parts : shift = shift - cut + cut := by omega
      calc units = significand * 2 ^ (shift - cut + cut) := by rw [← parts]
        _ = quotient * 2 ^ cut := by rw [Nat.pow_add, ← Nat.mul_assoc]
    have least : 2 ^ 52 ≤ quotient := by
      refine Nat.le_of_mul_le_mul_right ?_ (Nat.two_pow_pos cut)
      rw [← split, ← Nat.pow_add]
      exact (Nat.le_log2 nonzero).mp (by omega)
    have most : quotient < 2 ^ 53 := by
      refine Nat.lt_of_mul_lt_mul_right (a := 2 ^ cut) ?_
      rw [← split, ← Nat.pow_add]
      exact (Nat.log2_lt nonzero).mp (by omega)
    rw [split, Nat.mul_assoc, Nat.mul_comm (2 ^ cut) denominator,
      nearestEven_mul_right quotient (Nat.mul_pos positive (Nat.two_pow_pos cut)),
      unitsOf_normal least most]
    exact split.symm

theorem unitsNear_integer {significand shift : Nat} (short : significand < 2 ^ 53) :
    unitsNear (significand * 2 ^ shift) 1 = significand * 2 ^ shift * one := by
  have shifted : significand * 2 ^ shift * one = significand * 2 ^ (shift + 1074) := by
    rw [one, Nat.pow_add, Nat.mul_assoc]
  rw [shifted]
  exact unitsNear_of_exact (by rw [shifted, Nat.mul_one]) Nat.one_pos short

/-- Up to `10 ^ 22` a power of ten is a number itself. -/
theorem unitsOfPower_eq {n : Nat} (few : n ≤ 22) : unitsOfPower n = 10 ^ n * one := by
  have short : 5 ^ n < 2 ^ 53 :=
    Nat.lt_of_le_of_lt (Nat.pow_le_pow_right (by decide) few) (by decide)
  have factors : 10 ^ n = 5 ^ n * 2 ^ n := by rw [← Nat.mul_pow]
  rw [unitsOfPower, factors, unitsNear_integer short]

/-! ### Equal quotients -/

theorem nearestEven_mul_mul {factor : Nat} (positive : 0 < factor) (n d : Nat) :
    nearestEven (n * factor) (d * factor) = nearestEven n d := by
  have twice : 2 * (n % d * factor) = 2 * (n % d) * factor := (Nat.mul_assoc ..).symm
  simp only [nearestEven, Nat.mul_div_mul_right n d positive, Nat.mul_mod_mul_right, twice,
    Nat.mul_lt_mul_right positive, Nat.mul_left_inj (Nat.ne_of_gt positive)]

theorem magnitudeOf_mul_mul {factor : Nat} (positive : 0 < factor) (n d : Nat) :
    magnitudeOf (n * factor) (d * factor) = magnitudeOf n d := by
  have numerator : n * factor * one = n * one * factor := Nat.mul_right_comm ..
  have denominator (shift : Nat) : d * factor * 2 ^ shift = d * 2 ^ shift * factor :=
    Nat.mul_right_comm ..
  simp only [magnitudeOf, numerator, denominator, Nat.mul_div_mul_right _ d positive,
    nearestEven_mul_mul positive]

theorem ofRatio_mul_mul {factor : Nat} (positive : 0 < factor) (negative : Bool) (n d : Nat) :
    ofRatio negative (n * factor) (d * factor) = ofRatio negative n d := by
  simp only [ofRatio, magnitudeOf_mul_mul positive]

/-! ### Decimal numbers -/

/-- The number nearest to `digits * 10 ^ exponent`. -/
def nearestDecimal (negative : Bool) (digits : Nat) (exponent : Int) : Option Binary64 :=
  if 0 ≤ exponent then ofRatio negative (digits * 10 ^ exponent.toNat) 1
  else ofRatio negative digits (10 ^ exponent.natAbs)

theorem ofDecimal_eq_nearestDecimal {negative : Bool} {digits : Nat} {exponent : Int}
    (short : digits < 2 ^ 53) (few : exponent.natAbs ≤ 22) :
    ofDecimal negative digits exponent = nearestDecimal negative digits exponent := by
  have units : unitsNear digits 1 = digits * one := by
    have whole : unitsNear (digits * 2 ^ 0) 1 = digits * 2 ^ 0 * one := unitsNear_integer short
    rwa [Nat.pow_zero, Nat.mul_one] at whole
  unfold ofDecimal nearestDecimal
  rw [units, if_neg (by omega)]
  split
  · have scaled : digits * one * (10 ^ exponent.toNat * one) =
        digits * 10 ^ exponent.toNat * (one * one) := Nat.mul_mul_mul_comm ..
    rw [unitsOfPower_eq (by omega), scaled]
    simpa using ofRatio_mul_mul (Nat.mul_pos one_pos one_pos) negative _ 1
  · have once : (exponent.natAbs - 1) / 308 = 0 := by omega
    have power : (exponent.natAbs - 1) % 308 + 1 = exponent.natAbs := by omega
    dsimp only
    rw [once, power, lowered, unitsOfPower_eq few]
    exact ofRatio_mul_mul one_pos negative _ _

end PaintScript.Binary64

namespace PaintScript.Json.Read

/-! ### Numerals -/

theorem le_ofDigitChars (significand : Nat) (digits : List Char) :
    significand ≤ Nat.ofDigitChars 10 digits significand := by
  rw [Nat.ofDigitChars_eq_ofDigitChars_zero]
  exact Nat.le_add_right_of_le (Nat.le_mul_of_pos_left significand (Nat.pow_pos (by decide)))

/-- With room for the result no digit is left out. -/
theorem appendDigits_eq {significand : Nat} {digits : List Char}
    (room : Nat.ofDigitChars 10 digits significand < 2 ^ 64) :
    appendDigits significand digits =
      (Nat.ofDigitChars 10 digits significand, digits.length) := by
  induction digits generalizing significand with
  | nil => rfl
  | cons d digits ih =>
    rw [Nat.ofDigitChars_cons] at room ⊢
    have next := Nat.lt_of_le_of_lt (le_ofDigitChars _ digits) room
    rw [appendDigits, if_pos next, ih room]
    rfl

namespace Numeral

/-- The digits of a numeral, before and after the point. -/
def digits (n : Numeral) : List Char :=
  n.whole ++ n.fraction.getD []

/-- The power of ten that the digits of a numeral are multiplied by. -/
def places (n : Numeral) : Int :=
  n.power - (n.fraction.getD []).length

/-- A numeral with few digits and few places is read as the nearest number. -/
theorem toBinary64?_eq_nearestDecimal {n : Numeral} (short : Text.naturalOf n.digits < 2 ^ 53)
    (few : n.places.natAbs ≤ 22) :
    n.toBinary64? = Binary64.nearestDecimal n.negative (Text.naturalOf n.digits) n.places := by
  rw [← Binary64.ofDecimal_eq_nearestDecimal short few]
  rw [digits, Text.naturalOf, Nat.ofDigitChars_append] at short ⊢
  have room := Nat.lt_of_le_of_lt (le_ofDigitChars _ (n.fraction.getD [])) short
  have whole := appendDigits_eq (Nat.lt_trans room (by decide))
  have fraction := appendDigits_eq (Nat.lt_trans short (by decide))
  simp only [toBinary64?, places, whole, fraction, Nat.sub_self, Int.natCast_zero, Int.add_zero]

-- With more digits the two roundings show: the nearest number ends with 2.
example : (⟨false, "9007199254740993".toList, some ['0'], none⟩ : Numeral).toBinary64? =
    Binary64.ofRatio false 9007199254740994 1 := by
  decide +kernel

end Numeral

end PaintScript.Json.Read

import PaintScript.Instant.Text
import PaintScript.Proofs.Log
import PaintScript.Proofs.Text.Decimal

/-!
# Instants are read back

A number of fixed width ends where the next mark starts, so each part of the text of an instant is
read back as it was written. This holds for the years of four digits and outside leap seconds.
-/

namespace PaintScript.Instant

open Text (EndsDigits isBlank naturalOf trimStart)

/-! ### Numbers of a fixed width -/

theorem length_zeroPadded {width n : Nat} (positive : 0 < width) (fits : n < 10 ^ width) :
    (zeroPadded width n).length = width := by
  have digits : (Text.natural n).length ≤ width :=
    (Nat.length_toDigits_le_iff (by decide) positive).mpr fits
  rw [zeroPadded, List.length_append, List.length_replicate]
  omega

theorem isDigit_of_mem_zeroPadded {width n : Nat} {c : Char} (h : c ∈ zeroPadded width n) :
    c.isDigit = true := by
  rcases List.mem_append.mp h with zero | digit
  · rw [List.eq_of_mem_replicate zero]
    decide
  · exact Text.isDigit_of_mem_natural digit

theorem naturalOf_zeroPadded (width n : Nat) : naturalOf (zeroPadded width n) = n := by
  rw [zeroPadded, naturalOf, Nat.ofDigitChars_append, Nat.ofDigitChars_replicate_zero,
    Nat.mul_zero]
  exact Text.naturalOf_natural n

theorem zeroPadded_ne_nil (width n : Nat) : zeroPadded width n ≠ [] := by
  intro empty
  exact Text.natural_ne_nil n (List.append_eq_nil_iff.mp empty).2

theorem exists_zeroPadded_eq_cons (width n : Nat) :
    ∃ c digits, zeroPadded width n = c :: digits ∧ c.isDigit = true := by
  obtain ⟨c, digits, same⟩ := List.exists_cons_of_ne_nil (zeroPadded_ne_nil width n)
  exact ⟨c, digits, same, isDigit_of_mem_zeroPadded (same ▸ List.mem_cons_self)⟩

theorem trimStart_zeroPadded (width n : Nat) (rest : List Char) :
    trimStart (zeroPadded width n ++ rest) = zeroPadded width n ++ rest := by
  obtain ⟨c, digits, same, digit⟩ := exists_zeroPadded_eq_cons width n
  rw [same, List.cons_append, Text.trimStart_cons (Text.isBlank_of_isDigit digit)]

/-! ### Readers -/

/-- A number is read if it is no longer than allowed and if the characters that may still be looked
at do not go on with a digit. -/
theorem digits_zeroPadded_append {limit width n : Nat} {rest : List Char} (positive : 0 < width)
    (short : width ≤ limit) (fits : n < 10 ^ width) (ends : EndsDigits (rest.take (limit - width))) :
    digits limit (zeroPadded width n ++ rest) = .ok (n, rest) := by
  have length := length_zeroPadded positive fits
  have present := zeroPadded_ne_nil width n
  have taken : ((zeroPadded width n ++ rest).take limit).takeWhile Char.isDigit =
      zeroPadded width n := by
    rw [List.take_append, List.take_of_length_le (by omega), length]
    exact Text.takeWhile_digits (fun _ member => isDigit_of_mem_zeroPadded member) ends
  unfold digits
  rw [taken]
  dsimp only
  split
  · rename_i empty
    exact absurd (List.append_eq_nil_iff.mp empty).1 present
  · rw [if_neg (by rwa [List.isEmpty_iff]), List.drop_left, naturalOf_zeroPadded]

theorem digits_zeroPadded {width n : Nat} (positive : 0 < width) (fits : n < 10 ^ width)
    (rest : List Char) : digits width (zeroPadded width n ++ rest) = .ok (n, rest) := by
  have ends : EndsDigits (rest.take (width - width)) := by
    rw [Nat.sub_self, List.take_zero]
    exact Text.endsDigits_nil
  exact digits_zeroPadded_append positive (Nat.le_refl width) fits ends

theorem bounded_zeroPadded {low high n : Nat} (bounds : low ≤ n ∧ n ≤ high) (short : n < 100)
    (rest : List Char) : bounded low high (zeroPadded 2 n ++ rest) = .ok (n, rest) := by
  rw [bounded, trimStart_zeroPadded, digits_zeroPadded (by decide) short, ok_bind]
  exact if_pos bounds

theorem mark_cons {c : Char} (visible : isBlank c = false) (rest : List Char) :
    mark c (c :: rest) = .ok rest := by
  rw [mark, Text.trimStart_cons visible]
  exact if_pos rfl

theorem year_yearText {y : Int} (least : 0 ≤ y) (greatest : y ≤ 9999) (rest : List Char) :
    year (yearText y ++ rest) = .ok (y, rest) := by
  have short : y.natAbs < 10 ^ 4 := by omega
  have written : yearText y = zeroPadded 4 y.natAbs := by
    rw [yearText, if_neg (by omega), if_neg (by omega)]
  have value : Text.signed false y.natAbs = y := by
    rw [Text.signed, if_neg Bool.false_ne_true]
    omega
  have bounds : -2 ^ 31 ≤ y ∧ y < 2 ^ 31 := by omega
  have read := digits_zeroPadded (by decide) short rest
  obtain ⟨c, digits, same, digit⟩ := exists_zeroPadded_eq_cons 4 y.natAbs
  have noMinus : c ≠ '-' := Text.ne_of_isDigit digit (by decide)
  have noPlus : c ≠ '+' := Text.ne_of_isDigit digit (by decide)
  rw [written, year, trimStart_zeroPadded]
  rw [same, List.cons_append] at read ⊢
  dsimp only
  split
  · rename_i minus
    exact absurd (List.cons.inj minus).1 noMinus
  · rename_i plus
    exact absurd (List.cons.inj plus).1 noPlus
  · rw [Option.isSome_none, if_neg Bool.false_ne_true, read, ok_bind, Option.getD_none, value]
    exact if_pos bounds

theorem fraction_zeroPadded {width n : Nat} (positive : 0 < width) (short : width ≤ 9)
    (fits : n < 10 ^ width) :
    fraction ('.' :: (zeroPadded width n ++ ['Z'])) = .ok (n * 10 ^ (9 - width), ['Z']) := by
  have length := length_zeroPadded positive fits
  have ends : EndsDigits (List.take (9 - width) ['Z']) := by
    intro c first
    have member := List.mem_of_mem_take (List.mem_of_mem_head? first)
    rw [List.mem_singleton.mp member]
    decide
  have read := digits_zeroPadded_append positive short fits ends
  rw [fraction, read, ok_bind]
  simp only [List.length_append, length, Nat.add_sub_cancel]
  rfl

theorem fraction_fractionText {nano : Nat} (small : nano < 10 ^ 9) :
    fraction (fractionText nano ++ ['Z']) = .ok (nano, ['Z']) := by
  unfold fractionText
  split
  · rename_i zero
    rw [zero]
    rfl
  · split
    · have whole : nano / 1000000 * 10 ^ (9 - 3) = nano := by omega
      rw [List.cons_append, fraction_zeroPadded (by decide) (by decide) (by omega), whole]
    · split
      · have whole : nano / 1000 * 10 ^ (9 - 6) = nano := by omega
        rw [List.cons_append, fraction_zeroPadded (by decide) (by decide) (by omega), whole]
      · rw [List.cons_append, fraction_zeroPadded (by decide) (by decide) small, Nat.sub_self,
          Nat.pow_zero, Nat.mul_one]

theorem separator_T (rest : List Char) : separator ('T' :: rest) = .ok rest := rfl

theorem offset_Z : offset ['Z'] = .ok (0, []) := rfl

/-! ### Instants -/

theorem daysIn_le (year : Int) (month : Nat) : daysIn year month ≤ 31 := by
  unfold daysIn
  repeat' split
  all_goals decide

theorem of?_eq_some (d : Date) : Date.of? d.year d.month d.day = some d :=
  dif_pos d.valid

/-- A clock that is not ahead shows the instant itself. -/
theorem ofLocal_zero (t : Instant) : ofLocal t.date t.second t.nano 0 = t := by
  have bound := t.second.isLt
  have inside : ((t.second : Nat) : Int) - 0 = (t.second : Nat) := Int.sub_zero _
  have whole : ((t.second : Nat) : Int) % 86400 = (t.second : Nat) := by omega
  rw [ofLocal, inside, whole, if_neg (by omega), if_neg (by omega), Int.toNat_natCast,
    Fin.ofNat_val_eq_self]

/-- Whether an instant is in a year of four digits and no leap second. -/
structure IsPlain (t : Instant) : Prop where
  least : 0 ≤ t.date.year
  greatest : t.date.year ≤ 9999
  nano : t.nano.val < 1000000000

theorem print_eq {t : Instant} (plain : t.IsPlain) :
    t.print = yearText t.date.year ++ '-' :: (zeroPadded 2 t.date.month ++
      '-' :: (zeroPadded 2 t.date.day ++ 'T' :: (zeroPadded 2 (t.second / 3600) ++
        ':' :: (zeroPadded 2 (t.second / 60 % 60) ++ ':' :: (zeroPadded 2 (t.second % 60) ++
          (fractionText t.nano ++ ['Z'])))))) := by
  have leap : t.nano.val / 1000000000 = 0 := Nat.div_eq_of_lt plain.nano
  have fraction : t.nano.val % 1000000000 = t.nano := Nat.mod_eq_of_lt plain.nano
  rw [print, leap, fraction]
  simp only [Nat.add_zero, List.append_assoc, List.cons_append]

theorem ofText_print {t : Instant} (plain : t.IsPlain) : ofText t.print = .ok t := by
  have second := t.second.isLt
  have valid := t.date.valid
  have days : t.date.day ≤ 31 := valid.2.2.2.trans (daysIn_le ..)
  have known : isKnownYear t.date.year = true := by
    have least := plain.least
    have greatest := plain.greatest
    simp only [isKnownYear, Bool.and_eq_true, decide_eq_true_eq]
    omega
  have clock : t.second / 3600 * 3600 + t.second / 60 % 60 * 60 + t.second % 60 = t.second.val := by
    omega
  have noLeap : t.second.val % 60 / 60 = 0 := by omega
  -- Each part is read up to the mark after it, which is read by itself.
  rw [print_eq plain, ofText, year_yearText plain.least plain.greatest, ok_bind]
  dsimp only
  rw [mark_cons (by decide), ok_bind, bounded_zeroPadded ⟨valid.1, valid.2.1⟩ (by omega), ok_bind]
  dsimp only
  rw [mark_cons (by decide), ok_bind, bounded_zeroPadded ⟨valid.2.2.1, days⟩ (by omega), ok_bind]
  dsimp only
  rw [separator_T, ok_bind, bounded_zeroPadded (by omega) (by omega), ok_bind]
  dsimp only
  rw [mark_cons (by decide), ok_bind, bounded_zeroPadded (by omega) (by omega), ok_bind]
  dsimp only
  rw [mark_cons (by decide), ok_bind, bounded_zeroPadded (by omega) (by omega), ok_bind]
  dsimp only
  rw [fraction_fractionText plain.nano, ok_bind]
  dsimp only
  rw [offset_Z, ok_bind, noLeap, Nat.sub_zero, clock, Nat.zero_mul, Nat.add_zero,
    Fin.ofNat_val_eq_self, of?_eq_some]
  dsimp only
  rw [ofLocal_zero, known]
  rfl

end PaintScript.Instant

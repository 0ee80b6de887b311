import PaintScript.Proofs.Text.Split
import PaintScript.Text.Decimal

/-!
# Integers as text

The decimal text of a 64-bit integer reads back as that integer, except for the least one: the
magnitude is read before the sign, and `2 ^ 63` does not fit. No text reads as the least integer,
and every other integer is read exactly where the leading digits of a text stand for it.
-/

namespace PaintScript.Text

/-! ### Digits -/

/-- A text that does not go on with a digit. -/
def EndsDigits (rest : List Char) : Prop :=
  ∀ c ∈ rest.head?, c.isDigit = false

theorem endsDigits_nil : EndsDigits [] := by
  intro c first
  cases first

theorem takeWhile_digits {digits rest : List Char} (all : ∀ c ∈ digits, c.isDigit = true)
    (ends : EndsDigits rest) : (digits ++ rest).takeWhile Char.isDigit = digits := by
  rw [List.takeWhile_append_of_pos all]
  cases rest with
  | nil => simp
  | cons c rest => simp [ends c rfl]

theorem dropWhile_digits {digits rest : List Char} (all : ∀ c ∈ digits, c.isDigit = true)
    (ends : EndsDigits rest) : (digits ++ rest).dropWhile Char.isDigit = rest := by
  rw [List.dropWhile_append_of_pos all]
  cases rest with
  | nil => rfl
  | cons c rest => simp [ends c rfl]

theorem digit_bounds {c : Char} (h : c.isDigit = true) : 48 ≤ c.toNat ∧ c.toNat ≤ 57 := by
  simp only [Char.isDigit, Bool.and_eq_true, decide_eq_true_eq, ge_iff_le,
    UInt32.le_iff_toNat_le] at h
  exact h

theorem isBlank_of_isDigit {c : Char} (h : c.isDigit = true) : isBlank c = false := by
  have bounds := digit_bounds h
  simp only [isBlank, Bool.or_eq_false_iff, Bool.and_eq_false_iff, decide_eq_false_iff_not,
    beq_eq_false_iff_ne]
  omega

theorem ne_of_isDigit {c d : Char} (h : c.isDigit = true) (other : d.isDigit = false) : c ≠ d := by
  intro same
  rw [same, other] at h
  exact absurd h (by decide)

theorem isDigit_of_mem_natural {n : Nat} {c : Char} (h : c ∈ natural n) : c.isDigit = true :=
  Nat.isDigit_of_mem_toDigits (by decide) (by decide) h

theorem natural_ne_nil (n : Nat) : natural n ≠ [] :=
  Nat.toDigits_ne_nil

theorem natural_inj {m n : Nat} (h : natural m = natural n) : m = n := by
  rw [← naturalOf_natural m, h, naturalOf_natural]

theorem isDigit_of_natural_append {n : Nat} {rest more : List Char} {c : Char}
    (h : natural n ++ rest = c :: more) : c.isDigit = true := by
  obtain ⟨d, digits, same⟩ := List.exists_cons_of_ne_nil (natural_ne_nil n)
  have digit : d.isDigit = true := isDigit_of_mem_natural (same ▸ List.mem_cons_self)
  rw [same, List.cons_append] at h
  rw [← (List.cons.inj h).1]
  exact digit

theorem natural_zero : natural 0 = ['0'] :=
  Nat.toDigits_zero 10

theorem head_natural_ne {n : Nat} (positive : n ≠ 0) {c : Char} {digits : List Char}
    (h : natural n = c :: digits) : c ≠ '0' := by
  induction n using Nat.strongRecOn generalizing c digits with
  | ind n ih =>
    by_cases small : n < 10
    · rw [natural, Nat.toDigits_of_lt_base small] at h
      rw [← (List.cons.inj h).1]
      intro zero
      exact positive (Nat.digitChar_eq_zero.mp zero)
    · have apart : natural n = natural (n / 10) ++ [Nat.digitChar (n % 10)] :=
        Nat.toDigits_of_base_le (by decide) (by omega)
      obtain ⟨d, front, same⟩ := List.exists_cons_of_ne_nil (natural_ne_nil (n / 10))
      rw [apart, same] at h
      rw [← (List.cons.inj h).1]
      exact ih (n / 10) (by omega) (by omega) same

theorem digitChar_of_isDigit {c : Char} (h : c.isDigit = true) :
    Nat.digitChar (c.toNat - '0'.toNat) = c := by
  have bounds := digit_bounds h
  apply Char.toNat_inj.mp
  have small : c.toNat - '0'.toNat < 10 := show c.toNat - 48 < 10 by omega
  rw [Nat.toNat_digitChar_of_lt_ten small]
  exact Nat.add_sub_cancel' bounds.1

/-- Digits after a positive number are the last digits of the number that all of them stand for. -/
theorem natural_append_digits {digits : List Char} (all : ∀ c ∈ digits, c.isDigit = true) {n : Nat}
    (positive : 0 < n) : natural n ++ digits = natural (Nat.ofDigitChars 10 digits n) := by
  induction digits generalizing n with
  | nil => rw [List.append_nil, Nat.ofDigitChars_nil]
  | cons c digits ih =>
    obtain ⟨here, others⟩ := List.forall_mem_cons.mp all
    have bounds := digit_bounds here
    have small : c.toNat - '0'.toNat < 10 := show c.toNat - 48 < 10 by omega
    have next : natural n ++ [c] = natural (10 * n + (c.toNat - '0'.toNat)) := by
      have joined := Nat.toDigits_append_toDigits (by decide : 1 < 10) positive small
      rwa [Nat.toDigits_of_lt_base small, digitChar_of_isDigit here] at joined
    rw [Nat.ofDigitChars_cons, ← ih others (by omega), ← next, List.append_assoc]
    rfl

/-- Digits without leading zeros are those of the number that they stand for. -/
theorem natural_naturalOf {c : Char} {digits : List Char} (first : c ≠ '0')
    (all : ∀ d ∈ c :: digits, d.isDigit = true) :
    natural (naturalOf (c :: digits)) = c :: digits := by
  obtain ⟨here, others⟩ := List.forall_mem_cons.mp all
  have bounds := digit_bounds here
  have nonzero : c.toNat ≠ 48 := fun zero => first (Char.toNat_inj.mp zero)
  have positive : 0 < c.toNat - '0'.toNat := show 0 < c.toNat - 48 by omega
  have small : c.toNat - '0'.toNat < 10 := show c.toNat - 48 < 10 by omega
  have rebuilt := natural_append_digits others positive
  rw [natural, Nat.toDigits_of_lt_base small, digitChar_of_isDigit here] at rebuilt
  rw [naturalOf, Nat.ofDigitChars_cons, Nat.mul_zero, Nat.zero_add]
  exact rebuilt.symm

/-! ### Signs -/

theorem takeSign_natural (n : Nat) (rest : List Char) :
    takeSign (natural n ++ rest) = (false, natural n ++ rest) := by
  rw [takeSign.eq_def]
  split
  · rename_i minus
    exact absurd (isDigit_of_natural_append minus) (by decide)
  · rename_i plus
    exact absurd (isDigit_of_natural_append plus) (by decide)
  · rfl

theorem takeSign_integer (k : Int) (rest : List Char) :
    takeSign (integer k ++ rest) = (decide (k < 0), natural k.natAbs ++ rest) := by
  unfold integer
  split
  · rename_i negative
    rw [List.cons_append, takeSign, decide_eq_true negative]
  · rename_i positive
    rw [takeSign_natural, decide_eq_false positive]

theorem signed_natAbs (k : Int) : signed (decide (k < 0)) k.natAbs = k := by
  unfold signed
  split
  · rename_i negative
    have := of_decide_eq_true negative
    omega
  · rename_i positive
    have : ¬ k < 0 := by simpa using positive
    omega

/-! ### Characters of an integer -/

theorem mem_integer {k : Int} {c : Char} (h : c ∈ integer k) : c = '-' ∨ c.isDigit = true := by
  unfold integer at h
  split at h
  · rcases List.mem_cons.mp h with minus | digit
    · exact Or.inl minus
    · exact Or.inr (isDigit_of_mem_natural digit)
  · exact Or.inr (isDigit_of_mem_natural h)

theorem visible_of_mem_integer {k : Int} {c : Char} (h : c ∈ integer k) : isBlank c = false := by
  rcases mem_integer h with minus | digit
  · rw [minus]
    decide
  · exact isBlank_of_isDigit digit

theorem trimStart_of_visible {s : List Char} (h : ∀ c ∈ s, isBlank c = false) :
    trimStart s = s := by
  cases s with
  | nil => rfl
  | cons c s => exact trimStart_cons (h c List.mem_cons_self)

/-! ### Reading back -/

theorem prefixInt64?_integer {k : Int} (low : -2 ^ 63 < k) (high : k < 2 ^ 63) :
    prefixInt64? (integer k) = some (Int64.ofInt k) := by
  have sign := takeSign_integer k []
  have digits : (natural k.natAbs ++ []).takeWhile Char.isDigit = natural k.natAbs :=
    takeWhile_digits (fun _ => isDigit_of_mem_natural) endsDigits_nil
  rw [List.append_nil] at sign digits
  rw [List.append_nil] at sign
  have nonempty : (natural k.natAbs).isEmpty = false := by
    simpa using natural_ne_nil k.natAbs
  have small : k.natAbs < 2 ^ 63 := by omega
  simp only [prefixInt64?, trimStart_of_visible fun c member => visible_of_mem_integer member,
    sign, digits, nonempty, naturalOf_natural, if_pos small, signed_natAbs, Bool.false_eq_true,
    if_false]

theorem toInt_gt_of_ne_minValue {n : Int64} (h : n ≠ Int64.minValue) : -2 ^ 63 < n.toInt := by
  have low := n.le_toInt
  have other : n.toInt ≠ -2 ^ 63 := by
    intro same
    apply h
    rw [← Int64.toInt_inj, same, Int64.toInt_minValue]
  omega

theorem prefixInt64?_int64 {n : Int64} (h : n ≠ Int64.minValue) :
    prefixInt64? (int64 n) = some n := by
  rw [int64, prefixInt64?_integer (toInt_gt_of_ne_minValue h) n.toInt_lt, Int64.ofInt_toInt]

/-- No text starts with the least integer: its magnitude alone is too large. -/
theorem ne_minValue_of_prefixInt64? {s : List Char} {n : Int64} (h : prefixInt64? s = some n) :
    n ≠ Int64.minValue := by
  simp only [prefixInt64?] at h
  generalize takeSign (trimStart s) = split at h
  obtain ⟨negative, rest⟩ := split
  dsimp only at h
  split at h
  · cases h
  · split at h
    · rename_i small
      cases h
      intro same
      have value := congrArg Int64.toInt same
      rw [Int64.toInt_minValue, Int64.toInt_ofInt_of_le (by unfold signed; split <;> omega)
        (by unfold signed; split <;> omega)] at value
      unfold signed at value
      split at value <;> omega
    · cases h

/-! ### Leading digits -/

/-- Whether a minus sign stands in front of the digits that a text starts with, and these digits up
to the first other character. Blanks are skipped in front of the sign. There is one sign or none,
and the digits may be missing. -/
inductive LeadingDigits : List Char → Bool → List Char → Prop
  | unsigned {blanks digits rest : List Char} (skipped : ∀ c ∈ blanks, isBlank c = true)
      (first : ∀ c ∈ (digits ++ rest).head?, isBlank c = false ∧ c ≠ '+' ∧ c ≠ '-')
      (all : ∀ c ∈ digits, c.isDigit = true) (ends : EndsDigits rest) :
      LeadingDigits (blanks ++ (digits ++ rest)) false digits
  | plus {blanks digits rest : List Char} (skipped : ∀ c ∈ blanks, isBlank c = true)
      (all : ∀ c ∈ digits, c.isDigit = true) (ends : EndsDigits rest) :
      LeadingDigits (blanks ++ '+' :: (digits ++ rest)) false digits
  | minus {blanks digits rest : List Char} (skipped : ∀ c ∈ blanks, isBlank c = true)
      (all : ∀ c ∈ digits, c.isDigit = true) (ends : EndsDigits rest) :
      LeadingDigits (blanks ++ '-' :: (digits ++ rest)) true digits

theorem trimStart_append {blanks s : List Char} (skipped : ∀ c ∈ blanks, isBlank c = true)
    (first : ∀ c ∈ s.head?, isBlank c = false) : trimStart (blanks ++ s) = s := by
  rw [trimStart, List.dropWhile_append_of_pos skipped]
  cases s with
  | nil => rfl
  | cons c s => exact trimStart_cons (first c rfl)

theorem takeSign_of_unsigned {s : List Char} (first : ∀ c ∈ s.head?, c ≠ '+' ∧ c ≠ '-') :
    takeSign s = (false, s) := by
  rw [takeSign.eq_def]
  split
  · exact absurd rfl (first '-' rfl).2
  · exact absurd rfl (first '+' rfl).1
  · rfl

theorem LeadingDigits.takeSign {s digits : List Char} {negative : Bool}
    (h : LeadingDigits s negative digits) :
    ∃ rest, takeSign (trimStart s) = (negative, digits ++ rest) ∧
      (digits ++ rest).takeWhile Char.isDigit = digits := by
  cases h with
  | unsigned skipped first all ends =>
    refine ⟨_, ?_, takeWhile_digits all ends⟩
    rw [trimStart_append skipped fun c here => (first c here).1]
    exact takeSign_of_unsigned fun c here => (first c here).2
  | plus skipped all ends =>
    refine ⟨_, ?_, takeWhile_digits all ends⟩
    rw [trimStart_append skipped fun c here => by cases here; decide]
    rfl
  | minus skipped all ends =>
    refine ⟨_, ?_, takeWhile_digits all ends⟩
    rw [trimStart_append skipped fun c here => by cases here; decide]
    rfl

theorem exists_digits (s : List Char) : ∃ digits rest, s = digits ++ rest ∧
    (∀ c ∈ digits, c.isDigit = true) ∧ EndsDigits rest :=
  ⟨s.takeWhile Char.isDigit, s.dropWhile Char.isDigit, List.takeWhile_append_dropWhile.symm,
    fun _ => List.mem_takeWhile_imp, head_dropWhile⟩

theorem exists_leadingDigits (s : List Char) :
    ∃ negative digits, LeadingDigits s negative digits := by
  have skipped : ∀ c ∈ s.takeWhile isBlank, isBlank c = true := fun _ => List.mem_takeWhile_imp
  have started : ∀ c ∈ (s.dropWhile isBlank).head?, isBlank c = false := head_dropWhile
  rw [← List.takeWhile_append_dropWhile (p := isBlank) (l := s)]
  generalize s.takeWhile isBlank = blanks, s.dropWhile isBlank = t at skipped started
  cases t with
  | nil =>
    have parts : LeadingDigits (blanks ++ ([] ++ [])) false [] :=
      .unsigned skipped (by simp) (List.forall_mem_nil _) endsDigits_nil
    exact ⟨false, [], parts⟩
  | cons c t =>
    obtain ⟨digits, rest, rfl, all, ends⟩ := exists_digits t
    by_cases plus : c = '+'
    · exact ⟨false, digits, plus ▸ .plus skipped all ends⟩
    · by_cases minus : c = '-'
      · exact ⟨true, digits, minus ▸ .minus skipped all ends⟩
      · obtain ⟨digits, rest, same, all, ends⟩ := exists_digits (c :: (digits ++ rest))
        rw [same] at started ⊢
        refine ⟨false, digits, .unsigned skipped (fun d here => ⟨started d here, ?_⟩) all ends⟩
        rw [← same] at here
        cases here
        exact ⟨plus, minus⟩

/-- The digits have to stand for a magnitude below `2 ^ 63`, before the sign is applied. -/
theorem LeadingDigits.prefixInt64?_eq {s digits : List Char} {negative : Bool}
    (h : LeadingDigits s negative digits) :
    prefixInt64? s = if digits = [] then none
      else if naturalOf digits < 2 ^ 63 then some (Int64.ofInt (signed negative (naturalOf digits)))
      else none := by
  obtain ⟨rest, sign, run⟩ := h.takeSign
  simp only [prefixInt64?, sign, run, List.isEmpty_iff]

theorem signed_bounds (negative : Bool) (magnitude : Nat) :
    magnitude < 2 ^ 63 ↔
      -2 ^ 63 < signed negative magnitude ∧ signed negative magnitude < 2 ^ 63 := by
  unfold signed
  split <;> omega

theorem ne_minValue_iff {n : Int64} : n ≠ Int64.minValue ↔ -2 ^ 63 < n.toInt := by
  refine ⟨toInt_gt_of_ne_minValue, fun greater least => ?_⟩
  rw [least, Int64.toInt_minValue] at greater
  exact absurd greater (by decide)

theorem LeadingDigits.prefixInt64?_eq_some_iff {s digits : List Char} {negative : Bool}
    (h : LeadingDigits s negative digits) {n : Int64} : prefixInt64? s = some n ↔
      digits ≠ [] ∧ n ≠ Int64.minValue ∧ n.toInt = signed negative (naturalOf digits) := by
  rw [h.prefixInt64?_eq]
  by_cases empty : digits = []
  · simp [empty]
  · rw [if_neg empty, ne_minValue_iff]
    constructor
    · intro found
      split at found
      · rename_i small
        obtain ⟨low, high⟩ := (signed_bounds negative _).mp small
        obtain rfl := Option.some.inj found
        rw [Int64.toInt_ofInt_of_le (by omega) (by omega)]
        exact ⟨empty, low, rfl⟩
      · cases found
    · rintro ⟨-, low, value⟩
      have high := n.toInt_lt
      rw [value] at low high
      rw [if_pos ((signed_bounds negative _).mpr ⟨low, high⟩), ← value, Int64.ofInt_toInt]

theorem LeadingDigits.prefixInt64?_eq_none_iff {s digits : List Char} {negative : Bool}
    (h : LeadingDigits s negative digits) :
    prefixInt64? s = none ↔ digits = [] ∨ signed negative (naturalOf digits) ≤ -2 ^ 63 ∨
      2 ^ 63 ≤ signed negative (naturalOf digits) := by
  have bounds := signed_bounds negative (naturalOf digits)
  rw [h.prefixInt64?_eq]
  by_cases empty : digits = []
  · simp [empty]
  · rw [if_neg empty, ite_eq_right_iff]
    constructor
    · intro large
      have outside : ¬ naturalOf digits < 2 ^ 63 := fun small => nomatch large small
      omega
    · rintro (none | outside) small
      · exact absurd none empty
      · have inside := bounds.mp small
        omega

end PaintScript.Text

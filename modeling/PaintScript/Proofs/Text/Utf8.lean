import Mathlib.Tactic.SplitIfs
import PaintScript.Power

/-!
# The order of encoded texts

Texts compare as their UTF-8 bytes do: the encoding of a character comes before that of a greater
one, whatever follows.
-/

namespace PaintScript.Text

/-- The bytes of a text. -/
def utf8 (s : String) : List UInt8 :=
  s.toUTF8.data.toList

theorem utf8_eq (s : String) : utf8 s = s.toList.flatMap String.utf8EncodeChar := by
  rw [utf8, String.toUTF8_eq_toByteArray, ← String.utf8Encode_toList, List.utf8Encode,
    List.data_toByteArray]

/-! ### Characters -/

/-- Whether bytes come before other ones, whatever follows each of them. -/
def Precedes (xs ys : List UInt8) : Prop :=
  ∀ as bs, xs ++ as < ys ++ bs

theorem precedes_cons {x y : Nat} (small : y < 256) (h : x < y) (xs ys : List UInt8) :
    Precedes (UInt8.ofNat x :: xs) (UInt8.ofNat y :: ys) := by
  intro as bs
  have first : UInt8.ofNat x < UInt8.ofNat y := by
    rw [UInt8.lt_iff_toNat_lt, UInt8.toNat_ofNat', UInt8.toNat_ofNat']
    omega
  exact List.cons_lt_cons_iff.mpr (Or.inl first)

/-- A byte for the last six bits does not change an order that the bits before them have. -/
theorem precedes_trail {m n : Nat} (h : m < n) (lead : Nat → List UInt8)
    (before : m / 64 < n / 64 → Precedes (lead (m / 64)) (lead (n / 64))) :
    Precedes (lead (m / 64) ++ [UInt8.ofNat (m % 64 + 128)])
      (lead (n / 64) ++ [UInt8.ofNat (n % 64 + 128)]) := by
  intro as bs
  rw [List.append_assoc, List.append_assoc]
  by_cases same : m / 64 = n / 64
  · rw [same]
    have last : m % 64 + 128 < n % 64 + 128 := by omega
    exact List.append_left_lt (precedes_cons (by omega) last [] [] as bs)
  · exact before (by omega) _ _

theorem precedes_two {m n : Nat} (h : m < n) (small : n < 0x800) :
    Precedes [UInt8.ofNat (m / 64 % 32 + 192), UInt8.ofNat (m % 64 + 128)]
      [UInt8.ofNat (n / 64 % 32 + 192), UInt8.ofNat (n % 64 + 128)] :=
  precedes_trail h (fun q => [UInt8.ofNat (q % 32 + 192)]) fun _ =>
    precedes_cons (by omega) (by omega) [] []

theorem precedes_three {m n : Nat} (h : m < n) (small : n < 0x10000) :
    Precedes [UInt8.ofNat (m / 4096 % 16 + 224), UInt8.ofNat (m / 64 % 64 + 128),
        UInt8.ofNat (m % 64 + 128)]
      [UInt8.ofNat (n / 4096 % 16 + 224), UInt8.ofNat (n / 64 % 64 + 128),
        UInt8.ofNat (n % 64 + 128)] := by
  have quotient (k : Nat) : k / 4096 = k / 64 / 64 := (Nat.div_div_eq_div_mul k 64 64).symm
  rw [quotient m, quotient n]
  refine precedes_trail h
    (fun q => [UInt8.ofNat (q / 64 % 16 + 224), UInt8.ofNat (q % 64 + 128)]) fun lead => ?_
  exact precedes_trail lead (fun q => [UInt8.ofNat (q % 16 + 224)]) fun _ =>
    precedes_cons (by omega) (by omega) [] []

theorem precedes_four {m n : Nat} (h : m < n) (small : n < 0x110000) :
    Precedes [UInt8.ofNat (m / 262144 % 8 + 240), UInt8.ofNat (m / 4096 % 64 + 128),
        UInt8.ofNat (m / 64 % 64 + 128), UInt8.ofNat (m % 64 + 128)]
      [UInt8.ofNat (n / 262144 % 8 + 240), UInt8.ofNat (n / 4096 % 64 + 128),
        UInt8.ofNat (n / 64 % 64 + 128), UInt8.ofNat (n % 64 + 128)] := by
  have second (k : Nat) : k / 4096 = k / 64 / 64 := (Nat.div_div_eq_div_mul k 64 64).symm
  have first (k : Nat) : k / 262144 = k / 64 / 64 / 64 := by
    rw [← second k, Nat.div_div_eq_div_mul]
  rw [first m, first n, second m, second n]
  refine precedes_trail h (fun q => [UInt8.ofNat (q / 64 / 64 % 8 + 240),
    UInt8.ofNat (q / 64 % 64 + 128), UInt8.ofNat (q % 64 + 128)]) fun lead => ?_
  refine precedes_trail lead
    (fun q => [UInt8.ofNat (q / 64 % 8 + 240), UInt8.ofNat (q % 64 + 128)]) fun lead => ?_
  exact precedes_trail lead (fun q => [UInt8.ofNat (q % 8 + 240)]) fun _ =>
    precedes_cons (by omega) (by omega) [] []

theorem precedes_of_lt {c d : Char} (h : c < d) :
    Precedes (String.utf8EncodeChar c) (String.utf8EncodeChar d) := by
  have less : c.val.toNat < d.val.toNat := h
  have bound : d.val.toNat < 0x110000 := by
    rcases d.valid with low | ⟨-, high⟩
    · exact Nat.lt_trans low (by decide)
    · exact high
  unfold String.utf8EncodeChar
  dsimp only
  -- A shorter encoding has a smaller first byte, and no greater character has a shorter one.
  split_ifs <;> try omega
  · exact precedes_cons (by omega) less [] []
  · exact precedes_cons (by omega) (by omega) _ _
  · exact precedes_cons (by omega) (by omega) _ _
  · exact precedes_cons (by omega) (by omega) _ _
  · exact precedes_two less (by omega)
  · exact precedes_cons (by omega) (by omega) _ _
  · exact precedes_cons (by omega) (by omega) _ _
  · exact precedes_three less (by omega)
  · exact precedes_cons (by omega) (by omega) _ _
  · exact precedes_four less bound

/-! ### Texts -/

theorem flatMap_utf8_lt {s t : List Char} (h : s < t) :
    s.flatMap String.utf8EncodeChar < t.flatMap String.utf8EncodeChar := by
  induction h with
  | @nil c t =>
    obtain ⟨b, bs, bytes⟩ := List.exists_cons_of_ne_nil (String.utf8EncodeChar_ne_nil (c := c))
    rw [List.flatMap_nil, List.flatMap_cons, bytes]
    exact List.nil_lt_cons b _
  | rel less =>
    rw [List.flatMap_cons, List.flatMap_cons]
    exact precedes_of_lt less _ _
  | cons _ ih =>
    rw [List.flatMap_cons, List.flatMap_cons]
    exact List.append_left_lt ih

/-- Texts compare as their bytes do. -/
theorem utf8_lt_iff {s t : String} : utf8 s < utf8 t ↔ s < t := by
  rw [utf8_eq, utf8_eq]
  constructor
  · intro h
    rcases Std.lt_trichotomy s t with less | rfl | greater
    · exact less
    · exact absurd h (List.lt_irrefl _)
    · exact absurd h (List.lt_asymm (flatMap_utf8_lt greater))
  · exact fun h => flatMap_utf8_lt h

end PaintScript.Text

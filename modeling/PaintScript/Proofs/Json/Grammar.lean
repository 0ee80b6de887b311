import PaintScript.Json.Token
import PaintScript.Proofs.Json.Token

/-!
# Texts of values

The grammar of JSON texts, apart from any reader. Spaces may stand around every token, a number may
have any size, a string any escapes, and brackets may nest to any depth.
-/

namespace PaintScript.Json

open Read (EndsNumber Starts dropSpace endsNumber_cons hexQuad? isSpace shortEscape?)

/-! ### Spaces and commas -/

def IsSpaces (text : List Char) : Prop :=
  ∀ c ∈ text, isSpace c = true

instance (text : List Char) : Decidable (IsSpaces text) :=
  List.decidableBAll (fun c => isSpace c = true) text

theorem isSpaces_nil : IsSpaces [] :=
  List.forall_mem_nil _

/-- What stands between two parts, apart from spaces. -/
def comma (first : Bool) : List Char :=
  if first then [] else [',']

/-- Parts with spaces around them and commas between them. Unless the first part is the first one of
all, a comma stands before it. -/
inductive Separated : Bool → List (List Char) → List Char → Prop
  | nil {first : Bool} {spaces : List Char} (h : IsSpaces spaces) : Separated first [] spaces
  | cons {first : Bool} {part rest before after : List Char} {parts : List (List Char)}
      (left : IsSpaces before) (right : IsSpaces after) (others : Separated false parts rest) :
      Separated first (part :: parts) (before ++ (comma first ++ (after ++ (part ++ rest))))

theorem Separated.length_le {first : Bool} {parts : List (List Char)} {body : List Char}
    (h : Separated first parts body) (nonempty : ∀ part ∈ parts, 0 < part.length) :
    parts.length ≤ body.length := by
  induction h with
  | nil _ => exact Nat.zero_le _
  | cons _ _ _ ih =>
    obtain ⟨here, others⟩ := List.forall_mem_cons.mp nonempty
    have tail := ih others
    simp only [List.length_cons, List.length_append]
    omega

theorem Separated.length_lt {first : Bool} {parts : List (List Char)} {body : List Char}
    (h : Separated first parts body) (nonempty : ∀ part ∈ parts, 0 < part.length)
    (rest : List Char) : parts.length < (body ++ rest).length + 1 := by
  have := h.length_le nonempty
  rw [List.length_append]
  omega

/-! ### Strings -/

/-- A text that stands for characters, up to the closing quote. -/
inductive Spells : List Char → List Char → Prop
  | nil : Spells ['"'] []
  | plain {c : Char} {text s : List Char} (quote : c ≠ '"') (backslash : c ≠ '\\')
      (visible : 0x20 ≤ c.toNat) (rest : Spells text s) : Spells (c :: text) (c :: s)
  | short {c d : Char} {text s : List Char} (escape : shortEscape? c = some d)
      (rest : Spells text s) : Spells ('\\' :: c :: text) (d :: s)
  | point {a b c d : Char} {n : Nat} {text s : List Char} (quad : hexQuad? a b c d = some n)
      (scalar : n < 0xD800 ∨ 0xDFFF < n) (rest : Spells text s) :
      Spells ('\\' :: 'u' :: a :: b :: c :: d :: text) (Char.ofNat n :: s)
  | surrogates {a b c d e f g h : Char} {high low : Nat} {text s : List Char}
      (first : hexQuad? a b c d = some high) (second : hexQuad? e f g h = some low)
      (highBounds : 0xD800 ≤ high ∧ high ≤ 0xDBFF) (lowBounds : 0xDC00 ≤ low ∧ low ≤ 0xDFFF)
      (rest : Spells text s) :
      Spells ('\\' :: 'u' :: a :: b :: c :: d :: '\\' :: 'u' :: e :: f :: g :: h :: text)
        (Char.ofNat (0x10000 + (high - 0xD800) * 0x400 + (low - 0xDC00)) :: s)

/-- A text up to the closing quote of a string. The code points of its escapes are free. -/
inductive ClosesString : List Char → Prop
  | nil : ClosesString ['"']
  | plain {c : Char} {text : List Char} (quote : c ≠ '"') (backslash : c ≠ '\\')
      (visible : 0x20 ≤ c.toNat) (rest : ClosesString text) : ClosesString (c :: text)
  | short {c : Char} {text : List Char} (escape : (shortEscape? c).isSome)
      (rest : ClosesString text) : ClosesString ('\\' :: c :: text)
  | point {a b c d : Char} {text : List Char} (quad : (hexQuad? a b c d).isSome)
      (rest : ClosesString text) : ClosesString ('\\' :: 'u' :: a :: b :: c :: d :: text)

theorem Spells.closesString {text s : List Char} (h : Spells text s) : ClosesString text := by
  induction h with
  | nil => exact .nil
  | plain quote backslash visible _ ih => exact .plain quote backslash visible ih
  | short escape _ ih => exact .short (Option.isSome_of_mem escape) ih
  | point quad _ _ ih => exact .point (Option.isSome_of_mem quad) ih
  | surrogates first second _ _ _ ih =>
    exact .point (Option.isSome_of_mem first) (.point (Option.isSome_of_mem second) ih)

/-- A key up to its value: its quotes, what stands between them, and the colon. -/
def IsHead (inside head : List Char) : Prop :=
  ∃ before after, IsSpaces before ∧ IsSpaces after ∧
    head = '"' :: (inside ++ (before ++ ':' :: after))

theorem IsHead.eq_cons {inside head : List Char} (h : IsHead inside head) :
    ∃ more, head = '"' :: more := by
  obtain ⟨before, after, -, -, rfl⟩ := h
  exact ⟨_, rfl⟩

/-- A text of a string, with any escapes. -/
def IsString (s : String) (text : List Char) : Prop :=
  ∃ inside, Spells inside s.toList ∧ text = '"' :: inside

/-- A key of an object up to its value. -/
def IsKey (k : String) (head : List Char) : Prop :=
  ∃ inside, Spells inside k.toList ∧ IsHead inside head

/-! ### Numbers -/

def IsDigits (text : List Char) : Prop :=
  text ≠ [] ∧ ∀ c ∈ text, c.isDigit = true

/-- The digits of an integer, without leading zeros. -/
inductive IsWhole : List Char → Prop
  | zero : IsWhole ['0']
  | digits {c : Char} {text : List Char} (first : c ≠ '0') (all : ∀ d ∈ c :: text, d.isDigit = true) :
      IsWhole (c :: text)

inductive IsFraction : List Char → Prop
  | none : IsFraction []
  | some {text : List Char} (digits : IsDigits text) : IsFraction ('.' :: text)

inductive IsExponent : List Char → Prop
  | none : IsExponent []
  | some {e : Char} {sign text : List Char} (letter : e = 'e' ∨ e = 'E')
      (signed : sign = [] ∨ sign = ['+'] ∨ sign = ['-']) (digits : IsDigits text) :
      IsExponent (e :: (sign ++ text))

inductive IsNumeral : List Char → Prop
  | positive {whole fraction exponent : List Char} (first : IsWhole whole)
      (second : IsFraction fraction) (third : IsExponent exponent) :
      IsNumeral (whole ++ (fraction ++ exponent))
  | negative {whole fraction exponent : List Char} (first : IsWhole whole)
      (second : IsFraction fraction) (third : IsExponent exponent) :
      IsNumeral ('-' :: (whole ++ (fraction ++ exponent)))

theorem IsWhole.eq_cons {whole : List Char} (h : IsWhole whole) :
    ∃ c more, whole = c :: more ∧ c.isDigit = true := by
  cases h with
  | zero => exact ⟨'0', [], rfl, by decide⟩
  | digits _ all => exact ⟨_, _, rfl, all _ List.mem_cons_self⟩

theorem IsNumeral.eq_cons {text : List Char} (h : IsNumeral text) :
    ∃ c more, text = c :: more ∧ (c = '-' ∨ c.isDigit = true) := by
  cases h with
  | positive first _ _ =>
    obtain ⟨c, more, rfl, digit⟩ := first.eq_cons
    exact ⟨c, _, rfl, Or.inr digit⟩
  | negative _ _ _ => exact ⟨'-', _, rfl, Or.inl rfl⟩

theorem IsNumeral.starts {text : List Char} (h : IsNumeral text) {d : Char}
    (other : ¬ (d = '-' ∨ d.isDigit = true)) : Starts [d] text := by
  obtain ⟨c, more, rfl, number⟩ := h.eq_cons
  refine ⟨c, more, rfl, Read.isSpace_of_number number, fun member => ?_⟩
  cases List.mem_singleton.mp member
  exact other number

/-! ### Values -/

/-- A text of a value, without spaces around it. -/
inductive IsValue : List Char → Prop
  | null : IsValue ['n', 'u', 'l', 'l']
  | true : IsValue ['t', 'r', 'u', 'e']
  | false : IsValue ['f', 'a', 'l', 's', 'e']
  | number {text : List Char} (h : IsNumeral text) : IsValue text
  | string {inside : List Char} (h : ClosesString inside) : IsValue ('"' :: inside)
  | array {items : List (List Char)} {body : List Char} (all : ∀ item ∈ items, IsValue item)
      (separated : Separated Bool.true items body) : IsValue ('[' :: (body ++ [']']))
  | object {entries : List (List Char × List Char)} {body : List Char}
      (heads : ∀ e ∈ entries, ∃ inside, ClosesString inside ∧ IsHead inside e.1)
      (all : ∀ e ∈ entries, IsValue e.2)
      (separated : Separated Bool.true (entries.map fun e => e.1 ++ e.2) body) :
      IsValue ('\x7b' :: (body ++ ['\x7d']))

theorem IsValue.starts_item {text : List Char} (h : IsValue text) : Starts [']'] text := by
  cases h with
  | null | true | false | string _ | array _ _ | object _ _ _ =>
    exact ⟨_, _, rfl, by decide, by decide⟩
  | number h => exact h.starts (by decide)

end PaintScript.Json

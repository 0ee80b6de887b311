import PaintScript.Proofs.Json.Arrangement
import PaintScript.Proofs.Json.Grammar
import PaintScript.Proofs.Text.Split

/-!
# Printed texts

What is printed keeps to the grammar, and stands on one line.
-/

namespace PaintScript.Json

/-! ### Strings and numbers -/

theorem hexQuad?_hexPair : ∀ n < 0x20,
    Read.hexQuad? '0' '0' (Nat.digitChar (n / 16 % 16)) (Nat.digitChar (n % 16)) = some n := by
  decide

theorem spells_escape {c : Char} {text s : List Char} (h : Spells text s) :
    Spells (escape c ++ text) (c :: s) := by
  unfold escape
  split
  · exact .short rfl h
  · exact .short rfl h
  · exact .short rfl h
  · exact .short rfl h
  · exact .short rfl h
  · exact .short rfl h
  · exact .short rfl h
  · split
    · rename_i control
      have scalar : c.toNat < 0xD800 ∨ 0xDFFF < c.toNat := by omega
      have point := Spells.point (hexQuad?_hexPair _ control) scalar h
      rw [Char.ofNat_toNat] at point
      exact point
    · rename_i quote backslash _ _ _ _ _ visible
      exact .plain quote backslash (Nat.not_lt.mp visible) h

theorem spells_flatMap_escape (s : List Char) : Spells (s.flatMap escape ++ ['"']) s := by
  induction s with
  | nil => exact .nil
  | cons c s ih =>
    rw [List.flatMap_cons, List.append_assoc]
    exact spells_escape ih

theorem isString_printString (s : String) : IsString s (printString s) :=
  ⟨_, spells_flatMap_escape s.toList, rfl⟩

theorem isKey_printString (k : String) : IsKey k (printString k ++ [':']) := by
  refine ⟨_, spells_flatMap_escape k.toList, [], [], List.forall_mem_nil _, List.forall_mem_nil _, ?_⟩
  rw [printString, List.cons_append, List.nil_append]

theorem isWhole_natural (n : Nat) : IsWhole (Text.natural n) := by
  by_cases zero : n = 0
  · rw [zero, Text.natural_zero]
    exact .zero
  · obtain ⟨c, digits, same⟩ := List.exists_cons_of_ne_nil (Text.natural_ne_nil n)
    have first := Text.head_natural_ne zero same
    have all : ∀ d ∈ Text.natural n, d.isDigit = true := fun _ => Text.isDigit_of_mem_natural
    rw [same] at all ⊢
    exact .digits first all

theorem isNumeral_integer (k : Int) : IsNumeral (Text.integer k) := by
  have whole := isWhole_natural k.natAbs
  unfold Text.integer
  split
  · have numeral := IsNumeral.negative whole .none .none
    rw [List.append_nil, List.append_nil] at numeral
    exact numeral
  · have numeral := IsNumeral.positive whole .none .none
    rw [List.append_nil, List.append_nil] at numeral
    exact numeral

/-! ### Items and entries -/

theorem Separated.comma {part body : List Char} {parts : List (List Char)}
    (h : Separated true (part :: parts) body) : Separated false (part :: parts) (',' :: body) := by
  cases h with
  | @cons _ _ rest before after _ left right others =>
    have spaces : IsSpaces (before ++ after) := List.forall_mem_append.mpr ⟨left, right⟩
    have joined : Separated false (part :: parts)
        ([] ++ (Json.comma false ++ (before ++ after ++ (part ++ rest)))) :=
      .cons isSpaces_nil spaces others
    rw [List.append_assoc] at joined
    exact joined

theorem separated_intercalate (parts : List (List Char)) :
    Separated true parts ([','].intercalate parts) := by
  induction parts with
  | nil => exact .nil isSpaces_nil
  | cons part parts ih =>
    cases parts with
    | nil =>
      have alone : Separated true [part] (part ++ []) :=
        .cons isSpaces_nil isSpaces_nil (.nil isSpaces_nil)
      rw [List.append_nil] at alone
      rw [List.intercalate_singleton]
      exact alone
    | cons next parts =>
      rw [List.intercalate_cons_cons, List.append_assoc]
      exact .cons isSpaces_nil isSpaces_nil ih.comma

theorem printItems_eq_intercalate (items : List Json) :
    printItems items = [','].intercalate (items.map print) := by
  induction items with
  | nil => rw [printItems, List.map_nil, List.intercalate_nil]
  | cons v items ih =>
    cases items with
    | nil => simp [printItems]
    | cons w items =>
      rw [printItems, ih]
      simp

/-- The text of an entry. -/
def entryText (e : String × Json) : List Char :=
  (printString e.1 ++ [':']) ++ e.2.print

theorem entryText_eq_cons (e : String × Json) :
    ∃ inside, entryText e = '"' :: (inside ++ ':' :: e.2.print) ∧ Spells inside e.1.toList := by
  refine ⟨_, ?_, spells_flatMap_escape e.1.toList⟩
  simp [entryText, printString]

theorem printEntries_eq_intercalate (entries : List (String × Json)) :
    printEntries entries = [','].intercalate (entries.map entryText) := by
  induction entries with
  | nil => rw [printEntries, List.map_nil, List.intercalate_nil]
  | cons e entries ih =>
    cases entries with
    | nil => simp [printEntries, entryText]
    | cons f entries =>
      rw [printEntries, ih]
      simp [entryText]

theorem separated_printItems (items : List Json) :
    Separated true (items.map print) (printItems items) := by
  rw [printItems_eq_intercalate]
  exact separated_intercalate _

theorem separated_printEntries (entries : List (String × Json)) :
    Separated true (entries.map entryText) (printEntries entries) := by
  rw [printEntries_eq_intercalate]
  exact separated_intercalate _

/-! ### Values -/

/-- The text of a well-formed value keeps to the grammar. -/
theorem WellFormed.isValue_print {levels : Nat} {v : Json} (h : v.WellFormed levels) :
    IsValue v.print := by
  induction h with
  | null => exact .null
  | bool b => cases b <;> [exact .false; exact .true]
  | @integer _ n _ _ =>
    rw [print]
    exact .number (isNumeral_integer n)
  | string s =>
    rw [print, printString]
    exact .string (spells_flatMap_escape s.toList).closesString
  | @array _ items _ ih =>
    rw [print]
    refine .array (fun text member => ?_) (separated_printItems items)
    obtain ⟨v, there, rfl⟩ := List.mem_map.mp member
    exact ih v there
  | @object _ entries _ _ ih =>
    rw [print]
    let parts := entries.map fun e => (printString e.1 ++ [':'], e.2.print)
    have separated : Separated true (parts.map fun e => e.1 ++ e.2) (printEntries entries) := by
      rw [List.map_map]
      exact separated_printEntries entries
    refine .object (fun part member => ?_) (fun part member => ?_) separated
    · obtain ⟨e, -, rfl⟩ := List.mem_map.mp member
      obtain ⟨inside, spells, head⟩ := isKey_printString e.1
      exact ⟨inside, spells.closesString, head⟩
    · obtain ⟨e, there, rfl⟩ := List.mem_map.mp member
      exact ih e there

theorem WellFormed.isValue_print_of_mem {levels : Nat} {entries : List (String × Json)}
    (h : (Json.object entries).WellFormed levels) : ∀ e ∈ entries, IsValue e.2.print := by
  cases h with
  | object _ all => exact fun e member => (all e member).isValue_print

/-! ### Controls -/

/-- Whether a text holds no control character, so that it stands on one line. -/
def IsPlain (text : List Char) : Prop :=
  ∀ c ∈ text, 0x20 ≤ c.toNat

instance (text : List Char) : Decidable (IsPlain text) :=
  List.decidableBAll (fun c : Char => 0x20 ≤ c.toNat) text

theorem isPlain_hexPair : ∀ n < 0x20, IsPlain (hexPair n) := by
  decide

theorem isPlain_escape (c : Char) : IsPlain (escape c) := by
  unfold escape
  split
  case h_8 =>
    split
    · rename_i control
      have front : IsPlain ['\\', 'u', '0', '0'] := by decide
      exact List.forall_mem_append.mpr ⟨front, isPlain_hexPair c.toNat control⟩
    · rename_i visible
      exact List.forall_mem_singleton.mpr (Nat.not_lt.mp visible)
  all_goals decide

theorem isPlain_printString (s : String) : IsPlain (printString s) := by
  have inside : IsPlain (s.toList.flatMap escape) := by
    intro c member
    obtain ⟨d, -, there⟩ := List.mem_flatMap.mp member
    exact isPlain_escape d c there
  have quote : 0x20 ≤ '"'.toNat := by decide
  exact List.forall_mem_cons.mpr
    ⟨quote, List.forall_mem_append.mpr ⟨inside, List.forall_mem_singleton.mpr quote⟩⟩

theorem isPlain_integer (n : Int) : IsPlain (Text.integer n) := by
  intro c member
  rcases Text.mem_integer member with rfl | digit
  · decide
  · have bounds := Text.digit_bounds digit
    omega

theorem isPlain_intercalate {parts : List (List Char)} (each : ∀ part ∈ parts, IsPlain part) :
    IsPlain ([','].intercalate parts) := by
  intro c member
  rcases Text.mem_of_mem_intercalate member with rfl | ⟨part, there, inside⟩
  · decide
  · exact each part there c inside

theorem IsPlain.bracketed {body : List Char} (h : IsPlain body) {first last : Char}
    (bounds : 0x20 ≤ first.toNat ∧ 0x20 ≤ last.toNat) : IsPlain (first :: (body ++ [last])) :=
  List.forall_mem_cons.mpr
    ⟨bounds.1, List.forall_mem_append.mpr ⟨h, List.forall_mem_singleton.mpr bounds.2⟩⟩

/-- The text of a well-formed value stands on one line, whatever its strings hold. -/
theorem WellFormed.isPlain_print {levels : Nat} {v : Json} (h : v.WellFormed levels) :
    IsPlain v.print := by
  induction h with
  | null => decide
  | bool b => cases b <;> decide
  | @integer _ n _ _ =>
    rw [print]
    exact isPlain_integer n
  | string s =>
    rw [print]
    exact isPlain_printString s
  | @array _ items _ ih =>
    have body := isPlain_intercalate (List.forall_mem_map.mpr ih)
    rw [← printItems_eq_intercalate] at body
    rw [print]
    exact body.bracketed (by decide)
  | @object _ entries _ _ ih =>
    have each : ∀ e ∈ entries, IsPlain (entryText e) := by
      intro e member
      have colon : IsPlain [':'] := by decide
      exact List.forall_mem_append.mpr
        ⟨List.forall_mem_append.mpr ⟨isPlain_printString e.1, colon⟩, ih e member⟩
    have body := isPlain_intercalate (List.forall_mem_map.mpr each)
    rw [← printEntries_eq_intercalate] at body
    rw [print]
    exact body.bracketed (by decide)

end PaintScript.Json

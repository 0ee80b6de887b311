import PaintScript.Json.Printer
import PaintScript.Json.Token
import PaintScript.Proofs.Log
import PaintScript.Proofs.Text.Decimal

/-!
# Ends and starts of tokens

After a number a text must not go on with a character that a number may hold. What a value starts
with tells a reader that it is one.
-/

namespace PaintScript.Json.Read

theorem dropSpace_cons {c : Char} (visible : isSpace c = false) (rest : List Char) :
    dropSpace (c :: rest) = c :: rest :=
  List.dropWhile_cons_of_neg (by simp [visible])

/-! ### Ends of numbers -/

/-- A text that does not go on with a character that a number may hold. -/
def EndsNumber (rest : List Char) : Prop :=
  ∀ c ∈ rest.head?, c.isDigit = false ∧ c ≠ '.' ∧ c ≠ 'e' ∧ c ≠ 'E'

theorem EndsNumber.endsDigits {rest : List Char} (h : EndsNumber rest) : Text.EndsDigits rest :=
  fun c first => (h c first).1

theorem endsNumber_nil : EndsNumber [] := by
  intro c first
  cases first

theorem endsNumber_cons {c : Char} {rest : List Char}
    (h : c.isDigit = false ∧ c ≠ '.' ∧ c ≠ 'e' ∧ c ≠ 'E') : EndsNumber (c :: rest) := by
  intro d first
  cases first
  exact h

theorem fractionPart_ends (ended : Cause) {rest : List Char} (ends : EndsNumber rest) :
    fractionPart ended rest = .ok (none, rest) := by
  unfold fractionPart
  split
  · rename_i rest
    exact absurd rfl (ends '.' rfl).2.1
  · rfl

theorem exponentPart_ends (ended : Cause) {rest : List Char} (ends : EndsNumber rest) :
    exponentPart ended rest = .ok (none, rest) := by
  cases rest with
  | nil => rfl
  | cons c rest =>
    obtain ⟨-, -, lower, upper⟩ := ends c rfl
    rw [exponentPart, if_neg (not_or.mpr ⟨lower, upper⟩)]

/-! ### First characters -/

/-- A text whose first character is none of the given ones and no space. -/
def Starts (forbidden : List Char) (text : List Char) : Prop :=
  ∃ c more, text = c :: more ∧ isSpace c = false ∧ c ∉ forbidden

theorem Starts.dropSpace_append {forbidden text : List Char} (h : Starts forbidden text)
    (rest : List Char) : dropSpace (text ++ rest) = text ++ rest := by
  obtain ⟨c, more, rfl, visible, -⟩ := h
  exact dropSpace_cons visible (more ++ rest)

theorem isSpace_of_number {c : Char} (h : c = '-' ∨ c.isDigit = true) : isSpace c = false := by
  rcases h with minus | digit
  · rw [minus]
    decide
  · simp only [isSpace, Bool.or_eq_false_iff, beq_eq_false_iff_ne]
    exact ⟨⟨⟨Text.ne_of_isDigit digit (by decide), Text.ne_of_isDigit digit (by decide)⟩,
      Text.ne_of_isDigit digit (by decide)⟩, Text.ne_of_isDigit digit (by decide)⟩

end PaintScript.Json.Read

import PaintScript.Proofs.Markup.Statement

/-!
# What markup can say

`ofText_image` bounds everything that a markup text can be read as: colors are trimmed and free of
delimiters, and a number is an integer above the least one or a text that starts with none.
-/

namespace PaintScript

/-- A color that is one field of a segment. -/
structure Color.IsPlain (c : Color) : Prop where
  trimmed : Text.trim c.name.toList = c.name.toList
  comma : ',' ∉ c.name.toList
  semicolon : ';' ∉ c.name.toList

theorem Shape.color_drawing (shape : Shape) (first second color : List Char) :
    (shape.drawing first second color).color = ⟨String.ofList color⟩ := by
  cases shape <;> rfl

theorem Crop.isToken_of_mem_numbers {origin size : List Char} {n : Numeric}
    (h : n ∈ (⟨.ofToken origin, .ofToken size⟩ : Crop Numeric).numbers) : n.IsToken := by
  simp only [Crop.numbers, Crop.fields, Point.fields, Size.fields, Point.ofToken, Size.ofToken,
    List.cons_append, List.nil_append, List.map_cons, List.map_nil, List.mem_cons,
    List.not_mem_nil, or_false] at h
  rcases h with rfl | rfl | rfl | rfl
  all_goals exact Numeric.isToken_ofToken _

theorem Shape.isToken_of_mem_numbers {shape : Shape} {first second color : List Char} {n : Numeric}
    (h : n ∈ (shape.drawing first second color).numbers) : n.IsToken := by
  cases shape
  case circle =>
    simp only [Shape.drawing, Drawing.numbers, Drawing.fields, Point.fields, Point.ofToken,
      List.cons_append, List.nil_append, List.map_cons, List.map_nil, List.mem_cons,
      List.not_mem_nil, or_false] at h
    rcases h with rfl | rfl | rfl
    all_goals exact Numeric.isToken_ofToken _
  all_goals
    simp only [Shape.drawing, Drawing.numbers, Drawing.fields, Point.fields, Size.fields,
      Point.ofToken, Size.ofToken, List.cons_append, List.nil_append, List.map_cons, List.map_nil,
      List.mem_cons, List.not_mem_nil, or_false] at h
    rcases h with rfl | rfl | rfl | rfl
    all_goals exact Numeric.isToken_ofToken _

namespace Statement

theorem isToken_of_crop? {s : Statement} {c : Crop Numeric} (h : s.crop? = some c) :
    ∀ n ∈ c.numbers, n.IsToken := by
  unfold crop? at h
  split at h
  · cases h
    exact fun n => Crop.isToken_of_mem_numbers
  · cases h

theorem isToken_of_drawing? {s : Statement} {d : Drawing Numeric} (h : s.drawing? = some d) :
    ∀ n ∈ d.numbers, n.IsToken := by
  unfold drawing? at h
  split at h
  · cases h
    exact fun n => Shape.isToken_of_mem_numbers
  · cases h

/-- The color of a drawing is one of the arguments, as it stands. -/
theorem color_of_drawing? {s : Statement} {d : Drawing Numeric} (h : s.drawing? = some d) :
    d.color.name.toList ∈ s.arguments := by
  unfold drawing? at h
  split at h
  · cases h
    rw [Shape.color_drawing, String.toList_ofList]
    simp
  · cases h

theorem isPlain_of_drawing? {text segment : List Char} {s : Statement} {d : Drawing Numeric}
    (cut : segment ∈ Markup.segments text) (made : ofSegment? segment = some s)
    (h : s.drawing? = some d) : d.color.IsPlain := by
  obtain ⟨trimmed, comma, piece⟩ := arguments_ofSegment? made _ (color_of_drawing? h)
  exact ⟨trimmed, comma, fun there => Text.not_mem_of_mem_splitOn cut (piece ';' there)⟩

end Statement

/-- Whatever a text holds, it is read as plain colors and tokens. -/
theorem Markup.ofText_image {text : String} {m : Markup} (h : (ofText text).outcome = .ok m) :
    (∀ c ∈ m.crop, ∀ n ∈ c.numbers, n.IsToken) ∧
      ∀ d ∈ m.draw, d.color.IsPlain ∧ ∀ n ∈ d.numbers, n.IsToken := by
  obtain ⟨_, last, order⟩ := ofSegments_outcome h
  constructor
  · intro c crop
    rw [last] at crop
    obtain ⟨s, _, given⟩ := List.mem_filterMap.mp (List.mem_of_getLast? crop)
    exact Statement.isToken_of_crop? given
  · intro d member
    rw [order] at member
    obtain ⟨s, stated, given⟩ := List.mem_filterMap.mp member
    obtain ⟨segment, cut, made⟩ := List.mem_filterMap.mp stated
    exact ⟨Statement.isPlain_of_drawing? cut made given, Statement.isToken_of_drawing? given⟩

end PaintScript

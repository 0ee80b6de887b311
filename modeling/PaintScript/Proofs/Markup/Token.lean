import PaintScript.Proofs.Markup.Accounting
import PaintScript.Proofs.Markup.Meaning

/-!
# What becomes of each token

`Markup.fields` lists the numbers of markup under their fields. Each of them is made of a token of
its own: an integer above the least one, or the token as it stands, which then has no delimiter.
`exists_segment_of_draw` finds the segment that a drawing comes from.
-/

namespace PaintScript

/-! ### Tokens -/

/-- What is made of a token in a field of markup: an integer above the least one, or the token
itself if it starts with no integer. Half of a pair has no `x` in it. -/
inductive Numeric.IsFieldToken (half : Prop) : Numeric → Prop
  | int {v : Int64} (above : v ≠ Int64.minValue) : IsFieldToken half (.int v)
  | text {token : String} (nothing : Text.prefixInt64? token.toList = none)
      (comma : ',' ∉ token.toList) (semicolon : ';' ∉ token.toList)
      (cut : half → 'x' ∉ token.toList) : IsFieldToken half (.text token)

theorem Numeric.IsFieldToken.isToken {half : Prop} {n : Numeric} (h : n.IsFieldToken half) :
    n.IsToken := by
  cases h with
  | int above => exact above
  | text nothing _ _ _ => exact nothing

theorem Numeric.isFieldToken_ofToken {half : Prop} {token field : List Char}
    (h : IsField field) (part : token ⊆ field) (cut : half → 'x' ∉ token) :
    (Numeric.ofToken token).IsFieldToken half := by
  have read := Numeric.isToken_ofToken token
  unfold Numeric.ofToken at read ⊢
  split at read
  · exact .int read
  · refine .text read ?_ ?_ ?_ <;> rw [String.toList_ofList]
    · exact fun member => h.comma (part member)
    · exact fun member => h.semicolon (part member)
    · exact cut

theorem Numeric.isFieldToken_firstHalf {half : Prop} {field : List Char} (h : IsField field) :
    (Numeric.ofToken (firstHalf field)).IsFieldToken half :=
  isFieldToken_ofToken h (List.takeWhile_subset _) fun _ member => by
    simpa using List.mem_takeWhile_imp member

theorem Numeric.isFieldToken_secondHalf {half : Prop} {field : List Char} (h : IsField field) :
    (Numeric.ofToken (secondHalf field)).IsFieldToken half := by
  refine isFieldToken_ofToken h ?_ fun _ member => by simpa using List.mem_takeWhile_imp member
  intro c member
  have rest : c ∈ (field.dropWhile (· ≠ 'x')).tail := List.takeWhile_subset _ member
  exact (List.dropWhile_sublist _).subset (List.mem_of_mem_tail rest)

theorem Point.isFieldToken_of_mem_fields {field : List Char} (h : IsField field)
    {group : FieldGroup} {q : NumericField × Numeric}
    (member : q ∈ (Point.ofToken field).fields group) :
    q.2.IsFieldToken (q.1.property ≠ .radius) := by
  rw [Point.ofToken, halves_eq] at member
  rcases List.mem_pair.mp member with rfl | rfl
  · exact Numeric.isFieldToken_firstHalf h
  · exact Numeric.isFieldToken_secondHalf h

theorem Size.isFieldToken_of_mem_fields {field : List Char} (h : IsField field)
    {group : FieldGroup} {q : NumericField × Numeric}
    (member : q ∈ (Size.ofToken field).fields group) :
    q.2.IsFieldToken (q.1.property ≠ .radius) := by
  rw [Size.ofToken, halves_eq] at member
  rcases List.mem_pair.mp member with rfl | rfl
  · exact Numeric.isFieldToken_firstHalf h
  · exact Numeric.isFieldToken_secondHalf h

theorem Shape.isFieldToken_of_mem_fields {shape : Shape} {first second color : List Char}
    (one : IsField first) (two : IsField second) {index : Nat}
    {q : NumericField × Numeric} (member : q ∈ (shape.drawing first second color).fields index) :
    q.2.IsFieldToken (q.1.property ≠ .radius) := by
  cases shape
  case circle =>
    rcases List.mem_append.mp member with center | radius
    · exact Point.isFieldToken_of_mem_fields one center
    · obtain rfl := List.mem_singleton.mp radius
      exact Numeric.isFieldToken_ofToken two (List.Subset.refl _) (absurd rfl)
  case rectangle =>
    rcases List.mem_append.mp member with corner | size
    · exact Point.isFieldToken_of_mem_fields one corner
    · exact Size.isFieldToken_of_mem_fields two size
  all_goals
    rcases List.mem_append.mp member with start | stop
    · exact Point.isFieldToken_of_mem_fields one start
    · exact Point.isFieldToken_of_mem_fields two stop

/-! ### Markup -/

namespace Statement

theorem isField_of_ofSegment? {text segment : List Char} {s : Statement}
    (cut : segment ∈ Markup.segments text) (made : ofSegment? segment = some s) :
    ∀ a ∈ s.arguments, IsField a := by
  intro a member
  obtain ⟨trimmed, comma, piece⟩ := arguments_ofSegment? made a member
  exact ⟨trimmed, comma, fun there => Text.not_mem_of_mem_splitOn cut (piece ';' there)⟩

theorem isFieldToken_of_crop? {s : Statement} {c : Crop Numeric} (h : s.crop? = some c)
    (fields : ∀ a ∈ s.arguments, IsField a) :
    ∀ q ∈ c.fields, q.2.IsFieldToken (q.1.property ≠ .radius) := by
  intro q member
  unfold crop? at h
  split at h
  · rename_i origin size more
    cases h
    rcases List.mem_append.mp member with first | second
    · exact Point.isFieldToken_of_mem_fields (fields origin (by simp)) first
    · exact Size.isFieldToken_of_mem_fields (fields size (by simp)) second
  · cases h

theorem isFieldToken_of_drawing? {s : Statement} {d : Drawing Numeric} (h : s.drawing? = some d)
    (fields : ∀ a ∈ s.arguments, IsField a) (index : Nat) :
    ∀ q ∈ d.fields index, q.2.IsFieldToken (q.1.property ≠ .radius) := by
  intro q member
  unfold drawing? at h
  split at h
  · rename_i shape first second color more
    cases h
    exact Shape.isFieldToken_of_mem_fields (fields first (by simp)) (fields second (by simp)) member
  · cases h

end Statement

namespace Markup

/-- The numbers of markup: those of its crop and those of its drawings. -/
def fields (m : Markup) : List (NumericField × Numeric) :=
  (m.crop.map Crop.fields).getD [] ++ Drawing.listFields 0 m.draw

theorem mem_fields {m : Markup} {q : NumericField × Numeric} (h : q ∈ m.fields) :
    (∃ c, m.crop = some c ∧ q ∈ c.fields) ∨
      ∃ index, ∃ d : Drawing Numeric, m.draw[index]? = some d ∧ q ∈ d.fields index := by
  rcases List.mem_append.mp h with crop | draw
  · left
    cases given : m.crop with
    | none =>
      rw [given] at crop
      exact absurd crop List.not_mem_nil
    | some c =>
      rw [given] at crop
      exact ⟨c, rfl, crop⟩
  · right
    obtain ⟨index, d, found, inside⟩ := Drawing.mem_listFields draw
    rw [Nat.zero_add] at inside
    exact ⟨index, d, found, inside⟩

theorem isFieldToken_of_mem_fields {text : String} {m : Markup}
    (read : (ofText text).outcome = .ok m) :
    ∀ q ∈ m.fields, q.2.IsFieldToken (q.1.property ≠ .radius) := by
  obtain ⟨-, last, order⟩ := ofSegments_outcome read
  have cut {s : Statement} (stated : s ∈ statementsOf (segments text.toList)) :
      ∀ a ∈ s.arguments, IsField a := by
    obtain ⟨segment, there, made⟩ := List.mem_filterMap.mp stated
    exact Statement.isField_of_ofSegment? there made
  intro q member
  rcases mem_fields member with ⟨c, given, inside⟩ | ⟨index, d, found, inside⟩
  · rw [last] at given
    obtain ⟨s, stated, made⟩ := List.mem_filterMap.mp (List.mem_of_getLast? given)
    exact Statement.isFieldToken_of_crop? made (cut stated) q inside
  · rw [order] at found
    obtain ⟨s, stated, made⟩ := List.mem_filterMap.mp (List.mem_of_getElem? found)
    exact Statement.isFieldToken_of_drawing? made (cut stated) index q inside

/-! ### Segments of drawings -/

theorem draw_of_piece {index : Nat} {segment : List Char} {m : Markup} {d : Drawing Numeric}
    {k : Nat} (h : piece index segment = .ok m) (found : m.draw[k]? = some d) :
    k = 0 ∧ ∃ surplus, Instruction.ofSegment segment = .draw d surplus := by
  unfold piece at h
  cases made : Instruction.ofSegment segment with
  | draw e surplus =>
    rw [made] at h
    cases h
    cases k with
    | zero =>
      obtain rfl := Option.some.inj found
      exact ⟨rfl, surplus, rfl⟩
    | succ k => simp at found
  | incomplete command missing => simp [made] at h
  | _ =>
    rw [made] at h
    cases h
    simp [empty] at found

/-- A drawing comes from a segment, and its index is the number of drawing segments before that
one. -/
theorem exists_segment_of_draw {index : Nat} {segs : List (List Char)} {m : Markup} {k : Nat}
    {d : Drawing Numeric} (read : pieces index segs = .ok m) (found : m.draw[k]? = some d) :
    ∃ before segment after surplus, segs = before ++ segment :: after ∧
      (before.filterMap shape?).length = k ∧
      Instruction.ofSegment segment = .draw d surplus := by
  induction segs generalizing index m k with
  | nil =>
    cases read
    simp [empty] at found
  | cons head segs ih =>
    obtain ⟨first, here, later⟩ := bind_eq_ok_iff.mp read
    obtain ⟨rest, there, rfl⟩ := map_eq_ok_iff.mp later
    have count : first.draw.length = ([head].filterMap shape?).length := by
      rw [← (accounts_piece here).draw, List.length_map]
    rw [append, List.getElem?_append] at found
    split at found
    · obtain ⟨rfl, surplus, made⟩ := draw_of_piece here found
      exact ⟨[], head, segs, surplus, rfl, rfl, made⟩
    · obtain ⟨before, segment, after, surplus, rfl, shapes, made⟩ := ih there found
      refine ⟨head :: before, segment, after, surplus, rfl, ?_, made⟩
      rw [← List.singleton_append, List.filterMap_append, List.length_append, ← count, shapes]
      omega

end Markup
end PaintScript

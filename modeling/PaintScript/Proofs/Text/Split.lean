import PaintScript.Text.Blank
import Mathlib.Data.List.Basic
import Mathlib.Data.List.TakeWhile

/-!
# Pieces of a text

What `List.splitOn` and `trim` can produce: a piece never holds the character it was cut at, and a
trimmed text is left alone by a second trim.
-/

namespace PaintScript.Text

/-! ### Splitting -/

/-- The first piece ends at the first mark, and the rest is split in the same way. -/
theorem splitOn_eq_cons (a : Char) (s : List Char) :
    s.splitOn a = s.takeWhile (· ≠ a) ::
      match s.dropWhile (· ≠ a) with
      | [] => []
      | _ :: rest => rest.splitOn a := by
  induction s with
  | nil => rfl
  | cons c s ih =>
    rw [List.splitOn_cons_eq_if_modifyHead]
    by_cases same : c = a
    · simp [same]
    · rw [if_neg (by simpa using same), ih, List.modifyHead_cons]
      simp [same]

theorem length_splitOn (a : Char) (s : List Char) : (s.splitOn a).length = s.count a + 1 := by
  induction s with
  | nil => rfl
  | cons c s ih =>
    rw [List.splitOn_cons_eq_if_modifyHead, List.count_cons]
    split
    · rw [List.length_cons, ih]
    · rw [List.length_modifyHead, ih, Nat.add_zero]

theorem mem_of_mem_splitOn {a c : Char} {s piece : List Char} (h : piece ∈ s.splitOn a)
    (member : c ∈ piece) : c ∈ s := by
  induction s generalizing piece with
  | nil =>
    rw [List.splitOn_nil, List.mem_singleton] at h
    rw [h] at member
    exact member
  | cons d s ih =>
    rw [List.splitOn_cons_eq_if_modifyHead] at h
    split at h
    · rcases List.mem_cons.mp h with same | later
      · rw [same] at member
        exact absurd member List.not_mem_nil
      · exact List.mem_cons_of_mem _ (ih later member)
    · obtain ⟨first, rest, pieces⟩ := List.exists_cons_of_ne_nil (List.splitOn_ne_nil a s)
      rw [pieces, List.modifyHead_cons] at h
      rcases List.mem_cons.mp h with same | later
      · rw [same] at member
        rcases List.mem_cons.mp member with here | there
        · exact here ▸ List.mem_cons_self
        · exact List.mem_cons_of_mem _ (ih (pieces ▸ List.mem_cons_self) there)
      · exact List.mem_cons_of_mem _ (ih (pieces ▸ List.mem_cons_of_mem _ later) member)

theorem not_mem_of_mem_splitOn {a : Char} {s piece : List Char} (h : piece ∈ s.splitOn a) :
    a ∉ piece := by
  induction s generalizing piece with
  | nil =>
    rw [List.splitOn_nil, List.mem_singleton] at h
    rw [h]
    exact List.not_mem_nil
  | cons d s ih =>
    rw [List.splitOn_cons_eq_if_modifyHead] at h
    split at h
    · rcases List.mem_cons.mp h with same | later
      · rw [same]
        exact List.not_mem_nil
      · exact ih later
    · rename_i different
      obtain ⟨first, rest, pieces⟩ := List.exists_cons_of_ne_nil (List.splitOn_ne_nil a s)
      rw [pieces, List.modifyHead_cons] at h
      rcases List.mem_cons.mp h with same | later
      · rw [same, List.mem_cons, not_or]
        exact ⟨fun eq => different (by simp [eq]), ih (pieces ▸ List.mem_cons_self)⟩
      · exact ih (pieces ▸ List.mem_cons_of_mem _ later)

theorem mem_of_mem_intercalate {a c : Char} {pieces : List (List Char)}
    (h : c ∈ [a].intercalate pieces) : c = a ∨ ∃ piece ∈ pieces, c ∈ piece := by
  induction pieces with
  | nil => exact absurd h List.not_mem_nil
  | cons piece pieces ih =>
    cases pieces with
    | nil =>
      rw [List.intercalate_singleton] at h
      exact Or.inr ⟨piece, List.mem_cons_self, h⟩
    | cons next pieces =>
      rw [List.intercalate_cons_cons, List.append_assoc, List.mem_append, List.mem_append,
        List.mem_singleton] at h
      rcases h with here | mark | later
      · exact Or.inr ⟨piece, List.mem_cons_self, here⟩
      · exact Or.inl mark
      · rcases ih later with mark | ⟨other, member, there⟩
        · exact Or.inl mark
        · exact Or.inr ⟨other, List.mem_cons_of_mem _ member, there⟩

/-! ### Trimming -/

theorem trimStart_sublist (s : List Char) : (trimStart s).Sublist s :=
  List.dropWhile_sublist _

theorem trimEnd_sublist (s : List Char) : (trimEnd s).Sublist s := by
  have reversed := (List.dropWhile_sublist isBlank (l := s.reverse)).reverse
  rwa [List.reverse_reverse] at reversed

theorem mem_of_mem_trim {c : Char} {s : List Char} (h : c ∈ trim s) : c ∈ s :=
  ((trimEnd_sublist _).trans (trimStart_sublist s)).subset h

theorem trim_of_blank {s : List Char} (h : ∀ c ∈ s, isBlank c = true) : trim s = [] := by
  have start : trimStart s = [] := List.dropWhile_eq_nil_iff.mpr h
  rw [trim, start]
  rfl

theorem trimStart_cons {c : Char} {s : List Char} (h : isBlank c = false) :
    trimStart (c :: s) = c :: s := by
  simp [trimStart, h]

theorem trimEnd_concat {c : Char} {s : List Char} (h : isBlank c = false) :
    trimEnd (s ++ [c]) = s ++ [c] := by
  simp [trimEnd, h]

/-- A text with a visible character at each end has nothing to trim. -/
theorem trim_of_ends {s : List Char} (first : ∀ c ∈ s.head?, isBlank c = false)
    (last : ∀ c ∈ s.getLast?, isBlank c = false) : trim s = s := by
  have start : trimStart s = s := by
    cases s with
    | nil => rfl
    | cons c s => exact trimStart_cons (first c rfl)
  rw [trim, start]
  rcases List.eq_nil_or_concat s with empty | ⟨body, c, same⟩
  · rw [empty]
    rfl
  · rw [List.concat_eq_append] at same
    rw [same]
    exact trimEnd_concat (last c (by simp [same]))

theorem trim_of_visible {s : List Char} (h : ∀ c ∈ s, isBlank c = false) : trim s = s :=
  trim_of_ends (fun c first => h c (List.mem_of_mem_head? first))
    (fun c last => h c (List.mem_of_getLast? last))

theorem head_dropWhile {p : Char → Bool} {s : List Char} :
    ∀ c ∈ (s.dropWhile p).head?, p c = false := by
  intro c first
  have stopped := List.head?_dropWhile_not p s
  rw [Option.mem_def.mp first] at stopped
  simpa using stopped

theorem trim_trim (s : List Char) : trim (trim s) = trim s := by
  apply trim_of_ends
  · intro c first
    have started : ∀ d ∈ (trimStart s).head?, isBlank d = false := head_dropWhile
    -- Trimming the end keeps the first character of what is left.
    obtain ⟨body, split⟩ : ∃ body, trimStart s = trimEnd (trimStart s) ++ body := by
      obtain ⟨front, eq⟩ := List.dropWhile_suffix isBlank (l := (trimStart s).reverse)
      refine ⟨front.reverse, ?_⟩
      rw [trimEnd, ← List.reverse_append, eq, List.reverse_reverse]
    apply started
    rw [split, List.head?_append, show (trimEnd (trimStart s)).head? = some c from first]
    rfl
  · intro c last
    have ended : ∀ d ∈ ((trimStart s).reverse.dropWhile isBlank).head?, isBlank d = false :=
      head_dropWhile
    apply ended
    rw [trim, trimEnd, List.getLast?_reverse] at last
    exact last

theorem trimEnd_append_blank (s : List Char) {blanks : List Char}
    (h : ∀ c ∈ blanks, isBlank c = true) : trimEnd (s ++ blanks) = trimEnd s := by
  have reversed : ∀ c ∈ blanks.reverse, isBlank c = true :=
    fun c member => h c (List.mem_reverse.mp member)
  rw [trimEnd, List.reverse_append, List.dropWhile_append_of_pos reversed, trimEnd]

/-- Blanks at both ends do not change what is left after a trim. -/
theorem trim_padded (s : List Char) {left right : List Char}
    (before : ∀ c ∈ left, isBlank c = true) (after : ∀ c ∈ right, isBlank c = true) :
    trim (left ++ s ++ right) = trim s := by
  have start : trimStart (left ++ s ++ right) = trimStart (s ++ right) := by
    rw [trimStart, List.append_assoc, List.dropWhile_append_of_pos before, trimStart]
  rw [trim, start, trim]
  by_cases blank : trimStart s = []
  · have all : ∀ c ∈ s ++ right, isBlank c = true :=
      List.forall_mem_append.mpr ⟨List.dropWhile_eq_nil_iff.mp blank, after⟩
    rw [blank, show trimStart (s ++ right) = [] from List.dropWhile_eq_nil_iff.mpr all]
  · have visible : ¬ (s.dropWhile isBlank).isEmpty = true :=
      fun empty => blank (List.isEmpty_iff.mp empty)
    have kept : trimStart (s ++ right) = trimStart s ++ right := by
      rw [trimStart, List.dropWhile_append, if_neg visible, trimStart]
    rw [kept, trimEnd_append_blank _ after]

theorem trim_eq_nil_iff {s : List Char} : trim s = [] ↔ ∀ c ∈ s, isBlank c = true := by
  constructor
  · intro nothing
    by_contra visible
    have started : trimStart s ≠ [] := fun empty => visible (List.dropWhile_eq_nil_iff.mp empty)
    obtain ⟨c, rest, same⟩ := List.exists_cons_of_ne_nil started
    have first : isBlank c = false := by
      apply head_dropWhile (s := s)
      rw [← trimStart, same]
      rfl
    have blank : isBlank c = true := by
      apply List.dropWhile_eq_nil_iff.mp (List.reverse_eq_nil_iff.mp nothing)
      rw [same]
      exact List.mem_reverse.mpr List.mem_cons_self
    rw [first] at blank
    cases blank
  · exact trim_of_blank

end PaintScript.Text

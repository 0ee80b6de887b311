import PaintScript.Proofs.Json.ReadBack
import PaintScript.Proofs.Text.Utf8

/-!
# Canonical texts

A canonical text has no space between its tokens, and the keys of its objects stand in the order of
their bytes. Two values have one canonical text if they differ in the order of entries only.
-/

namespace PaintScript.Json

/-! ### The form of a canonical text -/

/-- A text without spaces around tokens, in which the bytes of the keys of every object increase. An
entry of an object is given by its key, the text of the key, and the text of the value. -/
inductive IsCanonical : List Char → Prop
  | null : IsCanonical ['n', 'u', 'l', 'l']
  | true : IsCanonical ['t', 'r', 'u', 'e']
  | false : IsCanonical ['f', 'a', 'l', 's', 'e']
  | integer (n : Int) : IsCanonical (Text.integer n)
  | string {s : String} {text : List Char} (h : IsString s text) : IsCanonical text
  | array {items : List (List Char)} (all : ∀ item ∈ items, IsCanonical item) :
      IsCanonical ('[' :: ([','].intercalate items ++ [']']))
  | object {entries : List (String × List Char × List Char)}
      (keys : ∀ e ∈ entries, IsString e.1 e.2.1) (all : ∀ e ∈ entries, IsCanonical e.2.2)
      (increasing : entries.Pairwise fun e f => Text.utf8 e.1 < Text.utf8 f.1) :
      IsCanonical ('\x7b' :: ([','].intercalate (entries.map fun e => e.2.1 ++ ':' :: e.2.2) ++
        ['\x7d']))

theorem isCanonical_array {items : List Json} (all : ∀ v ∈ items, IsCanonical v.print) :
    IsCanonical (print (.array items)) := by
  rw [print, printItems_eq_intercalate]
  exact .array (List.forall_mem_map.mpr all)

theorem isCanonical_object {entries : List (String × Json)} (order : Increasing entries)
    (all : ∀ e ∈ entries, IsCanonical e.2.print) : IsCanonical (print (.object entries)) := by
  let parts := entries.map fun e => (e.1, printString e.1, e.2.print)
  have texts : (parts.map fun e => e.2.1 ++ ':' :: e.2.2) = entries.map entryText := by
    simp [parts, entryText, Function.comp_def]
  have keys : ∀ e ∈ parts, IsString e.1 e.2.1 :=
    List.forall_mem_map.mpr fun e _ => isString_printString e.1
  have increasing : parts.Pairwise fun e f => Text.utf8 e.1 < Text.utf8 f.1 :=
    List.pairwise_map.mpr (order.imp fun less => Text.utf8_lt_iff.mpr less)
  rw [print, printEntries_eq_intercalate, ← texts]
  exact .object keys (List.forall_mem_map.mpr all) increasing

namespace WellFormed

variable {levels : Nat} {v w : Json}

theorem isCanonical_sorted (h : v.WellFormed levels) : IsCanonical v.sorted.print := by
  induction h with
  | null => exact .null
  | bool b => cases b <;> [exact .false; exact .true]
  | @integer _ n _ _ =>
    rw [sorted, print]
    exact .integer n
  | string s =>
    rw [sorted, print]
    exact .string (isString_printString s)
  | array _ ih =>
    rw [sorted_array]
    exact isCanonical_array (List.forall_mem_map.mpr ih)
  | object _ _ ih =>
    rw [sorted_object]
    refine isCanonical_object (increasing_sortEntries _) fun e member => ?_
    obtain ⟨f, there, rfl⟩ := List.mem_map.mp (mem_of_mem_sortEntries member)
    exact ih f there

/-! ### Values with one canonical text -/

theorem sorted_eq_iff (h : v.WellFormed levels) (other : w.WellFormed levels) :
    v.sorted = w.sorted ↔ v.Arranges w := by
  constructor
  · intro same
    have back := other.arranges_symm other.arranges_sorted
    exact h.arranges_trans h.arranges_sorted (same ▸ back)
  · exact fun arranged => (h.sorted_eq arranged).symm

theorem ofText_canonical (h : v.WellFormed Read.levelLimit) : ofText v.canonical = .ok v.sorted :=
  (ReadsBack.value h).decode_canonical

theorem canonical_sorted (h : v.WellFormed levels) : v.sorted.canonical = v.canonical :=
  congrArg text h.sorted_sorted

/-- A canonical text determines the sorted form, since it is decoded as that. -/
theorem canonical_eq_iff (h : v.WellFormed Read.levelLimit) (other : w.WellFormed Read.levelLimit) :
    v.canonical = w.canonical ↔ v.Arranges w := by
  rw [← h.sorted_eq_iff other]
  constructor
  · intro same
    have decoded := h.ofText_canonical
    rw [same, other.ofText_canonical] at decoded
    exact (Except.ok.inj decoded).symm
  · exact congrArg text

end WellFormed

/-- Values that can be read have one canonical text exactly if they are arrangements of each other.
The text keeps to the canonical form, is decoded as an arrangement of the value, and is the
canonical text of what is decoded. -/
theorem canonical_form {v w : Json} (h : v.WellFormed Read.levelLimit)
    (other : w.WellFormed Read.levelLimit) :
    (v.canonical = w.canonical ↔ v.Arranges w) ∧ IsCanonical v.canonical.toList ∧
      ∃ u, ofText v.canonical = .ok u ∧ v.Arranges u ∧ u.canonical = v.canonical := by
  refine ⟨h.canonical_eq_iff other, ?_, v.sorted, h.ofText_canonical, h.arranges_sorted,
    h.canonical_sorted⟩
  rw [canonical, text, String.toList_ofList]
  exact h.isCanonical_sorted

/-- The keys of an object inside an array change places. The last one has the greatest bytes, and
would come before the other one in the order of UTF-16 units. -/
theorem canonical_form_of_astral_keys :
    let inner := Json.object [("b\n", .null), ("", .array [])]
    let v := Json.array [.object [("😀", .integer (-2 ^ 63)), ("\uff61", inner), ("Z", .string " ")]]
    let w := Json.array [.object [("\uff61", inner), ("Z", .string " "), ("😀", .integer (-2 ^ 63))]]
    v.WellFormed Read.levelLimit ∧ w.WellFormed Read.levelLimit ∧
      v.canonical =
        "[\x7b\"Z\":\" \",\"\uff61\":\x7b\"\":[],\"b\\n\":null\x7d,\"😀\":-9223372036854775808\x7d]" ∧
      (v.canonical = w.canonical ↔ v.Arranges w) ∧ IsCanonical v.canonical.toList ∧
      ∃ u, ofText v.canonical = .ok u ∧ v.Arranges u ∧ u.canonical = v.canonical := by
  intro inner v w
  have empty : (Json.array []).WellFormed 124 := .array (List.forall_mem_nil _)
  have nested : inner.WellFormed 125 :=
    .object (by decide) (List.forall_mem_cons.mpr ⟨.null, List.forall_mem_singleton.mpr empty⟩)
  have least : (Json.integer (-2 ^ 63)).WellFormed 125 := .integer (by decide) (by decide)
  have last : (Json.string " ").WellFormed 125 := .string " "
  have first : v.WellFormed Read.levelLimit :=
    .array (List.forall_mem_singleton.mpr (.object (by decide) (List.forall_mem_cons.mpr
      ⟨least, List.forall_mem_cons.mpr ⟨nested, List.forall_mem_singleton.mpr last⟩⟩)))
  have second : w.WellFormed Read.levelLimit :=
    .array (List.forall_mem_singleton.mpr (.object (by decide) (List.forall_mem_cons.mpr
      ⟨nested, List.forall_mem_cons.mpr ⟨last, List.forall_mem_singleton.mpr least⟩⟩)))
  exact ⟨first, second, by decide +kernel, canonical_form first second⟩

end PaintScript.Json

import PaintScript.Proofs.Json.Arrangement
import PaintScript.Proofs.Json.Reads

/-!
# Values of any shape

The text of a well-formed value is read as the sorted form of the value, whatever the order in which
its entries are written.
-/

namespace PaintScript.Json

open Read (Reads Starts)

/-! ### First characters -/

theorem WellFormed.starts_item {levels : Nat} {v : Json} (h : v.WellFormed levels) :
    Starts [']'] v.print :=
  h.isValue_print.starts_item

/-- Only the text of `null` starts with `n`. -/
theorem WellFormed.starts_present {levels : Nat} {v : Json} (h : v.WellFormed levels)
    (present : v ≠ .null) : Starts ['n'] v.print := by
  cases h with
  | null => exact absurd rfl present
  | bool b => cases b <;> exact ⟨_, _, rfl, by decide, by decide⟩
  | @integer _ n _ _ =>
    rw [print]
    exact (isNumeral_integer n).starts (by decide)
  | string s => exact ⟨'"', _, rfl, by decide, by decide⟩
  | array _ => exact ⟨'[', _, by rw [print], by decide, by decide⟩
  | object _ _ => exact ⟨'\x7b', _, by rw [print], by decide, by decide⟩

/-! ### Reading -/

namespace Read

theorem reads_null (levels : Nat) : Reads (value levels) (print .null) .null := by
  intro rest _
  rw [print]
  unfold value
  rfl

theorem reads_bool (levels : Nat) (b : Bool) :
    Reads (value levels) (print (.bool b)) (.bool b) := by
  intro rest _
  cases b with
  | false =>
    rw [print]
    unfold value
    rfl
  | true =>
    rw [print]
    unfold value
    rfl

theorem value_bracket (levels : Nat) (rest : List Char) :
    value (levels + 1) ('[' :: rest) =
      (arrayBody (value levels) rest).map fun p => (Json.array p.1, p.2) := by
  rw [value, dropSpace_cons (by decide)]
  change (arrayBody (value levels) rest >>= fun p => Except.ok (Json.array p.1, p.2)) = _
  cases arrayBody (value levels) rest <;> rfl

theorem value_brace (levels : Nat) (rest : List Char) :
    value (levels + 1) ('\x7b' :: rest) =
      (objectBody (value levels) rest).map fun p => (ofEntries p.1, p.2) := by
  rw [value, dropSpace_cons (by decide)]
  change (objectBody (value levels) rest >>= fun p => Except.ok (ofEntries p.1, p.2)) = _
  cases objectBody (value levels) rest <;> rfl

theorem reads_array {levels : Nat} {items : List Json} {vs : List Json}
    (all : List.Forall₂ (fun j v => Reads (value levels) j.print v) items vs)
    (starts : ∀ j ∈ items, Starts [']'] j.print) :
    Reads (value (levels + 1)) (print (.array items)) (.array vs) := by
  intro rest _
  have body := arrayBody_separated (separated_printItems items) (List.forall_mem_map.mpr starts)
    (List.forall₂_map_left_iff.mpr all) rest
  rw [print, List.cons_append, List.append_assoc, List.singleton_append, value_bracket, body]
  rfl

theorem reads_object {levels : Nat} {entries members : List (String × Json)}
    (all : List.Forall₂ (ReadsEntry (value levels)) members (entries.map entryText)) :
    Reads (value (levels + 1)) (print (.object entries)) (ofEntries members) := by
  intro rest _
  rw [print, List.cons_append, List.append_assoc, List.singleton_append, value_brace,
    objectBody_separated (separated_printEntries entries) all]
  rfl

end Read

theorem WellFormed.reads {levels : Nat} {v : Json} (h : v.WellFormed levels) :
    Reads (Read.value levels) v.print v.sorted := by
  induction h with
  | null => exact Read.reads_null _
  | bool b => exact Read.reads_bool _ b
  | integer least greatest => exact Read.reads_integer _ least greatest
  | string s => exact Read.reads_string _ s
  | array all ih =>
    rw [sorted_array]
    refine Read.reads_array ?_ fun v member => (all v member).starts_item
    exact List.forall₂_map_right_iff.mpr (List.forall₂_same.mpr ih)
  | object _ _ ih =>
    rw [sorted_object]
    refine Read.reads_object (List.forall₂_map_left_iff.mpr (List.forall₂_map_right_iff.mpr ?_))
    exact List.forall₂_same.mpr fun e member => Read.readsEntry_printed (ih e member)

theorem WellFormed.reads_arranged {levels : Nat} {v w : Json} (h : v.WellFormed levels)
    (arranged : v.Arranges w) : Reads (Read.value levels) w.print v.sorted := by
  rw [← h.sorted_eq arranged]
  exact (h.arrange arranged).reads

end PaintScript.Json

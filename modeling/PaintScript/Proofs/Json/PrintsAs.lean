import Mathlib.Data.List.Nodup
import PaintScript.Proofs.Json.Layout

/-!
# Printed layouts

A printed object is a text of the record whose fields its entries give, in whatever order they
stand.
-/

namespace PaintScript.Json

/-- Whether the text of a value, or of any arrangement of it, is of a kind. -/
def PrintsAs (IsText : List Char → Prop) (j : Json) : Prop :=
  ∀ k, j.Arranges k → IsText k.print

theorem printsAs_string (s : String) : PrintsAs (IsString s) (.string s) := by
  intro k arranged
  cases arranged
  rw [print]
  exact isString_printString s

theorem printsAs_integer (n : Int64) : PrintsAs (IsInteger n) (.integer n.toInt) := by
  intro k arranged
  cases arranged
  rw [print]
  rfl

theorem printsAs_list {α : Type} {IsText : α → List Char → Prop} {vs : List α} {js : List Json}
    (all : List.Forall₂ (fun v j => PrintsAs (IsText v) j) vs js) :
    PrintsAs (IsList IsText vs) (.array js) := by
  intro k arranged
  obtain ⟨ks, rfl, arrangements⟩ := arranged.items
  have texts : List.Forall₂ IsText vs (ks.map print) :=
    List.forall₂_map_right_iff.mpr
      (forall₂_comp all arrangements fun _ _ k prints arranged => prints k arranged)
  rw [print]
  exact ⟨_, texts, _, separated_printItems ks, rfl⟩

/-- Entries in the order of the fields that they give. A field that may be absent may be passed
over. -/
inductive FormsInOrder : List Form → List (String × Json) → Prop
  | nil : FormsInOrder [] []
  | entry {key : String} {IsText : List Char → Prop} {mayBeAbsent : Prop} {forms : List Form}
      {j : Json} {entries : List (String × Json)} (prints : PrintsAs IsText j)
      (rest : FormsInOrder forms entries) :
      FormsInOrder (⟨key, IsText, mayBeAbsent⟩ :: forms) ((key, j) :: entries)
  | absent {form : Form} {forms : List Form} {entries : List (String × Json)}
      (absent : form.mayBeAbsent) (rest : FormsInOrder forms entries) :
      FormsInOrder (form :: forms) entries

namespace FormsInOrder

variable {forms : List Form} {entries : List (String × Json)}

theorem keys_sublist (h : FormsInOrder forms entries) :
    (entries.map Prod.fst).Sublist (forms.map Form.key) := by
  induction h with
  | nil => exact List.Sublist.refl []
  | entry _ _ ih => exact ih.cons_cons _
  | absent _ _ ih => exact ih.cons _

theorem gives (h : FormsInOrder forms entries) :
    ∀ e ∈ entries, ∃ form ∈ forms, form.key = e.1 ∧ PrintsAs form.IsText e.2 := by
  induction h with
  | nil => exact fun e member => absurd member List.not_mem_nil
  | @entry key IsText mayBeAbsent forms j entries prints _ ih =>
    refine List.forall_mem_cons.mpr ⟨⟨_, List.mem_cons_self, rfl, prints⟩, fun e member => ?_⟩
    obtain ⟨form, there, given⟩ := ih e member
    exact ⟨form, List.mem_cons_of_mem _ there, given⟩
  | absent _ _ ih =>
    intro e member
    obtain ⟨form, there, given⟩ := ih e member
    exact ⟨form, List.mem_cons_of_mem _ there, given⟩

theorem present (h : FormsInOrder forms entries) :
    ∀ form ∈ forms, form.key ∈ entries.map Prod.fst ∨ form.mayBeAbsent := by
  induction h with
  | nil => exact fun form member => absurd member List.not_mem_nil
  | entry _ _ ih =>
    refine List.forall_mem_cons.mpr ⟨Or.inl List.mem_cons_self, fun form member => ?_⟩
    exact (ih form member).imp_left (List.mem_cons_of_mem _)
  | absent absent _ ih => exact List.forall_mem_cons.mpr ⟨Or.inr absent, ih⟩

/-- An object is a text of a record in every arrangement, if its entries give the fields that may
not be absent. -/
theorem record (h : FormsInOrder forms entries) (distinct : (forms.map Form.key).Nodup) :
    PrintsAs (IsRecord forms) (.object entries) := by
  intro k arranged
  obtain ⟨fs, gs, rfl, all, order⟩ := arranged.entries
  have keys : (gs.map Prod.fst).Perm (entries.map Prod.fst) := by
    rw [(forall₂_arrangesEntry_iff.mp all).1]
    exact order.map Prod.fst
  have unique : (gs.map Prod.fst).Nodup := keys.nodup_iff.mpr (h.keys_sublist.nodup distinct)
  have each : List.Forall₂ (IsEntry forms) (gs.map Prod.fst) (gs.map entryText) := by
    refine List.forall₂_map_left_iff.mpr (List.forall₂_map_right_iff.mpr
      (List.forall₂_same.mpr fun g member => ?_))
    obtain ⟨e, original, key, value⟩ := exists_of_mem_right all (order.mem_iff.mp member)
    obtain ⟨form, there, name, prints⟩ := h.gives e original
    rw [← key, ← name, entryText, ← key, ← name]
    exact .known there (isKey_printString form.key) (prints g.2 value)
  rw [print]
  refine .object each (fun form there => ?_) (separated_printEntries gs)
  by_cases member : form.key ∈ gs.map Prod.fst
  · exact Or.inl (List.count_eq_one_of_mem unique member)
  · refine Or.inr ⟨(h.present form there).resolve_left fun given => ?_, member⟩
    exact member (keys.mem_iff.mpr given)

end FormsInOrder

theorem printsAs_tagged {IsText : List Char → Prop} {name : String} {j : Json}
    (h : PrintsAs IsText j) : PrintsAs (IsTagged name IsText) (.object [(name, j)]) := by
  intro k arranged
  obtain ⟨value, rfl, there⟩ := arranged.entry
  refine ⟨[], _, _, [], isSpaces_nil, isKey_printString name, h value there, isSpaces_nil, ?_⟩
  rw [print, printEntries, printEntries]
  simp

end PaintScript.Json

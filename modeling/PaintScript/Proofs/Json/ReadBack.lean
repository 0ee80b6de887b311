import PaintScript.Proofs.Json.Record
import PaintScript.Proofs.Json.Value

/-!
# Values that are read back from every arrangement

`ReadsBack read levels j v` says that a reader gets `v` from the text of `j`, in whatever order the
entries of `j` are written. A record has this property if its entries give its fields.
-/

namespace PaintScript.Json

open Read (Covered Field Gives Reads Values)

variable {α : Type}

/-- Whether the text of a value, or of any arrangement of it, is read as `v`. -/
structure ReadsBack (read : Nat → Reader α) (levels : Nat) (j : Json) (v : α) : Prop where
  wellFormed : j.WellFormed levels
  reads : ∀ k, j.Arranges k → Reads (read levels) k.print v

namespace ReadsBack

variable {read : Nat → Reader α} {levels : Nat} {j : Json} {v : α}

theorem text (expected s : String) :
    ReadsBack (fun _ => Read.text expected) levels (.string s) s := by
  refine ⟨.string s, fun k arranged => ?_⟩
  cases arranged
  exact Read.reads_text expected s

theorem value (h : j.WellFormed levels) : ReadsBack Read.value levels j j.sorted :=
  ⟨h, fun _ arranged => h.reads_arranged arranged⟩

theorem optional (h : ReadsBack read levels j v) (present : j ≠ .null) :
    ReadsBack (Read.optional read) levels j (some v) := by
  refine ⟨h.wellFormed, fun k arranged => ?_⟩
  have starts := (h.wellFormed.arrange arranged).starts_present (arranged.ne_null present)
  exact (h.reads k arranged).optional starts

theorem list {js : List Json} {vs : List α} (all : List.Forall₂ (ReadsBack read levels) js vs) :
    ReadsBack (Read.list read) (levels + 1) (.array js) vs := by
  have items : ∀ j ∈ js, j.WellFormed levels := by
    intro j member
    obtain ⟨v, -, back⟩ := exists_of_mem_left all member
    exact back.wellFormed
  refine ⟨.array items, fun k arranged => ?_⟩
  obtain ⟨ks, rfl, arrangements⟩ := arranged.items
  have reads : List.Forall₂ (fun k v => Reads (read levels) k.print v) ks vs :=
    forall₂_comp arrangements.flip all fun k _ _ arranged back => back.reads k arranged
  refine Reads.list reads fun k member => ?_
  obtain ⟨j, original, arranged⟩ := exists_of_mem_right arrangements member
  exact ((items j original).arrange arranged).starts_item

theorem tagged {τ : Type} {tag? : String → Option τ} {known : List String}
    {body : τ → Nat → Reader α} {name : String} {t : τ} (tag : tag? name = some t)
    (h : ReadsBack (body t) levels j v) :
    ReadsBack (Read.tagged tag? known body) (levels + 1) (.object [(name, j)]) v := by
  have single : ∀ e ∈ [(name, j)], e.2.WellFormed levels := by
    intro e member
    rw [List.mem_singleton.mp member]
    exact h.wellFormed
  refine ⟨.object (List.pairwise_singleton _ _) single, fun k arranged => ?_⟩
  obtain ⟨value, rfl, there⟩ := arranged.entry
  exact Reads.tagged tag (h.reads value there)

end ReadsBack

/-! ### Records -/

/-- Entries that give the values of fields in the order of the fields. A field with its default may
be passed over. -/
inductive InOrder (levels : Nat) :
    (fields : List Field) → Values fields → List (String × Json) → Prop
  | nil : InOrder levels [] () []
  | entry {f : Field} {fs : List Field} {v : f.Value} {vs : Values fs} {j : Json}
      {entries : List (String × Json)} (back : ReadsBack f.read levels j v)
      (rest : InOrder levels fs vs entries) :
      InOrder levels (f :: fs) (v, vs) ((f.key, j) :: entries)
  | absent {f : Field} {fs : List Field} {v : f.Value} {vs : Values fs}
      {entries : List (String × Json)} (default : f.absent = some v)
      (rest : InOrder levels fs vs entries) : InOrder levels (f :: fs) (v, vs) entries

namespace InOrder

variable {levels : Nat} {fields : List Field} {values : Values fields}
  {entries : List (String × Json)}

theorem keys_sublist (h : InOrder levels fields values entries) :
    (entries.map Prod.fst).Sublist (fields.map Field.key) := by
  induction h with
  | nil => exact List.Sublist.refl []
  | entry _ _ ih => exact ih.cons_cons _
  | absent _ _ ih => exact ih.cons _

theorem wellFormed (h : InOrder levels fields values entries) :
    ∀ e ∈ entries, e.2.WellFormed levels := by
  induction h with
  | nil => exact fun e member => absurd member List.not_mem_nil
  | entry back _ ih => exact List.forall_mem_cons.mpr ⟨back.wellFormed, ih⟩
  | absent _ _ ih => exact ih

theorem gives (h : InOrder levels fields values entries)
    (distinct : (fields.map Field.key).Nodup) :
    ∀ e ∈ entries, ∀ k, e.2.Arranges k → Gives levels e.1 k.print fields values := by
  induction h with
  | nil => exact fun e member => absurd member List.not_mem_nil
  | @entry f fs v vs j entries back rest ih =>
    obtain ⟨fresh, distinct⟩ := List.nodup_cons.mp distinct
    intro e member k arranged
    rw [Gives]
    rcases List.mem_cons.mp member with rfl | later
    · rw [if_pos rfl]
      exact back.reads k arranged
    · have other : e.1 ≠ f.key := by
        intro same
        exact fresh (same ▸ rest.keys_sublist.subset (List.mem_map_of_mem later))
      rw [if_neg other]
      exact ih distinct e later k arranged
  | @absent f fs v vs entries _ rest ih =>
    obtain ⟨fresh, distinct⟩ := List.nodup_cons.mp distinct
    intro e member k arranged
    have other : e.1 ≠ f.key := by
      intro same
      exact fresh (same ▸ rest.keys_sublist.subset (List.mem_map_of_mem member))
    rw [Gives, if_neg other]
    exact ih distinct e member k arranged

theorem covered (h : InOrder levels fields values entries) :
    Covered (entries.map Prod.fst) fields values := by
  induction h with
  | nil => trivial
  | @entry f fs v vs j entries _ _ ih =>
    exact ⟨Or.inl List.mem_cons_self, ih.mono (List.subset_cons_self f.key _)⟩
  | absent default _ ih => exact ⟨Or.inr default, ih⟩

theorem record {name : String} (h : InOrder levels fields values entries)
    (distinct : (fields.map Field.key).Nodup) :
    ReadsBack (Read.record name fields) (levels + 1) (.object entries) values := by
  have unique := h.keys_sublist.nodup distinct
  refine ⟨.object unique h.wellFormed, fun k arranged => ?_⟩
  obtain ⟨fs, gs, rfl, all, order⟩ := arranged.entries
  have keys : (gs.map Prod.fst).Perm (entries.map Prod.fst) := by
    rw [(forall₂_arrangesEntry_iff.mp all).1]
    exact order.map Prod.fst
  refine Reads.record distinct (keys.nodup_iff.mpr unique) ?_ (h.covered.mono keys.symm.subset)
  intro g member
  obtain ⟨e, original, key, value⟩ := exists_of_mem_right all (order.mem_iff.mp member)
  rw [← key]
  exact h.gives distinct e original g.2 value

end InOrder

/-! ### Whole texts -/

theorem ReadsBack.decode {read : Nat → Reader α} {j k : Json} {v : α}
    (h : ReadsBack read Read.levelLimit j v) (arranged : j.Arranges k) :
    Json.decode read k.text = .ok v := by
  have front := h.reads k arranged [] Read.endsNumber_nil
  rw [List.append_nil] at front
  have whole : Read.whole read k.print = .ok v := by
    rw [Read.whole, front]
    rfl
  rw [Json.decode, Json.text, String.toList_ofList, whole]
  rfl

theorem ReadsBack.decode_text {read : Nat → Reader α} {j : Json} {v : α}
    (h : ReadsBack read Read.levelLimit j v) : Json.decode read j.text = .ok v :=
  h.decode (.refl j)

theorem ReadsBack.decode_canonical {read : Nat → Reader α} {j : Json} {v : α}
    (h : ReadsBack read Read.levelLimit j v) : Json.decode read j.canonical = .ok v :=
  h.decode h.wellFormed.arranges_sorted

end PaintScript.Json

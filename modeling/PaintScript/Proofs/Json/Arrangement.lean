import Mathlib.Data.List.Forall2
import Mathlib.Data.List.Induction
import Mathlib.Data.List.Perm.Basic
import Mathlib.Data.String.Basic
import PaintScript.Json.Basic

/-!
# The order of entries

A value is arranged by putting the entries of its objects into another order, at every level. Its
sorted form is one arrangement, and all of them have one sorted form, if no object repeats a key.
-/

namespace PaintScript.Json

/-! ### Sorting entries -/

/-- Entries whose keys are distinct and in order. -/
def Increasing (entries : List (String × Json)) : Prop :=
  entries.Pairwise fun e f => e.1 < f.1

theorem mem_of_mem_insertEntry {key : String} {value : Json} {entries : List (String × Json)}
    {e : String × Json} (h : e ∈ insertEntry key value entries) :
    e = (key, value) ∨ e ∈ entries := by
  induction entries with
  | nil => exact Or.inl (List.mem_singleton.mp h)
  | cons f entries ih =>
    obtain ⟨k, v⟩ := f
    rw [insertEntry] at h
    split at h
    · exact List.mem_cons.mp h
    · split at h
      · rcases List.mem_cons.mp h with here | later
        · exact Or.inl here
        · exact Or.inr (List.mem_cons_of_mem _ later)
      · rcases List.mem_cons.mp h with here | later
        · exact Or.inr (here ▸ List.mem_cons_self)
        · exact (ih later).imp_right (List.mem_cons_of_mem _)

theorem insertEntry_perm {key : String} (value : Json) {entries : List (String × Json)}
    (fresh : key ∉ entries.map Prod.fst) :
    (insertEntry key value entries).Perm ((key, value) :: entries) := by
  induction entries with
  | nil => exact List.Perm.refl _
  | cons f entries ih =>
    obtain ⟨k, v⟩ := f
    rw [List.map_cons, List.mem_cons, not_or] at fresh
    rw [insertEntry]
    split
    · exact List.Perm.refl _
    · rw [if_neg fresh.1]
      exact ((ih fresh.2).cons (k, v)).trans (List.Perm.swap _ _ _)

theorem increasing_insertEntry {key : String} {value : Json} {entries : List (String × Json)}
    (h : Increasing entries) : Increasing (insertEntry key value entries) := by
  induction entries with
  | nil => exact List.pairwise_singleton _ _
  | cons f entries ih =>
    obtain ⟨k, v⟩ := f
    obtain ⟨first, others⟩ := List.pairwise_cons.mp h
    rw [insertEntry]
    split
    · rename_i before
      have all : ∀ e ∈ (k, v) :: entries, key < e.1 :=
        List.forall_mem_cons.mpr ⟨before, fun e member => String.lt_trans before (first e member)⟩
      exact List.pairwise_cons.mpr ⟨all, h⟩
    · split
      · rename_i same
        subst same
        exact List.pairwise_cons.mpr ⟨first, others⟩
      · rename_i notBefore different
        have after : k < key := lt_of_le_of_ne (not_lt.mp notBefore) (Ne.symm different)
        refine List.pairwise_cons.mpr ⟨?_, ih others⟩
        intro e member
        rcases mem_of_mem_insertEntry member with rfl | there
        · exact after
        · exact first e there

theorem insertEntry_of_lt {key : String} (value : Json) {entries : List (String × Json)}
    (last : ∀ e ∈ entries, e.1 < key) :
    insertEntry key value entries = entries ++ [(key, value)] := by
  induction entries with
  | nil => rfl
  | cons f entries ih =>
    obtain ⟨k, v⟩ := f
    obtain ⟨first, others⟩ := List.forall_mem_cons.mp last
    have different : key ≠ k := fun same => String.lt_irrefl k (same ▸ first)
    rw [insertEntry, if_neg (String.lt_asymm first), if_neg different, ih others, List.cons_append]

theorem sortEntries_concat (entries : List (String × Json)) (e : String × Json) :
    sortEntries (entries ++ [e]) = insertEntry e.1 e.2 (sortEntries entries) :=
  List.foldl_concat ..

theorem mem_of_mem_sortEntries {entries : List (String × Json)} {e : String × Json}
    (h : e ∈ sortEntries entries) : e ∈ entries := by
  -- The fold inserts the last entry last, so the induction takes entries from the end.
  induction entries using List.reverseRecOn with
  | nil => exact h
  | append_singleton entries f ih =>
    rw [sortEntries_concat] at h
    rcases mem_of_mem_insertEntry h with rfl | there
    · exact List.mem_append_right entries List.mem_cons_self
    · exact List.mem_append_left [f] (ih there)

theorem increasing_sortEntries (entries : List (String × Json)) :
    Increasing (sortEntries entries) := by
  induction entries using List.reverseRecOn with
  | nil => exact List.Pairwise.nil
  | append_singleton entries e ih =>
    rw [sortEntries_concat]
    exact increasing_insertEntry ih

theorem sortEntries_perm {entries : List (String × Json)}
    (distinct : (entries.map Prod.fst).Nodup) : (sortEntries entries).Perm entries := by
  induction entries using List.reverseRecOn with
  | nil => exact List.Perm.refl _
  | append_singleton entries e ih =>
    rw [List.map_append, List.nodup_append] at distinct
    obtain ⟨others, -, apart⟩ := distinct
    have perm := ih others
    have fresh : e.1 ∉ (sortEntries entries).map Prod.fst := by
      intro member
      exact apart e.1 ((perm.map Prod.fst).mem_iff.mp member) e.1 List.mem_cons_self rfl
    rw [sortEntries_concat]
    exact (insertEntry_perm e.2 fresh).trans
      ((perm.cons e).trans (List.perm_append_singleton e entries).symm)

theorem sortEntries_of_increasing {entries : List (String × Json)} (h : Increasing entries) :
    sortEntries entries = entries := by
  induction entries using List.reverseRecOn with
  | nil => rfl
  | append_singleton entries e ih =>
    obtain ⟨others, -, last⟩ := List.pairwise_append.mp h
    rw [sortEntries_concat, ih others]
    exact insertEntry_of_lt e.2 fun f member => last f member e List.mem_cons_self

theorem Increasing.nodup {entries : List (String × Json)} (h : Increasing entries) :
    (entries.map Prod.fst).Nodup := by
  refine List.pairwise_map.mpr (h.imp fun {e f} before => ?_)
  intro same
  rw [same] at before
  exact String.lt_irrefl f.1 before

/-- Sorting forgets the order of distinct keys. -/
theorem sortEntries_eq_of_perm {entries others : List (String × Json)}
    (distinct : (entries.map Prod.fst).Nodup) (perm : others.Perm entries) :
    sortEntries others = sortEntries entries := by
  have distinctOthers : (others.map Prod.fst).Nodup := (perm.map Prod.fst).nodup_iff.mpr distinct
  have same : (sortEntries others).Perm (sortEntries entries) :=
    (sortEntries_perm distinctOthers).trans (perm.trans (sortEntries_perm distinct).symm)
  refine List.Perm.eq_of_pairwise ?_ (increasing_sortEntries others)
    (increasing_sortEntries entries) same
  intro e f _ _ before after
  exact absurd after (String.lt_asymm before)

theorem lookup_cons (key k : String) (v : Json) (entries : List (String × Json)) :
    ((k, v) :: entries).lookup key = if key = k then some v else entries.lookup key := by
  by_cases same : key = k
  · rw [if_pos same, same, List.lookup_cons_self]
  · rw [if_neg same, List.lookup_cons, beq_false_of_ne same]

theorem lookup_insertEntry (key k : String) (v : Json) (entries : List (String × Json)) :
    (insertEntry k v entries).lookup key = if key = k then some v else entries.lookup key := by
  induction entries with
  | nil => exact lookup_cons key k v []
  | cons e entries ih =>
    obtain ⟨other, w⟩ := e
    rw [insertEntry]
    split
    · exact lookup_cons key k v _
    · split
      · rename_i same
        subst same
        rw [lookup_cons, lookup_cons]
        split <;> rfl
      · rename_i different
        rw [lookup_cons, lookup_cons, ih]
        by_cases here : key = other
        · rw [if_pos here, if_pos here, if_neg fun same => different (same.symm.trans here)]
        · rw [if_neg here, if_neg here]

/-- Of a key that stands more than once, the last entry counts. -/
theorem lookup_sortEntries (entries : List (String × Json)) (key : String) :
    (sortEntries entries).lookup key = entries.reverse.lookup key := by
  induction entries using List.reverseRecOn with
  | nil => rfl
  | append_singleton entries e ih =>
    obtain ⟨k, v⟩ := e
    rw [sortEntries_concat, lookup_insertEntry, ih, List.reverse_concat, lookup_cons]

/-! ### Sorted values -/

theorem sortedItems_eq_map (items : List Json) : sortedItems items = items.map sorted := by
  induction items with
  | nil => rfl
  | cons v items ih => rw [sortedItems, ih, List.map_cons]

def sortedEntry (e : String × Json) : String × Json :=
  (e.1, e.2.sorted)

theorem sortedEntries_eq_map (entries : List (String × Json)) :
    sortedEntries entries = entries.map sortedEntry := by
  induction entries with
  | nil => rfl
  | cons e entries ih => rw [sortedEntries, ih, List.map_cons, sortedEntry]

theorem sorted_array (items : List Json) : (array items).sorted = .array (items.map sorted) := by
  rw [sorted, sortedItems_eq_map]

theorem sorted_object (entries : List (String × Json)) :
    (object entries).sorted = .object (sortEntries (entries.map sortedEntry)) := by
  rw [sorted, sortedEntries_eq_map]

theorem lookup_map_sortedEntry (entries : List (String × Json)) (key : String) :
    (entries.map sortedEntry).lookup key = (entries.lookup key).map sorted := by
  induction entries with
  | nil => rfl
  | cons e entries ih =>
    obtain ⟨k, v⟩ := e
    rw [List.map_cons, sortedEntry, lookup_cons, lookup_cons, ih]
    split <;> rfl

theorem exists_sorted_object (entries : List (String × Json)) :
    ∃ es, (object entries).sorted = .object es ∧
      ∀ key, es.lookup key = (entries.reverse.lookup key).map sorted := by
  refine ⟨_, sorted_object entries, fun key => ?_⟩
  rw [lookup_sortEntries, ← List.map_reverse, lookup_map_sortedEntry]

theorem map_fst_sortedEntry (entries : List (String × Json)) :
    (entries.map sortedEntry).map Prod.fst = entries.map Prod.fst := by
  rw [List.map_map]
  rfl

theorem sorted_object_of_increasing {entries : List (String × Json)} (order : Increasing entries)
    (values : ∀ e ∈ entries, e.2.sorted = e.2) : (object entries).sorted = .object entries := by
  have same : entries.map sortedEntry = entries := by
    rw [List.map_congr_left fun e member => show sortedEntry e = id e by
      rw [sortedEntry, values e member, id], List.map_id]
  rw [sorted_object, same, sortEntries_of_increasing order]

/-! ### Arrangements -/

/-- Values without floating-point numbers and repeated keys, whose integers can be read and whose
brackets nest to no more than the given number of levels. -/
inductive WellFormed : Nat → Json → Prop
  | null {levels : Nat} : WellFormed levels .null
  | bool {levels : Nat} (b : Bool) : WellFormed levels (.bool b)
  | integer {levels : Nat} {n : Int} (least : -2 ^ 63 ≤ n) (greatest : n < 2 ^ 64) :
      WellFormed levels (.integer n)
  | string {levels : Nat} (s : String) : WellFormed levels (.string s)
  | array {levels : Nat} {items : List Json} (all : ∀ v ∈ items, WellFormed levels v) :
      WellFormed (levels + 1) (.array items)
  | object {levels : Nat} {entries : List (String × Json)}
      (distinct : (entries.map Prod.fst).Nodup) (all : ∀ e ∈ entries, WellFormed levels e.2) :
      WellFormed (levels + 1) (.object entries)

/-- The same value up to the order of the entries of its objects, at every level. -/
inductive Arranges : Json → Json → Prop
  | refl (v : Json) : Arranges v v
  | array {vs ws : List Json} (all : List.Forall₂ Arranges vs ws) :
      Arranges (.array vs) (.array ws)
  | object {es fs gs : List (String × Json)} (keys : es.map Prod.fst = fs.map Prod.fst)
      (values : List.Forall₂ Arranges (es.map Prod.snd) (fs.map Prod.snd)) (order : gs.Perm fs) :
      Arranges (.object es) (.object gs)

def ArrangesEntry (e f : String × Json) : Prop :=
  e.1 = f.1 ∧ e.2.Arranges f.2

theorem forall₂_arrangesEntry_iff {es fs : List (String × Json)} :
    List.Forall₂ ArrangesEntry es fs ↔
      es.map Prod.fst = fs.map Prod.fst ∧
        List.Forall₂ Arranges (es.map Prod.snd) (fs.map Prod.snd) := by
  rw [← List.forall₂_eq_eq_eq, List.forall₂_map_left_iff, List.forall₂_map_right_iff,
    List.forall₂_map_left_iff, List.forall₂_map_right_iff]
  constructor
  · intro h
    exact ⟨h.imp fun _ _ both => both.1, h.imp fun _ _ both => both.2⟩
  · intro h
    exact List.Forall₂.mp (fun _ _ key value => ⟨key, value⟩) h.1 h.2

theorem forall₂_imp_of_mem {α β : Type} {R S : α → β → Prop} {xs : List α} {ys : List β}
    (h : List.Forall₂ R xs ys) (imp : ∀ x ∈ xs, ∀ y, R x y → S x y) : List.Forall₂ S xs ys :=
  ((List.forall₂_and_left xs ys).mpr ⟨imp, h⟩).imp fun _ y both => both.1 y both.2

theorem map_eq_map_of_forall₂ {α β γ : Type} {f : α → γ} {g : β → γ} {xs : List α} {ys : List β}
    (h : List.Forall₂ (fun x y => f x = g y) xs ys) : xs.map f = ys.map g := by
  rw [← List.forall₂_eq_eq_eq, List.forall₂_map_left_iff, List.forall₂_map_right_iff]
  exact h

theorem exists_of_mem_right {α β : Type} {R : α → β → Prop} {xs : List α} {ys : List β} {y : β}
    (h : List.Forall₂ R xs ys) (member : y ∈ ys) : ∃ x ∈ xs, R x y := by
  induction h with
  | nil => exact absurd member List.not_mem_nil
  | @cons x z xs ys head _ ih =>
    rcases List.mem_cons.mp member with rfl | later
    · exact ⟨x, List.mem_cons_self, head⟩
    · obtain ⟨w, there, related⟩ := ih later
      exact ⟨w, List.mem_cons_of_mem x there, related⟩

theorem forall₂_comp {α β γ : Type} {R : α → β → Prop} {S : β → γ → Prop} {T : α → γ → Prop}
    {xs : List α} {ys : List β} {zs : List γ} (first : List.Forall₂ R xs ys)
    (second : List.Forall₂ S ys zs) (comp : ∀ x y z, R x y → S y z → T x z) :
    List.Forall₂ T xs zs := by
  induction first generalizing zs with
  | nil =>
    cases second
    exact .nil
  | cons head _ ih =>
    cases second with
    | cons next others => exact .cons (comp _ _ _ head next) (ih others)

theorem exists_of_mem_left {α β : Type} {R : α → β → Prop} {xs : List α} {ys : List β} {x : α}
    (h : List.Forall₂ R xs ys) (member : x ∈ xs) : ∃ y ∈ ys, R x y :=
  exists_of_mem_right h.flip member

namespace Arranges

theorem items {vs : List Json} {k : Json} (h : Arranges (.array vs) k) :
    ∃ ws, k = .array ws ∧ List.Forall₂ Arranges vs ws := by
  cases h with
  | refl => exact ⟨vs, rfl, List.forall₂_same.mpr fun v _ => .refl v⟩
  | array all => exact ⟨_, rfl, all⟩

theorem entries {es : List (String × Json)} {k : Json} (h : Arranges (.object es) k) :
    ∃ fs gs, k = .object gs ∧ List.Forall₂ ArrangesEntry es fs ∧ gs.Perm fs := by
  cases h with
  | refl => exact ⟨es, es, rfl, List.forall₂_same.mpr fun e _ => ⟨rfl, .refl e.2⟩, .refl es⟩
  | object keys values order =>
    exact ⟨_, _, rfl, forall₂_arrangesEntry_iff.mpr ⟨keys, values⟩, order⟩

/-- The only entry of an object stays where it is. -/
theorem entry {name : String} {v k : Json} (h : Arranges (.object [(name, v)]) k) :
    ∃ w, k = .object [(name, w)] ∧ v.Arranges w := by
  obtain ⟨fs, gs, rfl, all, order⟩ := h.entries
  cases all with
  | @cons _ f _ _ head tail =>
    cases tail
    obtain ⟨key, value⟩ := head
    obtain rfl := List.perm_singleton.mp order
    dsimp only at key
    exact ⟨f.2, by rw [key], value⟩

theorem ofEntries {es fs gs : List (String × Json)} (all : List.Forall₂ ArrangesEntry es fs)
    (order : gs.Perm fs) : Arranges (.object es) (.object gs) := by
  obtain ⟨keys, values⟩ := forall₂_arrangesEntry_iff.mp all
  exact .object keys values order

theorem ne_null {v w : Json} (h : Arranges v w) (present : v ≠ .null) : w ≠ .null := by
  cases h with
  | refl => exact present
  | array => rintro ⟨⟩
  | object => rintro ⟨⟩

end Arranges

namespace WellFormed

variable {levels : Nat} {v w u : Json}

theorem arranges_sorted (h : v.WellFormed levels) : v.Arranges v.sorted := by
  induction h with
  | null => exact .refl _
  | bool b => exact .refl _
  | integer _ _ => exact .refl _
  | string s => exact .refl _
  | @array levels items _ ih =>
    rw [sorted_array]
    exact .array (List.forall₂_map_right_iff.mpr (List.forall₂_same.mpr ih))
  | @object levels entries distinct _ ih =>
    have values : List.Forall₂ ArrangesEntry entries (entries.map sortedEntry) :=
      List.forall₂_map_right_iff.mpr (List.forall₂_same.mpr fun e member => ⟨rfl, ih e member⟩)
    have keys : ((entries.map sortedEntry).map Prod.fst).Nodup := by
      rw [map_fst_sortedEntry]
      exact distinct
    rw [sorted_object]
    exact .ofEntries values (sortEntries_perm keys)

/-- All arrangements have one sorted form. -/
theorem sorted_eq (h : v.WellFormed levels) (arranged : v.Arranges w) : w.sorted = v.sorted := by
  induction h generalizing w with
  | null => cases arranged; rfl
  | bool b => cases arranged; rfl
  | integer _ _ => cases arranged; rfl
  | string s => cases arranged; rfl
  | array _ ih =>
    obtain ⟨ws, rfl, all⟩ := arranged.items
    have same := map_eq_map_of_forall₂ (forall₂_imp_of_mem all fun v member w there =>
      show v.sorted = w.sorted from (ih v member there).symm)
    rw [sorted_array, sorted_array, same]
  | object distinct _ ih =>
    obtain ⟨fs, gs, rfl, all, order⟩ := arranged.entries
    have same := map_eq_map_of_forall₂ (forall₂_imp_of_mem all fun e member f there =>
      show sortedEntry e = sortedEntry f from Prod.ext there.1 (ih e member there.2).symm)
    -- Now both sides sort the entries of `fs`, one of them in the order of `gs`.
    rw [← map_fst_sortedEntry, same] at distinct
    rw [sorted_object, sorted_object, same,
      sortEntries_eq_of_perm distinct (order.map sortedEntry)]

theorem sorted_sorted (h : v.WellFormed levels) : v.sorted.sorted = v.sorted :=
  h.sorted_eq h.arranges_sorted

theorem arrange (h : v.WellFormed levels) (arranged : v.Arranges w) : w.WellFormed levels := by
  induction h generalizing w with
  | null => cases arranged; exact .null
  | bool b => cases arranged; exact .bool b
  | integer least greatest => cases arranged; exact .integer least greatest
  | string s => cases arranged; exact .string s
  | array _ ih =>
    obtain ⟨ws, rfl, all⟩ := arranged.items
    refine .array fun w member => ?_
    obtain ⟨v, original, there⟩ := exists_of_mem_right all member
    exact ih v original there
  | object distinct _ ih =>
    obtain ⟨fs, gs, rfl, all, order⟩ := arranged.entries
    have keys : (gs.map Prod.fst).Perm (fs.map Prod.fst) := order.map Prod.fst
    rw [(forall₂_arrangesEntry_iff.mp all).1] at distinct
    refine .object (keys.nodup_iff.mpr distinct) fun g member => ?_
    obtain ⟨e, original, there⟩ := exists_of_mem_right all (order.mem_iff.mp member)
    exact ih e original there.2

theorem arranges_symm (h : v.WellFormed levels) (arranged : v.Arranges w) : w.Arranges v := by
  induction h generalizing w with
  | null => cases arranged; exact .refl _
  | bool b => cases arranged; exact .refl _
  | integer _ _ => cases arranged; exact .refl _
  | string s => cases arranged; exact .refl _
  | array _ ih =>
    obtain ⟨ws, rfl, all⟩ := arranged.items
    exact .array (forall₂_imp_of_mem all ih).flip
  | object _ _ ih =>
    obtain ⟨fs, gs, rfl, all, order⟩ := arranged.entries
    have back : List.Forall₂ ArrangesEntry fs _ :=
      (forall₂_imp_of_mem all fun e member f there =>
        (⟨there.1.symm, ih e member there.2⟩ : ArrangesEntry f e)).flip
    obtain ⟨hs, each, moved⟩ := List.perm_comp_forall₂ order back
    exact .ofEntries each moved.symm

theorem arranges_trans (h : v.WellFormed levels) (first : v.Arranges w) (second : w.Arranges u) :
    v.Arranges u := by
  induction h generalizing w u with
  | null => cases first; exact second
  | bool b => cases first; exact second
  | integer _ _ => cases first; exact second
  | string s => cases first; exact second
  | array _ ih =>
    obtain ⟨ws, rfl, all⟩ := first.items
    obtain ⟨us, rfl, more⟩ := second.items
    refine .array (forall₂_comp (forall₂_imp_of_mem all fun v member w there =>
      (⟨member, there⟩ : _ ∧ _)) more fun v w u both next => ih v both.1 both.2 next)
  | object _ _ ih =>
    obtain ⟨fs, gs, rfl, all, order⟩ := first.entries
    obtain ⟨hs, us, rfl, more, moved⟩ := second.entries
    obtain ⟨ks, each, back⟩ := List.perm_comp_forall₂ order.symm more
    refine .ofEntries (forall₂_comp (forall₂_imp_of_mem all fun e member f there =>
      (⟨member, there⟩ : _ ∧ _)) each fun e f k both next =>
        ⟨both.2.1.trans next.1, ih e both.1 both.2.2 next.2⟩) (moved.trans back.symm)

end WellFormed
end PaintScript.Json

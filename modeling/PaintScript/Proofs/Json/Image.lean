import Mathlib.Data.List.DropRight
import PaintScript.Json.Record
import PaintScript.Proofs.Json.Arrangement
import PaintScript.Proofs.Log

/-!
# What readers can give

A value that was read is sorted and nests no deeper than it was allowed to. Each field of a record
that was read has its default or was read by its own reader.
-/

namespace PaintScript.Json

/-- Values that hold no floating-point number. -/
inductive FloatFree : Json → Prop
  | null : FloatFree .null
  | bool (b : Bool) : FloatFree (.bool b)
  | integer (n : Int) : FloatFree (.integer n)
  | string (s : String) : FloatFree (.string s)
  | array {items : List Json} (all : ∀ v ∈ items, FloatFree v) : FloatFree (.array items)
  | object {entries : List (String × Json)} (all : ∀ e ∈ entries, FloatFree e.2) :
      FloatFree (.object entries)

namespace Read

variable {α : Type}

theorem misplaced_ne_ok {expected : String} {text : List Char} {v : α} :
    misplaced expected text ≠ .ok v := by
  intro h
  unfold misplaced at h
  split at h
  case h_5 | h_6 | h_8 => cases h
  case h_7 =>
    split at h
    · obtain ⟨n, -, h⟩ := bind_eq_ok_iff.mp h
      cases h
    · cases h
  all_goals
    obtain ⟨more, -, h⟩ := bind_eq_ok_iff.mp h
    cases h

/-! ### Arrays and objects -/

theorem items_all {item : Reader α} {P : α → Prop}
    (each : ∀ text v rest, item text = .ok (v, rest) → P v) {fuel : Nat} {first : Bool}
    {text rest : List Char} {vs : List α} (h : items item fuel first text = .ok (vs, rest)) :
    ∀ v ∈ vs, P v := by
  induction fuel generalizing first text vs with
  | zero => cases h
  | succ fuel ih =>
    obtain ⟨⟨more, text⟩, -, h⟩ := bind_eq_ok_iff.mp h
    cases more with
    | false =>
      cases h
      exact fun v member => absurd member List.not_mem_nil
    | true =>
      obtain ⟨⟨v, text⟩, head, h⟩ := bind_eq_ok_iff.mp h
      obtain ⟨⟨others, text⟩, tail, h⟩ := bind_eq_ok_iff.mp h
      cases h
      exact List.forall_mem_cons.mpr ⟨each _ v _ head, ih tail⟩

theorem arrayBody_all {item : Reader α} {P : α → Prop}
    (each : ∀ text v rest, item text = .ok (v, rest) → P v) {text rest : List Char}
    {vs : List α} (h : arrayBody item text = .ok (vs, rest)) : ∀ v ∈ vs, P v := by
  obtain ⟨⟨vs, text⟩, read, h⟩ := bind_eq_ok_iff.mp h
  obtain ⟨-, -, h⟩ := bind_eq_ok_iff.mp h
  cases h
  exact items_all each read

theorem list_all {item : Nat → Reader α} {levels : Nat} {P : α → Prop}
    (each : ∀ text v rest, item levels text = .ok (v, rest) → P v) {text rest : List Char}
    {vs : List α} (h : list item (levels + 1) text = .ok (vs, rest)) : ∀ v ∈ vs, P v := by
  unfold list at h
  split at h
  · exact arrayBody_all each h
  · exact absurd h misplaced_ne_ok

theorem entries_all {value : Reader α} {P : α → Prop}
    (each : ∀ text v rest, value text = .ok (v, rest) → P v) {fuel : Nat} {first : Bool}
    {text rest : List Char} {members : List (String × α)}
    (h : entries value fuel first text = .ok (members, rest)) : ∀ e ∈ members, P e.2 := by
  induction fuel generalizing first text members with
  | zero => cases h
  | succ fuel ih =>
    obtain ⟨⟨key, text⟩, -, h⟩ := bind_eq_ok_iff.mp h
    cases key with
    | none =>
      cases h
      exact fun e member => absurd member List.not_mem_nil
    | some k =>
      obtain ⟨text, -, h⟩ := bind_eq_ok_iff.mp h
      obtain ⟨⟨v, text⟩, head, h⟩ := bind_eq_ok_iff.mp h
      obtain ⟨⟨others, text⟩, tail, h⟩ := bind_eq_ok_iff.mp h
      cases h
      exact List.forall_mem_cons.mpr ⟨each _ v _ head, ih tail⟩

theorem objectBody_all {value : Reader α} {P : α → Prop}
    (each : ∀ text v rest, value text = .ok (v, rest) → P v) {text rest : List Char}
    {members : List (String × α)} (h : objectBody value text = .ok (members, rest)) :
    ∀ e ∈ members, P e.2 := by
  obtain ⟨⟨members, text⟩, read, h⟩ := bind_eq_ok_iff.mp h
  obtain ⟨-, -, h⟩ := bind_eq_ok_iff.mp h
  cases h
  exact entries_all each read

/-! ### Any value -/

theorem value?_bounds {n : Numeral} {k : Int} (h : n.value? = some (.integer k)) :
    -2 ^ 63 ≤ k ∧ k < 2 ^ 64 := by
  have other : n.toBinary64?.map Number.float ≠ some (.integer k) := by
    cases n.toBinary64? <;> simp
  unfold Numeral.value? Text.signed at h
  cases negative : n.negative with
  | true =>
    simp only [negative, if_true] at h
    split at h
    · rename_i isInteger
      simp only [Bool.and_eq_true, decide_eq_true_eq] at isInteger
      cases h
      omega
    · exact absurd h other
  | false =>
    simp only [negative, Bool.false_eq_true, if_false] at h
    split at h
    · rename_i isInteger
      simp only [Bool.and_eq_true, decide_eq_true_eq] at isInteger
      cases h
      omega
    · exact absurd h other

theorem number_bounds {text rest : List Char} {k : Int}
    (h : number text = .ok (.integer k, rest)) : -2 ^ 63 ≤ k ∧ k < 2 ^ 64 := by
  obtain ⟨⟨n, text⟩, -, h⟩ := bind_eq_ok_iff.mp h
  dsimp only at h
  split at h
  · rename_i v value
    cases h
    exact value?_bounds value
  · cases h

/-- How a value can have come from the front of a text. -/
inductive ValueForm (text rest : List Char) : Nat → Json → Prop
  | null {levels : Nat} (first : (dropSpace text).head? = some 'n') :
      ValueForm text rest levels .null
  | bool {levels : Nat} (b : Bool) : ValueForm text rest levels (.bool b)
  | string {levels : Nat} (s : String) : ValueForm text rest levels (.string s)
  | number {levels : Nat} {n : Number} {more : List Char} (read : number more = .ok (n, rest)) :
      ValueForm text rest levels n.toJson
  | array {levels : Nat} {items : List Json} {more : List Char}
      (read : arrayBody (value levels) more = .ok (items, rest)) :
      ValueForm text rest (levels + 1) (.array items)
  | object {levels : Nat} {members : List (String × Json)} {more : List Char}
      (read : objectBody (value levels) more = .ok (members, rest)) :
      ValueForm text rest (levels + 1) (ofEntries members)

theorem value_form {levels : Nat} {text rest : List Char} {v : Json}
    (h : value levels text = .ok (v, rest)) : ValueForm text rest levels v := by
  unfold value at h
  split at h
  · cases h
  · rename_i front
    obtain ⟨more, -, h⟩ := bind_eq_ok_iff.mp h
    cases h
    exact .null (by rw [front]; rfl)
  · obtain ⟨more, -, h⟩ := bind_eq_ok_iff.mp h
    cases h
    exact .bool true
  · obtain ⟨more, -, h⟩ := bind_eq_ok_iff.mp h
    cases h
    exact .bool false
  · obtain ⟨⟨s, more⟩, -, h⟩ := bind_eq_ok_iff.mp h
    cases h
    exact .string s
  · cases levels with
    | zero => cases h
    | succ levels =>
      obtain ⟨⟨vs, more⟩, read, h⟩ := bind_eq_ok_iff.mp h
      cases h
      exact .array read
  · cases levels with
    | zero => cases h
    | succ levels =>
      obtain ⟨⟨members, more⟩, read, h⟩ := bind_eq_ok_iff.mp h
      cases h
      exact .object read
  · split at h
    · obtain ⟨⟨n, more⟩, read, h⟩ := bind_eq_ok_iff.mp h
      cases h
      exact .number read
    · cases h

/-- A value that was read is sorted, and without floating-point numbers it is well-formed. -/
theorem value_image {levels : Nat} {text rest : List Char} {v : Json}
    (h : value levels text = .ok (v, rest)) :
    v.sorted = v ∧ (v.FloatFree → v.WellFormed levels) := by
  -- What stands in brackets is read with fewer levels, whatever its text is.
  induction levels using Nat.strongRecOn generalizing text rest v with
  | ind levels ih =>
    cases value_form h with
    | null _ => exact ⟨rfl, fun _ => .null⟩
    | bool b => exact ⟨rfl, fun _ => .bool b⟩
    | string s => exact ⟨rfl, fun _ => .string s⟩
    | @number _ n _ read =>
      cases n with
      | integer k =>
        have bounds := number_bounds read
        exact ⟨rfl, fun _ => .integer bounds.1 bounds.2⟩
      | float x => exact ⟨rfl, fun free => by cases free⟩
    | @array levels items _ read =>
      have each := arrayBody_all (fun _ _ _ item => ih levels (Nat.lt_succ_self levels) item) read
      constructor
      · rw [sorted_array, List.map_congr_left fun v member => (each v member).1, List.map_id']
      · intro free
        cases free with
        | array all => exact .array fun v member => (each v member).2 (all v member)
    | @object levels members _ read =>
      have each :=
        objectBody_all (fun _ _ _ value => ih levels (Nat.lt_succ_self levels) value) read
      have order := increasing_sortEntries members
      constructor
      · refine sorted_object_of_increasing order fun e member => ?_
        exact (each e (mem_of_mem_sortEntries member)).1
      · intro free
        cases free with
        | object all =>
          refine .object order.nodup fun e member => ?_
          exact (each e (mem_of_mem_sortEntries member)).2 (all e member)

theorem value_ne_null {levels : Nat} {text rest : List Char} {v : Json}
    (h : value levels text = .ok (v, rest)) (other : (dropSpace text).head? ≠ some 'n') :
    v ≠ .null := by
  cases value_form h with
  | null first => exact absurd first other
  | bool b => rintro ⟨⟩
  | string s => rintro ⟨⟩
  | @number _ n _ _ => cases n <;> rintro ⟨⟩
  | array _ => rintro ⟨⟩
  | object _ => rintro ⟨⟩

theorem optional_some {read : Nat → Reader α} {levels : Nat} {text rest : List Char} {v : α}
    (h : optional read levels text = .ok (some v, rest)) :
    ∃ more, read levels more = .ok (v, rest) ∧ (dropSpace more).head? ≠ some 'n' := by
  unfold optional at h
  split at h
  · obtain ⟨more, -, h⟩ := bind_eq_ok_iff.mp h
    cases h
  · rename_i front other
    obtain ⟨⟨w, more⟩, read, h⟩ := bind_eq_ok_iff.mp h
    cases h
    refine ⟨_, read, ?_⟩
    rw [dropSpace, dropSpace, List.dropWhile_idempotent]
    intro first
    obtain ⟨more, same⟩ := List.head?_eq_some_iff.mp first
    exact other more same

/-! ### Records -/

/-- Whether each field has its default or a value that its reader gave. -/
def Obtained (levels : Nat) : (fields : List Field) → Values fields → Prop
  | [], _ => True
  | f :: fs, (v, vs) =>
    (f.absent = some v ∨ ∃ text rest, f.read levels text = .ok (v, rest)) ∧ Obtained levels fs vs

/-- Whether each slot is empty or has a value that the reader of its field gave. -/
def SlotsRead (levels : Nat) : (fields : List Field) → Slots fields → Prop
  | [], _ => True
  | f :: fs, (slot, slots) =>
    (∀ v ∈ slot, ∃ text rest, f.read levels text = .ok (v, rest)) ∧ SlotsRead levels fs slots

theorem slotsRead_noSlots (levels : Nat) (fields : List Field) :
    SlotsRead levels fields (noSlots fields) := by
  induction fields with
  | nil => trivial
  | cons f fs ih => exact ⟨fun v member => absurd member (by simp), ih⟩

theorem fill_slotsRead {fields : List Field} {levels : Nat} {key : String}
    {slots after : Slots fields} {text rest : List Char} (before : SlotsRead levels fields slots)
    (h : fill fields key levels slots text = .ok (after, rest)) :
    SlotsRead levels fields after := by
  induction fields generalizing text rest with
  | nil => trivial
  | cons f fs ih =>
    obtain ⟨slot, slots⟩ := slots
    obtain ⟨here, others⟩ := before
    rw [fill] at h
    split at h
    · split at h
      · cases h
      · obtain ⟨more, -, h⟩ := bind_eq_ok_iff.mp h
        obtain ⟨⟨v, more⟩, read, h⟩ := bind_eq_ok_iff.mp h
        cases h
        refine ⟨fun w same => ?_, others⟩
        cases same
        exact ⟨_, _, read⟩
    · obtain ⟨⟨later, more⟩, filled, h⟩ := bind_eq_ok_iff.mp h
      cases h
      exact ⟨here, ih others filled⟩

theorem members_slotsRead {fields : List Field} {levels fuel : Nat} {first : Bool}
    {slots after : Slots fields} {text rest : List Char} (before : SlotsRead levels fields slots)
    (h : members fields levels fuel first slots text = .ok (after, rest)) :
    SlotsRead levels fields after := by
  induction fuel generalizing first slots text with
  | zero => cases h
  | succ fuel ih =>
    obtain ⟨⟨key, text⟩, -, h⟩ := bind_eq_ok_iff.mp h
    cases key with
    | none =>
      cases h
      exact before
    | some k =>
      obtain ⟨⟨next, text⟩, filled, h⟩ := bind_eq_ok_iff.mp h
      exact ih (fill_slotsRead before filled) h

theorem complete_obtained {fields : List Field} {levels : Nat} {slots : Slots fields}
    {values : Values fields} (read : SlotsRead levels fields slots)
    (h : complete fields slots = .ok values) : Obtained levels fields values := by
  induction fields with
  | nil => trivial
  | cons f fs ih =>
    obtain ⟨slot, slots⟩ := slots
    rw [complete] at h
    split at h
    · cases h
    · rename_i v given
      obtain ⟨vs, completed, h⟩ := bind_eq_ok_iff.mp h
      cases h
      refine ⟨?_, ih read.2 completed⟩
      cases slot with
      | none => exact Or.inl given
      | some w =>
        cases given
        exact Or.inr (read.1 _ rfl)

theorem keyed_obtained {fields : List Field} {levels : Nat} {text rest : List Char}
    {values : Values fields} (h : keyed fields levels text = .ok (values, rest)) :
    Obtained levels fields values := by
  obtain ⟨⟨slots, more⟩, filled, h⟩ := bind_eq_ok_iff.mp h
  dsimp only at h
  split at h
  · cases h
  · rename_i vs completed
    obtain ⟨-, -, h⟩ := bind_eq_ok_iff.mp h
    cases h
    exact complete_obtained (members_slotsRead (slotsRead_noSlots levels fields) filled) completed

theorem remaining_obtained {fields : List Field} {levels index : Nat} {values : Values fields}
    (h : remaining fields index = .ok values) : Obtained levels fields values := by
  induction fields generalizing index with
  | nil => trivial
  | cons f fs ih =>
    rw [remaining] at h
    split at h
    · cases h
    · rename_i v default
      obtain ⟨vs, others, h⟩ := bind_eq_ok_iff.mp h
      cases h
      exact ⟨Or.inl default, ih others⟩

theorem ordered_obtained {expected : String} {fields : List Field} {levels index : Nat}
    {text rest : List Char} {values : Values fields}
    (h : ordered expected levels fields index text = .ok (values, rest)) :
    Obtained levels fields values := by
  induction fields generalizing index text with
  | nil => trivial
  | cons f fs ih =>
    obtain ⟨⟨more, text⟩, -, h⟩ := bind_eq_ok_iff.mp h
    dsimp only at h
    split at h
    · obtain ⟨⟨v, text⟩, read, h⟩ := bind_eq_ok_iff.mp h
      obtain ⟨⟨vs, text⟩, others, h⟩ := bind_eq_ok_iff.mp h
      cases h
      exact ⟨Or.inr ⟨_, _, read⟩, ih others⟩
    · split at h
      · rename_i vs defaults
        cases h
        exact remaining_obtained defaults
      · cases h

theorem record_obtained {name : String} {fields : List Field} {levels : Nat}
    {text rest : List Char} {values : Values fields}
    (h : record name fields (levels + 1) text = .ok (values, rest)) :
    Obtained levels fields values := by
  unfold record at h
  split at h
  · obtain ⟨⟨vs, more⟩, read, h⟩ := bind_eq_ok_iff.mp h
    obtain ⟨-, -, h⟩ := bind_eq_ok_iff.mp h
    cases h
    exact ordered_obtained read
  · exact keyed_obtained h
  · exact absurd h misplaced_ne_ok

theorem tagged_read {τ : Type} {tag? : String → Option τ} {known : List String}
    {read : τ → Nat → Reader α} {levels : Nat} {text rest : List Char} {v : α}
    (h : tagged tag? known read (levels + 1) text = .ok (v, rest)) :
    ∃ t more after, read t levels more = .ok (v, after) := by
  unfold tagged at h
  dsimp only at h
  split at h
  · obtain ⟨⟨w, more⟩, entry, h⟩ := bind_eq_ok_iff.mp h
    obtain ⟨⟨key, text⟩, -, entry⟩ := bind_eq_ok_iff.mp entry
    dsimp only at entry
    split at entry
    · cases entry
    · obtain ⟨⟨t, text⟩, -, entry⟩ := bind_eq_ok_iff.mp entry
      obtain ⟨text, -, body⟩ := bind_eq_ok_iff.mp entry
      dsimp only at h
      split at h
      · cases h
        exact ⟨t, _, _, body⟩
      · cases h
      · cases h
  · obtain ⟨name, -, h⟩ := bind_eq_ok_iff.mp h
    obtain ⟨t, -, h⟩ := bind_eq_ok_iff.mp h
    cases h
  · cases h
  · cases h

/-! ### Whole texts -/

theorem read_of_decode {read : Nat → Reader α} {text : String} {v : α}
    (h : Json.decode read text = .ok v) :
    ∃ rest, read levelLimit text.toList = .ok (v, rest) := by
  obtain ⟨⟨w, rest⟩, front, h⟩ := bind_eq_ok_iff.mp (mapError_eq_ok_iff.mp h)
  dsimp only at h
  split at h
  · cases h
    exact ⟨rest, front⟩
  · cases h

end Read
end PaintScript.Json

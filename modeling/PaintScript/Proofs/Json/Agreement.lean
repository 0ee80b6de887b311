import PaintScript.Json.Record
import PaintScript.Proofs.Json.Image

/-!
# Readers that agree

A strict reader agrees with a lenient one if it reads just those values of the lenient one that are
the image of a value. Lists, tagged values and both forms of records keep this, so it has to be
shown of single values alone.
-/

namespace PaintScript.Json.Read

variable {α β : Type}

/-- What a strict reader gives, a lenient one gives as its image, and where the lenient one gives an
image, the strict one gives a value with that image. -/
structure Agrees (image : α → β) (strict : Nat → Reader α) (lenient : Nat → Reader β) : Prop where
  widen : ∀ {levels : Nat} {text rest : List Char} {v : α},
    strict levels text = .ok (v, rest) → lenient levels text = .ok (image v, rest)
  narrow : ∀ {levels : Nat} {text rest : List Char} {v : α},
    lenient levels text = .ok (image v, rest) →
      ∃ u, image u = image v ∧ strict levels text = .ok (u, rest)

variable {image : α → β} {strict : Nat → Reader α} {lenient : Nat → Reader β}

theorem Agrees.refl (read : Nat → Reader α) : Agrees id read read :=
  ⟨fun read => read, fun read => ⟨_, rfl, read⟩⟩

/-! ### Lists -/

theorem arrayBody_eq_ok_iff {item : Reader α} {text rest : List Char} {vs : List α} :
    arrayBody item text = .ok (vs, rest) ↔
      ∃ more, items item (text.length + 1) true text = .ok (vs, more) ∧
        leaveArray more = (.ok (), rest) := by
  simp only [arrayBody, bind_eq_ok_iff]
  constructor
  · rintro ⟨⟨vs, more⟩, read, ⟨⟩, left, same⟩
    cases same
    exact ⟨more, read, Prod.ext left rfl⟩
  · rintro ⟨more, read, left⟩
    exact ⟨_, read, (), by rw [left], by rw [left]⟩

section

variable (h : Agrees image strict lenient)

include h

theorem Agrees.widen_items {levels fuel : Nat} {first : Bool} {text rest : List Char} {vs : List α}
    (read : items (strict levels) fuel first text = .ok (vs, rest)) :
    items (lenient levels) fuel first text = .ok (vs.map image, rest) := by
  induction fuel generalizing first text vs with
  | zero => cases read
  | succ fuel ih =>
    obtain ⟨⟨more, text⟩, next, read⟩ := bind_eq_ok_iff.mp read
    rw [items, next, ok_bind]
    cases more with
    | false =>
      cases read
      rfl
    | true =>
      obtain ⟨⟨v, text⟩, head, read⟩ := bind_eq_ok_iff.mp read
      obtain ⟨⟨others, text⟩, tail, read⟩ := bind_eq_ok_iff.mp read
      cases read
      simp only [if_true, h.widen head, ih tail, ok_bind, List.map_cons]

theorem Agrees.narrow_items {levels fuel : Nat} {first : Bool} {text rest : List Char}
    {vs : List α} (read : items (lenient levels) fuel first text = .ok (vs.map image, rest)) :
    ∃ us, us.map image = vs.map image ∧ items (strict levels) fuel first text = .ok (us, rest) := by
  induction fuel generalizing first text vs with
  | zero => cases read
  | succ fuel ih =>
    obtain ⟨⟨more, text⟩, next, read⟩ := bind_eq_ok_iff.mp read
    rw [items, next, ok_bind]
    cases more with
    | false =>
      obtain ⟨none, rfl⟩ := Prod.mk.inj (Except.ok.inj read)
      exact ⟨[], none, rfl⟩
    | true =>
      obtain ⟨⟨w, text⟩, head, read⟩ := bind_eq_ok_iff.mp read
      obtain ⟨⟨others, text⟩, tail, read⟩ := bind_eq_ok_iff.mp read
      cases vs with
      | nil => cases read
      | cons v vs =>
        cases read
        obtain ⟨u, first, head⟩ := h.narrow head
        obtain ⟨us, later, tail⟩ := ih tail
        exact ⟨u :: us, by rw [List.map_cons, first, later]; rfl,
          by simp only [if_true, head, tail, ok_bind]⟩

theorem Agrees.list : Agrees (List.map image) (Read.list strict) (Read.list lenient) where
  widen := by
    intro levels text rest vs read
    unfold Read.list at read ⊢
    split at read
    · cases levels with
      | zero => cases read
      | succ levels =>
        obtain ⟨more, read, left⟩ := arrayBody_eq_ok_iff.mp read
        exact arrayBody_eq_ok_iff.mpr ⟨more, h.widen_items read, left⟩
    · exact absurd read misplaced_ne_ok
  narrow := by
    intro levels text rest vs read
    unfold Read.list at read ⊢
    split at read
    · cases levels with
      | zero => cases read
      | succ levels =>
        obtain ⟨more, read, left⟩ := arrayBody_eq_ok_iff.mp read
        obtain ⟨us, same, read⟩ := h.narrow_items read
        exact ⟨us, same, arrayBody_eq_ok_iff.mpr ⟨more, read, left⟩⟩
    · exact absurd read misplaced_ne_ok

theorem Agrees.optional :
    Agrees (Option.map image) (Read.optional strict) (Read.optional lenient) where
  widen := by
    intro levels text rest v read
    unfold Read.optional at read ⊢
    split at read
    · obtain ⟨more, absent, read⟩ := bind_eq_ok_iff.mp read
      cases read
      exact bind_eq_ok_iff.mpr ⟨_, absent, rfl⟩
    · obtain ⟨⟨v, more⟩, present, read⟩ := bind_eq_ok_iff.mp read
      cases read
      exact bind_eq_ok_iff.mpr ⟨_, h.widen present, rfl⟩
  narrow := by
    intro levels text rest v read
    unfold Read.optional at read ⊢
    split at read
    · obtain ⟨more, absent, read⟩ := bind_eq_ok_iff.mp read
      obtain ⟨none, rfl⟩ := Prod.mk.inj (Except.ok.inj read)
      exact ⟨Option.none, none, bind_eq_ok_iff.mpr ⟨_, absent, rfl⟩⟩
    · obtain ⟨⟨w, more⟩, present, read⟩ := bind_eq_ok_iff.mp read
      cases v with
      | none => cases read
      | some v =>
        cases read
        obtain ⟨u, same, present⟩ := h.narrow present
        exact ⟨some u, congrArg some same, bind_eq_ok_iff.mpr ⟨_, present, rfl⟩⟩

end

/-! ### Slots -/

/-- Whether every value that a slot had at first is still in it. -/
def Extends : (fields : List Field) → Slots fields → Slots fields → Prop
  | [], _, _ => True
  | _ :: fs, (slot, slots), (later, others) => (∀ v ∈ slot, v ∈ later) ∧ Extends fs slots others

theorem extends_refl (fields : List Field) (slots : Slots fields) : Extends fields slots slots := by
  induction fields with
  | nil => trivial
  | cons f fs ih => exact ⟨fun _ member => member, ih slots.2⟩

theorem Extends.trans {fields : List Field} {first second third : Slots fields}
    (h : Extends fields first second) (k : Extends fields second third) :
    Extends fields first third := by
  induction fields with
  | nil => trivial
  | cons f fs ih => exact ⟨fun v member => k.1 v (h.1 v member), ih h.2 k.2⟩

theorem fill_extends {fields : List Field} {key : String} {levels : Nat}
    {before after : Slots fields} {text rest : List Char}
    (h : fill fields key levels before text = .ok (after, rest)) : Extends fields before after := by
  induction fields generalizing text rest with
  | nil => trivial
  | cons f fs ih =>
    obtain ⟨slot, before⟩ := before
    rw [fill] at h
    split at h
    · split at h
      · cases h
      · rename_i empty
        obtain ⟨more, -, h⟩ := bind_eq_ok_iff.mp h
        obtain ⟨⟨v, more⟩, -, h⟩ := bind_eq_ok_iff.mp h
        cases h
        refine ⟨fun w member => ?_, extends_refl fs before⟩
        exact absurd (Option.isSome_of_mem member) empty
    · obtain ⟨⟨later, more⟩, filled, h⟩ := bind_eq_ok_iff.mp h
      cases h
      exact ⟨fun _ member => member, ih filled⟩

theorem members_extends {fields : List Field} {levels fuel : Nat} {first : Bool}
    {before after : Slots fields} {text rest : List Char}
    (h : members fields levels fuel first before text = .ok (after, rest)) :
    Extends fields before after := by
  induction fuel generalizing first before text with
  | zero => cases h
  | succ fuel ih =>
    obtain ⟨⟨key, text⟩, -, h⟩ := bind_eq_ok_iff.mp h
    cases key with
    | none =>
      cases h
      exact extends_refl fields _
    | some k =>
      obtain ⟨⟨next, text⟩, filled, h⟩ := bind_eq_ok_iff.mp h
      exact (fill_extends filled).trans (ih h)

/-! ### Forms of records -/

theorem keyed_eq_ok_iff {fields : List Field} {levels : Nat} {text rest : List Char}
    {values : Values fields} :
    keyed fields levels text = .ok (values, rest) ↔
      ∃ slots more,
        members fields levels (text.length + 1) true (noSlots fields) text = .ok (slots, more) ∧
          complete fields slots = .ok values ∧ leaveObject more = (.ok (), rest) := by
  simp only [keyed, bind_eq_ok_iff]
  constructor
  · rintro ⟨⟨slots, more⟩, read, completed⟩
    dsimp only at completed
    split at completed
    · cases completed
    · rename_i vs found
      obtain ⟨⟨⟩, left, same⟩ := bind_eq_ok_iff.mp completed
      cases same
      exact ⟨slots, more, read, found, Prod.ext left rfl⟩
  · rintro ⟨slots, more, read, completed, left⟩
    refine ⟨_, read, ?_⟩
    simp only [completed, left, ok_bind]

theorem positional_eq_ok_iff {name : String} {fields : List Field} {levels : Nat}
    {text rest : List Char} {values : Values fields} :
    positional name fields levels text = .ok (values, rest) ↔
      ∃ more,
        ordered (name ++ " with " ++ String.ofList (Text.natural fields.length) ++ " elements") levels
            fields 0 text = .ok (values, more) ∧
          leaveArray more = (.ok (), rest) := by
  simp only [positional, bind_eq_ok_iff]
  constructor
  · rintro ⟨⟨vs, more⟩, read, ⟨⟩, left, same⟩
    cases same
    exact ⟨more, read, Prod.ext left rfl⟩
  · rintro ⟨more, read, left⟩
    exact ⟨_, read, (), by rw [left], by rw [left]⟩

/-- Fields without items have the values that they have without entries. -/
theorem remaining_eq_ok_iff {fields : List Field} (index : Nat) {values : Values fields} :
    remaining fields index = .ok values ↔ complete fields (noSlots fields) = .ok values := by
  induction fields generalizing index with
  | nil => exact ⟨fun _ => rfl, fun _ => rfl⟩
  | cons f fs ih =>
    rw [remaining, noSlots, complete]
    cases f.absent with
    | none => constructor <;> rintro ⟨⟩
    | some w =>
      -- The two differ in the type of their errors, so they are no instances of one equation.
      constructor
      · intro given
        obtain ⟨vs, others, same⟩ := bind_eq_ok_iff.mp given
        cases same
        exact bind_eq_ok_iff.mpr ⟨vs, (ih (index + 1)).mp others, rfl⟩
      · intro given
        obtain ⟨vs, others, same⟩ := bind_eq_ok_iff.mp given
        cases same
        exact bind_eq_ok_iff.mpr ⟨vs, (ih (index + 1)).mpr others, rfl⟩

/-! ### Records -/

/-- Two fields of one key whose readers agree. What the one has when it is left out is the image of
what the other has. -/
structure FieldAgreement (f g : Field) where
  image : f.Value → g.Value
  key : f.key = g.key
  absent : g.absent = f.absent.map image
  read : Agrees image f.read g.read

/-- Records whose fields agree one by one. -/
inductive Agreement : List Field → List Field → Type 1
  | nil : Agreement [] []
  | cons {f g : Field} {fs gs : List Field} (head : FieldAgreement f g) (tail : Agreement fs gs) :
      Agreement (f :: fs) (g :: gs)

def FieldAgreement.required (key : String) (h : Agrees image strict lenient) :
    FieldAgreement (Read.required key strict) (Read.required key lenient) :=
  ⟨image, rfl, rfl, h⟩

def FieldAgreement.defaulted (key : String) (v : α) (h : Agrees image strict lenient) :
    FieldAgreement (Read.defaulted key strict v) (Read.defaulted key lenient (image v)) :=
  ⟨image, rfl, rfl, h⟩

/-- What a field has in the end is the image of what the other has. -/
theorem FieldAgreement.orElse_absent {f g : Field} (h : FieldAgreement f g)
    (slot : Option f.Value) :
    (slot.map h.image <|> g.absent) = (slot <|> f.absent).map h.image := by
  rw [h.absent]
  cases slot <;> rfl

namespace Agreement

def values : {fs gs : List Field} → Agreement fs gs → Values fs → Values gs
  | _, _, .nil, _ => ()
  | _, _, .cons head tail, (v, vs) => (head.image v, tail.values vs)

def slots : {fs gs : List Field} → Agreement fs gs → Slots fs → Slots gs
  | _, _, .nil, _ => ()
  | _, _, .cons head tail, (slot, rest) => (slot.map head.image, tail.slots rest)

variable {fs gs : List Field} (h : Agreement fs gs)

theorem slots_noSlots : h.slots (noSlots fs) = noSlots gs := by
  induction h with
  | nil => rfl
  | cons head tail ih =>
    rw [noSlots, slots, ih]
    rfl

/-- What extends to an image is an image. -/
theorem exists_slots_of_extends {before : Slots gs} {after : Slots fs}
    (kept : Extends gs before (h.slots after)) : ∃ slots, h.slots slots = before := by
  induction h with
  | nil => exact ⟨(), rfl⟩
  | cons head tail ih =>
    obtain ⟨slot, before⟩ := before
    obtain ⟨last, after⟩ := after
    obtain ⟨here, others⟩ := kept
    obtain ⟨slots, rfl⟩ := ih others
    cases slot with
    | none => exact ⟨(none, slots), rfl⟩
    | some w =>
      obtain ⟨v, -, rfl⟩ := Option.map_eq_some_iff.mp (here w rfl)
      exact ⟨(some v, slots), rfl⟩

theorem widen_fill {key : String} {levels : Nat} {before after : Slots fs} {text rest : List Char}
    (filled : fill fs key levels before text = .ok (after, rest)) :
    fill gs key levels (h.slots before) text = .ok (h.slots after, rest) := by
  induction h generalizing text rest with
  | nil => exact filled
  | @cons f g fs gs head tail ih =>
    obtain ⟨slot, before⟩ := before
    rw [fill, head.key] at filled
    rw [slots, fill]
    split at filled
    · rename_i same
      rw [if_pos same]
      cases slot with
      | some v => cases filled
      | none =>
        obtain ⟨more, mark, filled⟩ := bind_eq_ok_iff.mp filled
        obtain ⟨⟨v, more⟩, read, filled⟩ := bind_eq_ok_iff.mp filled
        cases filled
        exact bind_eq_ok_iff.mpr ⟨_, mark, bind_eq_ok_iff.mpr ⟨_, head.read.widen read, rfl⟩⟩
    · rename_i other
      rw [if_neg other]
      obtain ⟨⟨next, more⟩, later, filled⟩ := bind_eq_ok_iff.mp filled
      cases filled
      exact bind_eq_ok_iff.mpr ⟨_, ih later, rfl⟩

theorem narrow_fill {key : String} {levels : Nat} {before after : Slots fs} {text rest : List Char}
    (filled : fill gs key levels (h.slots before) text = .ok (h.slots after, rest)) :
    ∃ last, h.slots last = h.slots after ∧ fill fs key levels before text = .ok (last, rest) := by
  induction h generalizing text rest with
  | nil => exact ⟨after, rfl, filled⟩
  | @cons f g fs gs head tail ih =>
    obtain ⟨slot, before⟩ := before
    obtain ⟨kept, after⟩ := after
    rw [slots, fill] at filled
    rw [fill, head.key]
    split at filled
    · rename_i same
      rw [if_pos same]
      cases slot with
      | some v => cases filled
      | none =>
        obtain ⟨more, mark, filled⟩ := bind_eq_ok_iff.mp filled
        obtain ⟨⟨w, more⟩, read, filled⟩ := bind_eq_ok_iff.mp filled
        obtain ⟨images, rfl⟩ := Prod.mk.inj (Except.ok.inj filled)
        obtain ⟨here, others⟩ := Prod.mk.inj images
        obtain ⟨v, rfl, rfl⟩ := Option.map_eq_some_iff.mp here.symm
        obtain ⟨u, image, read⟩ := head.read.narrow read
        refine ⟨(some u, before), Prod.ext (congrArg some image) others, ?_⟩
        exact bind_eq_ok_iff.mpr ⟨_, mark, bind_eq_ok_iff.mpr ⟨_, read, rfl⟩⟩
    · rename_i other
      rw [if_neg other]
      obtain ⟨⟨next, more⟩, later, filled⟩ := bind_eq_ok_iff.mp filled
      obtain ⟨images, rfl⟩ := Prod.mk.inj (Except.ok.inj filled)
      obtain ⟨here, rfl⟩ := Prod.mk.inj images
      obtain ⟨last, image, later⟩ := ih later
      exact ⟨(slot, last), Prod.ext here image, bind_eq_ok_iff.mpr ⟨_, later, rfl⟩⟩

theorem widen_members {levels fuel : Nat} {first : Bool} {before after : Slots fs}
    {text rest : List Char}
    (read : members fs levels fuel first before text = .ok (after, rest)) :
    members gs levels fuel first (h.slots before) text = .ok (h.slots after, rest) := by
  induction fuel generalizing first before text with
  | zero => cases read
  | succ fuel ih =>
    obtain ⟨⟨key, text⟩, next, read⟩ := bind_eq_ok_iff.mp read
    rw [members, next, ok_bind]
    cases key with
    | none =>
      cases read
      rfl
    | some k =>
      obtain ⟨⟨slots, text⟩, filled, read⟩ := bind_eq_ok_iff.mp read
      simp only [h.widen_fill filled, ok_bind, ih read]

theorem narrow_members {levels fuel : Nat} {first : Bool} {before after : Slots fs}
    {text rest : List Char}
    (read : members gs levels fuel first (h.slots before) text = .ok (h.slots after, rest)) :
    ∃ last, h.slots last = h.slots after ∧
      members fs levels fuel first before text = .ok (last, rest) := by
  induction fuel generalizing first before text with
  | zero => cases read
  | succ fuel ih =>
    obtain ⟨⟨key, text⟩, next, read⟩ := bind_eq_ok_iff.mp read
    rw [members, next, ok_bind]
    cases key with
    | none =>
      obtain ⟨same, rfl⟩ := Prod.mk.inj (Except.ok.inj read)
      exact ⟨before, same, rfl⟩
    | some k =>
      obtain ⟨⟨slots, text⟩, filled, read⟩ := bind_eq_ok_iff.mp read
      -- A slot keeps its value to the end, so this one holds an image as well.
      obtain ⟨slots, rfl⟩ := h.exists_slots_of_extends (members_extends read)
      obtain ⟨slots, same, filled⟩ := h.narrow_fill filled
      rw [← same] at read
      obtain ⟨last, image, read⟩ := ih read
      exact ⟨last, image, by simp only [filled, ok_bind, read]⟩

theorem widen_complete {slots : Slots fs} {values : Values fs}
    (completed : complete fs slots = .ok values) :
    complete gs (h.slots slots) = .ok (h.values values) := by
  induction h with
  | nil => rfl
  | cons head tail ih =>
    obtain ⟨slot, slots⟩ := slots
    rw [complete] at completed
    split at completed
    · cases completed
    · rename_i v given
      obtain ⟨vs, others, completed⟩ := bind_eq_ok_iff.mp completed
      cases completed
      rw [Agreement.slots, complete]
      simp only [head.orElse_absent, given, Option.map_some, ih others, ok_bind]
      rfl

theorem exists_slots_of_complete {slots : Slots gs} {values : Values fs}
    (completed : complete gs slots = .ok (h.values values)) : ∃ origin, h.slots origin = slots := by
  induction h with
  | nil => exact ⟨(), rfl⟩
  | cons head tail ih =>
    obtain ⟨slot, slots⟩ := slots
    obtain ⟨v, vs⟩ := values
    rw [complete] at completed
    split at completed
    · cases completed
    · rename_i w given
      obtain ⟨ws, others, completed⟩ := bind_eq_ok_iff.mp completed
      obtain ⟨rfl, rfl⟩ := Prod.mk.inj (Except.ok.inj completed)
      obtain ⟨origin, rfl⟩ := ih others
      cases slot with
      | none => exact ⟨(none, origin), rfl⟩
      | some w =>
        cases given
        exact ⟨(some v, origin), rfl⟩

theorem narrow_complete {slots : Slots fs} {values : Values fs}
    (completed : complete gs (h.slots slots) = .ok (h.values values)) :
    ∃ us, h.values us = h.values values ∧ complete fs slots = .ok us := by
  induction h with
  | nil => exact ⟨(), rfl, rfl⟩
  | cons head tail ih =>
    obtain ⟨slot, slots⟩ := slots
    obtain ⟨v, vs⟩ := values
    rw [Agreement.slots, complete] at completed
    simp only [head.orElse_absent] at completed
    split at completed
    · cases completed
    · rename_i w given
      obtain ⟨ws, others, completed⟩ := bind_eq_ok_iff.mp completed
      obtain ⟨here, rfl⟩ := Prod.mk.inj (Except.ok.inj completed)
      obtain ⟨u, found, rfl⟩ := Option.map_eq_some_iff.mp given
      obtain ⟨us, image, others⟩ := ih others
      refine ⟨(u, us), Prod.ext here image, ?_⟩
      rw [complete]
      simp only [found, others, ok_bind]

theorem widen_ordered {expected other : String} {levels index : Nat} {text rest : List Char}
    {values : Values fs} (read : ordered expected levels fs index text = .ok (values, rest)) :
    ordered other levels gs index text = .ok (h.values values, rest) := by
  induction h generalizing index text with
  | nil => exact read
  | @cons f g fs gs head tail ih =>
    obtain ⟨⟨more, text⟩, next, read⟩ := bind_eq_ok_iff.mp read
    rw [ordered, next, ok_bind]
    cases more with
    | true =>
      obtain ⟨⟨v, text⟩, first, read⟩ := bind_eq_ok_iff.mp read
      obtain ⟨⟨vs, text⟩, others, read⟩ := bind_eq_ok_iff.mp read
      cases read
      simp only [if_true, head.read.widen first, ih others, ok_bind]
      rfl
    | false =>
      dsimp only at read
      rw [if_neg Bool.false_ne_true] at read
      split at read
      · rename_i vs defaults
        cases read
        have image := (cons head tail).widen_complete ((remaining_eq_ok_iff index).mp defaults)
        rw [slots_noSlots, ← remaining_eq_ok_iff index] at image
        simp only [Bool.false_eq_true, if_false, image]
      · cases read

theorem narrow_ordered {expected other : String} {levels index : Nat} {text rest : List Char}
    {values : Values fs} (read : ordered other levels gs index text = .ok (h.values values, rest)) :
    ∃ us, h.values us = h.values values ∧
      ordered expected levels fs index text = .ok (us, rest) := by
  induction h generalizing index text with
  | nil => exact ⟨values, rfl, read⟩
  | @cons f g fs gs head tail ih =>
    obtain ⟨v, vs⟩ := values
    obtain ⟨⟨more, text⟩, next, read⟩ := bind_eq_ok_iff.mp read
    rw [ordered, next, ok_bind]
    cases more with
    | true =>
      obtain ⟨⟨w, text⟩, first, read⟩ := bind_eq_ok_iff.mp read
      obtain ⟨⟨ws, text⟩, others, read⟩ := bind_eq_ok_iff.mp read
      cases read
      obtain ⟨u, here, first⟩ := head.read.narrow first
      obtain ⟨us, later, others⟩ := ih others
      exact ⟨(u, us), Prod.ext here later, by simp only [if_true, first, others, ok_bind]⟩
    | false =>
      dsimp only at read
      rw [if_neg Bool.false_ne_true] at read
      split at read
      · rename_i ws defaults
        cases read
        rw [remaining_eq_ok_iff index, ← slots_noSlots (cons head tail)] at defaults
        obtain ⟨us, image, completed⟩ := (cons head tail).narrow_complete defaults
        rw [← remaining_eq_ok_iff index] at completed
        exact ⟨us, image, by simp only [Bool.false_eq_true, if_false, completed]⟩
      · cases read

/-- Records agree in both forms. -/
theorem record (name : String) :
    Agrees h.values (Read.record name fs) (Read.record name gs) where
  widen := by
    intro levels text rest values read
    unfold Read.record at read ⊢
    cases levels with
    | zero =>
      split at read
      · cases read
      · cases read
      · exact absurd read misplaced_ne_ok
    | succ levels =>
      split at read
      · obtain ⟨more, read, left⟩ := positional_eq_ok_iff.mp read
        exact positional_eq_ok_iff.mpr ⟨more, h.widen_ordered read, left⟩
      · obtain ⟨slots, more, read, completed, left⟩ := keyed_eq_ok_iff.mp read
        have read := h.widen_members read
        rw [h.slots_noSlots] at read
        exact keyed_eq_ok_iff.mpr ⟨_, more, read, h.widen_complete completed, left⟩
      · exact absurd read misplaced_ne_ok
  narrow := by
    intro levels text rest values read
    unfold Read.record at read ⊢
    cases levels with
    | zero =>
      split at read
      · cases read
      · cases read
      · exact absurd read misplaced_ne_ok
    | succ levels =>
      split at read
      · obtain ⟨more, read, left⟩ := positional_eq_ok_iff.mp read
        obtain ⟨us, image, read⟩ := h.narrow_ordered read
        exact ⟨us, image, positional_eq_ok_iff.mpr ⟨more, read, left⟩⟩
      · obtain ⟨slots, more, read, completed, left⟩ := keyed_eq_ok_iff.mp read
        obtain ⟨slots, rfl⟩ := h.exists_slots_of_complete completed
        rw [← h.slots_noSlots] at read
        obtain ⟨last, same, read⟩ := h.narrow_members read
        rw [← same] at completed
        obtain ⟨us, image, completed⟩ := h.narrow_complete completed
        exact ⟨us, image, keyed_eq_ok_iff.mpr ⟨last, more, read, completed, left⟩⟩
      · exact absurd read misplaced_ne_ok

end Agreement

/-! ### Tagged and mapped values -/

/-- A tagged value is read if its tag is known and it is read as the tag says, between braces. -/
theorem tagged_eq_ok_iff {τ : Type} {tag? : String → Option τ} {known : List String}
    {read : τ → Nat → Reader α} {levels : Nat} {text rest : List Char} {v : α} :
    Read.tagged tag? known read (levels + 1) text = .ok (v, rest) ↔
      ∃ inner name t after body last, dropSpace text = '\x7b' :: inner ∧
        nextKey true inner = .ok (some name, after) ∧ tag? name = some t ∧
        colon after = .ok body ∧ read t levels body = .ok (v, last) ∧
        dropSpace last = '\x7d' :: rest := by
  unfold Read.tagged
  dsimp only
  constructor
  · intro h
    split at h
    · rename_i inner opened
      obtain ⟨⟨w, last⟩, entry, h⟩ := bind_eq_ok_iff.mp h
      obtain ⟨⟨key, after⟩, next, entry⟩ := bind_eq_ok_iff.mp entry
      dsimp only at entry
      split at entry
      · cases entry
      · rename_i name
        obtain ⟨⟨t, more⟩, resolved, entry⟩ := bind_eq_ok_iff.mp entry
        obtain ⟨body, mark, entry⟩ := bind_eq_ok_iff.mp entry
        dsimp only at h
        split at resolved
        · rename_i found
          cases resolved
          split at h
          · rename_i closed
            cases h
            exact ⟨inner, name, t, after, body, last, opened, next, found, mark, entry, closed⟩
          · cases h
          · cases h
        · cases resolved
    · obtain ⟨name, -, h⟩ := bind_eq_ok_iff.mp h
      obtain ⟨t, -, h⟩ := bind_eq_ok_iff.mp h
      cases h
    · cases h
    · cases h
  · rintro ⟨inner, name, t, after, body, last, opened, next, found, mark, entry, closed⟩
    simp only [opened, nested, next, found, mark, entry, closed, ok_bind]

theorem tagged_zero_ne_ok {τ : Type} {tag? : String → Option τ} {known : List String}
    {read : τ → Nat → Reader α} {text rest : List Char} {v : α} :
    Read.tagged tag? known read 0 text ≠ .ok (v, rest) := by
  intro h
  unfold Read.tagged at h
  dsimp only at h
  split at h
  · cases h
  · obtain ⟨name, -, h⟩ := bind_eq_ok_iff.mp h
    obtain ⟨t, -, h⟩ := bind_eq_ok_iff.mp h
    cases h
  · cases h
  · cases h

theorem Agrees.tagged {τ : Type} {tag? : String → Option τ} {known : List String}
    {strict : τ → Nat → Reader α} {lenient : τ → Nat → Reader β}
    (h : ∀ t, Agrees image (strict t) (lenient t)) :
    Agrees image (Read.tagged tag? known strict) (Read.tagged tag? known lenient) where
  widen := by
    intro levels text rest v read
    cases levels with
    | zero => exact absurd read tagged_zero_ne_ok
    | succ levels =>
      obtain ⟨inner, name, t, after, body, last, opened, next, found, mark, entry, closed⟩ :=
        tagged_eq_ok_iff.mp read
      exact tagged_eq_ok_iff.mpr ⟨inner, name, t, after, body, last, opened, next, found, mark,
        (h t).widen entry, closed⟩
  narrow := by
    intro levels text rest v read
    cases levels with
    | zero => exact absurd read tagged_zero_ne_ok
    | succ levels =>
      obtain ⟨inner, name, t, after, body, last, opened, next, found, mark, entry, closed⟩ :=
        tagged_eq_ok_iff.mp read
      obtain ⟨u, same, entry⟩ := (h t).narrow entry
      exact ⟨u, same, tagged_eq_ok_iff.mpr ⟨inner, name, t, after, body, last, opened, next, found,
        mark, entry, closed⟩⟩

end PaintScript.Json.Read

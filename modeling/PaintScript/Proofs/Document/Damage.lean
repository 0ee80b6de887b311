import PaintScript.Proofs.Document.Agreement
import PaintScript.Proofs.Json.Refusal

/-!
# Damaged values

`Damaged` describes the texts of a value that has been damaged in one place: a key is repeated or
missing, a drawing has no shape or more than one, or a value is of another kind. The reader of a
record, a list or a drawing refuses all of them if the readers of its parts do.
-/

namespace PaintScript

open Json (IsArray IsInteger IsNull IsObject IsValue Reader Written)
open Json.Read (Complies Field Refuses SkipFields Skips Starts defaulted required)

/-! ### Damage -/

/-- The keys that may not be left out. -/
def requiredKeys : List String :=
  ["dimensions", "finalDimensions", "instructions", "sourceFile", "destinationFile", "from", "to",
    "size", "radius", "color", "x", "y", "width", "height"]

def textKeys : List String :=
  ["color", "sourceFile", "destinationFile", "format"]

def numberKeys : List String :=
  ["x", "y", "width", "height", "radius", "strokeWidth"]

def partKeys : List String :=
  ["dimensions", "finalDimensions", "instructions", "crop", "draw", "from", "to", "size"]

/-- Whether a text is of no kind that a key allows. Where numbers have to be integers, a number has
to be written as a plain one of 64 bits, and only the stroke width may be `null`. -/
inductive Misfits (integers : Bool) (k : String) (value : List Char) : Prop
  | text (named : k ∈ textKeys) (other : value.head? ≠ some '"')
  | number (strict : integers = true) (named : k ∈ numberKeys) (other : ∀ n, ¬ IsInteger n value)
      (present : k = "strokeWidth" → ¬ IsNull value)

theorem ofName?_of_mem_keys :
    ∀ k ∈ textKeys ++ numberKeys ++ partKeys, Shape.ofName? k = none := by
  decide

theorem Misfits.ne_tag {integers : Bool} {k : String} {value : List Char}
    (h : Misfits integers k value) (shape : Shape) : k ≠ shape.name := by
  have untagged : Shape.ofName? k = none := by
    refine ofName?_of_mem_keys k (List.mem_append_left _ ?_)
    cases h with
    | text named _ => exact List.mem_append_left _ named
    | number _ named _ _ => exact List.mem_append_right _ named
  rintro rfl
  rw [Shape.ofName?_name] at untagged
  cases untagged

/-- The texts of a value that has been damaged in one place. -/
inductive Damaged (integers : Bool) : Json → List Char → Prop
  /-- An entry is added whose key is there already. -/
  | repeated {front back : List (String × Json)} {e : Written} {text : List Char}
      (present : e.key ∈ (front ++ back).map Prod.fst)
      (layout : IsObject (front.map .ofEntry ++ e :: back.map .ofEntry) text) :
      Damaged integers (.object (front ++ back)) text
  /-- An entry is left out. -/
  | removed {front back : List (String × Json)} {k : String} {v : Json} {text : List Char}
      (required : k ∈ requiredKeys) (layout : IsObject ((front ++ back).map .ofEntry) text) :
      Damaged integers (.object (front ++ (k, v) :: back)) text
  /-- A value is replaced by one of another kind. -/
  | replaced {front back : List (String × Json)} {e : Written} {v : Json} {text : List Char}
      (misfits : Misfits integers e.key e.value)
      (layout : IsObject (front.map .ofEntry ++ e :: back.map .ofEntry) text) :
      Damaged integers (.object (front ++ (e.key, v) :: back)) text
  /-- A drawing loses its shape. -/
  | emptied {shape : Shape} {v : Json} {text : List Char} (layout : IsObject [] text) :
      Damaged integers (.object [(shape.name, v)]) text
  /-- A drawing gets a second key. -/
  | doubled {shape : Shape} {e : Written} {v : Json} {text : List Char}
      (layout : IsObject [.ofEntry (shape.name, v), e] text ∨
        IsObject [e, .ofEntry (shape.name, v)] text) :
      Damaged integers (.object [(shape.name, v)]) text
  /-- A drawing gets another key than a shape has. -/
  | retagged {shape : Shape} {e : Written} {v : Json} {text : List Char}
      (unknown : ∀ other : Shape, e.key ≠ other.name) (layout : IsObject [e] text) :
      Damaged integers (.object [(shape.name, v)]) text
  /-- The damage is in an item. -/
  | item {front back : List Json} {v : Json} {inner text : List Char}
      (damaged : Damaged integers v inner)
      (layout : IsArray (front.map Json.print ++ inner :: back.map Json.print) text) :
      Damaged integers (.array (front ++ v :: back)) text
  /-- The damage is in the value of an entry. -/
  | entry {front back : List (String × Json)} {k : String} {v : Json} {inner text : List Char}
      (damaged : Damaged integers v inner)
      (layout : IsObject (front.map .ofEntry ++ { Written.ofEntry (k, v) with value := inner } ::
        back.map .ofEntry) text) :
      Damaged integers (.object (front ++ (k, v) :: back)) text

/-- A damaged value is not `null`: it is an object or an array still. -/
theorem Damaged.starts {integers : Bool} {j : Json} {text : List Char}
    (h : Damaged integers j text) : Starts ['n'] text := by
  cases h with
  | repeated _ layout | removed _ layout | replaced _ layout | emptied layout | retagged _ layout
  | entry _ layout => exact layout.starts
  | doubled layout => exact layout.elim Json.IsObject.starts Json.IsObject.starts
  | item _ layout =>
    obtain ⟨body, -, rfl⟩ := layout
    exact ⟨'[', _, rfl, by decide, by decide⟩

theorem eq_of_append_cons {α : Type} {front back : List α} {a b : α}
    (h : front ++ a :: back = [b]) : front = [] ∧ back = [] ∧ a = b := by
  rcases List.append_eq_singleton_iff.mp h with ⟨rfl, same⟩ | ⟨-, same⟩
  · cases same
    exact ⟨rfl, rfl, rfl⟩
  · cases same

/-! ### Readers that notice damage -/

/-- Whether a reader refuses every text of a value that has been damaged. -/
structure Guards {α : Type} (integers : Bool) (read : Nat → Reader α) (j : Json) : Prop where
  isValue : IsValue j.print
  refuses : ∀ ⦃text⦄, Damaged integers j text → IsValue text ∧ ∀ levels, Refuses (read levels) text

/-- Whether a value that is missing, or of a kind that the key does not allow, is noticed. -/
structure GuardsField (integers : Bool) (f : Field) : Prop where
  skips : ∀ levels, Skips (f.read levels)
  needed : f.key ∈ requiredKeys → f.absent = none
  misfits : ∀ ⦃value⦄, IsValue value → Misfits integers f.key value →
    ∀ levels, Refuses (f.read levels) value
  untagged : Shape.ofName? f.key = none

/-- Entries in the order of the fields, each of which notices damage to its value. -/
inductive GuardsInOrder (integers : Bool) : List Field → List (String × Json) → Prop
  | nil : GuardsInOrder integers [] []
  | entry {f : Field} {fs : List Field} {j : Json} {entries : List (String × Json)}
      (field : GuardsField integers f) (guards : Guards integers f.read j)
      (others : GuardsInOrder integers fs entries) :
      GuardsInOrder integers (f :: fs) ((f.key, j) :: entries)
  | absent {f : Field} {fs : List Field} {entries : List (String × Json)}
      (field : GuardsField integers f) (others : GuardsInOrder integers fs entries) :
      GuardsInOrder integers (f :: fs) entries

namespace GuardsInOrder

variable {integers : Bool} {fields : List Field} {entries : List (String × Json)}

theorem keys_sublist (h : GuardsInOrder integers fields entries) :
    (entries.map Prod.fst).Sublist (fields.map Field.key) := by
  induction h with
  | nil => exact List.Sublist.refl []
  | entry _ _ _ ih => exact ih.cons_cons _
  | absent _ _ ih => exact ih.cons _

theorem guardsField (h : GuardsInOrder integers fields entries) :
    ∀ f ∈ fields, GuardsField integers f := by
  induction h with
  | nil => exact List.forall_mem_nil _
  | entry field _ _ ih | absent field _ ih => exact List.forall_mem_cons.mpr ⟨field, ih⟩

theorem exists_field (h : GuardsInOrder integers fields entries) :
    ∀ e ∈ entries, ∃ f ∈ fields, f.key = e.1 ∧ Guards integers f.read e.2 := by
  induction h with
  | nil => exact List.forall_mem_nil _
  | entry _ guards _ ih =>
    refine List.forall_mem_cons.mpr ⟨⟨_, List.mem_cons_self, rfl, guards⟩, fun e member => ?_⟩
    obtain ⟨f, there, given⟩ := ih e member
    exact ⟨f, List.mem_cons_of_mem _ there, given⟩
  | absent _ _ ih =>
    intro e member
    obtain ⟨f, there, given⟩ := ih e member
    exact ⟨f, List.mem_cons_of_mem _ there, given⟩

/-- A record is not a drawing. -/
theorem ne_tag (h : GuardsInOrder integers fields entries) (shape : Shape) :
    ∀ e ∈ entries, e.1 ≠ shape.name := by
  intro e member same
  obtain ⟨f, there, key, -⟩ := h.exists_field e member
  have untagged := (h.guardsField f there).untagged
  rw [key, same, Shape.ofName?_name] at untagged
  cases untagged

/-- Damage to an object leaves one whose entries do not comply with the fields. -/
theorem not_complies (h : GuardsInOrder integers fields entries)
    (distinct : (fields.map Field.key).Nodup) {text : List Char}
    (damaged : Damaged integers (.object entries) text) :
    ∃ ws, IsObject ws text ∧ ∀ below, ¬ Complies below fields ws := by
  cases damaged with
  | @repeated front back e _ present layout =>
    refine ⟨_, layout, fun below complies => ?_⟩
    have other := complies.key_notMem (h.keys_sublist.subset present)
    rw [← List.map_append, Written.map_key_ofEntry] at other
    exact other present
  | @removed front back k v _ required layout =>
    refine ⟨_, layout, fun below complies => ?_⟩
    obtain ⟨f, member, key, -⟩ := h.exists_field (k, v) List.mem_append_cons_self
    have needed := (h.guardsField f member).needed (key ▸ required)
    have present := complies.covered f member needed
    rw [Written.map_key_ofEntry, key] at present
    have unique := h.keys_sublist.nodup distinct
    rw [List.map_append, List.map_cons, List.nodup_middle, ← List.map_append] at unique
    exact (List.nodup_cons.mp unique).1 present
  | @replaced front back e v _ misfits layout =>
    refine ⟨_, layout, fun below complies => ?_⟩
    obtain ⟨f, member, key, -⟩ := h.exists_field (e.key, v) List.mem_append_cons_self
    have here : e ∈ front.map Written.ofEntry ++ e :: back.map .ofEntry := List.mem_append_cons_self
    have refuses := (h.guardsField f member).misfits (layout.1 e here).2 (key ▸ misfits) below
    exact complies.values e here f member key refuses
  -- These three happen to drawings only, whose key is no key of a record.
  | emptied layout => exact absurd rfl (h.ne_tag _ _ List.mem_cons_self)
  | doubled layout => exact absurd rfl (h.ne_tag _ _ List.mem_cons_self)
  | retagged unknown layout => exact absurd rfl (h.ne_tag _ _ List.mem_cons_self)
  | @entry front back k v inner _ damaged layout =>
    refine ⟨_, layout, fun below complies => ?_⟩
    obtain ⟨f, member, key, guards⟩ := h.exists_field (k, v) List.mem_append_cons_self
    exact complies.values _ List.mem_append_cons_self f member key
      ((guards.refuses damaged).2 below)

theorem record (h : GuardsInOrder integers fields entries) (name : String)
    (distinct : (fields.map Field.key).Nodup) :
    Guards integers (Json.Read.record name fields) (.object entries) := by
  have skips : SkipFields fields := fun f member => (h.guardsField f member).skips
  refine ⟨?_, fun text damaged => ?_⟩
  · refine (Json.isObject_print fun e member => ?_).isValue
    obtain ⟨f, -, -, guards⟩ := h.exists_field e member
    exact guards.isValue
  · obtain ⟨ws, layout, complies⟩ := h.not_complies distinct damaged
    exact ⟨layout.isValue, Json.Read.refuses_record distinct skips name layout complies⟩

end GuardsInOrder

theorem Json.Read.Skips.map {α β : Type} {read : Nat → Reader α} {levels : Nat}
    (h : Skips (read levels)) (f : α → β) : Skips (Reader.map f read levels) := by
  intro text v rest mapped
  obtain ⟨a, read, -⟩ := map_read mapped
  exact h read

theorem Json.Read.Refuses.map {α β : Type} {read : Nat → Reader α} {levels : Nat} {text : List Char}
    (h : Refuses (read levels) text) (f : α → β) : Refuses (Reader.map f read levels) text := by
  intro spaces rest v after left ends mapped
  obtain ⟨a, read, -⟩ := map_read mapped
  exact h left ends read

namespace Guards

variable {α β : Type} {integers : Bool} {read : Nat → Reader α} {j : Json}

theorem map (h : Guards integers read j) (f : α → β) : Guards integers (Reader.map f read) j where
  isValue := h.isValue
  refuses _ damaged :=
    let ⟨isValue, refuses⟩ := h.refuses damaged
    ⟨isValue, fun levels => (refuses levels).map f⟩

theorem optional (h : Guards integers read j) : Guards integers (Json.Read.optional read) j where
  isValue := h.isValue
  refuses _ damaged :=
    let ⟨isValue, refuses⟩ := h.refuses damaged
    ⟨isValue, fun levels => (refuses levels).optional damaged.starts⟩

theorem list {js : List Json} (skips : ∀ levels, Skips (read levels))
    (all : ∀ j ∈ js, Guards integers read j) :
    Guards integers (Json.Read.list read) (.array js) := by
  have values : ∀ j ∈ js, IsValue j.print := fun j member => (all j member).isValue
  refine ⟨?_, fun text damaged => ?_⟩
  · rw [Json.print]
    exact .array (List.forall_mem_map.mpr values) (Json.separated_printItems js)
  · cases damaged with
    | @item front back v inner _ damaged layout =>
      obtain ⟨before, behind⟩ := List.forall_mem_append.mp values
      obtain ⟨-, after⟩ := List.forall_mem_cons.mp behind
      obtain ⟨isValue, refuses⟩ := (all v List.mem_append_cons_self).refuses damaged
      have items : ∀ item ∈ front.map Json.print ++ inner :: back.map Json.print, IsValue item :=
        List.forall_mem_append.mpr ⟨List.forall_mem_map.mpr before,
          List.forall_mem_cons.mpr ⟨isValue, List.forall_mem_map.mpr after⟩⟩
      exact ⟨layout.isValue items,
        Json.Read.refuses_list skips items layout List.mem_append_cons_self refuses⟩

/-- Whether an entry that stands alone has no tag of a shape or is refused as its tag says. -/
def RefusesAlone (body : Shape → Nat → Reader α) (entries : List Written) : Prop :=
  ∀ e shape below, entries = [e] → Shape.ofName? e.key = some shape →
    Refuses (body shape below) e.value

theorem refusesAlone_of_length {body : Shape → Nat → Reader α} {entries : List Written}
    (h : entries.length ≠ 1) : RefusesAlone body entries :=
  fun _ _ _ alone => absurd (congrArg List.length alone) h

/-- Damage to a drawing leaves no entry that stands alone and is accepted. -/
theorem refusesAlone {body : Shape → Nat → Reader α} {shape : Shape}
    (h : Guards integers (body shape) j) {text : List Char}
    (damaged : Damaged integers (.object [(shape.name, j)]) text) :
    ∃ ws, IsObject ws text ∧ RefusesAlone body ws := by
  -- The two entries of a repeated key cannot stand alone, nor can none or a second one.
  generalize whole : Json.object [(shape.name, j)] = v at damaged
  cases damaged with
  | @repeated front back e _ _ layout =>
    refine ⟨_, layout, refusesAlone_of_length ?_⟩
    have count := congrArg List.length (Json.object.inj whole)
    simp only [List.length_append, List.length_cons, List.length_map, List.length_nil] at count ⊢
    omega
  | @removed front back k w _ _ layout =>
    obtain ⟨rfl, rfl, -⟩ := eq_of_append_cons (Json.object.inj whole).symm
    exact ⟨_, layout, refusesAlone_of_length (by decide)⟩
  | @replaced front back e w _ misfits layout =>
    obtain ⟨-, -, same⟩ := eq_of_append_cons (Json.object.inj whole).symm
    exact absurd (congrArg Prod.fst same) (misfits.ne_tag shape)
  | emptied layout => exact ⟨_, layout, refusesAlone_of_length Nat.zero_ne_one⟩
  | doubled layout =>
    obtain layout | layout := layout
    · exact ⟨_, layout, refusesAlone_of_length (Nat.succ_succ_ne_one 0)⟩
    · exact ⟨_, layout, refusesAlone_of_length (Nat.succ_succ_ne_one 0)⟩
  | @retagged _ e _ _ unknown layout =>
    refine ⟨_, layout, fun f other below alone known => ?_⟩
    cases alone
    exact absurd (Shape.eq_name_of_ofName? known) (unknown other)
  | @entry front back k w inner _ damaged layout =>
    obtain ⟨rfl, rfl, same⟩ := eq_of_append_cons (Json.object.inj whole).symm
    cases same
    refine ⟨_, layout, fun f other below alone known => ?_⟩
    cases alone
    rw [Written.ofEntry, Shape.ofName?_name] at known
    cases known
    exact (h.refuses damaged).2 below
  | item => cases whole

theorem tagged {tags : List String} {body : Shape → Nat → Reader α} {shape : Shape}
    (skips : ∀ other levels, Skips (body other levels)) (h : Guards integers (body shape) j) :
    Guards integers (Json.Read.tagged Shape.ofName? tags body) (.object [(shape.name, j)]) := by
  have single : ∀ e ∈ [(shape.name, j)], IsValue e.2.print :=
    List.forall_mem_singleton.mpr h.isValue
  refine ⟨(Json.isObject_print single).isValue, fun text damaged => ?_⟩
  obtain ⟨ws, layout, refuses⟩ := h.refusesAlone damaged
  exact ⟨layout.isValue, Json.Read.refuses_tagged skips layout refuses⟩

theorem integer (read : Nat → Reader α) (n : Int64) : Guards integers read (integerJson n) := by
  refine ⟨?_, fun text damaged => by cases damaged⟩
  rw [integerJson, Json.print]
  exact .number (Json.isNumeral_integer n.toInt)

theorem string (read : Nat → Reader α) (s : String) : Guards integers read (.string s) := by
  refine ⟨?_, fun text damaged => by cases damaged⟩
  rw [Json.print, Json.printString]
  exact .string (Json.spells_flatMap_escape s.toList).closesString

end Guards

/-! ### Fields -/

/-- Whether a reader of numbers refuses whatever is not an integer, if this is asked of it. -/
structure GuardsNumber {N : Type} (integers : Bool) (number : Nat → Reader N) : Prop where
  skips : ∀ levels, Skips (number levels)
  misfits : integers = true → ∀ ⦃value⦄, IsValue value → (∀ n, ¬ IsInteger n value) →
    ∀ levels, Refuses (number levels) value

theorem integerRead_guards (integers : Bool) : GuardsNumber integers integerRead :=
  ⟨fun _ => Json.Read.skips_int64, fun _ _ isValue other _ =>
    Json.Read.refuses_int64 isValue other⟩

theorem Numeric.read_guards : GuardsNumber false Numeric.read :=
  ⟨fun levels => Skips.map (Json.Read.skips_value levels) Numeric.ofJson,
    fun strict => by cases strict⟩

theorem notMem_keys_of_mem_textKeys : ∀ k ∈ textKeys, k ∉ numberKeys ++ partKeys := by
  decide

theorem notMem_numberKeys_of_mem_partKeys : ∀ k ∈ partKeys, k ∉ numberKeys := by
  decide

namespace GuardsField

variable {α N : Type} {integers : Bool} {key : String} {read : Nat → Reader α} {absent : Option α}
  (needed : absent = none ∨ key ∉ requiredKeys) (skips : ∀ levels, Skips (read levels))

include needed skips

theorem part (named : key ∈ partKeys) : GuardsField integers ⟨key, α, read, absent⟩ where
  skips := skips
  needed required := needed.resolve_right fun other => other required
  misfits value _ misfits := by
    cases misfits with
    | text text _ =>
      exact absurd (List.mem_append_right _ named) (notMem_keys_of_mem_textKeys _ text)
    | number _ number _ _ => exact absurd number (notMem_numberKeys_of_mem_partKeys _ named)
  untagged := ofName?_of_mem_keys key (List.mem_append_right _ named)

theorem text (named : key ∈ textKeys)
    (refuses : ∀ levels ⦃value⦄, IsValue value → value.head? ≠ some '"' →
      Refuses (read levels) value) : GuardsField integers ⟨key, α, read, absent⟩ where
  skips := skips
  needed required := needed.resolve_right fun other => other required
  misfits value isValue misfits levels := by
    cases misfits with
    | text _ other => exact refuses levels isValue other
    | number _ number _ _ =>
      exact absurd (List.mem_append_left _ number) (notMem_keys_of_mem_textKeys _ named)
  untagged := ofName?_of_mem_keys key (List.mem_append_left _ (List.mem_append_left _ named))

omit needed skips

theorem number {number : Nat → Reader N} (named : key ∈ numberKeys)
    (h : GuardsNumber integers number) : GuardsField integers (required key number) where
  skips := h.skips
  needed _ := rfl
  misfits value isValue misfits levels := by
    cases misfits with
    | text text _ =>
      exact absurd (List.mem_append_left _ named) (notMem_keys_of_mem_textKeys _ text)
    | number strict _ other _ => exact h.misfits strict isValue other levels
  untagged := ofName?_of_mem_keys key (List.mem_append_left _ (List.mem_append_right _ named))

/-- The stroke width may be `null`, and it may be left out. -/
theorem strokeWidth {number : Nat → Reader N} (h : GuardsNumber integers number) :
    GuardsField integers (defaulted "strokeWidth" (Json.Read.optional number) none) where
  skips levels := (h.skips levels).optional
  needed required := absurd required (show "strokeWidth" ∉ requiredKeys by decide)
  misfits value isValue misfits levels := by
    cases misfits with
    | text text _ => exact absurd text (show "strokeWidth" ∉ textKeys by decide)
    | number strict _ other present =>
      have front := isValue.starts_of_not_isNull (present rfl)
      exact (h.misfits strict isValue other levels).optional front
  untagged := show Shape.ofName? "strokeWidth" = none by decide

theorem color : GuardsField integers (required "color" Color.read) :=
  .text (Or.inl rfl) (fun _ => Skips.map (Json.Read.skips_text _) Color.mk) (by decide)
    fun _ _ isValue other => Refuses.map (Json.Read.refuses_text isValue other) Color.mk

end GuardsField

end PaintScript

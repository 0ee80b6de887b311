import PaintScript.Proofs.Json.Agreement
import PaintScript.Proofs.Json.Record

/-!
# Layouts of a text

A value may be laid out in many texts. `IsRecord` describes all texts of a record: an object whose
entries come in any order and among unknown ones, or an array of all values, with spaces around the
tokens. A reader that reads every text of the parts reads every text of the whole.
-/

namespace PaintScript.Json

open Read

variable {α β : Type}

/-! ### Texts of parts -/

def IsInteger (n : Int64) (text : List Char) : Prop :=
  text = Text.integer n.toInt

def IsNull (text : List Char) : Prop :=
  text = ['n', 'u', 'l', 'l']

def IsOptional (IsText : β → List Char → Prop) : Option β → List Char → Prop
  | none => IsNull
  | some v => IsText v

/-- An array of the given texts. -/
def IsArray (items : List (List Char)) (text : List Char) : Prop :=
  ∃ body, Separated true items body ∧ text = '[' :: (body ++ [']'])

/-- An array with a text for each of the given values. -/
def IsList (IsText : β → List Char → Prop) (vs : List β) (text : List Char) : Prop :=
  ∃ items, List.Forall₂ IsText vs items ∧ IsArray items text

/-- A field of a record: its key, the texts of its value, and whether it may be left out. -/
structure Form where
  key : String
  IsText : List Char → Prop
  mayBeAbsent : Prop

def Form.required (key : String) (IsText : List Char → Prop) : Form :=
  ⟨key, IsText, False⟩

/-- An entry of an object, with its key: one of the given fields or an unknown one. -/
inductive IsEntry (forms : List Form) : String → List Char → Prop
  | known {form : Form} {head value : List Char} (member : form ∈ forms)
      (key : IsKey form.key head) (text : form.IsText value) :
      IsEntry forms form.key (head ++ value)
  | unknown {k : String} {head value : List Char} (other : k ∉ forms.map Form.key)
      (key : IsKey k head) (text : IsValue value) : IsEntry forms k (head ++ value)

/-- A text of a record: the array of all its values, or an object that has each field once. A field
that may be absent may be missing in the object. -/
inductive IsRecord (forms : List Form) : List Char → Prop
  | array {items : List (List Char)} {text : List Char}
      (values : List.Forall₂ Form.IsText forms items) (layout : IsArray items text) :
      IsRecord forms text
  | object {keys : List String} {entries : List (List Char)} {body : List Char}
      (each : List.Forall₂ (IsEntry forms) keys entries)
      (once : ∀ form ∈ forms, keys.count form.key = 1 ∨ form.mayBeAbsent ∧ form.key ∉ keys)
      (separated : Separated true entries body) : IsRecord forms ('\x7b' :: (body ++ ['\x7d']))

/-- A text of an object with one entry, whose key is a tag. -/
def IsTagged (tag : String) (IsText : List Char → Prop) (text : List Char) : Prop :=
  ∃ before head value after, IsSpaces before ∧ IsKey tag head ∧ IsText value ∧ IsSpaces after ∧
    text = '\x7b' :: (before ++ (head ++ (value ++ (after ++ ['\x7d']))))

/-! ### Reading -/

/-- Whether all texts of a kind are read as one value, after any spaces. -/
structure Presents (IsText : List Char → Prop) (read : Reader α) (v : α) : Prop where
  starts : ∀ text, IsText text → Starts [']'] text
  reads : ∀ text, IsText text → ∀ spaces, IsSpaces spaces → Reads read (spaces ++ text) v

theorem Presents.read {IsText : List Char → Prop} {read : Reader α} {v : α}
    (h : Presents IsText read v) {text : List Char} (given : IsText text) : Reads read text v :=
  h.reads text given [] (List.forall_mem_nil _)

namespace Read

theorem presents_string (expected s : String) :
    Presents (IsString s) (Read.text expected) s where
  starts := by
    rintro _ ⟨inside, -, rfl⟩
    exact ⟨'"', inside, rfl, by decide, by decide⟩
  reads := by
    rintro _ ⟨inside, spells, rfl⟩ spaces left rest -
    rw [List.append_assoc, Read.text, dropSpace_append left, List.cons_append,
      dropSpace_cons (by decide)]
    exact string_append spells rest

/-! ### Integers and optional values -/

theorem presents_integer (n : Int64) : Presents (IsInteger n) int64 n where
  starts := by
    rintro _ rfl
    exact (isNumeral_integer n.toInt).starts (by decide)
  reads := by
    rintro _ rfl spaces left rest ends
    rw [List.append_assoc, int64, dropSpace_append left]
    exact reads_int64 n rest ends

theorem presents_null (read : Nat → Reader α) (levels : Nat) :
    Presents IsNull (optional read levels) none where
  starts := by
    rintro _ rfl
    exact ⟨'n', _, rfl, by decide, by decide⟩
  reads := by
    rintro _ rfl spaces left rest -
    rw [List.append_assoc, optional, dropSpace_append left]
    rfl

theorem presents_some {IsText : List Char → Prop} {read : Nat → Reader α} {levels : Nat} {v : α}
    (h : Presents IsText (read levels) v) (present : ∀ text, IsText text → Starts ['n'] text) :
    Presents IsText (optional read levels) (some v) where
  starts := h.starts
  reads := by
    intro text given spaces left rest ends
    have read := (h.read given).optional (present text given) rest ends
    rw [List.append_assoc, optional, dropSpace_append left]
    exact read

theorem presents_list {IsText : α → List Char → Prop} {item : Nat → Reader α} {levels : Nat}
    {vs : List α} (h : ∀ v ∈ vs, Presents (IsText v) (item levels) v) :
    Presents (IsList IsText vs) (list item (levels + 1)) vs where
  starts := by
    rintro _ ⟨items, -, body, -, rfl⟩
    exact ⟨'[', _, rfl, by decide, by decide⟩
  reads := by
    rintro _ ⟨items, texts, body, separated, rfl⟩ spaces left
    have starts : ∀ text ∈ items, Starts [']'] text := by
      intro text member
      obtain ⟨v, there, given⟩ := exists_of_mem_right texts member
      exact (h v there).starts text given
    have all : List.Forall₂ (Reads (item levels)) items vs :=
      (forall₂_imp_of_mem texts fun v member _ given => (h v member).read given).flip
    exact list_separated separated starts all left

/-! ### Arrays of fields -/

/-- Whether the texts of each field are read as its value, and whether a field that may be absent
has this value as its default. -/
inductive Fits (levels : Nat) : List Form → (fields : List Field) → Values fields → Prop
  | nil : Fits levels [] [] ()
  | cons {form : Form} {field : Field} {v : field.Value} {forms : List Form} {fields : List Field}
      {vs : Values fields} (key : form.key = field.key)
      (presents : Presents form.IsText (field.read levels) v)
      (absent : form.mayBeAbsent → field.absent = some v) (others : Fits levels forms fields vs) :
      Fits levels (form :: forms) (field :: fields) (v, vs)

variable {levels : Nat} {forms : List Form} {fields : List Field} {values : Values fields}

theorem ordered_separated (expected : String) (h : Fits levels forms fields values)
    {texts : List (List Char)} {body : List Char}
    (given : List.Forall₂ Form.IsText forms texts) {index : Nat}
    (separated : Separated (index == 0) texts body) (rest : List Char) :
    ∃ spaces, IsSpaces spaces ∧
      ordered expected levels fields index (body ++ ']' :: rest) =
        .ok (values, spaces ++ ']' :: rest) := by
  induction h generalizing texts body index with
  | nil =>
    cases given
    cases separated with
    | nil spaces => exact ⟨_, spaces, rfl⟩
  | @cons form field v forms fields vs key presents absent others ih =>
    cases given with
    | @cons _ text _ texts here given =>
      cases separated with
      | @cons _ _ after' before after _ left right separated =>
        have start := presents.starts text here
        have ends : EndsNumber (after' ++ ']' :: rest) :=
          endsNumber_separated separated (endsNumber_cons (by decide))
        have next := nextItem_separated (index == 0) left right start (after' ++ ']' :: rest)
        have later : Separated (index + 1 == 0) texts after' := separated
        obtain ⟨spaces, blank, tail⟩ := ih given later
        refine ⟨spaces, blank, ?_⟩
        simp only [List.append_assoc]
        rw [ordered, next, ok_bind]
        simp only [if_true, presents.read here _ ends, ok_bind, tail]

theorem leaveArray_spaces {spaces : List Char} (h : IsSpaces spaces) (rest : List Char) :
    leaveArray (spaces ++ ']' :: rest) = (.ok (), rest) := by
  rw [leaveArray, dropSpace_append h, dropSpace_cons (by decide)]
  rfl

theorem positional_separated (name : String) (h : Fits levels forms fields values)
    {texts : List (List Char)} {body : List Char}
    (given : List.Forall₂ Form.IsText forms texts) (separated : Separated true texts body)
    (rest : List Char) : positional name fields levels (body ++ ']' :: rest) = .ok (values, rest) := by
  have first : Separated (0 == 0) texts body := separated
  obtain ⟨spaces, blank, read⟩ := ordered_separated
    (name ++ " with " ++ String.ofList (Text.natural fields.length) ++ " elements") h given first rest
  rw [positional]
  simp only [read, ok_bind, leaveArray_spaces blank]

/-! ### Objects of fields -/

/-- The value of an unknown key is skipped. -/
theorem fill_unknown {k : String} (other : k ∉ fields.map Field.key) {slots : Slots fields}
    {after more rest : List Char} (mark : colon after = .ok more) (skipped : skip more = .ok rest) :
    fill fields k levels slots after = .ok (slots, rest) := by
  induction fields with
  | nil =>
    rw [fill, mark, ok_bind, skipped]
    rfl
  | cons f fs ih =>
    obtain ⟨slot, slots⟩ := slots
    rw [List.map_cons, List.mem_cons, not_or] at other
    rw [fill, if_neg other.1, ih other.2, ok_bind]

theorem fills_known (distinct : (fields.map Field.key).Nodup) {k : String} {head value : List Char}
    (known : k ∈ fields.map Field.key) (isKey : IsKey k head)
    (gives : ∀ spaces, IsSpaces spaces → Gives levels k (spaces ++ value) fields values) :
    Fills levels values k (head ++ value) := by
  obtain ⟨inside, spells, before, after, left, right, rfl⟩ := isKey
  refine ⟨inside, before ++ ':' :: (after ++ value), spells, by simp, ?_⟩
  intro done rest fresh ends
  have mark : colon (before ++ ':' :: (after ++ value) ++ rest) = .ok ((after ++ value) ++ rest) := by
    rw [List.append_assoc, List.cons_append]
    exact colon_append left _
  exact fill_filled distinct (fresh known) (gives after right) mark ends

theorem fills_unknown {k : String} {head value : List Char} (other : k ∉ fields.map Field.key)
    (isKey : IsKey k head) (isValue : IsValue value) : Fills levels values k (head ++ value) := by
  obtain ⟨inside, spells, before, after, left, right, rfl⟩ := isKey
  refine ⟨inside, before ++ ':' :: (after ++ value), spells, by simp, ?_⟩
  intro done rest _ ends
  have mark : colon (before ++ ':' :: (after ++ value) ++ rest) = .ok (after ++ (value ++ rest)) := by
    rw [List.append_assoc, List.cons_append, List.append_assoc]
    exact colon_append left _
  rw [filled_append_of_notMem other]
  exact fill_unknown other mark (skip_append isValue right ends)

/-! ### Records and tagged values -/

namespace Fits

theorem keys_eq (h : Fits levels forms fields values) :
    forms.map Form.key = fields.map Field.key := by
  induction h with
  | nil => rfl
  | cons key _ _ _ ih => rw [List.map_cons, List.map_cons, key, ih]

theorem gives (h : Fits levels forms fields values) (distinct : (fields.map Field.key).Nodup)
    {form : Form} (member : form ∈ forms) {value : List Char} (text : form.IsText value)
    {spaces : List Char} (left : IsSpaces spaces) :
    Gives levels form.key (spaces ++ value) fields values := by
  induction h with
  | nil => exact absurd member List.not_mem_nil
  | @cons first field v forms fields vs key presents _ others ih =>
    obtain ⟨fresh, distinct⟩ := List.nodup_cons.mp distinct
    rw [Gives]
    rcases List.mem_cons.mp member with rfl | later
    · rw [if_pos key]
      exact presents.reads value text spaces left
    · have other : form.key ≠ field.key := by
        intro same
        exact fresh (others.keys_eq ▸ same ▸ List.mem_map_of_mem later)
      rw [if_neg other]
      exact ih distinct later

theorem covered (h : Fits levels forms fields values) {keys : List String}
    (present : ∀ form ∈ forms, form.key ∈ keys ∨ form.mayBeAbsent) : Covered keys fields values := by
  induction h with
  | nil => trivial
  | cons key _ absent _ ih =>
    obtain ⟨here, others⟩ := List.forall_mem_cons.mp present
    exact ⟨here.imp (fun member => key ▸ member) absent, ih others⟩

/-- Every text of a record is read, if every text of its fields is. -/
theorem presents (name : String) (h : Fits levels forms fields values)
    (distinct : (forms.map Form.key).Nodup) :
    Presents (IsRecord forms) (record name fields (levels + 1)) values where
  starts := by
    rintro _ (⟨_, body, _, rfl⟩ | ⟨_, _, _⟩)
    · exact ⟨'[', _, rfl, by decide, by decide⟩
    · exact ⟨'\x7b', _, rfl, by decide, by decide⟩
  reads := by
    rw [h.keys_eq] at distinct
    rintro _ (⟨given, body, separated, rfl⟩ | @⟨keys, entries, body, each, once, separated⟩)
      spaces left
    · intro rest _
      rw [List.append_assoc, record, dropSpace_append left, List.cons_append, List.append_assoc,
        List.singleton_append, dropSpace_cons (by decide)]
      exact positional_separated name h given separated rest
    · have fills : List.Forall₂ (Fills levels values) keys entries := by
        refine each.imp fun k text entry => ?_
        cases entry with
        | known member isKey text =>
          have known := h.keys_eq ▸ List.mem_map_of_mem member
          exact fills_known distinct known isKey fun _ spaces => h.gives distinct member text spaces
        | unknown other isKey isValue => exact fills_unknown (h.keys_eq ▸ other) isKey isValue
      have atMost : ∀ k ∈ fields.map Field.key, keys.count k ≤ 1 := by
        rw [← h.keys_eq]
        intro k member
        obtain ⟨form, there, rfl⟩ := List.mem_map.mp member
        rcases once form there with one | ⟨-, none⟩
        · exact one.le
        · rw [List.count_eq_zero.mpr none]
          exact Nat.zero_le 1
      have covered : Covered keys fields values := by
        refine h.covered fun form there => ?_
        rcases once form there with one | ⟨absent, -⟩
        · exact Or.inl (List.count_pos_iff.mp (by omega))
        · exact Or.inr absent
      exact record_separated name separated fills atMost covered left

end Fits

theorem presents_tagged {τ : Type} {tag? : String → Option τ} {known : List String}
    {read : τ → Nat → Reader α} {name : String} {t : τ} {IsText : List Char → Prop} {v : α}
    (tag : tag? name = some t) (h : Presents IsText (read t levels) v) :
    Presents (IsTagged name IsText) (tagged tag? known read (levels + 1)) v where
  starts := by
    rintro _ ⟨before, head, value, after, -, -, -, -, rfl⟩
    exact ⟨'\x7b', _, rfl, by decide, by decide⟩
  reads := by
    rintro _ ⟨before, _, value, after, left, ⟨inside, spells, first, second, one, two, rfl⟩, text,
      right, rfl⟩ spaces blank
    have spaced : Reads (tagged tag? known read (levels + 1)) _ v :=
      tagged_separated tag blank left spells one (h.reads value text second two) right
    simp only [List.append_assoc, List.cons_append] at spaced ⊢
    exact spaced

end Read
end PaintScript.Json

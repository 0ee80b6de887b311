import Mathlib.Data.List.Nodup
import PaintScript.Proofs.Json.Agreement
import PaintScript.Proofs.Json.Reads

/-!
# Records that are read

An object is read as a record whatever the order of its entries, if each entry fills the slot of its
key and each field without an entry has its default.
-/

namespace PaintScript.Json.Read

/-! ### Slots -/

/-- The slots of a record whose values are known, after the entries with the given keys. -/
def filled : (fields : List Field) → List String → Values fields → Slots fields
  | [], _, _ => ()
  | f :: fs, keys, (v, vs) => (if f.key ∈ keys then some v else none, filled fs keys vs)

/-- Whether a text gives the value of the field with a key. -/
def Gives (levels : Nat) (key : String) (text : List Char) :
    (fields : List Field) → Values fields → Prop
  | [], _ => False
  | f :: fs, (v, vs) =>
    if key = f.key then Reads (f.read levels) text v else Gives levels key text fs vs

/-- Whether each field has one of the given keys, or its default as its value. -/
def Covered (keys : List String) : (fields : List Field) → Values fields → Prop
  | [], _ => True
  | f :: fs, (v, vs) => (f.key ∈ keys ∨ f.absent = some v) ∧ Covered keys fs vs

theorem Covered.mono {fields : List Field} {keys more : List String} {values : Values fields}
    (h : Covered keys fields values) (all : keys ⊆ more) : Covered more fields values := by
  induction fields with
  | nil => trivial
  | cons f fs ih =>
    obtain ⟨v, vs⟩ := values
    exact ⟨h.1.imp_left fun member => all member, ih h.2⟩

theorem mem_keys_of_gives {levels : Nat} {key : String} {text : List Char} {fields : List Field}
    {values : Values fields} (h : Gives levels key text fields values) :
    key ∈ fields.map Field.key := by
  induction fields with
  | nil => exact h.elim
  | cons f fs ih =>
    obtain ⟨v, vs⟩ := values
    rw [Gives] at h
    split at h
    · rename_i same
      exact same ▸ List.mem_cons_self
    · exact List.mem_cons_of_mem _ (ih h)

theorem noSlots_eq_filled (fields : List Field) (values : Values fields) :
    noSlots fields = filled fields [] values := by
  induction fields with
  | nil => rfl
  | cons f fs ih =>
    obtain ⟨v, vs⟩ := values
    rw [noSlots, ih vs]
    rfl

theorem filled_append_of_notMem {fields : List Field} {keys : List String} {key : String}
    {values : Values fields} (absent : key ∉ fields.map Field.key) :
    filled fields (keys ++ [key]) values = filled fields keys values := by
  induction fields with
  | nil => rfl
  | cons f fs ih =>
    obtain ⟨v, vs⟩ := values
    rw [List.map_cons, List.mem_cons, not_or] at absent
    have other : f.key ≠ key := Ne.symm absent.1
    simp only [filled, List.mem_append, List.mem_singleton, other, or_false, ih absent.2]

/-- An entry fills the slot of its field. -/
theorem fill_filled {fields : List Field} {levels : Nat} {key : String} {text : List Char}
    {values : Values fields} {keys : List String} (distinct : (fields.map Field.key).Nodup)
    (fresh : key ∉ keys) (gives : Gives levels key text fields values) {after rest : List Char}
    (mark : colon after = .ok (text ++ rest)) (ends : EndsNumber rest) :
    fill fields key levels (filled fields keys values) after =
      .ok (filled fields (keys ++ [key]) values, rest) := by
  induction fields with
  | nil => exact gives.elim
  | cons f fs ih =>
    obtain ⟨v, vs⟩ := values
    rw [List.map_cons, List.nodup_cons] at distinct
    rw [Gives] at gives
    by_cases same : key = f.key
    · -- The keys are distinct, so the other slots stay as they are.
      rw [if_pos same] at gives
      subst same
      have slot : filled (f :: fs) keys (v, vs) = (none, filled fs keys vs) := by
        rw [filled, if_neg fresh]
      rw [slot, fill, if_pos rfl, mark]
      simp only [Option.isSome_none, Bool.false_eq_true, if_false, ok_bind, gives rest ends]
      rw [filled, filled_append_of_notMem distinct.1, if_pos (by simp)]
    · rw [if_neg same] at gives
      have others := ih distinct.2 gives
      have other : f.key ≠ key := Ne.symm same
      rw [filled, fill, if_neg same, others, ok_bind]
      simp only [filled, List.mem_append, List.mem_singleton, other, or_false]

theorem complete_filled {fields : List Field} {keys : List String} {values : Values fields}
    (covered : Covered keys fields values) :
    complete fields (filled fields keys values) = .ok values := by
  induction fields with
  | nil => rfl
  | cons f fs ih =>
    obtain ⟨v, vs⟩ := values
    obtain ⟨here, others⟩ := covered
    have slot : ((if f.key ∈ keys then some v else none) <|> f.absent) = some v := by
      split
      · rfl
      · rename_i missing
        exact here.resolve_left missing
    rw [filled, complete]
    simp only [slot, ih others, ok_bind]

/-! ### Entries -/

section

variable {levels : Nat} {fields : List Field} {values : Values fields}

/-- Whether a text is that of an entry that fills the slot of its key, or none if the key is
unknown. -/
def Fills (levels : Nat) {fields : List Field} (values : Values fields) (k : String)
    (text : List Char) : Prop :=
  ∃ inside more, Spells inside k.toList ∧ text = '"' :: (inside ++ more) ∧
    ∀ done rest, (k ∈ fields.map Field.key → k ∉ done) → EndsNumber rest →
      fill fields k levels (filled fields done values) (more ++ rest) =
        .ok (filled fields (done ++ [k]) values, rest)

/-- Entries fill the slots of their fields one after the other. -/
theorem members_separated {first : Bool} {keys done : List String} {texts : List (List Char)}
    {body : List Char} (separated : Separated first texts body)
    (each : List.Forall₂ (Fills levels values) keys texts)
    (once : ∀ k ∈ fields.map Field.key, (done ++ keys).count k ≤ 1) {fuel : Nat}
    (enough : texts.length < fuel) (rest : List Char) :
    members fields levels fuel first (filled fields done values) (body ++ '\x7d' :: rest) =
      .ok (filled fields (done ++ keys) values, '\x7d' :: rest) := by
  -- The key at the front moves to those that are done.
  induction separated generalizing keys done fuel with
  | nil spaces =>
    cases fuel with
    | zero => exact absurd enough (Nat.not_lt_zero _)
    | succ fuel =>
      cases each
      rw [members, nextKey_end _ spaces, ok_bind, List.append_nil]
  | @cons first text after' before after texts left right separated ih =>
    cases fuel with
    | zero => exact absurd enough (Nat.not_lt_zero _)
    | succ fuel =>
      cases each with
      | @cons k _ keys _ fills each =>
        obtain ⟨inside, more, spells, rfl, fill⟩ := fills
        have ends : EndsNumber (after' ++ '\x7d' :: rest) :=
          endsNumber_separated separated (endsNumber_cons (by decide))
        have fresh : k ∈ fields.map Field.key → k ∉ done := by
          intro known member
          have count := once k known
          rw [List.count_append, List.count_cons_self] at count
          have := List.count_pos_iff.mpr member
          omega
        have regroup : done ++ k :: keys = (done ++ [k]) ++ keys := by
          rw [List.append_assoc, List.singleton_append]
        rw [regroup] at once ⊢
        have tail := ih each once (Nat.lt_of_succ_lt_succ enough)
        have next := nextKey_separated first left right spells (more ++ (after' ++ '\x7d' :: rest))
        have entry : before ++ (comma first ++ (after ++ ('"' :: (inside ++ more) ++ after'))) ++
            '\x7d' :: rest =
            before ++ (comma first ++ (after ++
              '"' :: (inside ++ (more ++ (after' ++ '\x7d' :: rest))))) := by
          simp only [List.append_assoc, List.cons_append]
        rw [entry, members, next, ok_bind]
        simp only [fill done _ fresh ends, ok_bind, tail]

theorem keyed_separated {keys : List String} {texts : List (List Char)} {body : List Char}
    (separated : Separated true texts body) (each : List.Forall₂ (Fills levels values) keys texts)
    (once : ∀ k ∈ fields.map Field.key, keys.count k ≤ 1) (covered : Covered keys fields values)
    (rest : List Char) : keyed fields levels (body ++ '\x7d' :: rest) = .ok (values, rest) := by
  have nonempty : ∀ text ∈ texts, 0 < text.length := by
    intro text member
    obtain ⟨k, -, inside, more, -, rfl, -⟩ := exists_of_mem_right each member
    exact Nat.succ_pos _
  have short := separated.length_lt nonempty ('\x7d' :: rest)
  have start : ∀ k ∈ fields.map Field.key, ([] ++ keys).count k ≤ 1 := once
  have read := members_separated separated each start short rest
  rw [← noSlots_eq_filled, List.nil_append] at read
  rw [keyed, read, ok_bind]
  simp only [complete_filled covered]
  rw [leaveObject_brace]
  rfl

/-- A printed entry fills the slot of its key, if it gives the value of the field. -/
theorem fills_printed (distinct : (fields.map Field.key).Nodup) {e : String × Json}
    (gives : Gives levels e.1 e.2.print fields values) :
    Fills levels values e.1 (entryText e) := by
  obtain ⟨inside, text, spells⟩ := entryText_eq_cons e
  refine ⟨inside, ':' :: e.2.print, spells, text, fun done rest fresh ends => ?_⟩
  have known := mem_keys_of_gives gives
  exact fill_filled distinct (fresh known) gives rfl ends

end

/-! ### Records and tagged values -/

/-- An object is read as the record that its entries give. -/
theorem record_separated (name : String) {fields : List Field} {levels : Nat}
    {values : Values fields} {keys : List String} {texts : List (List Char)} {body : List Char}
    (separated : Separated true texts body) (each : List.Forall₂ (Fills levels values) keys texts)
    (once : ∀ k ∈ fields.map Field.key, keys.count k ≤ 1) (covered : Covered keys fields values)
    {spaces : List Char} (left : IsSpaces spaces) :
    Reads (record name fields (levels + 1)) (spaces ++ '\x7b' :: (body ++ ['\x7d'])) values := by
  intro rest _
  rw [List.append_assoc, record, dropSpace_append left, List.cons_append, List.append_assoc,
    List.singleton_append, dropSpace_cons (by decide)]
  exact keyed_separated separated each once covered rest

theorem Reads.record {name : String} {fields : List Field} {levels : Nat}
    {entries : List (String × Json)} {values : Values fields}
    (distinct : (fields.map Field.key).Nodup) (unique : (entries.map Prod.fst).Nodup)
    (gives : ∀ e ∈ entries, Gives levels e.1 e.2.print fields values)
    (covered : Covered (entries.map Prod.fst) fields values) :
    Reads (record name fields (levels + 1)) (print (.object entries)) values := by
  have each : List.Forall₂ (Fills levels values) (entries.map Prod.fst) (entries.map entryText) := by
    refine List.forall₂_map_left_iff.mpr (List.forall₂_map_right_iff.mpr
      (List.forall₂_same.mpr fun e member => ?_))
    exact fills_printed distinct (gives e member)
  have once : ∀ k ∈ fields.map Field.key, (entries.map Prod.fst).count k ≤ 1 :=
    fun k _ => List.nodup_iff_count_le_one.mp unique k
  rw [print]
  exact record_separated name (separated_printEntries entries) each once covered isSpaces_nil

/-- An object with one entry is read as the tagged value of that entry. -/
theorem tagged_separated {α τ : Type} {tag? : String → Option τ} {known : List String}
    {read : τ → Nat → Reader α} {levels : Nat} {name : String} {t : τ} {v : α}
    (tag : tag? name = some t) {spaces before inside between text after : List Char}
    (blank : IsSpaces spaces) (left : IsSpaces before) (spells : Spells inside name.toList)
    (colon : IsSpaces between) (h : Reads (read t levels) text v) (right : IsSpaces after) :
    Reads (tagged tag? known read (levels + 1))
      (spaces ++ '\x7b' :: (before ++ '"' :: (inside ++ (between ++ ':' :: (text ++
        (after ++ ['\x7d'])))))) v := by
  intro rest _
  have key : nextKey true
      (before ++ '"' :: (inside ++ (between ++ ':' :: (text ++ (after ++ '\x7d' :: rest))))) =
      .ok (some name, between ++ ':' :: (text ++ (after ++ '\x7d' :: rest))) :=
    nextKey_separated true left isSpaces_nil spells _
  have ends : EndsNumber (after ++ '\x7d' :: rest) :=
    endsNumber_append right (endsNumber_cons (by decide))
  refine tagged_eq_ok_iff.mpr ⟨_, name, t, _, _, after ++ '\x7d' :: rest, ?_, key, tag,
    colon_append colon _, h _ ends, ?_⟩
  · rw [List.append_assoc, dropSpace_append blank, List.cons_append, dropSpace_cons (by decide)]
    simp only [List.append_assoc, List.cons_append, List.nil_append]
  · rw [dropSpace_append right, dropSpace_cons (by decide)]

theorem Reads.tagged {α τ : Type} {tag? : String → Option τ} {known : List String}
    {read : τ → Nat → Reader α} {levels : Nat} {name : String} {t : τ} {j : Json} {v : α}
    (tag : tag? name = some t) (h : Reads (read t levels) j.print v) :
    Reads (tagged tag? known read (levels + 1)) (print (.object [(name, j)])) v := by
  obtain ⟨inside, text, spells⟩ := entryText_eq_cons (name, j)
  have empty := isSpaces_nil
  have tight : Reads (Read.tagged tag? known read (levels + 1)) _ v :=
    tagged_separated tag empty empty spells empty h empty
  simp only [List.nil_append] at tight
  rw [print, printEntries_eq_intercalate, List.map_singleton, List.intercalate_singleton, text,
    List.cons_append, List.append_assoc]
  exact tight

end PaintScript.Json.Read

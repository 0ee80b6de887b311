import PaintScript.Proofs.Json.Extent
import PaintScript.Proofs.Json.Layout

/-!
# Values that are refused

An object is refused as a record if it repeats a known key or lacks one without a default, and any
array or object is refused if a part of it is. So is a number that is not a plain integer where an
integer is expected.
-/

namespace PaintScript.Json

open Read

variable {α β : Type}

/-! ### Texts of objects -/

/-- An entry as it is written: its key, the text up to the value, and the text of the value. -/
structure Written where
  key : String
  head : List Char
  value : List Char

namespace Written

def text (e : Written) : List Char :=
  e.head ++ e.value

/-- Whether the key and the value are written as JSON allows. -/
def IsProper (e : Written) : Prop :=
  IsKey e.key e.head ∧ IsValue e.value

/-- An entry without any spaces. -/
def ofEntry (e : String × Json) : Written :=
  ⟨e.1, printString e.1 ++ [':'], e.2.print⟩

theorem map_key_ofEntry (entries : List (String × Json)) :
    (entries.map ofEntry).map key = entries.map Prod.fst := by
  rw [List.map_map]
  rfl

end Written

/-- An object of the given entries, with any spaces between its tokens. -/
def IsObject (entries : List Written) (text : List Char) : Prop :=
  (∀ e ∈ entries, e.IsProper) ∧
    ∃ body, Separated true (entries.map Written.text) body ∧ text = '\x7b' :: (body ++ ['\x7d'])

theorem IsObject.isValue {entries : List Written} {text : List Char} (h : IsObject entries text) :
    IsValue text := by
  obtain ⟨proper, body, separated, rfl⟩ := h
  let parts := entries.map fun e => (e.head, e.value)
  have texts : (parts.map fun p => p.1 ++ p.2) = entries.map Written.text := by
    rw [List.map_map]
    rfl
  have heads : ∀ p ∈ parts, ∃ inside, ClosesString inside ∧ IsHead inside p.1 :=
    List.forall_mem_map.mpr fun e member => by
      obtain ⟨inside, spells, head⟩ := (proper e member).1
      exact ⟨inside, spells.closesString, head⟩
  have values : ∀ p ∈ parts, IsValue p.2 :=
    List.forall_mem_map.mpr fun e member => (proper e member).2
  exact .object heads values (texts ▸ separated)

theorem IsObject.starts {entries : List Written} {text : List Char} (h : IsObject entries text) :
    Starts ['n'] text := by
  obtain ⟨-, body, -, rfl⟩ := h
  exact ⟨'\x7b', _, rfl, by decide, by decide⟩

theorem isObject_print {entries : List (String × Json)}
    (all : ∀ e ∈ entries, IsValue e.2.print) :
    IsObject (entries.map .ofEntry) (print (.object entries)) := by
  refine ⟨List.forall_mem_map.mpr fun e member => ⟨isKey_printString e.1, all e member⟩, ?_⟩
  refine ⟨printEntries entries, ?_, by rw [print]⟩
  rw [List.map_map]
  exact separated_printEntries entries

theorem IsValue.starts_of_not_isNull {text : List Char} (h : IsValue text) (other : ¬ IsNull text) :
    Starts ['n'] text := by
  cases h with
  | null => exact absurd rfl other
  | true | false | string _ | array _ _ | object _ _ _ =>
    exact ⟨_, _, rfl, by decide, by decide⟩
  | number h => exact h.starts (by decide)

theorem IsArray.isValue {items : List (List Char)} {text : List Char} (h : IsArray items text)
    (all : ∀ item ∈ items, IsValue item) : IsValue text := by
  obtain ⟨body, separated, rfl⟩ := h
  exact .array all separated

namespace Read

/-- Whether a reader refuses a text, whatever stands around it. -/
def Refuses (read : Reader α) (text : List Char) : Prop :=
  ∀ ⦃spaces rest v after⦄, IsSpaces spaces → EndsNumber rest →
    read (spaces ++ (text ++ rest)) ≠ .ok (v, after)

theorem dropSpace_bracketed {spaces : List Char} (left : IsSpaces spaces) {first last : Char}
    (visible : isSpace first = false) (body rest : List Char) :
    dropSpace (spaces ++ (first :: (body ++ [last]) ++ rest)) =
      first :: (body ++ last :: rest) := by
  rw [dropSpace_append left, List.cons_append, dropSpace_cons visible, List.append_assoc,
    List.singleton_append]

/-- The key of an entry is read, and after the colon the text goes on with the value. -/
theorem nextKey_written {e : Written} (h : e.IsProper) (first : Bool) {before after : List Char}
    (left : IsSpaces before) (right : IsSpaces after) (rest : List Char) :
    ∃ mark spaces, IsSpaces spaces ∧
      nextKey first (before ++ (comma first ++ (after ++ (e.text ++ rest)))) =
        .ok (some e.key, mark) ∧ colon mark = .ok (spaces ++ (e.value ++ rest)) := by
  obtain ⟨inside, spells, between, spaces, blank, empty, head⟩ := h.1
  have read := nextKey_separated first left right spells
    (between ++ ':' :: (spaces ++ (e.value ++ rest)))
  refine ⟨_, spaces, empty, ?_, colon_append blank _⟩
  rw [← read, Written.text, head]
  simp only [List.append_assoc, List.cons_append]

/-! ### Lists -/

/-- A reader that gets past all items of an array has accepted each of them. -/
theorem items_accepts {item : Reader α} (skips : Skips item) {texts : List (List Char)}
    (all : ∀ text ∈ texts, IsValue text) {first : Bool} {body rest more : List Char} {fuel : Nat}
    {vs : List α} (separated : Separated first texts body)
    (success : items item fuel first (body ++ ']' :: rest) = .ok (vs, more)) :
    ∀ text ∈ texts, ¬ Refuses item text := by
  induction separated generalizing fuel vs with
  | nil _ => exact fun text member => absurd member List.not_mem_nil
  | @cons first text after' before after texts left right separated ih =>
    obtain ⟨here, others⟩ := List.forall_mem_cons.mp all
    cases fuel with
    | zero => cases success
    | succ fuel =>
      have ends : EndsNumber (after' ++ ']' :: rest) :=
        endsNumber_separated separated (endsNumber_cons (by decide))
      have next := nextItem_separated first left right here.starts_item (after' ++ ']' :: rest)
      simp only [List.append_assoc] at success
      rw [items, next, ok_bind] at success
      simp only [if_true] at success
      obtain ⟨⟨v, last⟩, read, success⟩ := bind_eq_ok_iff.mp success
      obtain ⟨⟨vs, last'⟩, tail, success⟩ := bind_eq_ok_iff.mp success
      cases success
      obtain rfl := skips.rest_eq isSpaces_nil here ends read
      exact List.forall_mem_cons.mpr ⟨fun refuses => refuses isSpaces_nil ends read, ih others tail⟩

theorem refuses_list {item : Nat → Reader α} (skips : ∀ levels, Skips (item levels))
    {texts : List (List Char)} (all : ∀ text ∈ texts, IsValue text) {array text : List Char}
    (layout : IsArray texts array) (member : text ∈ texts)
    (refuses : ∀ levels, Refuses (item levels) text) (levels : Nat) :
    Refuses (list item levels) array := by
  obtain ⟨body, separated, rfl⟩ := layout
  intro spaces rest vs after left _ success
  rw [list, dropSpace_bracketed left (by decide)] at success
  cases levels with
  | zero => cases success
  | succ levels =>
    obtain ⟨more, success, -⟩ := arrayBody_eq_ok_iff.mp success
    exact items_accepts (skips levels) all separated success text member (refuses levels)

/-! ### Slots -/

/-- Whether the slot of a key has a value. -/
def Filled (key : String) : (fields : List Field) → Slots fields → Prop
  | [], _ => False
  | f :: fs, (slot, slots) => if key = f.key then slot.isSome = true else Filled key fs slots

theorem not_filled_noSlots (key : String) (fields : List Field) :
    ¬ Filled key fields (noSlots fields) := by
  induction fields with
  | nil => exact id
  | cons f fs ih =>
    rw [noSlots, Filled]
    split
    · exact Bool.false_ne_true
    · exact ih

/-- What an entry does to the slots: its own one was empty and is filled if the key is known, and
the others stay as they are. -/
theorem filled_of_fill {fields : List Field} {k : String} {levels : Nat}
    {before next : Slots fields} {text rest : List Char}
    (h : fill fields k levels before text = .ok (next, rest)) :
    ¬ Filled k fields before ∧ (k ∈ fields.map Field.key → Filled k fields next) ∧
      ∀ key, key ≠ k → (Filled key fields next ↔ Filled key fields before) := by
  induction fields generalizing rest with
  | nil => exact ⟨id, fun member => absurd member List.not_mem_nil, fun _ _ => Iff.rfl⟩
  | cons f fs ih =>
    obtain ⟨slot, before⟩ := before
    rw [fill] at h
    split at h
    · rename_i same
      split at h
      · cases h
      · rename_i empty
        obtain ⟨more, -, h⟩ := bind_eq_ok_iff.mp h
        obtain ⟨⟨v, more⟩, -, h⟩ := bind_eq_ok_iff.mp h
        cases h
        refine ⟨by rwa [Filled, if_pos same], fun _ => by rw [Filled, if_pos same]; rfl, ?_⟩
        intro key other
        rw [Filled, Filled, if_neg (same ▸ other), if_neg (same ▸ other)]
    · rename_i other
      obtain ⟨⟨later, more⟩, filled, h⟩ := bind_eq_ok_iff.mp h
      cases h
      obtain ⟨empty, full, others⟩ := ih filled
      refine ⟨by rwa [Filled, if_neg other], fun member => ?_, fun key different => ?_⟩
      · rw [Filled, if_neg other]
        exact full ((List.mem_cons.mp member).resolve_left other)
      · rw [Filled, Filled]
        split
        · rfl
        · exact others key different

theorem filled_of_complete {fields : List Field} (distinct : (fields.map Field.key).Nodup)
    {slots : Slots fields} {values : Values fields} (h : complete fields slots = .ok values) :
    ∀ f ∈ fields, f.absent = none → Filled f.key fields slots := by
  induction fields with
  | nil => exact fun f member => absurd member List.not_mem_nil
  | cons f fs ih =>
    obtain ⟨fresh, distinct⟩ := List.nodup_cons.mp distinct
    obtain ⟨slot, slots⟩ := slots
    rw [complete] at h
    split at h
    · cases h
    · rename_i v given
      obtain ⟨vs, completed, -⟩ := bind_eq_ok_iff.mp h
      refine List.forall_mem_cons.mpr ⟨fun required => ?_, fun g member required => ?_⟩
      · rw [Filled, if_pos rfl]
        rw [required] at given
        cases slot with
        | none => cases given
        | some w => rfl
      · have other : g.key ≠ f.key := fun same => fresh (same ▸ List.mem_map_of_mem member)
        rw [Filled, if_neg other]
        exact ih distinct completed g member required

/-! ### Records -/

section

variable {fields : List Field} (distinct : (fields.map Field.key).Nodup)
  (skips : SkipFields fields) {levels : Nat}

include skips in
theorem rest_eq_of_fill {k : String} {before next : Slots fields}
    {text spaces value rest after : List Char} (mark : colon text = .ok (spaces ++ (value ++ rest)))
    (left : IsSpaces spaces) (isValue : IsValue value) (ends : EndsNumber rest)
    (h : fill fields k levels before text = .ok (next, after)) : after = rest := by
  obtain ⟨body, same, passes⟩ := skips.fill h
  rw [mark] at same
  cases same
  exact passes.unique (passes_isValue left isValue ends)

include distinct in
/-- An entry that fills a slot is accepted by the reader of its field. -/
theorem not_refuses_of_fill {k : String} {before next : Slots fields}
    {text spaces value rest after : List Char} (mark : colon text = .ok (spaces ++ (value ++ rest)))
    (left : IsSpaces spaces) (ends : EndsNumber rest)
    (h : fill fields k levels before text = .ok (next, after)) :
    ∀ f ∈ fields, f.key = k → ¬ Refuses (f.read levels) value := by
  induction fields generalizing after with
  | nil => exact fun f member => absurd member List.not_mem_nil
  | cons f fs ih =>
    obtain ⟨fresh, distinct⟩ := List.nodup_cons.mp distinct
    obtain ⟨slot, before⟩ := before
    rw [fill] at h
    split at h
    · rename_i same
      split at h
      · cases h
      · obtain ⟨body, marked, h⟩ := bind_eq_ok_iff.mp h
        obtain ⟨⟨v, more⟩, read, -⟩ := bind_eq_ok_iff.mp h
        rw [mark] at marked
        cases marked
        refine List.forall_mem_cons.mpr ⟨fun _ refuses => refuses left ends read, ?_⟩
        intro g member again
        exact absurd (List.mem_map_of_mem member) (again.trans same ▸ fresh)
    · rename_i other
      obtain ⟨⟨later, more⟩, filled, -⟩ := bind_eq_ok_iff.mp h
      exact List.forall_mem_cons.mpr ⟨fun same => absurd same.symm other, ih distinct filled⟩

/-- What is known of entries that take the slots of a record from one state to another. -/
structure Accepts (levels : Nat) (before last : Slots fields) (entries : List Written) : Prop where
  fresh : ∀ e ∈ entries, e.key ∈ fields.map Field.key → ¬ Filled e.key fields before
  once : entries.Pairwise fun e f => e.key ∈ fields.map Field.key → e.key ≠ f.key
  covered : ∀ key, Filled key fields last → Filled key fields before ∨ key ∈ entries.map Written.key
  values : ∀ e ∈ entries, ∀ f ∈ fields, f.key = e.key → ¬ Refuses (f.read levels) e.value

theorem Accepts.cons {before next last : Slots fields} {e : Written} {entries : List Written}
    (h : Accepts levels next last entries) {text rest : List Char}
    (filled : fill fields e.key levels before text = .ok (next, rest))
    (value : ∀ f ∈ fields, f.key = e.key → ¬ Refuses (f.read levels) e.value) :
    Accepts levels before last (e :: entries) := by
  obtain ⟨empty, full, others⟩ := filled_of_fill filled
  refine ⟨?_, ?_, fun key slot => ?_, List.forall_mem_cons.mpr ⟨value, h.values⟩⟩
  · refine List.forall_mem_cons.mpr ⟨fun _ => empty, fun f member known slot => ?_⟩
    by_cases same : f.key = e.key
    · exact empty (same ▸ slot)
    · exact h.fresh f member known ((others f.key same).mpr slot)
  · refine List.pairwise_cons.mpr ⟨fun f member known same => ?_, h.once⟩
    exact h.fresh f member (same ▸ known) (same ▸ full known)
  · rw [List.map_cons, List.mem_cons]
    by_cases same : key = e.key
    · exact Or.inr (Or.inl same)
    · exact (h.covered key slot).imp (others key same).mp Or.inr

include distinct skips in
theorem members_accepts {entries : List Written} (proper : ∀ e ∈ entries, e.IsProper) {first : Bool}
    {fuel : Nat} {before last : Slots fields} {body rest more : List Char}
    (separated : Separated first (entries.map Written.text) body)
    (h : members fields levels fuel first before (body ++ '\x7d' :: rest) = .ok (last, more)) :
    Accepts levels before last entries := by
  induction entries generalizing first fuel before body with
  | nil =>
    cases separated with
    | nil spaces =>
      cases fuel with
      | zero => cases h
      | succ fuel =>
        rw [members, nextKey_end _ spaces, ok_bind] at h
        cases h
        exact ⟨by simp, .nil, fun _ => Or.inl, by simp⟩
  | cons e entries ih =>
    obtain ⟨here, others⟩ := List.forall_mem_cons.mp proper
    cases separated with
    | @cons _ _ tail before' after _ left right separated =>
      cases fuel with
      | zero => cases h
      | succ fuel =>
        have ends : EndsNumber (tail ++ '\x7d' :: rest) :=
          endsNumber_separated separated (endsNumber_cons (by decide))
        obtain ⟨key, spaces, blank, next, mark⟩ :=
          nextKey_written here first left right (tail ++ '\x7d' :: rest)
        simp only [List.append_assoc] at h
        rw [members, next, ok_bind] at h
        obtain ⟨⟨slots, more⟩, filled, h⟩ := bind_eq_ok_iff.mp h
        have value := not_refuses_of_fill distinct mark blank ends filled
        obtain rfl := rest_eq_of_fill skips mark blank here.2 ends filled
        exact (ih others separated h).cons filled value

/-- What is known of the entries of an object that is read as a record: no known key is repeated, no
field without a default is missing, and each value is accepted by the reader of its field. -/
structure Complies (levels : Nat) (fields : List Field) (entries : List Written) : Prop where
  once : entries.Pairwise fun e f => e.key ∈ fields.map Field.key → e.key ≠ f.key
  covered : ∀ f ∈ fields, f.absent = none → f.key ∈ entries.map Written.key
  values : ∀ e ∈ entries, ∀ f ∈ fields, f.key = e.key → ¬ Refuses (f.read levels) e.value

/-- A known key stands in no other entry. -/
theorem Complies.key_notMem {front back : List Written} {e : Written}
    (h : Complies levels fields (front ++ e :: back)) (known : e.key ∈ fields.map Field.key) :
    e.key ∉ (front ++ back).map Written.key := by
  obtain ⟨-, behind, before⟩ := List.pairwise_append.mp h.once
  intro member
  obtain ⟨f, there, same⟩ := List.mem_map.mp member
  rcases List.mem_append.mp there with inFront | inBack
  · exact before f inFront e List.mem_cons_self (same ▸ known) same
  · exact (List.pairwise_cons.mp behind).1 f inBack known same.symm

include distinct skips in
theorem refuses_record (name : String) {entries : List Written} {text : List Char}
    (layout : IsObject entries text) (h : ∀ below, ¬ Complies below fields entries) (levels : Nat) :
    Refuses (record name fields levels) text := by
  obtain ⟨proper, body, separated, rfl⟩ := layout
  intro spaces rest values after left _ success
  rw [record, dropSpace_bracketed left (by decide)] at success
  cases levels with
  | zero => cases success
  | succ levels =>
    obtain ⟨slots, more, read, completed, -⟩ := keyed_eq_ok_iff.mp success
    have accepts := members_accepts distinct skips proper separated read
    refine h levels ⟨accepts.once, fun f member required => ?_, accepts.values⟩
    have slot := filled_of_complete distinct completed f member required
    exact (accepts.covered f.key slot).resolve_left (not_filled_noSlots f.key fields)

end

/-! ### Tagged values -/

/-- An object is refused as a tagged value unless it has just one entry, whose tag is known and
whose value is accepted as the tag says. -/
theorem refuses_tagged {τ : Type} {tag? : String → Option τ} {known : List String}
    {read : τ → Nat → Reader α} (skips : ∀ t levels, Skips (read t levels))
    {entries : List Written} {text : List Char} (layout : IsObject entries text)
    (h : ∀ e t below, entries = [e] → tag? e.key = some t → Refuses (read t below) e.value)
    (levels : Nat) : Refuses (tagged tag? known read levels) text := by
  obtain ⟨proper, body, separated, rfl⟩ := layout
  intro spaces rest v after left _ success
  cases levels with
  | zero => exact tagged_zero_ne_ok success
  | succ levels =>
    obtain ⟨inner, name, t, afterKey, value, last, opened, lead, tag, mark, read, closed⟩ :=
      tagged_eq_ok_iff.mp success
    rw [dropSpace_bracketed left (by decide)] at opened
    cases opened
    cases entries with
    | nil =>
      cases separated with
      | nil spaces =>
        rw [nextKey_end _ spaces] at lead
        cases lead
    | cons e entries =>
      have here := proper e List.mem_cons_self
      cases separated with
      | @cons _ _ tail before after _ first second separated =>
        have ends : EndsNumber (tail ++ '\x7d' :: rest) :=
          endsNumber_separated separated (endsNumber_cons (by decide))
        obtain ⟨key, spaces, blank, next, marked⟩ :=
          nextKey_written here true first second (tail ++ '\x7d' :: rest)
        simp only [List.append_assoc] at lead
        rw [next] at lead
        cases lead
        rw [marked] at mark
        cases mark
        obtain rfl := (skips t levels).rest_eq blank here.2 ends read
        cases entries with
        | nil => exact h e t levels rfl tag blank ends read
        | cons f entries =>
          cases separated with
          | cons spaces _ _ =>
            -- A comma stands where the brace has to be.
            rw [List.append_assoc, dropSpace_append spaces, comma, if_neg Bool.false_ne_true,
              List.append_assoc, List.singleton_append, dropSpace_cons (by decide)] at closed
            cases closed

/-! ### Single values -/

theorem Refuses.optional {read : Nat → Reader α} {levels : Nat} {text : List Char}
    (h : Refuses (read levels) text) (present : Starts ['n'] text) :
    Refuses (Read.optional read levels) text := by
  obtain ⟨c, more, rfl, visible, other⟩ := present
  intro spaces rest v after left ends success
  rw [Read.optional, dropSpace_append left, List.cons_append, dropSpace_cons visible] at success
  split at success
  · rename_i null
    cases null
    exact other List.mem_cons_self
  · obtain ⟨⟨w, last⟩, read, -⟩ := bind_eq_ok_iff.mp success
    exact h isSpaces_nil ends read

theorem refuses_text {expected : String} {value : List Char} (h : IsValue value)
    (other : value.head? ≠ some '"') : Refuses (Read.text expected) value := by
  intro spaces rest v after left _ success
  obtain ⟨c, more, rfl, visible, -⟩ := h.starts_item
  rw [Read.text, dropSpace_append left, List.cons_append, dropSpace_cons visible] at success
  split at success
  · rename_i quoted
    cases quoted
    exact other rfl
  · exact misplaced_ne_ok success

theorem eq_of_wholePart {ended : Cause} {text whole rest : List Char}
    (h : wholePart ended text = .ok (whole, rest)) : IsWhole whole ∧ text = whole ++ rest := by
  cases text with
  | nil => cases h
  | cons c text =>
    unfold wholePart at h
    dsimp only at h
    split at h
    · rename_i zero
      split at h
      · split at h
        · cases h
        · cases h
          exact ⟨.zero, by rw [zero]; rfl⟩
      · cases h
        exact ⟨.zero, by rw [zero]; rfl⟩
    · rename_i nonzero
      split at h
      · rename_i digit
        cases h
        refine ⟨?_, List.takeWhile_append_dropWhile.symm⟩
        rw [List.takeWhile_cons_of_pos digit]
        refine .digits nonzero (List.forall_mem_cons.mpr ⟨digit, fun d member => ?_⟩)
        exact List.mem_takeWhile_imp member
      · cases h

theorem eq_of_fractionPart {ended : Cause} {text rest : List Char}
    (h : fractionPart ended text = .ok (none, rest)) : text = rest := by
  unfold fractionPart at h
  split at h
  · obtain ⟨p, -, h⟩ := bind_eq_ok_iff.mp h
    cases h
  · cases h
    rfl

theorem eq_of_exponentPart {ended : Cause} {text rest : List Char}
    (h : exponentPart ended text = .ok (none, rest)) : text = rest := by
  cases text with
  | nil =>
    cases h
    rfl
  | cons c text =>
    unfold exponentPart at h
    dsimp only at h
    split at h
    · obtain ⟨p, -, h⟩ := bind_eq_ok_iff.mp h
      cases h
    · cases h
      rfl

/-- A numeral with neither a fraction nor an exponent is its sign and its digits. -/
theorem eq_of_numeral {ended : Cause} {text whole rest : List Char} {negative : Bool}
    (h : numeral ended text = .ok (⟨negative, whole, none, none⟩, rest)) :
    IsWhole whole ∧ text = (if negative then '-' :: whole else whole) ++ rest := by
  unfold numeral at h
  split at h
  rename_i sign start split
  obtain ⟨⟨digits, afterWhole⟩, first, h⟩ := bind_eq_ok_iff.mp h
  obtain ⟨⟨fraction, afterFraction⟩, second, h⟩ := bind_eq_ok_iff.mp h
  obtain ⟨⟨exponent, last⟩, third, h⟩ := bind_eq_ok_iff.mp h
  cases h
  obtain ⟨isWhole, rfl⟩ := eq_of_wholePart first
  obtain rfl := eq_of_fractionPart second
  obtain rfl := eq_of_exponentPart third
  refine ⟨isWhole, ?_⟩
  split at split
  · cases split
    rfl
  · cases split
    rfl

/-- An integer is the value of a numeral that is written as one and is not a negative zero. -/
theorem eq_of_value? {n : Numeral} {k : Int} (h : n.value? = some (.integer k)) :
    n.fraction = none ∧ n.exponent = none ∧ k = Text.signed n.negative (Text.naturalOf n.whole) ∧
      (n.negative = true → 0 < Text.naturalOf n.whole) := by
  have noFloat : n.toBinary64?.map Number.float ≠ some (.integer k) := by
    cases n.toBinary64? <;> simp
  unfold Numeral.value? at h
  cases negative : n.negative with
  | true =>
    simp only [negative, if_true] at h
    split at h
    · rename_i plain
      simp only [Bool.and_eq_true, Option.isNone_iff_eq_none, decide_eq_true_eq] at plain
      cases h
      exact ⟨plain.1.1, plain.1.2, rfl, fun _ => plain.2.1⟩
    · exact absurd h noFloat
  | false =>
    simp only [negative, Bool.false_eq_true, if_false] at h
    split at h
    · rename_i plain
      simp only [Bool.and_eq_true, Option.isNone_iff_eq_none] at plain
      cases h
      exact ⟨plain.1.1, plain.1.2, rfl, Bool.noConfusion⟩
    · exact absurd h noFloat

theorem IsWhole.natural_naturalOf {whole : List Char} (h : IsWhole whole) :
    Text.natural (Text.naturalOf whole) = whole := by
  cases h with
  | zero => exact Text.natural_zero
  | digits first all => exact Text.natural_naturalOf first all

/-- The text of a number whose value is an integer is the decimal text of this integer. -/
theorem eq_integer_of_number {text rest : List Char} {k : Int}
    (h : number text = .ok (.integer k, rest)) : text = Text.integer k ++ rest := by
  obtain ⟨⟨negative, whole, fraction, exponent⟩, read, value⟩ := numeral_of_number h
  obtain ⟨plain, single, same, positive⟩ := eq_of_value? value
  dsimp only at plain single same positive
  subst plain single
  obtain ⟨isWhole, rfl⟩ := eq_of_numeral read
  congr 1
  have digits := IsWhole.natural_naturalOf isWhole
  cases negative with
  | true =>
    have sign : k < 0 ∧ k.natAbs = Text.naturalOf whole := by
      have := positive rfl
      rw [same, Text.signed, if_pos rfl]
      omega
    rw [Text.integer, if_pos sign.1, sign.2, digits, if_pos rfl]
  | false =>
    have sign : ¬ k < 0 ∧ k.natAbs = Text.naturalOf whole := by
      rw [same, Text.signed, if_neg Bool.false_ne_true]
      omega
    rw [Text.integer, if_neg sign.1, sign.2, digits, if_neg Bool.false_ne_true]

/-- Only a plain integer of 64 bits is read where one is expected. -/
theorem refuses_int64 {value : List Char} (h : IsValue value) (other : ∀ n, ¬ IsInteger n value) :
    Refuses int64 value := by
  intro spaces rest n after left ends success
  obtain rfl := skips_int64.rest_eq left h ends success
  obtain ⟨c, more, rfl, visible, -⟩ := h.starts_item
  rw [int64, dropSpace_append left, List.cons_append, dropSpace_cons visible] at success
  split at success
  · rename_i nothing
    cases nothing
  · rename_i same
    cases same
    split at success
    · obtain ⟨⟨number, last⟩, read, success⟩ := bind_eq_ok_iff.mp success
      dsimp only at success
      split at success
      · rename_i k
        split at success
        · rename_i bounds
          cases success
          have whole := eq_integer_of_number read
          rw [← List.cons_append] at whole
          refine other (Int64.ofInt k) ?_
          rw [IsInteger, Int64.toInt_ofInt_of_le bounds.1 bounds.2]
          exact List.append_cancel_right whole
        · cases success
      · cases success
    · exact misplaced_ne_ok success

end Read
end PaintScript.Json

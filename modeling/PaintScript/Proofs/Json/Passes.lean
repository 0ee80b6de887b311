import PaintScript.Proofs.Json.Reads

/-!
# What is passed over

The skipper does not depend on its fuel, as long as it has enough. Each step that a reader takes
through an array or an object is a step of the skipper as well.
-/

namespace PaintScript.Json.Read

/-! ### Steps of the skipper -/

/-- How a text goes on to the next part inside brackets: at the part itself if it is the first one,
and after a comma otherwise. -/
inductive Leads (close : Char) : Bool → List Char → List Char → Prop
  | first {c : Char} {rest : List Char} (other : c ≠ close) :
      Leads close true (c :: rest) (c :: rest)
  | comma {rest : List Char} : Leads close false (',' :: rest) rest

theorem skipItems_eq_ok_iff {fuel : Nat} {first : Bool} {text rest : List Char} :
    skipItems (fuel + 1) first text = .ok rest ↔ dropSpace text = ']' :: rest ∨
      ∃ next more, Leads ']' first (dropSpace text) next ∧ skipValue fuel next = .ok more ∧
        skipItems fuel false more = .ok rest := by
  rw [skipItems]
  generalize dropSpace text = front
  constructor
  · intro h
    split at h
    · cases h
    · cases h
      exact Or.inl rfl
    · rename_i c tail other
      have inside : c ≠ ']' := fun same => other (same ▸ rfl)
      dsimp only at h
      split at h
      · rename_i isFirst
        subst isFirst
        obtain ⟨next, ⟨⟩, h⟩ := bind_eq_ok_iff.mp h
        obtain ⟨more, item, items⟩ := bind_eq_ok_iff.mp h
        exact Or.inr ⟨_, more, .first inside, item, items⟩
      · rename_i notFirst
        split at h
        · rename_i comma
          obtain ⟨next, ⟨⟩, h⟩ := bind_eq_ok_iff.mp h
          obtain ⟨more, item, items⟩ := bind_eq_ok_iff.mp h
          rw [comma, Bool.eq_false_of_not_eq_true notFirst]
          exact Or.inr ⟨_, more, .comma, item, items⟩
        · cases h
  · rintro (rfl | ⟨next, more, lead, item, items⟩)
    · rfl
    · cases lead with
      | @first c rest other =>
        split
        · rename_i empty; cases empty
        · rename_i same; cases same; exact absurd rfl other
        · rename_i same
          cases same
          exact bind_eq_ok_iff.mpr ⟨_, rfl, bind_eq_ok_iff.mpr ⟨more, item, items⟩⟩
      | comma => exact bind_eq_ok_iff.mpr ⟨_, rfl, bind_eq_ok_iff.mpr ⟨more, item, items⟩⟩

theorem skipEntries_eq_ok_iff {fuel : Nat} {first : Bool} {text rest : List Char} :
    skipEntries (fuel + 1) first text = .ok rest ↔ dropSpace text = '\x7d' :: rest ∨
      ∃ next body more, Leads '\x7d' first (dropSpace text) next ∧ skipKey next = .ok body ∧
        skipValue fuel body = .ok more ∧ skipEntries fuel false more = .ok rest := by
  rw [skipEntries]
  generalize dropSpace text = front
  constructor
  · intro h
    split at h
    · cases h
    · cases h
      exact Or.inl rfl
    · rename_i c tail other
      have inside : c ≠ '\x7d' := fun same => other (same ▸ rfl)
      dsimp only at h
      split at h
      · rename_i isFirst
        subst isFirst
        obtain ⟨next, ⟨⟩, h⟩ := bind_eq_ok_iff.mp h
        obtain ⟨body, key, h⟩ := bind_eq_ok_iff.mp h
        obtain ⟨more, value, entries⟩ := bind_eq_ok_iff.mp h
        exact Or.inr ⟨_, body, more, .first inside, key, value, entries⟩
      · rename_i notFirst
        split at h
        · rename_i comma
          obtain ⟨next, ⟨⟩, h⟩ := bind_eq_ok_iff.mp h
          obtain ⟨body, key, h⟩ := bind_eq_ok_iff.mp h
          obtain ⟨more, value, entries⟩ := bind_eq_ok_iff.mp h
          rw [comma, Bool.eq_false_of_not_eq_true notFirst]
          exact Or.inr ⟨_, body, more, .comma, key, value, entries⟩
        · cases h
  · rintro (rfl | ⟨next, body, more, lead, key, value, entries⟩)
    · rfl
    · have step : skipKey next >>= (fun rest => skipValue fuel rest >>= skipEntries fuel false) =
          .ok rest :=
        bind_eq_ok_iff.mpr ⟨body, key, bind_eq_ok_iff.mpr ⟨more, value, entries⟩⟩
      cases lead with
      | @first c rest other =>
        split
        · rename_i empty
          cases empty
        · rename_i same
          cases same
          exact absurd rfl other
        · rename_i same
          cases same
          exact bind_eq_ok_iff.mpr ⟨_, rfl, step⟩
      | comma => exact bind_eq_ok_iff.mpr ⟨_, rfl, step⟩

/-! ### Fuel -/

/-- What is skipped with some fuel is skipped with more. -/
theorem skip_succ (fuel : Nat) :
    (∀ text rest, skipValue fuel text = .ok rest → skipValue (fuel + 1) text = .ok rest) ∧
    (∀ first text rest, skipItems fuel first text = .ok rest →
      skipItems (fuel + 1) first text = .ok rest) ∧
    ∀ first text rest, skipEntries fuel first text = .ok rest →
      skipEntries (fuel + 1) first text = .ok rest := by
  induction fuel with
  | zero =>
    refine ⟨?_, ?_, ?_⟩
    · rintro _ _ ⟨⟩
    · rintro _ _ _ ⟨⟩
    · rintro _ _ _ ⟨⟩
  | succ fuel ih =>
    obtain ⟨ofValue, ofItems, ofEntries⟩ := ih
    refine ⟨fun text rest h => ?_, fun first text rest h => ?_, fun first text rest h => ?_⟩
    · rw [skipValue] at h ⊢
      generalize dropSpace text = front at h ⊢
      split at h
      case h_6 => exact ofItems _ _ _ h
      case h_7 => exact ofEntries _ _ _ h
      all_goals exact h
    · rw [skipItems_eq_ok_iff] at h ⊢
      rcases h with closed | ⟨next, more, lead, item, items⟩
      · exact Or.inl closed
      · exact Or.inr ⟨next, more, lead, ofValue _ _ item, ofItems _ _ _ items⟩
    · rw [skipEntries_eq_ok_iff] at h ⊢
      rcases h with closed | ⟨next, body, more, lead, key, value, entries⟩
      · exact Or.inl closed
      · exact Or.inr ⟨next, body, more, lead, key, ofValue _ _ value, ofEntries _ _ _ entries⟩

theorem skipValue_mono {fuel more : Nat} {text rest : List Char} (le : fuel ≤ more)
    (h : skipValue fuel text = .ok rest) : skipValue more text = .ok rest := by
  induction le with
  | refl => exact h
  | step _ ih => exact (skip_succ _).1 _ _ ih

theorem skipItems_mono {fuel more : Nat} {first : Bool} {text rest : List Char} (le : fuel ≤ more)
    (h : skipItems fuel first text = .ok rest) : skipItems more first text = .ok rest := by
  induction le with
  | refl => exact h
  | step _ ih => exact (skip_succ _).2.1 _ _ _ ih

theorem skipEntries_mono {fuel more : Nat} {first : Bool} {text rest : List Char}
    (le : fuel ≤ more) (h : skipEntries fuel first text = .ok rest) :
    skipEntries more first text = .ok rest := by
  induction le with
  | refl => exact h
  | step _ ih => exact (skip_succ _).2.2 _ _ _ ih

/-! ### Strings -/

theorem length_of_hexQuad {text rest : List Char} {n : Nat} (h : hexQuad text = .ok (n, rest)) :
    text.length = rest.length + 4 := by
  have bad {text : List Char} : badQuad text ≠ .ok (n, rest) := by
    intro h
    unfold badQuad at h
    split at h <;> cases h
  unfold hexQuad at h
  split at h
  · split at h
    · cases h
      rfl
    · exact absurd h bad
  · exact absurd h bad

theorem eq_of_pairChar {c : Char} {text rest : List Char} (h : pairChar c text = .ok rest) :
    text = c :: rest := by
  unfold pairChar at h
  split at h
  · cases h
  · split at h
    · rename_i same
      cases h
      rw [same]
    · cases h

theorem skipString_quad {fuel n : Nat} {text rest : List Char}
    (quad : hexQuad text = .ok (n, rest)) :
    skipString (fuel + 1) ('\\' :: 'u' :: text) = skipString fuel rest := by
  rw [skipString, if_neg (by decide), if_pos rfl]
  change (hexQuad text >>= fun p => skipString fuel p.2) = _
  rw [quad, ok_bind]

theorem skipString_codePoint {text more rest : List Char} {c : Char}
    (h : codePoint text = .ok (c, more))
    (tail : ∀ fuel, more.length ≤ fuel → skipString fuel more = .ok rest) {fuel : Nat}
    (enough : text.length + 2 ≤ fuel) : skipString fuel ('\\' :: 'u' :: text) = .ok rest := by
  obtain ⟨⟨high, second⟩, quad, single⟩ := bind_eq_ok_iff.mp h
  have long := length_of_hexQuad quad
  cases fuel with
  | zero => cases enough
  | succ fuel =>
    rw [skipString_quad quad]
    dsimp only at single
    split at single
    · cases single
    · split at single
      · -- The second surrogate is skipped as an escape of its own.
        obtain ⟨third, slash, pair⟩ := bind_eq_ok_iff.mp single
        obtain ⟨fourth, letter, pair⟩ := bind_eq_ok_iff.mp pair
        obtain ⟨⟨low, last⟩, lowQuad, pair⟩ := bind_eq_ok_iff.mp pair
        have short := length_of_hexQuad lowQuad
        rw [eq_of_pairChar slash, eq_of_pairChar letter] at long ⊢
        simp only [List.length_cons] at long
        cases fuel with
        | zero => omega
        | succ fuel =>
          rw [skipString_quad lowQuad]
          dsimp only at pair
          split at pair
          · obtain ⟨-, rfl⟩ := Prod.mk.inj (Except.ok.inj pair)
            exact tail fuel (by omega)
          · cases pair
      · cases single
        exact tail fuel (by omega)

theorem skipString_escaped {text more rest : List Char} {c : Char}
    (h : escaped text = .ok (c, more))
    (tail : ∀ fuel, more.length ≤ fuel → skipString fuel more = .ok rest) {fuel : Nat}
    (enough : text.length + 1 ≤ fuel) : skipString fuel ('\\' :: text) = .ok rest := by
  cases text with
  | nil => cases h
  | cons d text =>
    by_cases letter : d = 'u'
    · subst letter
      exact skipString_codePoint h tail enough
    · have short := h
      rw [escaped, if_neg letter] at short
      split at short
      · cases short
        cases fuel with
        | zero => cases enough
        | succ fuel =>
          simp only [List.length_cons] at enough
          rw [skipString, if_neg (by decide), if_pos rfl, h, ok_bind]
          · exact tail fuel (by omega)
          · intro rest same
            exact absurd (List.cons.inj same).1 letter
      · cases short

theorem skipString_of_stringBody {fuel : Nat} {text inside rest : List Char}
    (h : stringBody fuel text = .ok (inside, rest)) {more : Nat} (enough : text.length ≤ more) :
    skipString more text = .ok rest := by
  induction fuel generalizing text inside more with
  | zero => cases text <;> cases h
  | succ fuel ih =>
    cases text with
    | nil => cases h
    | cons c text =>
      rw [stringBody] at h
      split at h
      · rename_i quote
        cases h
        cases more with
        | zero => cases enough
        | succ more =>
          subst quote
          rfl
      · rename_i notQuote
        split at h
        · rename_i backslash
          obtain ⟨⟨d, after⟩, escape, h⟩ := bind_eq_ok_iff.mp h
          obtain ⟨⟨s, last⟩, body, h⟩ := bind_eq_ok_iff.mp h
          cases h
          rw [backslash]
          exact skipString_escaped escape (fun _ room => ih body room) enough
        · rename_i notBackslash
          split at h
          · cases h
          · rename_i visible
            obtain ⟨⟨s, last⟩, body, h⟩ := bind_eq_ok_iff.mp h
            cases h
            cases more with
            | zero => cases enough
            | succ more =>
              rw [skipString.eq_def]
              simp only [if_neg notQuote, if_neg notBackslash, if_neg visible]
              exact ih body (Nat.le_of_succ_le_succ enough)

theorem skipString_of_string {text rest : List Char} {s : String}
    (h : string text = .ok (s, rest)) : skipString text.length text = .ok rest := by
  obtain ⟨⟨inside, more⟩, body, h⟩ := bind_eq_ok_iff.mp h
  cases h
  exact skipString_of_stringBody body (Nat.le_refl _)

/-! ### Numbers -/

theorem someDigits_ended {ended : Cause} (other : Cause) {text : List Char}
    {r : List Char × List Char} (h : someDigits ended text = .ok r) :
    someDigits other text = .ok r := by
  unfold someDigits at h ⊢
  split at h
  · cases h
  · cases h
  · exact h

theorem wholePart_ended {ended : Cause} (other : Cause) {text : List Char}
    {r : List Char × List Char} (h : wholePart ended text = .ok r) :
    wholePart other text = .ok r := by
  cases text with
  | nil => cases h
  | cons c text => exact h

theorem fractionPart_ended {ended : Cause} (other : Cause) {text : List Char}
    {r : Option (List Char) × List Char} (h : fractionPart ended text = .ok r) :
    fractionPart other text = .ok r := by
  unfold fractionPart at h ⊢
  split at h
  · obtain ⟨p, digits, h⟩ := bind_eq_ok_iff.mp h
    exact bind_eq_ok_iff.mpr ⟨p, someDigits_ended other digits, h⟩
  · exact h

theorem exponentPart_ended {ended : Cause} (other : Cause) {text : List Char}
    {r : Option (Bool × List Char) × List Char} (h : exponentPart ended text = .ok r) :
    exponentPart other text = .ok r := by
  cases text with
  | nil => exact h
  | cons c text =>
    unfold exponentPart at h ⊢
    dsimp only at h ⊢
    split at h
    · rename_i letter
      obtain ⟨p, digits, h⟩ := bind_eq_ok_iff.mp h
      rw [if_pos letter]
      exact bind_eq_ok_iff.mpr ⟨p, someDigits_ended other digits, h⟩
    · rename_i letter
      rw [if_neg letter]
      exact h

/-- The cause that is named at the end of a text matters to no number. -/
theorem numeral_ended {ended : Cause} (other : Cause) {text : List Char}
    {r : Numeral × List Char} (h : numeral ended text = .ok r) : numeral other text = .ok r := by
  unfold numeral at h ⊢
  split at h
  obtain ⟨⟨whole, afterWhole⟩, first, h⟩ := bind_eq_ok_iff.mp h
  obtain ⟨⟨fraction, afterFraction⟩, second, h⟩ := bind_eq_ok_iff.mp h
  obtain ⟨⟨exponent, rest⟩, third, h⟩ := bind_eq_ok_iff.mp h
  exact bind_eq_ok_iff.mpr ⟨_, wholePart_ended other first, bind_eq_ok_iff.mpr
    ⟨_, fractionPart_ended other second, bind_eq_ok_iff.mpr
      ⟨_, exponentPart_ended other third, h⟩⟩⟩

theorem numeral_of_number {text rest : List Char} {n : Number}
    (h : number text = .ok (n, rest)) : ∃ k, numeral (.unfinished .value) text = .ok (k, rest) ∧
      k.value? = some n := by
  obtain ⟨⟨k, more⟩, read, h⟩ := bind_eq_ok_iff.mp h
  dsimp only at h
  split at h
  · rename_i value
    cases h
    exact ⟨k, read, value⟩
  · cases h

/-! ### Steps of the readers -/

theorem leads_of_nextItem {first : Bool} {text next : List Char}
    (h : nextItem first text = .ok (true, next)) :
    ∃ start, Leads ']' first (dropSpace text) start ∧ dropSpace start = next := by
  have again := dropSpace_dropSpace text
  unfold nextItem at h
  generalize dropSpace text = front at h again
  split at h
  · cases h
  · cases h
  · rename_i c rest other
    have inside : c ≠ ']' := other
    split at h
    · rename_i isFirst
      cases h
      exact ⟨_, isFirst ▸ .first inside, again⟩
    · rename_i notFirst
      split at h
      · rename_i comma
        have lead : Leads ']' first (c :: rest) rest := by
          rw [comma, Bool.eq_false_of_not_eq_true notFirst]
          exact .comma
        split at h
        · cases h
        · cases h
        · exact ⟨rest, lead, (Prod.mk.inj (Except.ok.inj h)).2⟩
      · cases h

theorem eq_of_nextItem {first : Bool} {text next : List Char}
    (h : nextItem first text = .ok (false, next)) :
    ∃ rest, dropSpace text = ']' :: rest ∧ next = ']' :: rest := by
  unfold nextItem at h
  split at h
  · cases h
  · rename_i rest closed
    cases h
    exact ⟨rest, closed, rfl⟩
  · split at h
    · cases h
    · split at h
      · split at h <;> cases h
      · cases h

theorem eq_of_key {text after : List Char} {k : String} (h : key text = .ok (some k, after)) :
    ∃ inside, text = '"' :: inside ∧ string inside = .ok (k, after) := by
  unfold key at h
  split at h
  · obtain ⟨⟨s, rest⟩, read, h⟩ := bind_eq_ok_iff.mp h
    cases h
    exact ⟨_, rfl, read⟩
  · cases h

theorem key_ne_none {text after : List Char} : key text ≠ .ok (none, after) := by
  intro h
  unfold key at h
  split at h
  · obtain ⟨⟨s, rest⟩, -, h⟩ := bind_eq_ok_iff.mp h
    cases h
  · cases h

theorem leads_of_nextKey {first : Bool} {text after : List Char} {k : String}
    (h : nextKey first text = .ok (some k, after)) :
    ∃ start inside, Leads '\x7d' first (dropSpace text) start ∧ dropSpace start = '"' :: inside ∧
      string inside = .ok (k, after) := by
  have again := dropSpace_dropSpace text
  unfold nextKey at h
  generalize dropSpace text = front at h again
  split at h
  · cases h
  · cases h
  · rename_i c rest other
    have inside : c ≠ '\x7d' := other
    split at h
    · rename_i isFirst
      obtain ⟨inner, same, read⟩ := eq_of_key h
      exact ⟨_, inner, isFirst ▸ .first inside, again.trans same, read⟩
    · rename_i notFirst
      split at h
      · rename_i comma
        have lead : Leads '\x7d' first (c :: rest) rest := by
          rw [comma, Bool.eq_false_of_not_eq_true notFirst]
          exact .comma
        split at h
        · cases h
        · cases h
        · obtain ⟨inner, same, read⟩ := eq_of_key h
          exact ⟨rest, inner, lead, same, read⟩
      · cases h

theorem eq_of_nextKey {first : Bool} {text after : List Char}
    (h : nextKey first text = .ok (none, after)) :
    ∃ rest, dropSpace text = '\x7d' :: rest ∧ after = '\x7d' :: rest := by
  unfold nextKey at h
  split at h
  · cases h
  · rename_i rest closed
    cases h
    exact ⟨rest, closed, rfl⟩
  · split at h
    · exact absurd h key_ne_none
    · split at h
      · split at h
        · cases h
        · cases h
        · exact absurd h key_ne_none
      · cases h

theorem eq_of_leaveArray {text rest : List Char} (h : leaveArray text = (.ok (), rest)) :
    dropSpace text = ']' :: rest := by
  unfold leaveArray at h
  split at h
  · cases h
  · rename_i closed
    cases h
    exact closed
  · split at h <;> cases h
  · cases h

theorem eq_of_leaveObject {text rest : List Char} (h : leaveObject text = (.ok (), rest)) :
    dropSpace text = '\x7d' :: rest := by
  unfold leaveObject at h
  split at h
  · cases h
  · rename_i closed
    cases h
    exact closed
  · cases h
  · cases h

/-! ### What is passed over -/

/-- Whether the value at the front of a text is skipped with some fuel. -/
def Passes (text rest : List Char) : Prop :=
  ∃ fuel, skipValue fuel text = .ok rest

def PassesItems (first : Bool) (text rest : List Char) : Prop :=
  ∃ fuel, skipItems fuel first text = .ok rest

def PassesEntries (first : Bool) (text rest : List Char) : Prop :=
  ∃ fuel, skipEntries fuel first text = .ok rest

theorem Passes.unique {text rest other : List Char} (h : Passes text rest)
    (k : Passes text other) : rest = other := by
  obtain ⟨m, h⟩ := h
  obtain ⟨n, k⟩ := k
  have first := skipValue_mono (Nat.le_max_left m n) h
  rw [skipValue_mono (Nat.le_max_right m n) k] at first
  exact (Except.ok.inj first).symm

theorem passes_dropSpace {text rest : List Char} :
    Passes (dropSpace text) rest ↔ Passes text rest := by
  constructor
  · rintro ⟨fuel, h⟩
    refine ⟨fuel + 1, ?_⟩
    rw [← skipValue_dropSpace]
    exact skipValue_mono (Nat.le_succ fuel) h
  · rintro ⟨fuel, h⟩
    refine ⟨fuel + 1, ?_⟩
    rw [skipValue_dropSpace]
    exact skipValue_mono (Nat.le_succ fuel) h

theorem passes_isValue {spaces value rest : List Char} (left : IsSpaces spaces)
    (h : IsValue value) (ends : EndsNumber rest) : Passes (spaces ++ (value ++ rest)) rest :=
  ⟨_, skip_append h left ends⟩

/-- An object ends at its brace, whatever follows. -/
theorem passes_object_append {text : List Char} (h : IsValue ('\x7b' :: text)) (rest : List Char) :
    Passes ('\x7b' :: (text ++ rest)) rest := by
  cases h with
  | number h =>
    obtain ⟨c, more, same, first⟩ := h.eq_cons
    cases same
    exact absurd first (by decide)
  | @object entries body heads all separated =>
    have skipped : ∀ entry ∈ entries.map fun e => e.1 ++ e.2, SkippedEntry entry :=
      List.forall_mem_map.mpr fun e member => by
        obtain ⟨inside, closes, head⟩ := heads e member
        exact ⟨inside, e.1, e.2, closes, head, skipped_of_isValue (all e member), rfl⟩
    refine ⟨2 * body.length + 1 + 1, ?_⟩
    rw [skipValue, dropSpace_cons (by decide), List.append_assoc, List.singleton_append]
    exact skipEntries_separated separated skipped (Nat.lt_succ_self _) rest

theorem passesItems_end {first : Bool} {text rest : List Char} (h : dropSpace text = ']' :: rest) :
    PassesItems first text rest :=
  ⟨1, skipItems_eq_ok_iff.mpr (Or.inl h)⟩

theorem passesItems_last {first : Bool} {text next rest : List Char}
    (lead : nextItem first text = .ok (false, next)) (left : leaveArray next = (.ok (), rest)) :
    PassesItems first text rest := by
  obtain ⟨after, closed, rfl⟩ := eq_of_nextItem lead
  have same := eq_of_leaveArray left
  rw [dropSpace_cons (by decide)] at same
  exact passesItems_end (closed.trans same)

theorem passesItems_next {first : Bool} {text next more rest : List Char}
    (lead : nextItem first text = .ok (true, next)) (item : Passes next more)
    (items : PassesItems false more rest) : PassesItems first text rest := by
  obtain ⟨start, leads, rfl⟩ := leads_of_nextItem lead
  obtain ⟨m, item⟩ := passes_dropSpace.mp item
  obtain ⟨n, items⟩ := items
  exact ⟨max m n + 1, skipItems_eq_ok_iff.mpr (Or.inr ⟨start, more, leads,
    skipValue_mono (Nat.le_max_left m n) item, skipItems_mono (Nat.le_max_right m n) items⟩)⟩

theorem passes_array {text inner rest : List Char} (opened : dropSpace text = '[' :: inner)
    (items : PassesItems true inner rest) : Passes text rest := by
  obtain ⟨fuel, h⟩ := items
  refine ⟨fuel + 1, ?_⟩
  rw [skipValue, opened]
  exact h

theorem passesEntries_end {first : Bool} {text rest : List Char}
    (h : dropSpace text = '\x7d' :: rest) : PassesEntries first text rest :=
  ⟨1, skipEntries_eq_ok_iff.mpr (Or.inl h)⟩

theorem passesEntries_last {first : Bool} {text next rest : List Char}
    (lead : nextKey first text = .ok (none, next)) (left : leaveObject next = (.ok (), rest)) :
    PassesEntries first text rest := by
  obtain ⟨after, closed, rfl⟩ := eq_of_nextKey lead
  have same := eq_of_leaveObject left
  rw [dropSpace_cons (by decide)] at same
  exact passesEntries_end (closed.trans same)

theorem passesEntries_next {first : Bool} {text after body more rest : List Char} {k : String}
    (lead : nextKey first text = .ok (some k, after)) (mark : colon after = .ok body)
    (value : Passes body more) (entries : PassesEntries false more rest) :
    PassesEntries first text rest := by
  obtain ⟨start, inside, leads, quoted, read⟩ := leads_of_nextKey lead
  obtain ⟨m, value⟩ := value
  obtain ⟨n, entries⟩ := entries
  have key : skipKey start = .ok body := by
    rw [skipKey, quoted]
    exact bind_eq_ok_iff.mpr ⟨after, skipString_of_string read, mark⟩
  exact ⟨max m n + 1, skipEntries_eq_ok_iff.mpr (Or.inr ⟨start, body, more, leads, key,
    skipValue_mono (Nat.le_max_left m n) value, skipEntries_mono (Nat.le_max_right m n) entries⟩)⟩

theorem passes_object {text inner rest : List Char} (opened : dropSpace text = '\x7b' :: inner)
    (entries : PassesEntries true inner rest) : Passes text rest := by
  obtain ⟨fuel, h⟩ := entries
  refine ⟨fuel + 1, ?_⟩
  rw [skipValue, opened]
  exact h

end PaintScript.Json.Read

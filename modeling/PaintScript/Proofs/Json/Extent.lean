import PaintScript.Proofs.Json.Agreement
import PaintScript.Proofs.Json.Passes

/-!
# Where readers stop

Whatever a reader reads could have been skipped, up to the same character. So a reader that succeeds
at the text of a value leaves just what follows that text.
-/

namespace PaintScript.Json.Read

variable {α : Type}

/-! ### Single values and lists -/

/-- Whether whatever a reader reads could have been skipped as well, up to the same character. -/
def Skips (read : Reader α) : Prop :=
  ∀ ⦃text v rest⦄, read text = .ok (v, rest) → Passes text rest

/-- At the text of a value, a reader that succeeds leaves just what follows that text. -/
theorem Skips.rest_eq {read : Reader α} (h : Skips read) {spaces value rest after : List Char}
    {v : α} (left : IsSpaces spaces) (isValue : IsValue value) (ends : EndsNumber rest)
    (success : read (spaces ++ (value ++ rest)) = .ok (v, after)) : after = rest :=
  (h success).unique (passes_isValue left isValue ends)

theorem passes_string {text inside rest : List Char} {s : String}
    (opened : dropSpace text = '"' :: inside) (h : string inside = .ok (s, rest)) :
    Passes text rest := by
  refine ⟨1, ?_⟩
  rw [skipValue, opened]
  exact skipString_of_string h

theorem passes_number {text more rest : List Char} {c : Char} {n : Number}
    (opened : dropSpace text = c :: more) (first : c = '-' ∨ c.isDigit = true)
    (h : number (c :: more) = .ok (n, rest)) : Passes text rest := by
  obtain ⟨k, read, -⟩ := numeral_of_number h
  refine ⟨1, ?_⟩
  rw [skipValue, opened]
  split
  case h_8 same =>
    cases same
    rw [if_pos first, numeral_ended .invalidNumber read]
    rfl
  all_goals
    rename_i same
    cases same <;> exact absurd first (by decide)

theorem skips_text (expected : String) : Skips (Read.text expected) := by
  intro input v rest h
  unfold Read.text at h
  split at h
  · rename_i opened
    exact passes_string opened h
  · exact absurd h misplaced_ne_ok

theorem skips_int64 : Skips int64 := by
  intro input v rest h
  unfold int64 at h
  split at h
  · cases h
  · rename_i opened
    split at h
    · rename_i first
      obtain ⟨⟨n, more⟩, read, h⟩ := bind_eq_ok_iff.mp h
      dsimp only at h
      split at h
      · split at h
        · cases h
          exact passes_number opened first read
        · cases h
      · cases h
    · exact absurd h misplaced_ne_ok

theorem Skips.optional {read : Nat → Reader α} {levels : Nat} (h : Skips (read levels)) :
    Skips (Read.optional read levels) := by
  intro input v rest success
  unfold Read.optional at success
  split at success
  · rename_i opened
    obtain ⟨more, null, success⟩ := bind_eq_ok_iff.mp success
    cases success
    refine ⟨1, ?_⟩
    rw [skipValue, opened]
    exact null
  · obtain ⟨⟨w, more⟩, present, success⟩ := bind_eq_ok_iff.mp success
    cases success
    exact passes_dropSpace.mp (h present)

theorem Skips.items {item : Reader α} (h : Skips item) {fuel : Nat} {first : Bool}
    {text more rest : List Char} {vs : List α}
    (success : items item fuel first text = .ok (vs, more))
    (left : leaveArray more = (.ok (), rest)) : PassesItems first text rest := by
  induction fuel generalizing first text vs with
  | zero => cases success
  | succ fuel ih =>
    obtain ⟨⟨another, next⟩, lead, success⟩ := bind_eq_ok_iff.mp success
    cases another with
    | false =>
      cases success
      exact passesItems_last lead left
    | true =>
      obtain ⟨⟨v, next⟩, head, success⟩ := bind_eq_ok_iff.mp success
      obtain ⟨⟨others, next⟩, tail, success⟩ := bind_eq_ok_iff.mp success
      cases success
      exact passesItems_next lead (h head) (ih tail)

theorem Skips.arrayBody {item : Reader α} (h : Skips item) {text rest : List Char} {vs : List α}
    (success : arrayBody item text = .ok (vs, rest)) : PassesItems true text rest := by
  obtain ⟨more, items, left⟩ := arrayBody_eq_ok_iff.mp success
  exact h.items items left

theorem Skips.list {item : Nat → Reader α} (h : ∀ levels, Skips (item levels)) (levels : Nat) :
    Skips (Read.list item levels) := by
  intro input vs rest success
  unfold Read.list at success
  split at success
  · rename_i opened
    cases levels with
    | zero => cases success
    | succ levels => exact passes_array opened ((h levels).arrayBody success)
  · exact absurd success misplaced_ne_ok

theorem Skips.entries {value : Reader α} (h : Skips value) {fuel : Nat} {first : Bool}
    {text more rest : List Char} {members : List (String × α)}
    (success : entries value fuel first text = .ok (members, more))
    (left : leaveObject more = (.ok (), rest)) : PassesEntries first text rest := by
  induction fuel generalizing first text members with
  | zero => cases success
  | succ fuel ih =>
    obtain ⟨⟨key, after⟩, lead, success⟩ := bind_eq_ok_iff.mp success
    cases key with
    | none =>
      cases success
      exact passesEntries_last lead left
    | some k =>
      obtain ⟨body, mark, success⟩ := bind_eq_ok_iff.mp success
      obtain ⟨⟨v, next⟩, head, success⟩ := bind_eq_ok_iff.mp success
      obtain ⟨⟨others, next⟩, tail, success⟩ := bind_eq_ok_iff.mp success
      cases success
      exact passesEntries_next lead mark (h head) (ih tail)

theorem Skips.objectBody {value : Reader α} (h : Skips value) {text rest : List Char}
    {members : List (String × α)} (success : objectBody value text = .ok (members, rest)) :
    PassesEntries true text rest := by
  obtain ⟨⟨members, more⟩, entries, success⟩ := bind_eq_ok_iff.mp success
  obtain ⟨⟨⟩, left, success⟩ := bind_eq_ok_iff.mp success
  cases success
  exact h.entries entries (Prod.ext left rfl)

theorem skips_value (levels : Nat) : Skips (value levels) := by
  induction levels using Nat.strongRecOn with
  | ind levels ih =>
    intro text v rest h
    unfold value at h
    split at h
    · cases h
    · rename_i opened
      obtain ⟨more, read, h⟩ := bind_eq_ok_iff.mp h
      cases h
      exact ⟨1, by rw [skipValue, opened]; exact read⟩
    · rename_i opened
      obtain ⟨more, read, h⟩ := bind_eq_ok_iff.mp h
      cases h
      exact ⟨1, by rw [skipValue, opened]; exact read⟩
    · rename_i opened
      obtain ⟨more, read, h⟩ := bind_eq_ok_iff.mp h
      cases h
      exact ⟨1, by rw [skipValue, opened]; exact read⟩
    · rename_i opened
      obtain ⟨⟨s, more⟩, read, h⟩ := bind_eq_ok_iff.mp h
      cases h
      exact passes_string opened read
    · rename_i opened
      cases levels with
      | zero => cases h
      | succ levels =>
        obtain ⟨⟨vs, more⟩, read, h⟩ := bind_eq_ok_iff.mp h
        cases h
        exact passes_array opened ((ih levels (Nat.lt_succ_self levels)).arrayBody read)
    · rename_i opened
      cases levels with
      | zero => cases h
      | succ levels =>
        obtain ⟨⟨members, more⟩, read, h⟩ := bind_eq_ok_iff.mp h
        cases h
        exact passes_object opened ((ih levels (Nat.lt_succ_self levels)).objectBody read)
    · rename_i opened
      split at h
      · rename_i first
        obtain ⟨⟨n, more⟩, read, h⟩ := bind_eq_ok_iff.mp h
        cases h
        exact passes_number opened first read
      · cases h

/-! ### Records -/

/-- Whether the readers of all fields read what could have been skipped. -/
def SkipFields (fields : List Field) : Prop :=
  ∀ f ∈ fields, ∀ levels, Skips (f.read levels)

theorem SkipFields.nil : SkipFields [] :=
  List.forall_mem_nil _

theorem SkipFields.cons {f : Field} {fields : List Field}
    (skips : ∀ levels, Skips (f.read levels)) (others : SkipFields fields) :
    SkipFields (f :: fields) :=
  List.forall_mem_cons.mpr ⟨skips, others⟩

theorem SkipFields.fill {fields : List Field} (h : SkipFields fields) {key : String} {levels : Nat}
    {before last : Slots fields} {text rest : List Char}
    (success : fill fields key levels before text = .ok (last, rest)) :
    ∃ body, colon text = .ok body ∧ Passes body rest := by
  induction fields generalizing rest with
  | nil =>
    obtain ⟨body, mark, success⟩ := bind_eq_ok_iff.mp success
    obtain ⟨more, skipped, success⟩ := bind_eq_ok_iff.mp success
    cases success
    exact ⟨body, mark, _, skipped⟩
  | cons f fs ih =>
    obtain ⟨here, others⟩ := List.forall_mem_cons.mp h
    obtain ⟨slot, before⟩ := before
    rw [Read.fill] at success
    split at success
    · split at success
      · cases success
      · obtain ⟨body, mark, success⟩ := bind_eq_ok_iff.mp success
        obtain ⟨⟨v, more⟩, read, success⟩ := bind_eq_ok_iff.mp success
        cases success
        exact ⟨body, mark, here levels read⟩
    · obtain ⟨⟨later, more⟩, filled, success⟩ := bind_eq_ok_iff.mp success
      cases success
      exact ih others filled

theorem SkipFields.members {fields : List Field} (h : SkipFields fields) {levels fuel : Nat}
    {first : Bool} {before last : Slots fields} {text more rest : List Char}
    (success : members fields levels fuel first before text = .ok (last, more))
    (left : leaveObject more = (.ok (), rest)) : PassesEntries first text rest := by
  induction fuel generalizing first before text with
  | zero => cases success
  | succ fuel ih =>
    obtain ⟨⟨key, after⟩, lead, success⟩ := bind_eq_ok_iff.mp success
    cases key with
    | none =>
      cases success
      exact passesEntries_last lead left
    | some k =>
      obtain ⟨⟨next, after⟩, filled, success⟩ := bind_eq_ok_iff.mp success
      obtain ⟨body, mark, value⟩ := h.fill filled
      exact passesEntries_next lead mark value (ih success)

theorem SkipFields.ordered {fields : List Field} (h : SkipFields fields) {expected : String}
    {levels index : Nat} {text more rest : List Char} {values : Values fields}
    (success : ordered expected levels fields index text = .ok (values, more))
    (left : leaveArray more = (.ok (), rest)) : PassesItems (index == 0) text rest := by
  induction fields generalizing index text with
  | nil =>
    cases success
    exact passesItems_end (eq_of_leaveArray left)
  | cons f fs ih =>
    obtain ⟨here, others⟩ := List.forall_mem_cons.mp h
    obtain ⟨⟨another, next⟩, lead, success⟩ := bind_eq_ok_iff.mp success
    cases another with
    | true =>
      obtain ⟨⟨v, next⟩, read, success⟩ := bind_eq_ok_iff.mp success
      obtain ⟨⟨vs, next⟩, tail, success⟩ := bind_eq_ok_iff.mp success
      cases success
      exact passesItems_next lead (here levels read) (ih others tail)
    | false =>
      dsimp only at success
      rw [if_neg Bool.false_ne_true] at success
      split at success
      · cases success
        exact passesItems_last lead left
      · cases success

theorem SkipFields.record {fields : List Field} (h : SkipFields fields) (name : String)
    (levels : Nat) : Skips (Read.record name fields levels) := by
  intro text values rest success
  unfold Read.record at success
  split at success
  · rename_i opened
    cases levels with
    | zero => cases success
    | succ levels =>
      obtain ⟨more, read, left⟩ := positional_eq_ok_iff.mp success
      exact passes_array opened (h.ordered read left)
  · rename_i opened
    cases levels with
    | zero => cases success
    | succ levels =>
      obtain ⟨slots, more, read, -, left⟩ := keyed_eq_ok_iff.mp success
      exact passes_object opened (h.members read left)
  · exact absurd success misplaced_ne_ok

theorem Skips.tagged {τ : Type} {tag? : String → Option τ} {known : List String}
    {read : τ → Nat → Reader α} (h : ∀ t levels, Skips (read t levels)) (levels : Nat) :
    Skips (Read.tagged tag? known read levels) := by
  intro text v rest success
  cases levels with
  | zero => exact absurd success tagged_zero_ne_ok
  | succ levels =>
    obtain ⟨inner, name, t, after, body, last, opened, lead, -, mark, read, closed⟩ :=
      tagged_eq_ok_iff.mp success
    exact passes_object opened
      (passesEntries_next lead mark (h t levels read) (passesEntries_end closed))

end PaintScript.Json.Read

import Mathlib.Data.List.DropRight
import PaintScript.Json.Skip
import PaintScript.Proofs.Json.Grammar

/-!
# Values that are skipped

Every text of a value is skipped, however large its numbers are and however deep its brackets nest.
-/

namespace PaintScript.Json.Read

/-! ### Spaces -/

theorem dropSpace_append {spaces : List Char} (h : IsSpaces spaces) (rest : List Char) :
    dropSpace (spaces ++ rest) = dropSpace rest :=
  List.dropWhile_append_of_pos h

theorem dropSpace_dropSpace (text : List Char) : dropSpace (dropSpace text) = dropSpace text :=
  List.dropWhile_idempotent ..

theorem colon_append {before : List Char} (h : IsSpaces before) (rest : List Char) :
    colon (before ++ ':' :: rest) = .ok rest := by
  rw [colon, dropSpace_append h, dropSpace_cons (by decide)]
  rfl

theorem Starts.length_pos {forbidden text : List Char} (h : Starts forbidden text) :
    0 < text.length := by
  obtain ⟨c, more, rfl, -⟩ := h
  exact Nat.succ_pos more.length

/-- What stands in front of a part is dropped, up to the comma if there has to be one. -/
theorem dropSpace_lead (first : Bool) {forbidden before after part : List Char}
    (left : IsSpaces before) (right : IsSpaces after) (starts : Starts forbidden part)
    (rest : List Char) :
    dropSpace (before ++ (comma first ++ (after ++ (part ++ rest)))) =
      if first then part ++ rest else ',' :: (after ++ (part ++ rest)) := by
  rw [dropSpace_append left]
  cases first with
  | true => exact (dropSpace_append right _).trans (starts.dropSpace_append rest)
  | false => exact dropSpace_cons (by decide) _

theorem endsNumber_append {spaces rest : List Char} (h : IsSpaces spaces) (ends : EndsNumber rest) :
    EndsNumber (spaces ++ rest) := by
  cases spaces with
  | nil => exact ends
  | cons c spaces =>
    have space := h c List.mem_cons_self
    refine endsNumber_cons ?_
    simp only [isSpace, Bool.or_eq_true, beq_iff_eq] at space
    rcases space with ((rfl | rfl) | rfl) | rfl <;> decide

theorem endsNumber_separated {parts : List (List Char)} {body : List Char}
    (h : Separated false parts body) {rest : List Char} (ends : EndsNumber rest) :
    EndsNumber (body ++ rest) := by
  cases h with
  | nil spaces => exact endsNumber_append spaces ends
  | cons left _ _ =>
    rw [List.append_assoc]
    exact endsNumber_append left (endsNumber_cons (by decide))

/-! ### Strings -/

theorem hexQuad_cons {a b c d : Char} {n : Nat} (quad : hexQuad? a b c d = some n)
    (rest : List Char) : hexQuad (a :: b :: c :: d :: rest) = .ok (n, rest) := by
  rw [hexQuad, quad]

theorem ne_u_of_shortEscape? {c d : Char} (h : shortEscape? c = some d) : c ≠ 'u' := by
  rintro rfl
  cases h

theorem skipString_append {text : List Char} (h : ClosesString text) {fuel : Nat}
    (enough : text.length ≤ fuel) (rest : List Char) :
    skipString fuel (text ++ rest) = .ok rest := by
  induction h generalizing fuel with
  | nil =>
    match fuel, enough with
    | fuel + 1, _ => rfl
  | @plain c text quote backslash visible _ ih =>
    match fuel, enough with
    | fuel + 1, enough =>
      have tail := ih (Nat.le_of_succ_le_succ enough)
      unfold skipString
      rw [List.cons_append]
      simp only [if_neg quote, if_neg backslash, if_neg (Nat.not_lt.mpr visible), tail]
  | @short c text escape _ ih =>
    match fuel, enough with
    | fuel + 1, enough =>
      obtain ⟨d, known⟩ := Option.isSome_iff_exists.mp escape
      have other := ne_u_of_shortEscape? known
      have read : escaped (c :: (text ++ rest)) = .ok (d, text ++ rest) := by
        rw [escaped, if_neg other, known]
      have tail := ih (Nat.le_of_succ_le (Nat.le_of_succ_le_succ enough))
      rw [List.cons_append, List.cons_append, skipString, if_neg (by decide), if_pos rfl, read,
        ok_bind]
      · exact tail
      · intro more same
        exact absurd (List.cons.inj same).1 other
  | @point a b c d text quad _ ih =>
    match fuel, enough with
    | fuel + 1, enough =>
      obtain ⟨n, known⟩ := Option.isSome_iff_exists.mp quad
      simp only [List.length_cons] at enough
      have tail := ih (show text.length ≤ fuel by omega)
      simp only [List.cons_append]
      rw [skipString, if_neg (by decide), if_pos rfl]
      change (hexQuad (a :: b :: c :: d :: (text ++ rest)) >>= _) = _
      rw [hexQuad_cons known, ok_bind]
      exact tail

/-! ### Numbers -/

theorem someDigits_append (ended : Cause) {digits rest : List Char} (h : IsDigits digits)
    (ends : Text.EndsDigits rest) : someDigits ended (digits ++ rest) = .ok (digits, rest) := by
  rw [someDigits, Text.takeWhile_digits h.2 ends, Text.dropWhile_digits h.2 ends]
  obtain ⟨c, more, rfl⟩ := List.exists_cons_of_ne_nil h.1
  rfl

theorem wholePart_append (ended : Cause) {whole rest : List Char} (h : IsWhole whole)
    (ends : Text.EndsDigits rest) : wholePart ended (whole ++ rest) = .ok (whole, rest) := by
  cases h with
  | zero =>
    cases rest with
    | nil => rfl
    | cons d rest =>
      unfold wholePart
      simp [ends d rfl]
  | @digits c text first all =>
    have takes := Text.takeWhile_digits all ends
    have drops := Text.dropWhile_digits all ends
    rw [List.cons_append] at takes drops ⊢
    unfold wholePart
    simp only [if_neg first, if_pos (all c List.mem_cons_self), takes, drops]

theorem fractionPart_append (ended : Cause) {fraction rest : List Char} (h : IsFraction fraction)
    (ends : Text.EndsDigits rest) (point : rest.head? ≠ some '.') :
    ∃ digits, fractionPart ended (fraction ++ rest) = .ok (digits, rest) := by
  cases h with
  | none =>
    refine ⟨Option.none, ?_⟩
    rw [List.nil_append]
    unfold fractionPart
    split
    · exact absurd rfl point
    · rfl
  | @some text digits =>
    refine ⟨Option.some text, ?_⟩
    rw [List.cons_append, fractionPart, someDigits_append ended digits ends]
    rfl

theorem takeSign_append {sign digits : List Char}
    (signed : sign = [] ∨ sign = ['+'] ∨ sign = ['-']) (h : IsDigits digits) (rest : List Char) :
    ∃ negative, Text.takeSign (sign ++ (digits ++ rest)) = (negative, digits ++ rest) := by
  obtain ⟨c, more, rfl⟩ := List.exists_cons_of_ne_nil h.1
  have digit := h.2 c List.mem_cons_self
  rcases signed with rfl | rfl | rfl
  · refine ⟨false, ?_⟩
    rw [List.nil_append, List.cons_append, Text.takeSign.eq_def]
    split
    · rename_i same
      cases same
      exact absurd digit (by decide)
    · rename_i same
      cases same
      exact absurd digit (by decide)
    · rfl
  · exact ⟨false, rfl⟩
  · exact ⟨true, rfl⟩

theorem exponentPart_append (ended : Cause) {exponent rest : List Char} (h : IsExponent exponent)
    (ends : EndsNumber rest) :
    ∃ value, exponentPart ended (exponent ++ rest) = .ok (value, rest) := by
  cases h with
  | none => exact ⟨Option.none, exponentPart_ends ended ends⟩
  | @some e sign text letter signed digits =>
    obtain ⟨negative, taken⟩ := takeSign_append signed digits rest
    refine ⟨Option.some (negative, text), ?_⟩
    rw [List.cons_append, List.append_assoc, exponentPart, if_pos letter, taken]
    simp only [someDigits_append ended digits ends.endsDigits, ok_bind]

/-- Neither a digit nor a point follows the digits before an exponent. -/
theorem endsDigits_exponent {exponent rest : List Char} (h : IsExponent exponent)
    (ends : EndsNumber rest) :
    Text.EndsDigits (exponent ++ rest) ∧ (exponent ++ rest).head? ≠ some '.' := by
  cases h with
  | none => exact ⟨ends.endsDigits, fun point => (ends '.' point).2.1 rfl⟩
  | some letter _ _ =>
    rcases letter with rfl | rfl
    · exact ⟨fun c first => by cases first; decide, by simp⟩
    · exact ⟨fun c first => by cases first; decide, by simp⟩

theorem endsDigits_fraction {fraction rest : List Char} (h : IsFraction fraction)
    (ends : Text.EndsDigits rest) : Text.EndsDigits (fraction ++ rest) := by
  cases h with
  | none => exact ends
  | some _ => exact fun c first => by cases first; decide

/-- The parts of a number after its sign are read one after the other. -/
theorem unsigned_append (ended : Cause) {whole fraction exponent rest : List Char}
    (first : IsWhole whole) (second : IsFraction fraction) (third : IsExponent exponent)
    (ends : EndsNumber rest) :
    ∃ digits value,
      wholePart ended (whole ++ (fraction ++ exponent) ++ rest) =
        .ok (whole, fraction ++ (exponent ++ rest)) ∧
      fractionPart ended (fraction ++ (exponent ++ rest)) = .ok (digits, exponent ++ rest) ∧
      exponentPart ended (exponent ++ rest) = .ok (value, rest) := by
  obtain ⟨ofExponent, point⟩ := endsDigits_exponent third ends
  obtain ⟨digits, fractionRead⟩ := fractionPart_append ended second ofExponent point
  obtain ⟨value, exponentRead⟩ := exponentPart_append ended third ends
  refine ⟨digits, value, ?_, fractionRead, exponentRead⟩
  rw [List.append_assoc, List.append_assoc]
  exact wholePart_append ended first (endsDigits_fraction second ofExponent)

theorem numeral_append (ended : Cause) {text rest : List Char} (h : IsNumeral text)
    (ends : EndsNumber rest) : ∃ n, numeral ended (text ++ rest) = .ok (n, rest) := by
  cases h with
  | @positive whole fraction exponent first second third =>
    obtain ⟨digits, value, one, two, three⟩ := unsigned_append ended first second third ends
    refine ⟨⟨false, whole, digits, value⟩, ?_⟩
    obtain ⟨c, more, rfl, digit⟩ := first.eq_cons
    rw [numeral]
    · simp only [one, two, three, ok_bind]
    · intro tail same
      cases same
      exact absurd digit (by decide)
  | @negative whole fraction exponent first second third =>
    obtain ⟨digits, value, one, two, three⟩ := unsigned_append ended first second third ends
    refine ⟨⟨true, whole, digits, value⟩, ?_⟩
    rw [List.cons_append, numeral]
    simp only [one, two, three, ok_bind]

/-! ### Values -/

theorem skipValue_dropSpace (fuel : Nat) (text : List Char) :
    skipValue (fuel + 1) (dropSpace text) = skipValue (fuel + 1) text := by
  rw [skipValue, skipValue, dropSpace_dropSpace]

theorem skipValue_spaces {spaces : List Char} (h : IsSpaces spaces) (fuel : Nat)
    (rest : List Char) : skipValue (fuel + 1) (spaces ++ rest) = skipValue (fuel + 1) rest := by
  rw [← skipValue_dropSpace, dropSpace_append h, skipValue_dropSpace]

/-- Whether a text is skipped with two units of fuel for each of its characters. -/
def Skipped (text : List Char) : Prop :=
  ∀ fuel rest, EndsNumber rest → 2 * text.length ≤ fuel → skipValue fuel (text ++ rest) = .ok rest

theorem Skipped.spaces {text spaces : List Char} (h : Skipped text) (left : IsSpaces spaces)
    {fuel : Nat} {rest : List Char} (ends : EndsNumber rest) (positive : 0 < fuel)
    (enough : 2 * text.length ≤ fuel) : skipValue fuel (spaces ++ (text ++ rest)) = .ok rest := by
  match fuel, positive with
  | fuel + 1, _ =>
    rw [skipValue_spaces left]
    exact h _ rest ends enough

theorem skipItems_next (first : Bool) {before after item : List Char} (left : IsSpaces before)
    (right : IsSpaces after) (start : Starts [']'] item) (fuel : Nat) (rest : List Char) :
    ∃ spaces, IsSpaces spaces ∧
      skipItems (fuel + 1) first (before ++ (comma first ++ (after ++ (item ++ rest)))) =
        skipValue fuel (spaces ++ (item ++ rest)) >>= skipItems fuel false := by
  rw [skipItems, dropSpace_lead first left right start]
  cases first with
  | true =>
    obtain ⟨c, more, rfl, -, other⟩ := start
    refine ⟨[], isSpaces_nil, ?_⟩
    rw [if_pos rfl]
    split
    · rename_i same
      cases same
    · rename_i same
      exact absurd (List.mem_singleton.mpr (List.cons.inj same).1) other
    · rename_i same
      rw [if_pos rfl, ← same]
      rfl
  | false => exact ⟨after, right, rfl⟩

theorem skipItems_separated {first : Bool} {items : List (List Char)} {body : List Char}
    (separated : Separated first items body) (starts : ∀ item ∈ items, Starts [']'] item)
    (all : ∀ item ∈ items, Skipped item) {fuel : Nat} (enough : 2 * body.length < fuel)
    (rest : List Char) : skipItems fuel first (body ++ ']' :: rest) = .ok rest := by
  induction separated generalizing fuel with
  | nil spaces =>
    match fuel, enough with
    | fuel + 1, _ =>
      rw [skipItems, dropSpace_append spaces, dropSpace_cons (by decide)]
      rfl
  | @cons first item after' before after items left right separated ih =>
    match fuel, enough with
    | fuel + 1, enough =>
      obtain ⟨start, starts⟩ := List.forall_mem_cons.mp starts
      obtain ⟨skipped, all⟩ := List.forall_mem_cons.mp all
      have ends : EndsNumber (after' ++ ']' :: rest) :=
        endsNumber_separated separated (endsNumber_cons (by decide))
      have nonempty := Starts.length_pos start
      simp only [List.length_append] at enough
      obtain ⟨spaces, blank, next⟩ := skipItems_next first left right start fuel
        (after' ++ ']' :: rest)
      simp only [List.append_assoc]
      rw [next, skipped.spaces blank ends (by omega) (by omega), ok_bind]
      exact ih starts all (by omega)

theorem skipKey_append {inside head spaces : List Char} (closes : ClosesString inside)
    (h : IsHead inside head) (left : IsSpaces spaces) :
    ∃ after, IsSpaces after ∧
      ∀ rest, skipKey (spaces ++ (head ++ rest)) = .ok (after ++ rest) := by
  obtain ⟨before, after, first, second, rfl⟩ := h
  refine ⟨after, second, fun rest => ?_⟩
  have enough : inside.length ≤ (inside ++ (before ++ ':' :: (after ++ rest))).length := by
    rw [List.length_append]
    exact Nat.le_add_right _ _
  have read := skipString_append closes enough (before ++ ':' :: (after ++ rest))
  have text : spaces ++ ('"' :: (inside ++ (before ++ ':' :: after)) ++ rest) =
      spaces ++ '"' :: (inside ++ (before ++ ':' :: (after ++ rest))) := by
    simp only [List.append_assoc, List.cons_append]
  rw [text, skipKey, dropSpace_append left, dropSpace_cons (by decide)]
  change (skipString _ _ >>= colon) = _
  rw [read]
  exact colon_append first (after ++ rest)

/-- Whether a text is that of an entry whose value is skipped. -/
def SkippedEntry (text : List Char) : Prop :=
  ∃ inside head value, ClosesString inside ∧ IsHead inside head ∧ Skipped value ∧
    text = head ++ value

theorem skipEntries_next (first : Bool) {before after inside head : List Char}
    (left : IsSpaces before) (right : IsSpaces after) (closes : ClosesString inside)
    (h : IsHead inside head) (fuel : Nat) (rest : List Char) :
    ∃ spaces, IsSpaces spaces ∧
      skipEntries (fuel + 1) first (before ++ (comma first ++ (after ++ (head ++ rest)))) =
        skipValue fuel (spaces ++ rest) >>= skipEntries fuel false := by
  obtain ⟨more, quoted⟩ := h.eq_cons
  have start : Starts [] head := ⟨'"', more, quoted, by decide, by simp⟩
  rw [skipEntries, dropSpace_lead first left right start]
  cases first with
  | true =>
    obtain ⟨spaces, blank, key⟩ := skipKey_append closes h isSpaces_nil
    have read := key rest
    refine ⟨spaces, blank, ?_⟩
    rw [List.nil_append, quoted, List.cons_append] at read
    rw [quoted, List.cons_append]
    change (skipKey _ >>= fun rest => skipValue fuel rest >>= skipEntries fuel false) = _
    rw [read, ok_bind]
  | false =>
    obtain ⟨spaces, blank, key⟩ := skipKey_append closes h right
    refine ⟨spaces, blank, ?_⟩
    change (skipKey _ >>= fun rest => skipValue fuel rest >>= skipEntries fuel false) = _
    rw [key, ok_bind]

theorem skipEntries_separated {first : Bool} {entries : List (List Char)} {body : List Char}
    (separated : Separated first entries body) (all : ∀ entry ∈ entries, SkippedEntry entry)
    {fuel : Nat} (enough : 2 * body.length < fuel) (rest : List Char) :
    skipEntries fuel first (body ++ '\x7d' :: rest) = .ok rest := by
  induction separated generalizing fuel with
  | nil spaces =>
    match fuel, enough with
    | fuel + 1, _ =>
      rw [skipEntries, dropSpace_append spaces, dropSpace_cons (by decide)]
      rfl
  | @cons first entry after' before after entries left right separated ih =>
    match fuel, enough with
    | fuel + 1, enough =>
      obtain ⟨⟨inside, head, value, closes, isHead, skipped, rfl⟩, others⟩ :=
        List.forall_mem_cons.mp all
      have ends : EndsNumber (after' ++ '\x7d' :: rest) :=
        endsNumber_separated separated (endsNumber_cons (by decide))
      obtain ⟨more, quoted⟩ := isHead.eq_cons
      simp only [List.length_append, quoted, List.length_cons] at enough
      obtain ⟨spaces, blank, next⟩ := skipEntries_next first left right closes isHead fuel
        (value ++ (after' ++ '\x7d' :: rest))
      simp only [List.append_assoc]
      rw [next, skipped.spaces blank ends (by omega) (by omega), ok_bind]
      exact ih others (by omega)

/-! ### Kinds of values -/

theorem IsNumeral.skipped {text : List Char} (h : IsNumeral text) : Skipped text := by
  intro fuel rest ends enough
  obtain ⟨c, more, rfl, first⟩ := h.eq_cons
  obtain ⟨n, read⟩ := numeral_append .invalidNumber h ends
  match fuel, enough with
  | fuel + 1, _ =>
    rw [List.cons_append] at read ⊢
    unfold skipValue
    rw [dropSpace_cons (isSpace_of_number first)]
    split
    case h_8 same =>
      cases same
      rw [if_pos first, read]
      rfl
    all_goals
      rename_i same
      cases same <;> exact absurd first (by decide)

theorem ClosesString.skipped {inside : List Char} (h : ClosesString inside) :
    Skipped ('"' :: inside) := by
  intro fuel rest _ enough
  match fuel, enough with
  | fuel + 1, _ =>
    have room : inside.length ≤ (inside ++ rest).length := by
      rw [List.length_append]
      exact Nat.le_add_right _ _
    exact skipString_append h room rest

theorem skipped_array {items : List (List Char)} {body : List Char}
    (separated : Separated true items body) (starts : ∀ item ∈ items, Starts [']'] item)
    (all : ∀ item ∈ items, Skipped item) : Skipped ('[' :: (body ++ [']'])) := by
  intro fuel rest _ enough
  match fuel, enough with
  | fuel + 1, enough =>
    simp only [List.length_cons, List.length_append, List.length_nil] at enough
    rw [List.cons_append, List.append_assoc, List.singleton_append]
    exact skipItems_separated separated starts all (by omega) rest

theorem skipped_object {entries : List (List Char)} {body : List Char}
    (separated : Separated true entries body) (all : ∀ entry ∈ entries, SkippedEntry entry) :
    Skipped ('\x7b' :: (body ++ ['\x7d'])) := by
  intro fuel rest _ enough
  match fuel, enough with
  | fuel + 1, enough =>
    simp only [List.length_cons, List.length_append, List.length_nil] at enough
    rw [List.cons_append, List.append_assoc, List.singleton_append]
    exact skipEntries_separated separated all (by omega) rest

theorem skipped_of_isValue {text : List Char} (h : IsValue text) : Skipped text := by
  induction h with
  | null | true | false =>
    intro fuel rest _ enough
    match fuel, enough with
    | fuel + 1, _ => rfl
  | number h => exact IsNumeral.skipped h
  | string closes => exact ClosesString.skipped closes
  | array all separated ih =>
    exact skipped_array separated (fun item member => (all item member).starts_item) ih
  | object heads all separated ih =>
    refine skipped_object separated (List.forall_mem_map.mpr fun e member => ?_)
    obtain ⟨inside, closes, isHead⟩ := heads e member
    exact ⟨inside, e.1, e.2, closes, isHead, ih e member, rfl⟩

/-- A text of a value is skipped. -/
theorem skip_append {text spaces : List Char} (h : IsValue text) (left : IsSpaces spaces)
    {rest : List Char} (ends : EndsNumber rest) :
    skip (spaces ++ (text ++ rest)) = .ok rest := by
  rw [skip]
  refine (skipped_of_isValue h).spaces left ends (by omega) ?_
  simp only [List.length_append]
  omega

end PaintScript.Json.Read

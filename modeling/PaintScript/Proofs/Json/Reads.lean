import PaintScript.Json.Reader
import PaintScript.Proofs.Json.Printed
import PaintScript.Proofs.Json.Skip

/-!
# Texts that are read

`Reads read text v` says that a reader gets `v` from `text`, whatever comes after it. It holds of
printed values, and of an array or object with spaces between its tokens if it holds of the values
inside.
-/

namespace PaintScript.Json.Read

variable {α β : Type}

/-- A text from which a reader gets a value and leaves what follows. -/
def Reads (read : Reader α) (text : List Char) (v : α) : Prop :=
  ∀ rest, EndsNumber rest → read (text ++ rest) = .ok (v, rest)

/-! ### Strings -/

theorem codePoint_scalar {a b c d : Char} {n : Nat} (quad : hexQuad? a b c d = some n)
    (scalar : n < 0xD800 ∨ 0xDFFF < n) (rest : List Char) :
    codePoint (a :: b :: c :: d :: rest) = .ok (Char.ofNat n, rest) := by
  have low : ¬ (0xDC00 ≤ n ∧ n ≤ 0xDFFF) := by omega
  have high : ¬ (0xD800 ≤ n ∧ n ≤ 0xDBFF) := by omega
  rw [codePoint, hexQuad_cons quad, ok_bind]
  dsimp only
  rw [if_neg low, if_neg high]

theorem codePoint_surrogates {a b c d e f g h : Char} {high low : Nat}
    (first : hexQuad? a b c d = some high) (second : hexQuad? e f g h = some low)
    (highBounds : 0xD800 ≤ high ∧ high ≤ 0xDBFF) (lowBounds : 0xDC00 ≤ low ∧ low ≤ 0xDFFF)
    (rest : List Char) :
    codePoint (a :: b :: c :: d :: '\\' :: 'u' :: e :: f :: g :: h :: rest) =
      .ok (Char.ofNat (0x10000 + (high - 0xD800) * 0x400 + (low - 0xDC00)), rest) := by
  have notLow : ¬ (0xDC00 ≤ high ∧ high ≤ 0xDFFF) := by omega
  rw [codePoint, hexQuad_cons first, ok_bind]
  dsimp only
  rw [if_neg notLow, if_pos highBounds]
  change (hexQuad (e :: f :: g :: h :: rest) >>= _) = _
  rw [hexQuad_cons second, ok_bind]
  dsimp only
  rw [if_pos lowBounds]

/-- A character that an escape stands for is put in front of the characters after it. -/
theorem stringBody_escaped {fuel : Nat} {text more rest s : List Char} {c : Char}
    (escape : escaped text = .ok (c, more)) (tail : stringBody fuel more = .ok (s, rest)) :
    stringBody (fuel + 1) ('\\' :: text) = .ok (c :: s, rest) := by
  rw [stringBody, if_neg (by decide), if_pos rfl, escape, ok_bind]
  dsimp only
  rw [tail]
  rfl

theorem stringBody_append {text s : List Char} (h : Spells text s) {fuel : Nat}
    (enough : text.length ≤ fuel) (rest : List Char) :
    stringBody fuel (text ++ rest) = .ok (s, rest) := by
  induction h generalizing fuel with
  | nil =>
    cases fuel with
    | zero => exact absurd enough (Nat.not_succ_le_zero _)
    | succ fuel => rfl
  | plain quote backslash visible _ ih =>
    cases fuel with
    | zero => exact absurd enough (Nat.not_succ_le_zero _)
    | succ fuel =>
      rw [List.cons_append, stringBody, if_neg quote, if_neg backslash, if_neg (by omega),
        ih (Nat.le_of_succ_le_succ enough)]
      rfl
  | @short c d text s escape _ ih =>
    cases fuel with
    | zero => exact absurd enough (Nat.not_succ_le_zero _)
    | succ fuel =>
      have read : escaped (c :: (text ++ rest)) = .ok (d, text ++ rest) := by
        rw [escaped, if_neg (ne_u_of_shortEscape? escape), escape]
      exact stringBody_escaped read (ih (Nat.le_of_succ_le (Nat.le_of_succ_le_succ enough)))
  | @point a b c d n text s quad scalar _ ih =>
    cases fuel with
    | zero => exact absurd enough (Nat.not_succ_le_zero _)
    | succ fuel =>
      simp only [List.length_cons] at enough
      have tail := ih (show text.length ≤ fuel by omega)
      exact stringBody_escaped (codePoint_scalar quad scalar (text ++ rest)) tail
  | @surrogates a b c d e f g h high low text s first second highBounds lowBounds _ ih =>
    cases fuel with
    | zero => exact absurd enough (Nat.not_succ_le_zero _)
    | succ fuel =>
      simp only [List.length_cons] at enough
      have tail := ih (show text.length ≤ fuel by omega)
      exact stringBody_escaped
        (codePoint_surrogates first second highBounds lowBounds (text ++ rest)) tail

theorem string_append {inside : List Char} {s : String} (h : Spells inside s.toList)
    (rest : List Char) : string (inside ++ rest) = .ok (s, rest) := by
  have enough : inside.length ≤ (inside ++ rest).length := by
    rw [List.length_append]
    exact Nat.le_add_right _ _
  rw [string, stringBody_append h enough]
  change Except.ok (String.ofList s.toList, rest) = _
  rw [String.ofList_toList]

theorem string_printed (s : String) (rest : List Char) :
    ∃ inside, printString s ++ rest = '"' :: (inside ++ rest) ∧
      string (inside ++ rest) = .ok (s, rest) :=
  ⟨_, rfl, string_append (spells_flatMap_escape s.toList) rest⟩

/-! ### Numbers -/

theorem numeral_integer (ended : Cause) (k : Int) {rest : List Char} (ends : EndsNumber rest) :
    numeral ended (Text.integer k ++ rest) =
      .ok (⟨decide (k < 0), Text.natural k.natAbs, none, none⟩, rest) := by
  have whole := wholePart_append ended (isWhole_natural k.natAbs) ends.endsDigits
  by_cases negative : k < 0
  · rw [Text.integer, if_pos negative, decide_eq_true negative, List.cons_append, numeral]
    simp only [whole, ok_bind, fractionPart_ends ended ends, exponentPart_ends ended ends]
  · rw [Text.integer, if_neg negative, decide_eq_false negative, numeral]
    · simp only [whole, ok_bind, fractionPart_ends ended ends, exponentPart_ends ended ends]
    · intro more minus
      exact absurd (Text.isDigit_of_natural_append minus) (by decide)

theorem value?_integer {k : Int} (least : -2 ^ 63 ≤ k) (greatest : k < 2 ^ 64) :
    Numeral.value? ⟨decide (k < 0), Text.natural k.natAbs, none, none⟩ = some (.integer k) := by
  have fits : (if decide (k < 0) = true then 0 < k.natAbs && k.natAbs ≤ 2 ^ 63
      else k.natAbs < 2 ^ 64) = true := by
    split
    · rename_i negative
      have := of_decide_eq_true negative
      simp only [Bool.and_eq_true, decide_eq_true_eq]
      omega
    · rename_i positive
      have : ¬ k < 0 := by simpa using positive
      simp only [decide_eq_true_eq]
      omega
  simp only [Numeral.value?, Text.naturalOf_natural, Option.isNone_none, Bool.true_and, fits,
    if_pos, Text.signed_natAbs]

/-- A printed integer is read back. -/
theorem number_integer {k : Int} (least : -2 ^ 63 ≤ k) (greatest : k < 2 ^ 64) {rest : List Char}
    (ends : EndsNumber rest) : number (Text.integer k ++ rest) = .ok (.integer k, rest) := by
  rw [number, numeral_integer _ k ends, ok_bind]
  simp only [value?_integer least greatest]

/-! ### Single values -/

theorem value_number (levels : Nat) {c : Char} (h : c = '-' ∨ c.isDigit = true)
    (rest : List Char) :
    value levels (c :: rest) = (number (c :: rest)).map fun p => (p.1.toJson, p.2) := by
  unfold value
  rw [dropSpace_cons (isSpace_of_number h)]
  split
  case h_8 same =>
    cases same
    rw [if_pos h]
    cases number (c :: rest) <;> rfl
  all_goals
    rename_i same
    cases same <;> exact absurd h (by decide)

theorem value_quote (levels : Nat) (rest : List Char) :
    value levels ('"' :: rest) = (string rest).map fun p => (Json.string p.1, p.2) := by
  unfold value
  rw [dropSpace_cons (by decide)]
  change (string rest >>= fun p => Except.ok (Json.string p.1, p.2)) = _
  cases string rest <;> rfl

theorem reads_integer (levels : Nat) {k : Int} (least : -2 ^ 63 ≤ k) (greatest : k < 2 ^ 64) :
    Reads (value levels) (Text.integer k) (.integer k) := by
  intro rest ends
  have read := number_integer least greatest ends
  obtain ⟨c, more, same, first⟩ := (isNumeral_integer k).eq_cons
  rw [same, List.cons_append] at read ⊢
  rw [value_number levels first, read]
  rfl

theorem reads_int64 (n : Int64) : Reads int64 (Text.integer n.toInt) n := by
  intro rest ends
  have bounds : -2 ^ 63 ≤ n.toInt ∧ n.toInt < 2 ^ 63 := ⟨n.le_toInt, n.toInt_lt⟩
  have read := number_integer bounds.1 (by omega) ends
  obtain ⟨c, more, same, first⟩ := (isNumeral_integer n.toInt).eq_cons
  rw [same, List.cons_append] at read ⊢
  unfold int64
  rw [dropSpace_cons (isSpace_of_number first)]
  simp only [if_pos first, read, ok_bind, if_pos bounds, Int64.ofInt_toInt]

theorem reads_string (levels : Nat) (s : String) :
    Reads (value levels) (printString s) (.string s) := by
  intro rest _
  obtain ⟨inside, text, read⟩ := string_printed s rest
  rw [text, value_quote, read]
  rfl

theorem reads_text (expected s : String) : Reads (text expected) (printString s) s := by
  intro rest _
  obtain ⟨inside, same, read⟩ := string_printed s rest
  rw [same, text, dropSpace_cons (by decide)]
  exact read

theorem Reads.optional {read : Nat → Reader α} {levels : Nat} {text : List Char} {v : α}
    (h : Reads (read levels) text v) (starts : Starts ['n'] text) :
    Reads (optional read levels) text (some v) := by
  intro rest ends
  unfold Read.optional
  rw [starts.dropSpace_append]
  obtain ⟨c, more, rfl, -, other⟩ := starts
  split
  · rename_i same
    exact absurd (List.mem_singleton.mpr (List.cons.inj same).1) other
  · rw [h rest ends]
    rfl

/-! ### Items -/

theorem nextItem_separated (first : Bool) {before after part : List Char} (left : IsSpaces before)
    (right : IsSpaces after) (starts : Starts [']'] part) (rest : List Char) :
    nextItem first (before ++ (comma first ++ (after ++ (part ++ rest)))) =
      .ok (true, part ++ rest) := by
  rw [nextItem, dropSpace_lead first left right starts]
  have spaces := starts.dropSpace_append rest
  obtain ⟨c, more, rfl, visible, other⟩ := starts
  have inside : c ≠ ']' := fun same => other (List.mem_singleton.mpr same)
  cases first with
  | true =>
    rw [if_pos rfl, List.cons_append]
    split
    · rename_i same
      cases same
    · rename_i same
      exact absurd (List.cons.inj same).1 inside
    · rename_i same
      cases same
      rw [if_pos rfl]
  | false =>
    have skipped : dropSpace (after ++ (c :: more ++ rest)) = c :: (more ++ rest) := by
      rw [dropSpace_append right, spaces, List.cons_append]
    rw [if_neg (by decide)]
    split
    · rename_i same
      cases same
    · rename_i same
      exact absurd (List.cons.inj same).1 (by decide)
    · rename_i same
      cases same
      rw [if_neg (by decide), if_pos rfl, skipped]
      split
      · rename_i same
        cases same
      · rename_i same
        exact absurd (List.cons.inj same).1 inside
      · rfl

theorem nextItem_end (first : Bool) {spaces : List Char} (h : IsSpaces spaces) (rest : List Char) :
    nextItem first (spaces ++ ']' :: rest) = .ok (false, ']' :: rest) := by
  rw [nextItem, dropSpace_append h, dropSpace_cons (by decide)]
  rfl

/-- Items are read in order, if each of them is read and starts as an item may. -/
theorem items_separated {item : Reader α} {first : Bool} {texts : List (List Char)}
    {body : List Char} {vs : List α} (separated : Separated first texts body)
    (starts : ∀ text ∈ texts, Starts [']'] text) (all : List.Forall₂ (Reads item) texts vs)
    {fuel : Nat} (enough : texts.length < fuel) (rest : List Char) :
    items item fuel first (body ++ ']' :: rest) = .ok (vs, ']' :: rest) := by
  induction separated generalizing vs fuel with
  | nil spaces =>
    cases fuel with
    | zero => exact absurd enough (Nat.not_lt_zero _)
    | succ fuel =>
      cases all
      rw [items, nextItem_end _ spaces, ok_bind]
      rfl
  | @cons first text after' before after texts left right separated ih =>
    cases fuel with
    | zero => exact absurd enough (Nat.not_lt_zero _)
    | succ fuel =>
      obtain ⟨start, starts⟩ := List.forall_mem_cons.mp starts
      cases all with
      | cons head all =>
        have ends : EndsNumber (after' ++ ']' :: rest) :=
          endsNumber_separated separated (endsNumber_cons (by decide))
        have tail := ih starts all (Nat.lt_of_succ_lt_succ enough)
        have next := nextItem_separated first left right start (after' ++ ']' :: rest)
        simp only [List.append_assoc]
        rw [items, next, ok_bind]
        simp only [if_true, head _ ends, ok_bind, tail]

/-- An array is read item by item. -/
theorem arrayBody_separated {item : Reader α} {texts : List (List Char)} {body : List Char}
    {vs : List α} (separated : Separated true texts body)
    (starts : ∀ text ∈ texts, Starts [']'] text) (all : List.Forall₂ (Reads item) texts vs)
    (rest : List Char) : arrayBody item (body ++ ']' :: rest) = .ok (vs, rest) := by
  have short := separated.length_lt (fun text member => Starts.length_pos (starts text member))
    (']' :: rest)
  rw [arrayBody, items_separated separated starts all short]
  rfl

/-- A list is read one level further down than its items. -/
theorem list_separated {item : Nat → Reader α} {levels : Nat} {texts : List (List Char)}
    {body : List Char} {vs : List α} (separated : Separated true texts body)
    (starts : ∀ text ∈ texts, Starts [']'] text)
    (all : List.Forall₂ (Reads (item levels)) texts vs) {spaces : List Char}
    (left : IsSpaces spaces) :
    Reads (list item (levels + 1)) (spaces ++ '[' :: (body ++ [']'])) vs := by
  intro rest _
  rw [List.append_assoc, list, dropSpace_append left, List.cons_append, List.append_assoc,
    List.singleton_append, dropSpace_cons (by decide)]
  exact arrayBody_separated separated starts all rest

theorem Reads.list {item : Nat → Reader α} {levels : Nat} {js : List Json} {vs : List α}
    (all : List.Forall₂ (fun j v => Reads (item levels) j.print v) js vs)
    (starts : ∀ j ∈ js, Starts [']'] j.print) :
    Reads (list item (levels + 1)) (print (.array js)) vs := by
  rw [print]
  exact list_separated (separated_printItems js) (List.forall_mem_map.mpr starts)
    (List.forall₂_map_left_iff.mpr all) isSpaces_nil

/-! ### Entries -/

theorem nextKey_separated (first : Bool) {before after inside : List Char} {k : String}
    (left : IsSpaces before) (right : IsSpaces after) (spells : Spells inside k.toList)
    (rest : List Char) :
    nextKey first (before ++ (comma first ++ (after ++ ('"' :: (inside ++ rest))))) =
      .ok (some k, rest) := by
  have quoted : key ('"' :: (inside ++ rest)) = .ok (some k, rest) := by
    rw [key, string_append spells]
    rfl
  have start : Starts [] ('"' :: (inside ++ rest)) := ⟨'"', _, rfl, by decide, by simp⟩
  have front := dropSpace_lead first left right start []
  rw [List.append_nil] at front
  rw [nextKey, front]
  cases first with
  | true => exact quoted
  | false =>
    have skipped : dropSpace (after ++ '"' :: (inside ++ rest)) = '"' :: (inside ++ rest) := by
      rw [dropSpace_append right, dropSpace_cons (by decide)]
    rw [if_neg (by decide)]
    split
    · rename_i same
      cases same
    · rename_i same
      exact absurd (List.cons.inj same).1 (by decide)
    · rename_i same
      cases same
      rw [if_neg (by decide), if_pos rfl, skipped]
      exact quoted

theorem nextKey_end (first : Bool) {spaces : List Char} (h : IsSpaces spaces) (rest : List Char) :
    nextKey first (spaces ++ '\x7d' :: rest) = .ok (none, '\x7d' :: rest) := by
  rw [nextKey, dropSpace_append h, dropSpace_cons (by decide)]
  rfl

theorem leaveObject_brace (rest : List Char) : leaveObject ('\x7d' :: rest) = (.ok (), rest) := by
  rw [leaveObject, dropSpace_cons (by decide)]
  rfl

/-- Whether a text is that of an entry whose value is read. -/
def ReadsEntry (value : Reader α) (member : String × α) (text : List Char) : Prop :=
  ∃ inside more, Spells inside member.1.toList ∧ text = '"' :: (inside ++ more) ∧
    ∀ rest, EndsNumber rest → colon (more ++ rest) >>= value = .ok (member.2, rest)

/-- Entries are read in order, if the value of each is read. -/
theorem entries_separated {value : Reader α} {first : Bool} {texts : List (List Char)}
    {body : List Char} {members : List (String × α)} (separated : Separated first texts body)
    (all : List.Forall₂ (ReadsEntry value) members texts) {fuel : Nat}
    (enough : texts.length < fuel) (rest : List Char) :
    entries value fuel first (body ++ '\x7d' :: rest) = .ok (members, '\x7d' :: rest) := by
  induction separated generalizing members fuel with
  | nil spaces =>
    cases fuel with
    | zero => exact absurd enough (Nat.not_lt_zero _)
    | succ fuel =>
      cases all
      rw [entries, nextKey_end _ spaces, ok_bind]
  | @cons first text after' before after texts left right separated ih =>
    cases fuel with
    | zero => exact absurd enough (Nat.not_lt_zero _)
    | succ fuel =>
      cases all with
      | @cons member _ members _ head all =>
        obtain ⟨inside, more, spells, rfl, read⟩ := head
        have ends : EndsNumber (after' ++ '\x7d' :: rest) :=
          endsNumber_separated separated (endsNumber_cons (by decide))
        obtain ⟨text, mark, read⟩ := bind_eq_ok_iff.mp (read _ ends)
        have tail := ih all (Nat.lt_of_succ_lt_succ enough)
        have next := nextKey_separated first left right spells (more ++ (after' ++ '\x7d' :: rest))
        simp only [List.append_assoc, List.cons_append]
        rw [entries, next, ok_bind]
        simp only [mark, read, ok_bind, tail]

theorem objectBody_separated {value : Reader α} {texts : List (List Char)} {body : List Char}
    {members : List (String × α)} (separated : Separated true texts body)
    (all : List.Forall₂ (ReadsEntry value) members texts) (rest : List Char) :
    objectBody value (body ++ '\x7d' :: rest) = .ok (members, rest) := by
  have nonempty : ∀ text ∈ texts, 0 < text.length := by
    intro text member
    obtain ⟨e, -, inside, more, -, rfl, -⟩ := exists_of_mem_right all member
    exact Nat.succ_pos _
  have short := separated.length_lt nonempty ('\x7d' :: rest)
  rw [objectBody, entries_separated separated all short, ok_bind]
  dsimp only
  rw [leaveObject_brace]
  rfl

theorem readsEntry_printed {value : Reader α} {e : String × Json} {v : α}
    (h : Reads value e.2.print v) : ReadsEntry value (e.1, v) (entryText e) := by
  obtain ⟨inside, text, spells⟩ := entryText_eq_cons e
  refine ⟨inside, ':' :: e.2.print, spells, text, fun rest ends => ?_⟩
  exact h rest ends

end PaintScript.Json.Read

import PaintScript.Proofs.Markup.Concatenation
import PaintScript.Proofs.Markup.Statement

/-!
# What becomes of each segment

A segment is blank, or its first field is a command or not, and its commas tell how many fields
follow. `Accounts` says of a list of segments that each of them went into exactly one part of the
markup; a text is refused exactly for its first command with too few fields.
-/

namespace PaintScript.Markup

/-! ### Segments -/

/-- Whether fewer fields follow a command than it needs. Each comma starts a field. -/
def IsUnderfilled (segment : List Char) : Prop :=
  ∃ command, command? segment = some command ∧ segment.count ',' < command.arity

/-- The shape that a segment draws. -/
def shape? (segment : List Char) : Option Shape :=
  match command? segment with
  | some (.draw shape) => some shape
  | _ => none

/-- The entry for a segment that is neither blank nor starts with a command. -/
def ignored? : List Char × Nat → Option Ignored
  | (segment, index) =>
    if segment.all Text.isBlank = false ∧ command? segment = none then
      some ⟨index, String.ofList (firstField segment)⟩
    else none

/-- Which instruction a segment makes. -/
inductive Makes (segment : List Char) : Instruction → Prop
  | blank (blank : segment.all Text.isBlank = true) : Makes segment .blank
  | unknown (visible : segment.all Text.isBlank = false) (unknown : command? segment = none) :
      Makes segment (.unknown (String.ofList (firstField segment)))
  | incomplete {command : Command} {found : Nat} (calls : command? segment = some command)
      (count : found = segment.count ',') (few : found < command.arity) :
      Makes segment (.incomplete command found)
  | crop {c : Crop Numeric} {surplus : Nat} (calls : command? segment = some .crop)
      (enough : 2 ≤ segment.count ',') : Makes segment (.crop c surplus)
  | draw {d : Drawing Numeric} {surplus : Nat} (calls : command? segment = some (.draw d.shape))
      (enough : 3 ≤ segment.count ',') : Makes segment (.draw d surplus)

theorem shape_drawing (shape : Shape) (first second color : List Char) :
    (shape.drawing first second color).shape = shape := by
  cases shape <;> rfl

theorem makes_apply {segment : List Char} {command : Command} {arguments : List (List Char)}
    (calls : command? segment = some command) (length : arguments.length = segment.count ',') :
    Makes segment (command.apply arguments) := by
  cases command with
  | crop =>
    rcases arguments with _ | ⟨origin, _ | ⟨size, more⟩⟩
    · exact .incomplete calls length (by simp [Command.arity])
    · exact .incomplete calls length (by simp [Command.arity])
    · exact .crop calls (length ▸ Nat.le_add_left 2 more.length)
  | draw shape =>
    rcases arguments with _ | ⟨first, _ | ⟨second, _ | ⟨color, more⟩⟩⟩
    · exact .incomplete calls length (by simp [Command.arity])
    · exact .incomplete calls length (by simp [Command.arity])
    · exact .incomplete calls length (by simp [Command.arity])
    · have calls : command? segment = some (.draw (shape.drawing first second color).shape) := by
        rw [shape_drawing]
        exact calls
      exact .draw calls (length ▸ Nat.le_add_left 3 more.length)

theorem makes_ofSegment (segment : List Char) : Makes segment (.ofSegment segment) := by
  cases calls : command? segment with
  | some command =>
    rw [Instruction.ofSegment_of_command calls]
    exact makes_apply calls (length_laterFields segment)
  | none =>
    cases visible : segment.all Text.isBlank with
    | true =>
      rw [Instruction.ofSegment, if_pos visible]
      exact .blank visible
    | false =>
      rw [Instruction.ofSegment_of_unknown visible calls]
      exact .unknown visible calls

/-! ### Pieces -/

theorem piece_eq_error_iff {index : Nat} {segment : List Char} {e : MissingArguments} :
    piece index segment = .error e ↔
      ∃ command, command? segment = some command ∧ segment.count ',' < command.arity ∧
        e = ⟨index, String.ofList segment, command, segment.count ','⟩ := by
  have made := makes_ofSegment segment
  unfold piece
  generalize Instruction.ofSegment segment = instruction at made
  constructor
  · intro failed
    cases made with
    | incomplete calls count few =>
      cases failed
      exact ⟨_, calls, count ▸ few, by rw [count]⟩
    | _ => cases failed
  · rintro ⟨command, calls, few, rfl⟩
    cases made with
    | blank blank => simp [command?_of_blank blank] at calls
    | unknown _ unknown => simp [unknown] at calls
    | incomplete same count _ =>
      obtain rfl : _ = command := Option.some.inj (same.symm.trans calls)
      rw [count]
    | crop same enough =>
      obtain rfl : _ = command := Option.some.inj (same.symm.trans calls)
      exact absurd few (Nat.not_lt.mpr enough)
    | draw same enough =>
      obtain rfl : _ = command := Option.some.inj (same.symm.trans calls)
      exact absurd few (Nat.not_lt.mpr enough)

theorem exists_piece_eq_ok_iff {index : Nat} {segment : List Char} :
    (∃ m, piece index segment = .ok m) ↔ ¬ IsUnderfilled segment := by
  cases result : piece index segment with
  | error e =>
    obtain ⟨command, calls, few, -⟩ := piece_eq_error_iff.mp result
    simp [IsUnderfilled, calls, few]
  | ok m =>
    have filled : ¬ IsUnderfilled segment := by
      rintro ⟨command, calls, few⟩
      have failed : piece index segment = .error _ :=
        piece_eq_error_iff.mpr ⟨command, calls, few, rfl⟩
      rw [result] at failed
      cases failed
    simp [filled]

/-- Whether markup holds what segments say, of which the first has the given index: an entry for
each unknown command, a drawing for each shape, and a crop if there is one. With the blank segments
these are all. -/
structure Accounts (index : Nat) (segs : List (List Char)) (m : Markup) : Prop where
  filled : ∀ s ∈ segs, ¬ IsUnderfilled s
  ignored : m.ignored = (segs.zipIdx index).filterMap ignored?
  draw : m.draw.map Drawing.shape = segs.filterMap shape?
  crop : m.crop.isSome ↔ ∃ s ∈ segs, command? s = some .crop
  total : segs.length = segs.countP (·.all Text.isBlank) + m.ignored.length + m.draw.length +
    segs.countP (command? · = some .crop)

theorem accounts_empty (index : Nat) : Accounts index [] empty :=
  ⟨List.forall_mem_nil _, rfl, rfl, by simp [empty], rfl⟩

/-- Markup for some segments and for those after them is put together. -/
theorem Accounts.append {index : Nat} {xs ys : List (List Char)} {m k : Markup}
    (h : Accounts index xs m) (l : Accounts (index + xs.length) ys k) :
    Accounts index (xs ++ ys) (m.append k) where
  filled := List.forall_mem_append.mpr ⟨h.filled, l.filled⟩
  ignored := by
    rw [List.zipIdx_append, List.filterMap_append, ← h.ignored, ← l.ignored]
    rfl
  draw := by
    rw [List.filterMap_append, ← h.draw, ← l.draw, ← List.map_append]
    rfl
  crop := by
    have either : (m.append k).crop.isSome ↔ m.crop.isSome ∨ k.crop.isSome := by
      rw [Markup.append]
      cases m.crop <;> cases k.crop <;> simp
    rw [either, h.crop, l.crop]
    simp only [List.mem_append, or_and_right, exists_or]
  total := by
    have first := h.total
    have second := l.total
    simp only [Markup.append, List.length_append, List.countP_append]
    omega

theorem accounts_piece {index : Nat} {segment : List Char} {m : Markup}
    (h : piece index segment = .ok m) : Accounts index [segment] m := by
  have filled : ∀ s ∈ [segment], ¬ IsUnderfilled s :=
    List.forall_mem_singleton.mpr (exists_piece_eq_ok_iff.mp ⟨m, h⟩)
  have made := makes_ofSegment segment
  unfold piece at h
  generalize Instruction.ofSegment segment = instruction at made h
  cases made with
  | blank blank =>
    cases h
    have none := command?_of_blank blank
    refine ⟨filled, ?_, ?_, ?_, ?_⟩ <;> simp [empty, ignored?, shape?, blank, none]
  | unknown visible unknown =>
    cases h
    refine ⟨filled, ?_, ?_, ?_, ?_⟩ <;> simp [ignored?, shape?, visible, unknown]
  | incomplete _ _ _ => cases h
  | crop calls _ =>
    cases h
    have visible := visible_of_command? calls
    refine ⟨filled, ?_, ?_, ?_, ?_⟩ <;> simp [ignored?, shape?, visible, calls]
  | draw calls _ =>
    cases h
    have visible := visible_of_command? calls
    refine ⟨filled, ?_, ?_, ?_, ?_⟩ <;> simp [ignored?, shape?, visible, calls]

/-- The entries for unknown commands are in the order of their segments. -/
theorem Accounts.increasing {index : Nat} {segs : List (List Char)} {m : Markup}
    (h : Accounts index segs m) : m.ignored.Pairwise (·.index < ·.index) := by
  have indices : (segs.zipIdx index).Pairwise (·.2 < ·.2) := by
    rw [← List.pairwise_map, List.zipIdx_map_snd]
    exact List.pairwise_lt_range'
  have same : ∀ p i, ignored? p = some i → i.index = p.2 := by
    rintro ⟨segment, index⟩ i entry
    obtain ⟨-, made⟩ := Option.ite_none_right_eq_some.mp entry
    rw [← Option.some.inj made]
  rw [h.ignored]
  refine indices.filterMap _ fun p q before i entry j later => ?_
  rw [same p i entry, same q j later]
  exact before

/-! ### Whole texts -/

theorem pieces_accounts {index : Nat} {segs : List (List Char)} {m : Markup}
    (h : pieces index segs = .ok m) : Accounts index segs m := by
  induction segs generalizing index m with
  | nil =>
    cases h
    exact accounts_empty index
  | cons segment segs ih =>
    obtain ⟨first, here, later⟩ := bind_eq_ok_iff.mp h
    obtain ⟨rest, there, rfl⟩ := map_eq_ok_iff.mp later
    exact (accounts_piece here).append (ih there)

/-- The first segment with too few fields ends the work. -/
theorem pieces_eq_error_iff (index : Nat) (segs : List (List Char)) (e : MissingArguments) :
    pieces index segs = .error e ↔
      ∃ before segment command after, segs = before ++ segment :: after ∧
        (∀ s ∈ before, ¬ IsUnderfilled s) ∧ command? segment = some command ∧
        segment.count ',' < command.arity ∧
        e = ⟨index + before.length, String.ofList segment, command, segment.count ','⟩ := by
  induction segs generalizing index with
  | nil =>
    constructor
    · rintro ⟨⟩
    · rintro ⟨before, segment, command, after, split, -⟩
      simp at split
  | cons first segs ih =>
    rw [pieces, bind_eq_error_iff]
    constructor
    · rintro (failed | ⟨m, passed, failed⟩)
      · obtain ⟨command, calls, few, rfl⟩ := piece_eq_error_iff.mp failed
        exact ⟨[], first, command, segs, rfl, List.forall_mem_nil _, calls, few, rfl⟩
      · obtain ⟨before, segment, command, after, rfl, filled, calls, few, rfl⟩ :=
          (ih _).mp (map_eq_error_iff.mp failed)
        have here : ¬ IsUnderfilled first := exists_piece_eq_ok_iff.mp ⟨m, passed⟩
        refine ⟨first :: before, segment, command, after, rfl,
          List.forall_mem_cons.mpr ⟨here, filled⟩, calls, few, ?_⟩
        rw [List.length_cons, Nat.add_right_comm, Nat.add_assoc]
    · rintro ⟨before, segment, command, after, split, filled, calls, few, rfl⟩
      cases before with
      | nil =>
        obtain ⟨rfl, rfl⟩ := List.cons.inj split
        exact Or.inl (piece_eq_error_iff.mpr ⟨command, calls, few, rfl⟩)
      | cons head before =>
        obtain ⟨rfl, rfl⟩ := List.cons.inj split
        obtain ⟨here, filled⟩ := List.forall_mem_cons.mp filled
        obtain ⟨m, passed⟩ := exists_piece_eq_ok_iff.mpr here
        refine Or.inr ⟨m, passed, map_eq_error_iff.mpr ((ih _).mpr ?_)⟩
        refine ⟨before, segment, command, after, rfl, filled, calls, few, ?_⟩
        rw [List.length_cons, Nat.add_right_comm, Nat.add_assoc]

/-- A text is refused exactly if a command in it has too few fields, and then for the first such
command. Any other text is accounted for segment by segment, numbered from zero. -/
theorem outcome_ofText_accounts (text : String) :
    let segs := segments text.toList
    ((∃ e, (ofText text).outcome = .error e) ↔ ∃ s ∈ segs, IsUnderfilled s) ∧
    (∀ e, (ofText text).outcome = .error e ↔
      ∃ before segment command after, segs = before ++ segment :: after ∧
        (∀ s ∈ before, ¬ IsUnderfilled s) ∧ command? segment = some command ∧
        segment.count ',' < command.arity ∧
        e = ⟨before.length, String.ofList segment, command, segment.count ','⟩) ∧
    ∀ m, (ofText text).outcome = .ok m →
      Accounts 0 segs m ∧ m.ignored.Pairwise (·.index < ·.index) := by
  intro segs
  have refused := pieces_eq_error_iff 0 segs
  simp only [Nat.zero_add] at refused
  rw [ofText, outcome_ofSegments]
  refine ⟨?_, refused, fun m read => ⟨pieces_accounts read, (pieces_accounts read).increasing⟩⟩
  constructor
  · rintro ⟨e, failed⟩
    obtain ⟨before, segment, command, after, split, -, calls, few, -⟩ := (refused e).mp failed
    exact ⟨segment, split ▸ List.mem_append_right _ List.mem_cons_self, command, calls, few⟩
  · rintro ⟨s, member, bad⟩
    cases result : pieces 0 segs with
    | error e => exact ⟨e, rfl⟩
    | ok m => exact absurd bad ((pieces_accounts result).filled s member)

/-- A blank segment has an index, an empty first field is no command, and an empty last field
counts. -/
theorem ofText_accounts_of_empty_fields :
    let text := " ;,7;circle,1x1,1,"
    let m : Markup := ⟨none, [.circle ⟨⟨.int 1, .int 1⟩, .int 1, ⟨""⟩⟩], [⟨1, ""⟩]⟩
    (ofText text).outcome = .ok m ∧ Accounts 0 (segments text.toList) m ∧
      m.ignored.Pairwise (·.index < ·.index) := by
  have read : (ofText " ;,7;circle,1x1,1,").outcome =
      .ok ⟨none, [.circle ⟨⟨.int 1, .int 1⟩, .int 1, ⟨""⟩⟩], [⟨1, ""⟩]⟩ := by with_unfolding_all rfl
  exact ⟨read, (outcome_ofText_accounts _).2.2 _ read⟩

end PaintScript.Markup

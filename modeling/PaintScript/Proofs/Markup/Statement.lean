import PaintScript.Markup.Parser
import PaintScript.Proofs.Document.Coercion

/-!
# Statements of markup

A segment makes a `Statement` if its first field is a command. `ofSegments_outcome` and
`ofSegments_succeeds` say what becomes of a list of segments in these terms: the last crop, the
drawings in order, and failure only for a statement with too few arguments.
-/

namespace PaintScript

/-! ### Names of commands -/

theorem Command.ofName?_name (command : Command) : Command.ofName? command.name = some command := by
  cases command with
  | crop => rfl
  | draw shape => cases shape <;> decide

/-! ### Fields of a segment -/

namespace Markup

/-- The text before the first comma, trimmed. -/
def firstField (segment : List Char) : List Char :=
  Text.trim (segment.takeWhile (· ≠ ','))

/-- The texts behind the commas, up to the next comma each, trimmed. -/
def laterFields (segment : List Char) : List (List Char) :=
  (segment.splitOn ',').tail.map Text.trim

/-- The command that a segment starts with. -/
def command? (segment : List Char) : Option Command :=
  Command.ofName? (String.ofList (firstField segment))

/-- What a segment is parsed into. -/
theorem segmentFields_eq (segment : List Char) :
    segmentFields segment = firstField segment :: laterFields segment := by
  rw [segmentFields, laterFields, firstField, Text.splitOn_eq_cons]
  rfl

/-- Each comma starts a field. -/
theorem length_laterFields (segment : List Char) :
    (laterFields segment).length = segment.count ',' := by
  rw [laterFields, List.length_map, List.length_tail, Text.length_splitOn, Nat.add_sub_cancel]

theorem command?_of_blank {segment : List Char} (h : segment.all Text.isBlank = true) :
    command? segment = none := by
  have nothing : firstField segment = [] := by
    apply Text.trim_of_blank
    intro c member
    exact List.all_eq_true.mp h c (List.takeWhile_subset _ member)
  rw [command?, nothing]
  rfl

theorem visible_of_command? {segment : List Char} {command : Command}
    (h : command? segment = some command) : segment.all Text.isBlank = false := by
  by_contra blank
  rw [command?_of_blank (Bool.of_not_eq_false blank)] at h
  cases h

end Markup

/-- A segment whose first field is a command applies it to the later fields. -/
theorem Instruction.ofSegment_of_command {segment : List Char} {command : Command}
    (calls : Markup.command? segment = some command) :
    ofSegment segment = command.apply (Markup.laterFields segment) := by
  rw [ofSegment, if_neg (by simp [Markup.visible_of_command? calls]), Markup.segmentFields_eq]
  simp only [show Command.ofName? (String.ofList (Markup.firstField segment)) = _ from calls]

theorem Instruction.ofSegment_of_unknown {segment : List Char}
    (visible : segment.all Text.isBlank = false) (unknown : Markup.command? segment = none) :
    ofSegment segment = .unknown (String.ofList (Markup.firstField segment)) := by
  rw [ofSegment, if_neg (by simp [visible]), Markup.segmentFields_eq]
  simp only [show Command.ofName? (String.ofList (Markup.firstField segment)) = _ from unknown]

/-! ### Statements -/

/-- A command with the fields after it. -/
structure Statement where
  command : Command
  arguments : List (List Char)
  deriving DecidableEq

namespace Statement

/-- The statement that a segment makes. There is none if the first field is no command, as that of a
blank segment. -/
def ofSegment? (segment : List Char) : Option Statement :=
  (Markup.command? segment).map fun command => ⟨command, Markup.laterFields segment⟩

/-- Whether a statement has the arguments that its command needs. -/
def IsComplete (s : Statement) : Prop :=
  s.command.arity ≤ s.arguments.length

instance (s : Statement) : Decidable s.IsComplete :=
  inferInstanceAs (Decidable (s.command.arity ≤ s.arguments.length))

/-- The crop of a complete statement, as it is written. -/
def crop? : Statement → Option (Crop Numeric)
  | ⟨.crop, origin :: size :: _⟩ => some ⟨.ofToken origin, .ofToken size⟩
  | _ => none

/-- The drawing of a complete statement, as it is written. -/
def drawing? : Statement → Option (Drawing Numeric)
  | ⟨.draw shape, first :: second :: color :: _⟩ => some (shape.drawing first second color)
  | _ => none

/-- A statement gives a crop or a drawing, or it lacks an argument. -/
theorem apply_cases (s : Statement) :
    (∃ c surplus, s.command.apply s.arguments = .crop c surplus ∧ s.crop? = some c ∧
      s.drawing? = none ∧ s.IsComplete) ∨
    (∃ d surplus, s.command.apply s.arguments = .draw d surplus ∧ s.crop? = none ∧
      s.drawing? = some d ∧ s.IsComplete) ∨
    (∃ found, s.command.apply s.arguments = .incomplete s.command found ∧ ¬ s.IsComplete) := by
  obtain ⟨command, arguments⟩ := s
  cases command with
  | crop =>
    match arguments with
    | [] => exact Or.inr (Or.inr ⟨0, rfl, by simp [IsComplete, Command.arity]⟩)
    | [_] => exact Or.inr (Or.inr ⟨1, rfl, by simp [IsComplete, Command.arity]⟩)
    | _ :: _ :: _ => exact Or.inl ⟨_, _, rfl, rfl, rfl, by simp [IsComplete, Command.arity]⟩
  | draw shape =>
    match arguments with
    | [] => exact Or.inr (Or.inr ⟨0, rfl, by simp [IsComplete, Command.arity]⟩)
    | [_] => exact Or.inr (Or.inr ⟨1, rfl, by simp [IsComplete, Command.arity]⟩)
    | [_, _] => exact Or.inr (Or.inr ⟨2, rfl, by simp [IsComplete, Command.arity]⟩)
    | _ :: _ :: _ :: _ =>
      exact Or.inr (Or.inl ⟨_, _, rfl, rfl, rfl, by simp [IsComplete, Command.arity]⟩)

/-- The arguments are trimmed pieces of their segment. -/
theorem arguments_ofSegment? {segment : List Char} {s : Statement}
    (h : ofSegment? segment = some s) :
    ∀ a ∈ s.arguments, Text.trim a = a ∧ ',' ∉ a ∧ ∀ c ∈ a, c ∈ segment := by
  obtain ⟨command, _, rfl⟩ := Option.map_eq_some_iff.mp h
  intro a member
  obtain ⟨piece, behind, rfl⟩ := List.mem_map.mp member
  have cut : piece ∈ segment.splitOn ',' := List.mem_of_mem_tail behind
  exact ⟨Text.trim_trim piece,
    fun comma => Text.not_mem_of_mem_splitOn cut (Text.mem_of_mem_trim comma),
    fun c there => Text.mem_of_mem_splitOn cut (Text.mem_of_mem_trim there)⟩

end Statement

/-! ### From segments to statements -/

theorem Instruction.ofSegment_of_statement {segment : List Char} {s : Statement}
    (h : Statement.ofSegment? segment = some s) :
    Instruction.ofSegment segment = s.command.apply s.arguments := by
  obtain ⟨command, calls, rfl⟩ := Option.map_eq_some_iff.mp h
  exact Instruction.ofSegment_of_command calls

theorem Instruction.ofSegment_of_none {segment : List Char}
    (h : Statement.ofSegment? segment = none) :
    Instruction.ofSegment segment = .blank ∨
      ∃ name, Instruction.ofSegment segment = .unknown name := by
  have unknown : Markup.command? segment = none := Option.map_eq_none_iff.mp h
  cases visible : segment.all Text.isBlank with
  | true => exact Or.inl (if_pos visible)
  | false => exact Or.inr ⟨_, Instruction.ofSegment_of_unknown visible unknown⟩

namespace Markup

def statementsOf (segments : List (List Char)) : List Statement :=
  segments.filterMap Statement.ofSegment?

/-- The statements of a markup text, in order. -/
def statements (text : String) : List Statement :=
  statementsOf (text.toList.splitOn ';')

theorem statementsOf_cons_none {segment : List Char} {rest : List (List Char)}
    (h : Statement.ofSegment? segment = none) :
    statementsOf (segment :: rest) = statementsOf rest :=
  List.filterMap_cons_none h

theorem statementsOf_cons_some {segment : List Char} {rest : List (List Char)} {s : Statement}
    (h : Statement.ofSegment? segment = some s) :
    statementsOf (segment :: rest) = s :: statementsOf rest :=
  List.filterMap_cons_some h

/-- Segments that are read make complete statements alone. The last crop counts, and the drawings
keep their order. -/
theorem ofSegments_outcome {index : Nat} {cropped : Bool} {segs : List (List Char)} {m : Markup}
    (h : (ofSegments index cropped segs).outcome = .ok m) :
    (∀ s ∈ statementsOf segs, s.IsComplete) ∧
      m.crop = ((statementsOf segs).filterMap Statement.crop?).getLast? ∧
      m.draw = (statementsOf segs).filterMap Statement.drawing? := by
  induction segs generalizing index cropped m with
  | nil =>
    cases h
    exact ⟨fun s member => absurd member List.not_mem_nil, rfl, rfl⟩
  | cons segment segs ih =>
    rw [ofSegments] at h
    cases made : Statement.ofSegment? segment with
    | none =>
      rw [statementsOf_cons_none made]
      rcases Instruction.ofSegment_of_none made with blank | ⟨name, unknown⟩
      · rw [blank] at h
        exact ih h
      · rw [unknown] at h
        obtain ⟨rest, read, rfl⟩ := map_eq_ok_iff.mp h
        obtain ⟨all, last, order⟩ := ih read
        exact ⟨all, last, order⟩
    | some s =>
      rw [statementsOf_cons_some made]
      rw [Instruction.ofSegment_of_statement made] at h
      rcases s.apply_cases with ⟨c, surplus, applied, crop, drawing, complete⟩ |
        ⟨d, surplus, applied, crop, drawing, complete⟩ | ⟨found, applied, lacking⟩
      · rw [applied] at h
        obtain ⟨rest, read, rfl⟩ := map_eq_ok_iff.mp h
        obtain ⟨all, last, order⟩ := ih read
        refine ⟨List.forall_mem_cons.mpr ⟨complete, all⟩, ?_, ?_⟩
        · rw [List.filterMap_cons_some crop, List.getLast?_cons, ← last]
          cases rest.crop <;> rfl
        · rw [List.filterMap_cons_none drawing]
          exact order
      · rw [applied] at h
        obtain ⟨rest, read, rfl⟩ := map_eq_ok_iff.mp h
        obtain ⟨all, last, order⟩ := ih read
        refine ⟨List.forall_mem_cons.mpr ⟨complete, all⟩, ?_, ?_⟩
        · rw [List.filterMap_cons_none crop]
          exact last
        · rw [List.filterMap_cons_some drawing, ← order]
      · rw [applied] at h
        cases h

/-- Segments whose statements are complete are read. -/
theorem ofSegments_succeeds {index : Nat} {cropped : Bool} {segs : List (List Char)}
    (complete : ∀ s ∈ statementsOf segs, s.IsComplete) :
    ∃ m, (ofSegments index cropped segs).outcome = .ok m := by
  induction segs generalizing index cropped with
  | nil => exact ⟨_, rfl⟩
  | cons segment segs ih =>
    rw [ofSegments]
    cases made : Statement.ofSegment? segment with
    | none =>
      rw [statementsOf_cons_none made] at complete
      rcases Instruction.ofSegment_of_none made with blank | ⟨name, unknown⟩
      · rw [blank]
        exact ih complete
      · obtain ⟨rest, read⟩ : ∃ m, (ofSegments (index + 1) cropped segs).outcome = .ok m :=
          ih complete
        rw [unknown]
        exact ⟨_, map_eq_ok_iff.mpr ⟨rest, read, rfl⟩⟩
    | some s =>
      rw [statementsOf_cons_some made] at complete
      obtain ⟨first, others⟩ := List.forall_mem_cons.mp complete
      rw [Instruction.ofSegment_of_statement made]
      rcases s.apply_cases with ⟨c, surplus, applied, -⟩ | ⟨d, surplus, applied, -⟩ |
        ⟨found, -, lacking⟩
      · obtain ⟨rest, read⟩ : ∃ m, (ofSegments (index + 1) true segs).outcome = .ok m :=
          ih others
        rw [applied]
        exact ⟨_, map_eq_ok_iff.mpr ⟨rest, read, rfl⟩⟩
      · obtain ⟨rest, read⟩ : ∃ m, (ofSegments (index + 1) cropped segs).outcome = .ok m :=
          ih others
        rw [applied]
        exact ⟨_, map_eq_ok_iff.mpr ⟨rest, read, rfl⟩⟩
      · exact absurd first lacking

end Markup
end PaintScript

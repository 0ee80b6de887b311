import PaintScript.Proofs.Markup.Accounting

/-!
# What is logged while markup is read

Every segment has the events that `segmentEvents` gives it, and the log of a text is that of its
segments in order, up to the first one that lacks an argument. So nothing is left out in silence,
not even from a text that is refused in the end.
-/

namespace PaintScript

/-- An event with its severity. -/
def Event.graded (e : Event) : Severity × Event :=
  (e.severity, e)

/-- The entry that an event tells of an instruction with an unknown command. -/
def Event.ignored? : Event → Option Ignored
  | .unknownCommand index command => some ⟨index, command⟩
  | _ => none

namespace Markup

instance (segment : List Char) : Decidable (IsUnderfilled segment) :=
  match calls : command? segment with
  | none => .isFalse fun ⟨_, found, _⟩ => by simp [calls] at found
  | some command =>
    decidable_of_iff (segment.count ',' < command.arity) (by simp [IsUnderfilled, calls])

def hasCrop (segs : List (List Char)) : Bool :=
  segs.any (command? · = some .crop)

/-- The events of a segment with an index, after other segments: a warning for an unknown command, a
warning for the fields that its command does not use, and a message if it replaces a crop. -/
def segmentEvents (before : List (List Char)) (index : Nat) (segment : List Char) :
    List (Severity × Event) :=
  match command? segment with
  | none =>
    if segment.all Text.isBlank then []
    else [(.warning, .unknownCommand index (String.ofList (firstField segment)))]
  | some command =>
    (if command.arity < segment.count ',' then
      [(.warning, .surplusArguments index (String.ofList segment)
        (segment.count ',' - command.arity))]
    else []) ++
    if command = .crop ∧ hasCrop before = true then [(.debug, .cropReplaced index)] else []

/-- The segments of a text that are read: those before the first one that lacks an argument. -/
def segmentsRead (segs : List (List Char)) : List (List Char) :=
  segs.takeWhile fun segment => ¬ IsUnderfilled segment

/-- The events of segments that come after others, in order. -/
def eventsAfter (before segs : List (List Char)) : List (Severity × Event) :=
  ((segmentsRead segs).zipIdx before.length).flatMap fun (segment, index) =>
    segmentEvents ((before ++ segs).take index) index segment

/-! ### One segment -/

/-- What is left of the arguments is counted as surplus. -/
theorem Command.apply_of_enough {command : Command} {arguments : List (List Char)}
    (enough : command.arity ≤ arguments.length) :
    (∃ c, command = .crop ∧
      command.apply arguments = .crop c (arguments.length - command.arity)) ∨
    ∃ d, command ≠ .crop ∧
      command.apply arguments = .draw d (arguments.length - command.arity) := by
  cases command with
  | crop =>
    match arguments, enough with
    | _ :: _ :: _, _ => exact .inl ⟨_, rfl, rfl⟩
  | draw shape =>
    match arguments, enough with
    | _ :: _ :: _ :: _, _ => exact .inr ⟨_, nofun, rfl⟩

theorem log_ofSegments_underfilled {index : Nat} {cropped : Bool} {segment : List Char}
    {rest : List (List Char)} (lacking : IsUnderfilled segment) :
    (ofSegments index cropped (segment :: rest)).log = [] := by
  obtain ⟨command, calls, few⟩ := lacking
  have failed : piece index segment = .error _ := piece_eq_error_iff.mpr ⟨command, calls, few, rfl⟩
  rw [piece] at failed
  rw [ofSegments]
  cases made : Instruction.ofSegment segment with
  | incomplete command found => rfl
  | _ => simp [made] at failed

theorem map_graded_surplusEvents (index : Nat) (segment : List Char) (found arity : Nat) :
    (surplusEvents index segment (found - arity)).map Event.graded =
      if arity < found then
        [(.warning, .surplusArguments index (String.ofList segment) (found - arity))]
      else [] := by
  unfold surplusEvents
  by_cases more : arity < found
  · rw [if_pos more, if_neg (Nat.sub_ne_zero_of_lt more)]
    rfl
  · rw [if_neg more, if_pos (Nat.sub_eq_zero_of_le (Nat.not_lt.mp more))]
    rfl

/-- A segment that is not refused adds its events to those of the segments after it. -/
theorem log_ofSegments_cons {before : List (List Char)} {segment : List Char}
    (filled : ¬ IsUnderfilled segment) (index : Nat) (rest : List (List Char)) :
    (ofSegments index (hasCrop before) (segment :: rest)).log.map Event.graded =
      segmentEvents before index segment ++
        (ofSegments (index + 1) (hasCrop (before ++ [segment])) rest).log.map Event.graded := by
  have cropped : hasCrop (before ++ [segment]) =
      (hasCrop before || decide (command? segment = some .crop)) := by
    simp [hasCrop]
  rw [ofSegments, segmentEvents, cropped]
  cases calls : command? segment with
  | none =>
    cases visible : segment.all Text.isBlank with
    | true =>
      rw [Instruction.ofSegment, if_pos visible]
      simp
    | false =>
      rw [Instruction.ofSegment_of_unknown visible calls]
      simp [Logged.after, Logged.map, Event.graded, Event.severity]
  | some command =>
    have enough : command.arity ≤ (laterFields segment).length := by
      rw [length_laterFields]
      exact Nat.not_lt.mp fun few => filled ⟨command, calls, few⟩
    dsimp only
    rw [Instruction.ofSegment_of_command calls, ← length_laterFields, ← map_graded_surplusEvents]
    rcases Command.apply_of_enough enough with ⟨c, rfl, made⟩ | ⟨d, other, made⟩
    · rw [made]
      cases hasCrop before <;> simp [Logged.after, Logged.map, Event.graded, Event.severity]
    · rw [made]
      simp [Logged.after, Logged.map, other]

/-! ### Whole texts -/

theorem log_ofSegments (before segs : List (List Char)) :
    (ofSegments before.length (hasCrop before) segs).log.map Event.graded =
      eventsAfter before segs := by
  induction segs generalizing before with
  | nil => rfl
  | cons segment segs ih =>
    by_cases lacking : IsUnderfilled segment
    · rw [log_ofSegments_underfilled lacking, eventsAfter, segmentsRead]
      simp [lacking]
    · have here : (before ++ segment :: segs).take before.length = before := by simp
      have later := ih (before ++ [segment])
      rw [List.length_append, List.length_singleton] at later
      rw [log_ofSegments_cons lacking, later, eventsAfter, eventsAfter, segmentsRead, segmentsRead,
        List.takeWhile_cons_of_pos (by simpa using lacking), List.zipIdx_cons, List.flatMap_cons,
        List.append_assoc, List.length_append]
      simp only [here]
      rfl

theorem filterMap_segmentEvents (before : List (List Char)) (index : Nat) (segment : List Char) :
    (segmentEvents before index segment).filterMap (·.2.ignored?) =
      (ignored? (segment, index)).toList := by
  unfold segmentEvents ignored?
  dsimp only
  cases calls : command? segment with
  | none => cases segment.all Text.isBlank <;> rfl
  | some command =>
    rw [if_neg (c := _ ∧ some command = none) (by simp)]
    dsimp only
    split <;> split <;> rfl

theorem segmentsRead_of_filled {segs : List (List Char)} (filled : ∀ s ∈ segs, ¬ IsUnderfilled s) :
    segmentsRead segs = segs :=
  List.takeWhile_eq_self_iff.mpr fun s member => by simpa using filled s member

theorem severity_of_mem_segmentEvents {before : List (List Char)} {index : Nat}
    {segment : List Char} {p : Severity × Event} (member : p ∈ segmentEvents before index segment) :
    p.1 ≠ .info := by
  unfold segmentEvents at member
  split at member
  · split at member
    · cases member
    · cases List.mem_singleton.mp member
      nofun
  · rcases List.mem_append.mp member with surplus | replaced
    · split at surplus
      · cases List.mem_singleton.mp surplus
        nofun
      · cases surplus
    · split at replaced
      · cases List.mem_singleton.mp replaced
        nofun
      · cases replaced

theorem severity_of_mem_log {text : String} {event : Event} (member : event ∈ (ofText text).log) :
    event.severity ≠ .info := by
  have graded : event.graded ∈ eventsAfter [] (segments text.toList) := by
    rw [← log_ofSegments]
    exact List.mem_map_of_mem member
  obtain ⟨_, _, inside⟩ := List.mem_flatMap.mp graded
  exact severity_of_mem_segmentEvents inside

/-- The log of a text is made of the events of its segments, up to the first command with too few
fields. The warnings of unknown commands in it are the entries of a text that is read. -/
theorem log_ofText (text : String) :
    let segs := segments text.toList
    (ofText text).log.map (fun event => (event.severity, event)) =
      (segmentsRead segs).zipIdx.flatMap
        (fun (segment, index) => segmentEvents (segs.take index) index segment) ∧
    ∀ m, (ofText text).outcome = .ok m →
      (ofText text).log.filterMap Event.ignored? = m.ignored := by
  intro segs
  have log : (ofText text).log.map Event.graded = eventsAfter [] segs := log_ofSegments [] segs
  refine ⟨log, fun m read => ?_⟩
  rw [ofText, outcome_ofSegments] at read
  have accounts : Accounts 0 segs m := pieces_accounts read
  calc (ofText text).log.filterMap Event.ignored?
      = ((ofText text).log.map Event.graded).filterMap (·.2.ignored?) := by
        rw [List.filterMap_map]
        rfl
    _ = (segs.zipIdx 0).flatMap fun p => (ignored? p).toList := by
        rw [log, eventsAfter, segmentsRead_of_filled accounts.filled, List.filterMap_flatMap]
        exact congrArg (List.flatMap · _) (funext fun p => filterMap_segmentEvents _ p.2 p.1)
    _ = m.ignored := by rw [accounts.ignored, List.filterMap_eq_flatMap_toList]

/-- An empty first field is an unknown command. The second crop has two fields too many and replaces
the first one. -/
theorem log_ofText_of_surplus_fields :
    let text := " ;,7;crop,0x0,9x9,more;crop,1x1,4x4,a,b"
    let m : Markup := ⟨some ⟨⟨.int 1, .int 1⟩, ⟨.int 4, .int 4⟩⟩, [], [⟨1, ""⟩]⟩
    (ofText text).outcome = .ok m ∧
      (ofText text).log =
        [.unknownCommand 1 "", .surplusArguments 2 "crop,0x0,9x9,more" 1,
          .surplusArguments 3 "crop,1x1,4x4,a,b" 2, .cropReplaced 3] ∧
      (ofText text).log.filterMap Event.ignored? = m.ignored := by
  intro text m
  have read : (ofText text).outcome = .ok m := by
    simp only [text, ofText, String.toList]
    rfl
  exact ⟨read, by decide +kernel, (log_ofText text).2 m read⟩

-- The warning before the first fault is kept, and what follows the fault is not looked at.
example : (ofText "blur,5;circle,1x1;glow").log = [.unknownCommand 0 "blur"] := by decide +kernel

end Markup
end PaintScript

import PaintScript.Proofs.Pipeline.Stages

/-!
# Lines of the log

Every event is shown as a line. `lines_ofText` gives the lines of a markup text segment by segment,
and `lines_serve` those of a step stage by stage, word for word.
-/

namespace PaintScript

/-! ### Words of a line -/

theorem ofList_int64 (n : Int64) : String.ofList (Text.int64 n) = toString n := by
  change String.ofList (Text.integer n.toInt) = Int.repr n.toInt
  cases n.toInt with
  | ofNat n => rfl
  | negSucc n =>
    rw [Text.integer, if_pos (Int.negSucc_lt_zero n), String.ofList_cons]
    rfl

namespace Event

theorem sizeText_eq (s : Size Int64) :
    sizeText s = toString s.width ++ "x" ++ toString s.height := by
  rw [← ofList_int64, ← ofList_int64, sizeText, String.ofList_append, String.ofList_cons,
    String.append_assoc]
  rfl

/-- The line of an event that comes with its severity. -/
def gradedLine : Severity × Event → String
  | (severity, event) => severity.name ++ " " ++ event.message

theorem map_line_eq (events : List Event) :
    events.map line = (events.map graded).map gradedLine := by
  rw [List.map_map]
  rfl

/-! The lines of the events, each put together from its severity and its words. -/

theorem line_unknownCommand (index : Nat) (command : String) :
    line (.unknownCommand index command) =
      "WARN Ignoring unknown command '" ++ command ++ "' at instruction " ++ toString index := by
  change "WARN" ++ " " ++
    ("Ignoring unknown command '" ++ command ++ "' at instruction " ++ toString index) = _
  simp only [← String.append_assoc, String.reduceAppend]

theorem line_surplusArguments (index : Nat) (instruction : String) (n : Nat) :
    line (.surplusArguments index instruction n) =
      "WARN Instruction " ++ toString index ++ " ('" ++ instruction ++ "'): ignoring " ++
        toString n ++ " extra argument(s)" := by
  change "WARN" ++ " " ++ ("Instruction " ++ toString index ++ " ('" ++ instruction ++
    "'): ignoring " ++ toString n ++ " extra argument(s)") = _
  simp only [← String.append_assoc, String.reduceAppend]

theorem line_cropReplaced (index : Nat) :
    line (.cropReplaced index) =
      "DEBUG Instruction " ++ toString index ++ ": crop replaces an earlier crop" := by
  change "DEBUG" ++ " " ++
    ("Instruction " ++ toString index ++ ": crop replaces an earlier crop") = _
  simp only [← String.append_assoc, String.reduceAppend]

theorem line_sourceMeasured (sourceFile : String) (size : Size Int64) :
    line (.sourceMeasured sourceFile size) =
      "DEBUG Source '" ++ sourceFile ++ "' is " ++ toString size.width ++ "x" ++
        toString size.height := by
  change "DEBUG" ++ " " ++ ("Source '" ++ sourceFile ++ "' is " ++ sizeText size) = _
  simp only [sizeText_eq, ← String.append_assoc, String.reduceAppend]

theorem line_markupRead (drawings : Nat) (cropped : Bool) (ignored : Nat) :
    line (.markupRead drawings cropped ignored) =
      "DEBUG Parsed " ++ toString drawings ++ " draw instruction(s), crop: " ++
        toString cropped ++ ", ignored: " ++ toString ignored := by
  change "DEBUG" ++ " " ++ ("Parsed " ++ toString drawings ++ " draw instruction(s), crop: " ++
    (if cropped then "true" else "false") ++ ", ignored: " ++ toString ignored) = _
  cases cropped <;> simp only [← String.append_assoc, String.reduceAppend] <;> rfl

theorem line_documentSupplied (sourceFile : String) :
    line (.documentSupplied sourceFile) =
      "DEBUG Using supplied document for '" ++ sourceFile ++ "'" := by
  change "DEBUG" ++ " " ++ ("Using supplied document for '" ++ sourceFile ++ "'") = _
  simp only [← String.append_assoc, String.reduceAppend]

theorem line_coercing (drawings : Nat) :
    line (.coercing drawings) =
      "DEBUG Normalizing document with " ++ toString drawings ++ " draw instruction(s)" := by
  change "DEBUG" ++ " " ++
    ("Normalizing document with " ++ toString drawings ++ " draw instruction(s)") = _
  simp only [← String.append_assoc, String.reduceAppend]

theorem line_rendered (steps : Nat) (canvas : Size Int64) (destinationFile : String) :
    line (.rendered steps canvas destinationFile) =
      "INFO Rendered " ++ toString steps ++ " step(s) onto " ++ toString canvas.width ++ "x" ++
        toString canvas.height ++ " canvas for '" ++ destinationFile ++ "'" := by
  change "INFO" ++ " " ++ ("Rendered " ++ toString steps ++ " step(s) onto " ++ sizeText canvas ++
    " canvas for '" ++ destinationFile ++ "'") = _
  simp only [sizeText_eq, ← String.append_assoc, String.reduceAppend]

end Event

/-! ### A markup text -/

namespace Markup

/-- The lines of a segment with an index, after other segments. -/
def segmentLines (before : List (List Char)) (index : Nat) (segment : List Char) : List String :=
  match command? segment with
  | none =>
    if segment.all Text.isBlank then []
    else ["WARN Ignoring unknown command '" ++ String.ofList (firstField segment) ++
      "' at instruction " ++ toString index]
  | some command =>
    (if command.arity < segment.count ',' then
      ["WARN Instruction " ++ toString index ++ " ('" ++ String.ofList segment ++ "'): ignoring " ++
        toString (segment.count ',' - command.arity) ++ " extra argument(s)"]
    else []) ++
    if command = .crop ∧ hasCrop before = true then
      ["DEBUG Instruction " ++ toString index ++ ": crop replaces an earlier crop"]
    else []

theorem map_gradedLine_segmentEvents (before : List (List Char)) (index : Nat)
    (segment : List Char) :
    (segmentEvents before index segment).map Event.gradedLine =
      segmentLines before index segment := by
  unfold segmentEvents segmentLines
  cases command? segment with
  | none =>
    cases segment.all Text.isBlank with
    | true => rfl
    | false => exact congrArg (fun l => [l]) (Event.line_unknownCommand _ _)
  | some command =>
    simp only [List.map_append, apply_ite (List.map Event.gradedLine), List.map_cons, List.map_nil,
      ← Event.line_surplusArguments, ← Event.line_cropReplaced]
    rfl

/-- The lines of a text are those of its segments in order, up to the first command with too few
fields. -/
theorem lines_ofText (text : String) :
    let segs := segments text.toList
    (ofText text).log.map Event.line = (segmentsRead segs).zipIdx.flatMap fun (segment, index) =>
      segmentLines (segs.take index) index segment := by
  intro segs
  have log : (ofText text).log.map Event.graded = eventsAfter [] segs := log_ofSegments [] segs
  rw [Event.map_line_eq, log, eventsAfter, List.map_flatMap]
  exact congrArg (List.flatMap · _) (funext fun p => map_gradedLine_segmentEvents _ p.2 p.1)

end Markup

/-! ### A step -/

/-- The lines of a stage on the inputs. -/
def Stage.lines (probe : Probe) (i : Inputs) : Stage → List String
  | .usage => []
  | .decode => (i.written? probe).toList.map fun d =>
    "DEBUG Using supplied document for '" ++ d.sourceFile ++ "'"
  | .probe => i.input.toList.flatMap fun source =>
    (probe source).toOption.toList.map fun size =>
      "DEBUG Source '" ++ source ++ "' is " ++ toString size.width ++ "x" ++ toString size.height
  | .parse => i.markup.toList.flatMap fun text =>
    (Markup.ofText text).log.map Event.line ++
      (Markup.ofText text).outcome.toOption.toList.map fun m =>
        "DEBUG Parsed " ++ toString m.draw.length ++ " draw instruction(s), crop: " ++
          toString m.crop.isSome ++ ", ignored: " ++ toString m.ignored.length
  | .normalize => (i.written? probe).toList.map fun d =>
    "DEBUG Normalizing document with " ++ toString d.instructions.draw.length ++
      " draw instruction(s)"
  | .canvas => (i.normalized? probe).toList.flatMap fun d =>
    if d.finalDimensions.isEmpty then []
    else ["INFO Rendered " ++ toString d.instructions.draw.length ++ " step(s) onto " ++
      toString d.finalDimensions.width ++ "x" ++ toString d.finalDimensions.height ++
      " canvas for '" ++ d.destinationFile ++ "'"]

theorem Stage.map_line_events (probe : Probe) (i : Inputs) (stage : Stage) :
    (stage.events probe i).map Event.line = stage.lines probe i := by
  cases stage <;>
    simp only [events, lines, List.map_nil, List.map_map, List.map_flatMap, List.map_append,
      apply_ite (List.map Event.line), List.map_cons, Function.comp_def, Event.line_sourceMeasured,
      Event.line_markupRead, Event.line_documentSupplied, Event.line_coercing,
      Event.line_rendered]

/-- The lines of a step are those of its stages in order, up to the first one that fails. -/
theorem Step.lines_serve (probe : Probe) (renderer : Renderer) (step : Step) :
    (step.serve probe renderer).1.log.map Event.line =
      (Stage.reached (fun s => (s.fault? probe step.inputs).isSome) step.stages).flatMap
        (Stage.lines probe step.inputs) := by
  rw [(step.goesThrough_serve probe renderer).log, List.map_flatMap]
  exact congrArg (List.flatMap · _) (funext (Stage.map_line_events probe step.inputs))

-- The crop is bad, so the step ends before anything is rendered.
example :
    let i : Inputs :=
      ⟨some "glow;crop,0x,8x6", none, some "in.png", some "out.png", none, none⟩
    let midnight : Instant := ⟨⟨2024, 2, 29, by decide⟩, 0, 0⟩
    let served := Step.serve (Probe.fixed ⟨8, 6⟩) .empty ⟨i, .run, ⟨"first", midnight⟩⟩
    served.1.log.map Event.line =
      ["DEBUG Source 'in.png' is 8x6", "WARN Ignoring unknown command 'glow' at instruction 0",
        "DEBUG Parsed 0 draw instruction(s), crop: true, ignored: 1",
        "DEBUG Normalizing document with 0 draw instruction(s)"] := by
  decide +kernel

end PaintScript

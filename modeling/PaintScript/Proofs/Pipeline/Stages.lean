import PaintScript.Proofs.Markup.Events
import PaintScript.Proofs.Pipeline.Run

/-!
# The stages of a step

Every stage of a step is described on its own: how it fails and what it logs. A step goes through
its stages in order, so the first one that fails decides the error, and the log ends with it.
-/

namespace PaintScript

inductive Stage
  | usage
  | decode
  | probe
  | parse
  | normalize
  | canvas
  deriving DecidableEq

/-- What is wrong with inputs of which only the presence is known. -/
def UsageError.ofPresence? (markup json input output stroke : Bool) : Option UsageError :=
  match markup, json with
  | true, true => some .markupAndDocument
  | false, true => if stroke then some .strokeWithDocument else none
  | true, false => if input && output then none else some .missingPaths
  | false, false => some .noInput

namespace Inputs

def misuse? (i : Inputs) : Option UsageError :=
  UsageError.ofPresence? i.markup.isSome i.json.isSome i.input.isSome i.output.isSome
    i.stroke.isSome

/-- The document that the inputs describe, as it is written. -/
def written? (probe : Probe) (i : Inputs) : Option (Document Numeric) :=
  match i.markup with
  | some text => do
    let source ← i.input
    let destination ← i.output
    let size ← (probe source).toOption
    let m ← (Markup.ofText text).outcome.toOption
    return m.assemble size ⟨source, destination, i.format, i.stroke⟩
  | none => do (Document.decodeRaw (← i.json)).toOption

/-- The document that the inputs describe, with integers. -/
def normalized? (probe : Probe) (i : Inputs) : Option (Document Int64) := do
  ((← i.written? probe).coerce rootLabel).toOption

/-- The stages that lead to a document with integers. -/
def stages (i : Inputs) : List Stage :=
  match i.markup, i.json with
  | some _, none => [.usage, .probe, .parse, .normalize]
  | none, some _ => [.usage, .decode, .normalize]
  | _, _ => [.usage]

end Inputs

def Step.stages (step : Step) : List Stage :=
  match step.goal with
  | .compile => step.inputs.stages
  | .run => step.inputs.stages ++ [.canvas]

theorem Inputs.stages_eq_cons (i : Inputs) : ∃ later, i.stages = .usage :: later := by
  unfold stages
  split <;> exact ⟨_, rfl⟩

theorem Step.stages_eq_cons (step : Step) : ∃ later, step.stages = .usage :: later := by
  obtain ⟨later, first⟩ := step.inputs.stages_eq_cons
  unfold stages
  rw [first]
  split <;> exact ⟨_, rfl⟩

theorem Inputs.canvas_not_mem_stages (i : Inputs) : .canvas ∉ i.stages := by
  unfold stages
  split <;> decide

/-- The failure of an outcome, under the cause that it is reported with. -/
def faultOf {ε α : Type} (cause : ε → PipelineError) : Except ε α → Option PipelineError
  | .ok _ => none
  | .error e => some (cause e)

namespace Stage

/-- How a stage fails on the inputs, whether or not an earlier one does. Only without a document
there is nothing to normalize and nothing to draw on. -/
def fault? (probe : Probe) (i : Inputs) : Stage → Option PipelineError
  | .usage => i.misuse?.map .usage
  | .decode => i.json.bind fun text => faultOf .invalidDocument (Document.decodeRaw text)
  | .probe => i.input.bind fun source => faultOf .probe (probe source)
  | .parse => i.markup.bind fun text => faultOf .markup (Markup.ofText text).outcome
  | .normalize => (i.written? probe).bind fun d => faultOf .coercion (d.coerce rootLabel)
  | .canvas => (i.normalized? probe).bind fun d =>
    if d.finalDimensions.isEmpty then some (.emptyCanvas ⟨d.finalDimensions⟩) else none

/-- What a stage logs on the inputs. A text is parsed with events of its own, and normalizing is
announced before it can fail. -/
def events (probe : Probe) (i : Inputs) : Stage → List Event
  | .usage => []
  | .decode => (i.written? probe).toList.map fun d => .documentSupplied d.sourceFile
  | .probe => i.input.toList.flatMap fun source =>
    (probe source).toOption.toList.map fun size => .sourceMeasured source size
  | .parse => i.markup.toList.flatMap fun text =>
    (Markup.ofText text).log ++ (Markup.ofText text).outcome.toOption.toList.map fun m =>
      .markupRead m.draw.length m.crop.isSome m.ignored.length
  | .normalize => (i.written? probe).toList.map fun d => .coercing d.instructions.draw.length
  | .canvas => (i.normalized? probe).toList.flatMap fun d =>
    if d.finalDimensions.isEmpty then []
    else [.rendered d.instructions.draw.length d.finalDimensions d.destinationFile]

end Stage

/-- The stages up to the first one that fails, with that one. -/
def Stage.reached (fails : Stage → Bool) : List Stage → List Stage
  | [] => []
  | stage :: rest => stage :: if fails stage then [] else reached fails rest

theorem Stage.mem_of_mem_reached {fails : Stage → Bool} {stages : List Stage} {stage : Stage}
    (member : stage ∈ reached fails stages) : stage ∈ stages := by
  induction stages with
  | nil => exact member
  | cons first rest ih =>
    rcases List.mem_cons.mp member with here | there
    · exact here ▸ List.mem_cons_self
    · split at there
      · cases there
      · exact List.mem_cons_of_mem _ (ih there)

theorem Stage.reached_append (fails : Stage → Bool) (first later : List Stage) :
    reached fails (first ++ later) =
      reached fails first ++ if first.any fails then [] else reached fails later := by
  induction first with
  | nil => simp [reached]
  | cons stage rest ih =>
    rw [List.cons_append, reached, reached, ih, List.any_cons]
    cases fails stage <;> simp

/-- A chain that goes through stages in order fails as the first of them that fails, and logs what
the stages up to that one log. -/
structure GoesThrough {α : Type} (probe : Probe) (i : Inputs) (stages : List Stage)
    (chain : Logged PipelineError α) : Prop where
  error : ∀ e, chain.outcome = .error e ↔ stages.findSome? (Stage.fault? probe i) = some e
  log : chain.log =
    (Stage.reached (fun s => (s.fault? probe i).isSome) stages).flatMap (Stage.events probe i)

namespace GoesThrough

variable {α β : Type} {probe : Probe} {i : Inputs} {stage : Stage} {stages later : List Stage}

theorem done (a : α) : GoesThrough probe i [] (pure a) where
  error e := by simp
  log := rfl

theorem single {chain : Logged PipelineError α}
    (error : ∀ e, chain.outcome = .error e ↔ stage.fault? probe i = some e)
    (log : chain.log = stage.events probe i) : GoesThrough probe i [stage] chain where
  error e := by
    rw [error]
    cases fault : stage.fault? probe i <;> simp [fault]
  log := by simp [Stage.reached, log]

theorem bind {chain : Logged PipelineError α} {next : α → Logged PipelineError β}
    (first : GoesThrough probe i stages chain)
    (second : ∀ a, chain.outcome = .ok a → GoesThrough probe i later (next a)) :
    GoesThrough probe i (stages ++ later) (chain >>= next) := by
  obtain ⟨log, outcome⟩ := chain
  have failing : stages.any (fun s => (s.fault? probe i).isSome) =
      (stages.findSome? (Stage.fault? probe i)).isSome := by
    rw [List.isSome_findSome?]
  cases outcome with
  | error e =>
    -- One of the first stages fails, so none of the later ones is reached.
    have found := (first.error e).mp rfl
    refine ⟨fun e' => ?_, ?_⟩
    · rw [List.findSome?_append, found, Logged.error_bind]
      simp
    · rw [Stage.reached_append, failing, found, Logged.error_bind]
      simpa using first.log
  | ok a =>
    have rest := second a rfl
    have passed : stages.findSome? (Stage.fault? probe i) = none := by
      rw [Option.eq_none_iff_forall_ne_some]
      exact fun e found => nomatch (first.error e).mpr found
    refine ⟨fun e => ?_, ?_⟩
    · rw [List.findSome?_append, passed, Logged.ok_bind, Option.none_or]
      exact rest.error e
    · rw [Stage.reached_append, failing, passed, Logged.ok_bind, Option.isSome_none, if_neg nofun,
        List.flatMap_append, ← first.log, ← rest.log]
      rfl

end GoesThrough

/-! ### One stage -/

/-- A chain that tells of its result at the end. -/
def Logged.announce {ε α : Type} (step : Logged ε α) (event : α → Event) : Logged ε α := do
  let a ← step
  .tell (event a)
  return a

section

variable {ε α β : Type} {probe : Probe} {i : Inputs}

theorem Logged.outcome_announce (step : Logged ε α) (event : α → Event) :
    (step.announce event).outcome = step.outcome := by
  obtain ⟨log, outcome⟩ := step
  cases outcome <;> rfl

theorem Logged.log_announce (step : Logged ε α) (event : α → Event) :
    (step.announce event).log = step.log ++ step.outcome.toOption.toList.map event := by
  obtain ⟨log, outcome⟩ := step
  cases outcome with
  | error e => exact (List.append_nil log).symm
  | ok a => rfl

theorem Logged.announce_bind (step : Logged ε α) (event : α → Event) (next : α → Logged ε β) :
    step.announce event >>= next = step >>= fun a => tell (event a) >>= fun _ => next a := by
  simp only [announce, bind_assoc, pure_bind]

theorem faultOf_eq_some_iff {cause : ε → PipelineError} {outcome : Except ε α}
    {e : PipelineError} : faultOf cause outcome = some e ↔ outcome.mapError cause = .error e := by
  rw [mapError_eq_error_iff]
  cases outcome <;> simp [faultOf]

theorem Stage.fault?_eq_usage_iff {stage : Stage} {e : UsageError} :
    stage.fault? probe i = some (.usage e) ↔ stage = .usage ∧ i.misuse? = some e := by
  cases stage <;>
    simp [fault?, faultOf_eq_some_iff, mapError_eq_error_iff, Option.bind_eq_some_iff]

/-- Only the last stage of a run tells something as information. -/
theorem Stage.severity_of_mem_events {stage : Stage} {event : Event}
    (member : event ∈ stage.events probe i) (other : stage ≠ .canvas) : event.severity ≠ .info := by
  cases stage with
  | usage => cases member
  | decode =>
    obtain ⟨d, _, rfl⟩ := List.mem_map.mp member
    nofun
  | probe =>
    obtain ⟨source, _, told⟩ := List.mem_flatMap.mp member
    obtain ⟨size, _, rfl⟩ := List.mem_map.mp told
    nofun
  | parse =>
    obtain ⟨text, _, told⟩ := List.mem_flatMap.mp member
    rcases List.mem_append.mp told with parser | result
    · exact Markup.severity_of_mem_log parser
    · obtain ⟨m, _, rfl⟩ := List.mem_map.mp result
      nofun
  | normalize =>
    obtain ⟨d, _, rfl⟩ := List.mem_map.mp member
    nofun
  | canvas => exact absurd rfl other

/-- A stage that fails with a chain of its own, and tells of its result otherwise. -/
theorem goesThrough_announce {stage : Stage} {cause : ε → PipelineError} {step : Logged ε α}
    {event : α → Event} (fails : stage.fault? probe i = faultOf cause step.outcome)
    (logs : stage.events probe i = step.log ++ step.outcome.toOption.toList.map event) :
    GoesThrough probe i [stage] ((step.mapError cause).announce event) := by
  refine .single (fun e => ?_) ?_
  · rw [fails, faultOf_eq_some_iff, Logged.outcome_announce, Logged.outcome_mapError]
  · rw [logs, Logged.log_announce, Logged.outcome_mapError, toOption_mapError]
    rfl

theorem goesThrough_normalize {d : Document Numeric} (written : i.written? probe = some d) :
    GoesThrough probe i [.normalize] ((d.normalize rootLabel).mapError .coercion) := by
  refine .single (fun e => ?_) ?_
  · rw [Stage.fault?, written, Option.bind_some, faultOf_eq_some_iff]
    rfl
  · rw [Stage.events, written]
    rfl

theorem goesThrough_canvas {d : Document Int64} (normalized : i.normalized? probe = some d)
    (renderer : Renderer) (stamp : Stamp) :
    GoesThrough probe i [.canvas] ((renderer.render stamp d).1.mapError .emptyCanvas) := by
  rw [Renderer.render_eq]
  refine .single (fun e => ?_) ?_
  · rw [Stage.fault?, normalized, Option.bind_some]
    split <;> simp [Except.mapError]
  · rw [Stage.events, normalized, Option.toList_some, List.flatMap_singleton]
    split <;> rfl

end

/-! ### A step as a chain of stages -/

/-- The document of an entry as it is written. -/
def Entry.assemble (probe : Probe) : Entry → Logged PipelineError (Document Numeric)
  | .markup text target => do
    let size ← ((Logged.ofExcept (probe target.sourceFile)).mapError .probe).announce fun size =>
      .sourceMeasured target.sourceFile size
    let m ← ((Markup.ofText text).mapError .markup).announce fun m =>
      .markupRead m.draw.length m.crop.isSome m.ignored.length
    return m.assemble size target
  | .json text =>
    ((Logged.ofExcept (Document.decodeRaw text)).mapError .invalidDocument).announce fun d =>
      .documentSupplied d.sourceFile

/-- The document of the inputs, stage by stage. -/
def Inputs.compile (probe : Probe) (i : Inputs) : Logged PipelineError (Document Int64) := do
  let entry ← .ofExcept (i.entry.mapError .usage)
  let d ← entry.assemble probe
  (d.normalize rootLabel).mapError .coercion

/-- What a step does with its document. -/
def Step.answer (renderer : Renderer) (step : Step) (d : Document Int64) :
    Logged PipelineError Answer :=
  match step.goal with
  | .compile => pure (.compiled d)
  | .run => do
    let receipt ← (renderer.render step.stamp d).1.mapError .emptyCanvas
    return .ran ⟨engineVersion, d, receipt⟩

namespace Inputs

variable {probe : Probe} {i : Inputs}

/-- Inputs are misused, or they are markup with both paths, or a JSON text without a stroke. -/
theorem entry_cases (i : Inputs) :
    (∃ e, i.entry = .error e ∧ i.misuse? = some e) ∨
      (∃ text source destination format stroke,
        i = ⟨some text, none, some source, some destination, format, stroke⟩) ∨
      ∃ text input output format, i = ⟨none, some text, input, output, format, none⟩ := by
  obtain ⟨markup, json, input, output, format, stroke⟩ := i
  match markup, json with
  | some _, some _ => exact .inl ⟨_, rfl, rfl⟩
  | none, none => exact .inl ⟨_, rfl, rfl⟩
  | none, some text =>
    cases stroke with
    | some _ => exact .inl ⟨_, rfl, rfl⟩
    | none => exact .inr (.inr ⟨_, _, _, _, rfl⟩)
  | some text, none =>
    match input, output with
    | some _, some _ => exact .inr (.inl ⟨_, _, _, _, _, rfl⟩)
    | none, _ => exact .inl ⟨_, rfl, rfl⟩
    | some _, none => exact .inl ⟨_, rfl, rfl⟩

theorem entry_eq_error_iff {e : UsageError} : i.entry = .error e ↔ i.misuse? = some e := by
  obtain ⟨e', refused, misused⟩ | ⟨text, source, destination, format, stroke, rfl⟩ |
    ⟨text, input, output, format, rfl⟩ := i.entry_cases
  · rw [refused, misused, Except.error.injEq, Option.some.injEq]
  · exact ⟨nofun, nofun⟩
  · exact ⟨nofun, nofun⟩

theorem request_bind_compile (i : Inputs) (probe : Probe) :
    (Logged.ofExcept i.request >>= fun request => request.compile probe) = i.compile probe := by
  rw [request, compile]
  cases i.entry with
  | error e => rfl
  | ok entry =>
    change _ = entry.assemble probe >>= _
    cases entry with
    | markup text target =>
      simp only [Logged.ofExcept_ok_bind, Request.compile, Request.assemble, Entry.assemble,
        Logged.announce_bind, Logged.bind_assoc]
      rfl
    | json text =>
      rw [Entry.assemble, Logged.announce_bind]
      dsimp only
      cases Document.decodeRaw text <;> rfl

theorem goesThrough_entry (probe : Probe) (i : Inputs) :
    GoesThrough probe i [.usage] (.ofExcept (i.entry.mapError .usage)) := by
  refine .single (fun e => ?_) rfl
  rw [Logged.outcome_ofExcept, mapError_eq_error_iff, Stage.fault?, Option.map_eq_some_iff]
  simp only [entry_eq_error_iff]

theorem written?_of_assemble {entry : Entry} {d : Document Numeric} (found : i.entry = .ok entry)
    (assembled : (entry.assemble probe).outcome = .ok d) : i.written? probe = some d := by
  obtain ⟨e, refused, -⟩ | ⟨text, source, destination, format, stroke, rfl⟩ |
    ⟨text, input, output, format, rfl⟩ := i.entry_cases
  · rw [refused] at found
    cases found
  · cases found
    simp only [Entry.assemble, Logged.outcome_bind, Logged.outcome_announce,
      Logged.outcome_mapError, Logged.outcome_ofExcept, Logged.outcome_pure, bind_eq_ok_iff,
      mapError_eq_ok_iff] at assembled
    obtain ⟨size, answer, m, read, same⟩ := assembled
    cases same
    simp [written?, answer, read, Except.toOption]
  · cases found
    rw [Entry.assemble, Logged.outcome_announce, Logged.outcome_mapError,
      Logged.outcome_ofExcept, mapError_eq_ok_iff] at assembled
    simp [written?, assembled, Except.toOption]

theorem goesThrough_compile (probe : Probe) (i : Inputs) :
    GoesThrough probe i i.stages (i.compile probe) := by
  obtain ⟨e, refused, -⟩ | ⟨text, source, destination, format, stroke, rfl⟩ |
    ⟨text, input, output, format, rfl⟩ := i.entry_cases
  · -- Misused inputs have no entry, so nothing is asked of the stages that may follow.
    obtain ⟨later, stages⟩ := i.stages_eq_cons
    rw [stages]
    change GoesThrough probe i ([.usage] ++ later) _
    refine .bind (i.goesThrough_entry probe) fun entry found => ?_
    rw [refused] at found
    cases found
  · let i : Inputs := ⟨some text, none, some source, some destination, format, stroke⟩
    change GoesThrough probe i ([.usage] ++ ([.probe, .parse] ++ [.normalize])) _
    refine .bind (i.goesThrough_entry probe) fun entry found => ?_
    cases found
    have assemble : GoesThrough probe i [.probe, .parse]
        (Entry.assemble probe (.markup text ⟨source, destination, format, stroke⟩)) := by
      refine .bind (goesThrough_announce rfl (List.append_nil _)) fun size _ => ?_
      exact .bind (goesThrough_announce rfl (List.append_nil _)) fun m _ => .done _
    exact .bind assemble fun d assembled =>
      goesThrough_normalize (written?_of_assemble rfl assembled)
  · let i : Inputs := ⟨none, some text, input, output, format, none⟩
    change GoesThrough probe i ([.usage] ++ ([.decode] ++ [.normalize])) _
    refine .bind (i.goesThrough_entry probe) fun entry found => ?_
    cases found
    have assemble : GoesThrough probe i [.decode] (Entry.assemble probe (.json text)) :=
      goesThrough_announce rfl rfl
    exact .bind assemble fun d assembled =>
      goesThrough_normalize (written?_of_assemble rfl assembled)

theorem normalized?_of_compile {d : Document Int64}
    (compiled : (i.compile probe).outcome = .ok d) : i.normalized? probe = some d := by
  simp only [compile, Logged.outcome_bind, Logged.outcome_ofExcept, Logged.outcome_mapError,
    Document.outcome_normalize, bind_eq_ok_iff, mapError_eq_ok_iff] at compiled
  obtain ⟨entry, found, written, assembled, coerced⟩ := compiled
  simp [normalized?, written?_of_assemble found assembled, coerced, Except.toOption]

end Inputs

namespace Step

theorem serve_fst (probe : Probe) (renderer : Renderer) (step : Step) :
    (step.serve probe renderer).1 = step.inputs.compile probe >>= step.answer renderer := by
  obtain ⟨i, goal, stamp⟩ := step
  rw [← i.request_bind_compile probe, serve, Logged.fst_bindWith, Logged.bind_assoc]
  congr 1
  funext request
  cases goal with
  | compile => exact Logged.map_eq_bind _ _
  | run =>
    change ((request.compile probe).bindWith renderer _).1.map Answer.ran = _
    simp only [Logged.fst_bindWith, Logged.map_eq_bind, Logged.bind_assoc, Logged.pure_bind]
    rfl

theorem goesThrough_serve (probe : Probe) (renderer : Renderer) (step : Step) :
    GoesThrough probe step.inputs step.stages (step.serve probe renderer).1 := by
  obtain ⟨i, goal, stamp⟩ := step
  rw [serve_fst]
  cases goal with
  | compile =>
    rw [stages, ← List.append_nil i.stages]
    exact .bind (i.goesThrough_compile probe) fun d _ => .done _
  | run =>
    refine .bind (i.goesThrough_compile probe) fun d compiled => ?_
    exact .bind (goesThrough_canvas (Inputs.normalized?_of_compile compiled) renderer stamp)
      fun _ _ => .done _

/-- Only the usage rules give a usage error. -/
theorem outcome_serve_eq_usage_iff (probe : Probe) (renderer : Renderer) (step : Step)
    {e : UsageError} :
    (step.serve probe renderer).1.outcome = .error (.usage e) ↔ step.inputs.misuse? = some e := by
  rw [(step.goesThrough_serve probe renderer).error]
  obtain ⟨later, stages⟩ := step.stages_eq_cons
  cases misused : step.inputs.misuse? with
  | some e' => simp [stages, Stage.fault?, misused]
  | none =>
    refine ⟨fun failed => ?_, nofun⟩
    obtain ⟨stage, _, fails⟩ := List.exists_of_findSome?_eq_some failed
    obtain ⟨_, same⟩ := Stage.fault?_eq_usage_iff.mp fails
    rw [← same, misused]

/-- Nothing is told as information until there is a document. -/
theorem filter_log_compile (probe : Probe) (i : Inputs) :
    (i.compile probe).log.filter (·.severity = .info) = [] := by
  rw [(i.goesThrough_compile probe).log, List.filter_eq_nil_iff]
  intro event member
  obtain ⟨stage, reached, told⟩ := List.mem_flatMap.mp member
  have before : stage ≠ .canvas := fun same =>
    i.canvas_not_mem_stages (same ▸ Stage.mem_of_mem_reached reached)
  simpa using Stage.severity_of_mem_events told before

theorem filter_log_answer (renderer : Renderer) (step : Step) (d : Document Int64) :
    (step.answer renderer d).log.filter (·.severity = .info) =
      (renderedBy (step.answer renderer d)).map fun d =>
        .rendered d.instructions.draw.length d.finalDimensions d.destinationFile := by
  obtain ⟨i, goal, stamp⟩ := step
  cases goal with
  | compile => rfl
  | run =>
    simp only [answer, Renderer.render_eq]
    split <;> rfl

/-- A successful run is the only thing that is told as information. -/
theorem filter_log_serve (probe : Probe) (renderer : Renderer) (step : Step) :
    (step.serve probe renderer).1.log.filter (·.severity = .info) =
      (renderedBy (step.serve probe renderer).1).map fun d =>
        .rendered d.instructions.draw.length d.finalDimensions d.destinationFile := by
  rw [serve_fst]
  have quiet := filter_log_compile probe step.inputs
  rcases compiled : step.inputs.compile probe with ⟨log, outcome⟩
  rw [compiled] at quiet
  cases outcome with
  | error e => exact quiet
  | ok d =>
    calc (log ++ (step.answer renderer d).log).filter (·.severity = .info)
        = (step.answer renderer d).log.filter (·.severity = .info) := by
          rw [List.filter_append, quiet, List.nil_append]
      _ = _ := step.filter_log_answer renderer d

/-- A step fails as the first of its stages that fails, and its log is that of the stages up to
there. A misuse depends on the presence of the inputs alone. The last event of a successful run is
information, and nothing else is. Without markup the paths and the format change nothing. -/
theorem serve_stages (probe : Probe) (renderer : Renderer) (step : Step) :
    let served := (step.serve probe renderer).1
    let fault? := Stage.fault? probe step.inputs
    (∀ e, served.outcome = .error e ↔ step.stages.findSome? fault? = some e) ∧
    served.log = (Stage.reached (fun s => (fault? s).isSome) step.stages).flatMap
      (Stage.events probe step.inputs) ∧
    (∀ e, served.outcome = .error (.usage e) ↔ step.inputs.misuse? = some e) ∧
    served.log.filter (·.severity = .info) = (renderedBy served).map
      (fun d => .rendered d.instructions.draw.length d.finalDimensions d.destinationFile) ∧
    ∀ input output format,
      serve probe renderer
          { step with inputs := { step.inputs with markup := none, input, output, format } } =
        serve probe renderer { step with inputs := { step.inputs with markup := none } } := by
  intro served fault?
  have through := step.goesThrough_serve probe renderer
  refine ⟨through.error, through.log, fun e => step.outcome_serve_eq_usage_iff probe renderer,
    step.filter_log_serve probe renderer, fun input output format => ?_⟩
  obtain ⟨⟨_, json, _, _, _, stroke⟩, goal, stamp⟩ := step
  cases json with
  | none => rfl
  | some text => cases stroke <;> rfl

-- Nothing is said of the missing argument and the bad stroke when the source cannot be measured.
example :
    let unreadable : Probe := fun path => .error ⟨path, "no such file"⟩
    let i : Inputs := ⟨some "circle,1x1", none, some "in.png", some "out.png", none, some "wide"⟩
    let midnight : Instant := ⟨⟨2024, 2, 29, by decide⟩, 0, 0⟩
    let served := (serve unreadable .empty ⟨i, .compile, ⟨"first", midnight⟩⟩).1
    (served.log, served.outcome) = ([], .error (.probe ⟨"in.png", "no such file"⟩)) := by
  decide +kernel

end Step

end PaintScript

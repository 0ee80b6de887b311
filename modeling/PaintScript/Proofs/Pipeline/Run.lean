import PaintScript.Proofs.Pipeline.Compile

/-!
# Runs

A step has one result whatever was rendered before it, and it adds to the rendered documents exactly
if it is a run that succeeds. The law of a sequence of steps follows by induction.
-/

namespace PaintScript

theorem Size.isEmpty_eq_false_iff {s : Size Int64} :
    s.isEmpty = false ↔ 0 < s.width ∧ 0 < s.height := by
  simp only [isEmpty, Bool.or_eq_false_iff, decide_eq_false_iff_not, Int64.not_le]

/-- A step of a receipt shows the value of the palette for the eight colors that have one, and any
other color as it was written. -/
theorem Receipt.ofDocument_eq (stamp : Stamp) (d : Document Int64) :
    Receipt.ofDocument stamp d =
      { stamp
        documentHash := d.hash
        canvas := d.finalDimensions
        destinationFile := d.destinationFile
        format := d.format
        steps := d.instructions.draw.map fun w => ⟨w.shape.name, Color.paint w.color.name⟩ } := by
  have painted (w : Drawing Int64) :
      PaintStep.ofDrawing w = ⟨w.shape.name, Color.paint w.color.name⟩ := by
    rw [PaintStep.ofDrawing, Color.resolved_eq_paint]
  rw [ofDocument, funext painted]

/-! ### One request -/

theorem Renderer.render_eq (renderer : Renderer) (stamp : Stamp) (d : Document Int64) :
    renderer.render stamp d =
      if d.finalDimensions.isEmpty then (⟨[], .error ⟨d.finalDimensions⟩⟩, renderer)
      else (⟨[.rendered d.instructions.draw.length d.finalDimensions d.destinationFile],
        .ok (.ofDocument stamp d)⟩, ⟨renderer.rendered ++ [d]⟩) := by
  have steps : (Receipt.ofDocument stamp d).steps.length = d.instructions.draw.length :=
    List.length_map _
  rw [← steps]
  rfl

/-- A refused document is not kept. -/
theorem Renderer.render_of_error {renderer : Renderer} {stamp : Stamp} {d : Document Int64}
    {e : EmptyCanvas} (refused : (renderer.render stamp d).1.outcome = .error e) :
    (renderer.render stamp d).2 = renderer := by
  rw [render_eq] at refused ⊢
  split at refused
  · rename_i empty
    rw [if_pos empty]
  · cases refused

/-- A run does the same for every renderer and stamp: it fails and leaves the renderer as it is, or
it renders one document. -/
theorem Request.run_cases (probe : Probe) (request : Request) :
    (∃ log e, ∀ renderer stamp,
        request.run probe renderer stamp = (⟨log, .error e⟩, renderer)) ∨
      ∃ log d, ∀ renderer stamp, request.run probe renderer stamp =
        (⟨log, .ok ⟨engineVersion, d, .ofDocument stamp d⟩⟩, ⟨renderer.rendered ++ [d]⟩) := by
  rcases compiled : request.compile probe with ⟨log, outcome⟩
  cases outcome with
  | error e =>
    refine .inl ⟨log, e, fun renderer stamp => ?_⟩
    rw [run, compiled, Logged.error_bindWith]
  | ok d =>
    by_cases canvas : d.finalDimensions.isEmpty = true
    · refine .inl ⟨log ++ [], .emptyCanvas ⟨d.finalDimensions⟩, fun renderer stamp => ?_⟩
      rw [run, compiled, Logged.ok_bindWith, Renderer.render_eq, if_pos canvas]
      rfl
    · let event := Event.rendered d.instructions.draw.length d.finalDimensions d.destinationFile
      refine .inr ⟨log ++ [event], d, fun renderer stamp => ?_⟩
      rw [run, compiled, Logged.ok_bindWith, Renderer.render_eq, if_neg canvas]
      rfl

/-- A run succeeds if the request is compiled to a document whose canvas is not empty. -/
theorem Request.run_eq_ok_iff {probe : Probe} {renderer : Renderer} {stamp : Stamp}
    {request : Request} {job : Job} :
    (request.run probe renderer stamp).1.outcome = .ok job ↔
      ∃ d, (request.compile probe).outcome = .ok d ∧ d.finalDimensions.isEmpty = false ∧
        job = ⟨PaintScript.engineVersion, d, .ofDocument stamp d⟩ := by
  simp only [run, Logged.fst_bindWith, Logged.outcome_bind, Logged.outcome_map,
    Logged.outcome_mapError, Renderer.render_eq, bind_eq_ok_iff, map_eq_ok_iff, mapError_eq_ok_iff]
  constructor
  · rintro ⟨d, compiled, receipt, rendered, rfl⟩
    split at rendered
    · cases rendered
    · rename_i canvas
      cases rendered
      exact ⟨d, compiled, Bool.eq_false_iff.mpr canvas, rfl⟩
  · rintro ⟨d, compiled, canvas, rfl⟩
    refine ⟨d, compiled, _, ?_, rfl⟩
    rw [canvas]
    rfl

theorem Request.snd_run_of_ok {probe : Probe} {renderer : Renderer} {stamp : Stamp}
    {request : Request} {job : Job} (ran : (request.run probe renderer stamp).1.outcome = .ok job) :
    (request.run probe renderer stamp).2 = ⟨renderer.rendered ++ [job.document]⟩ := by
  obtain ⟨log, e, failed⟩ | ⟨log, d, rendered⟩ := request.run_cases probe
  · rw [failed] at ran
    cases ran
  · rw [rendered] at ran ⊢
    cases ran
    rfl

/-! ### Steps -/

/-- The documents that a step with this result has rendered: one if it ran, otherwise none. -/
def renderedBy (result : Logged PipelineError Answer) : List (Document Int64) :=
  match result.outcome with
  | .ok (.ran job) => [job.document]
  | _ => []

def Answer.withStamp (stamp : Stamp) : Answer → Answer
  | .compiled d => .compiled d
  | .ran job => .ran { job with receipt := { job.receipt with stamp } }

/-- What a step answered, with the renderer after it. -/
abbrev Served := Logged PipelineError Answer × Renderer

def Served.withStamp (stamp : Stamp) (served : Served) : Served :=
  (served.1.map (Answer.withStamp stamp), served.2)

namespace Step

/-- The result of a step that is taken first. -/
def result (probe : Probe) (step : Step) : Logged PipelineError Answer :=
  (step.serve probe .empty).1

/-- Whether a step renders nothing: it only compiles, or it fails. -/
def IsIdle (probe : Probe) (step : Step) : Prop :=
  step.goal = .compile ∨ ∃ e, (step.result probe).outcome = .error e

/-- A step does the same at any time: it fails, it compiles, or it renders one document. -/
theorem serve_cases (probe : Probe) (inputs : Inputs) (goal : Goal) :
    (∃ log e, ∀ renderer stamp,
        serve probe renderer ⟨inputs, goal, stamp⟩ = (⟨log, .error e⟩, renderer)) ∨
      (∃ log d, ∀ renderer stamp,
        serve probe renderer ⟨inputs, goal, stamp⟩ = (⟨log, .ok (.compiled d)⟩, renderer)) ∨
      ∃ log d, ∀ renderer stamp, serve probe renderer ⟨inputs, goal, stamp⟩ =
        (⟨log, .ok (.ran ⟨engineVersion, d, .ofDocument stamp d⟩)⟩,
          ⟨renderer.rendered ++ [d]⟩) := by
  cases requested : inputs.request with
  | error e =>
    refine .inl ⟨[], e, fun renderer stamp => ?_⟩
    simp only [serve, requested, Logged.ofExcept_error_bindWith]
    rfl
  | ok request =>
    cases goal with
    | compile =>
      rcases compiled : request.compile probe with ⟨log, outcome⟩
      cases outcome with
      | error e =>
        refine .inl ⟨log, e, fun renderer stamp => ?_⟩
        simp only [serve, requested, compiled, Logged.ofExcept_ok_bindWith]
        rfl
      | ok d =>
        refine .inr (.inl ⟨log, d, fun renderer stamp => ?_⟩)
        simp only [serve, requested, compiled, Logged.ofExcept_ok_bindWith]
        rfl
    | run =>
      obtain ⟨log, e, failed⟩ | ⟨log, d, ran⟩ := request.run_cases probe
      · refine .inl ⟨log, e, fun renderer stamp => ?_⟩
        simp only [serve, requested, failed, Logged.ofExcept_ok_bindWith]
        rfl
      · refine .inr (.inr ⟨log, d, fun renderer stamp => ?_⟩)
        simp only [serve, requested, ran, Logged.ofExcept_ok_bindWith]
        rfl

theorem serve_eq (probe : Probe) (renderer : Renderer) (step : Step) :
    step.serve probe renderer =
      (step.result probe, ⟨renderer.rendered ++ renderedBy (step.result probe)⟩) := by
  obtain ⟨inputs, goal, stamp⟩ := step
  obtain ⟨log, e, failed⟩ | ⟨log, d, compiled⟩ | ⟨log, d, ran⟩ := serve_cases probe inputs goal
  · simp [result, failed, renderedBy]
  · simp [result, compiled, renderedBy]
  · simp [result, ran, renderedBy]

/-- A step at another time is served alike, apart from the stamp that it shows. -/
theorem serve_withStamp (probe : Probe) (renderer : Renderer) (stamp : Stamp) (step : Step) :
    { step with stamp }.serve probe renderer =
      Served.withStamp stamp (step.serve probe renderer) := by
  obtain ⟨inputs, goal, earlier⟩ := step
  obtain ⟨log, e, failed⟩ | ⟨log, d, compiled⟩ | ⟨log, d, ran⟩ := serve_cases probe inputs goal
  · rw [failed, failed]
    rfl
  · rw [compiled, compiled]
    rfl
  · rw [ran, ran]
    rfl

/-! ### Outcomes -/

variable {probe : Probe} {step : Step}

theorem outcome_result (probe : Probe) (step : Step) :
    (step.result probe).outcome =
      step.inputs.request >>= fun request =>
        match step.goal with
        | .compile => (request.compile probe).outcome.map .compiled
        | .run => (request.run probe .empty step.stamp).1.outcome.map .ran := by
  obtain ⟨inputs, goal, stamp⟩ := step
  rw [result, serve, Logged.fst_bindWith, Logged.outcome_bind, Logged.outcome_ofExcept]
  cases goal <;> rfl

theorem result_compile_eq_ok_iff (goal : step.goal = .compile) {answer : Answer} :
    (step.result probe).outcome = .ok answer ↔
      ∃ request d, step.inputs.request = .ok request ∧
        (request.compile probe).outcome = .ok d ∧ answer = .compiled d := by
  simp only [outcome_result, goal, bind_eq_ok_iff, map_eq_ok_iff]
  constructor
  · rintro ⟨request, requested, d, compiled, rfl⟩
    exact ⟨request, d, requested, compiled, rfl⟩
  · rintro ⟨request, d, requested, compiled, rfl⟩
    exact ⟨request, requested, d, compiled, rfl⟩

theorem result_run_eq_ok_iff (goal : step.goal = .run) {answer : Answer} :
    (step.result probe).outcome = .ok answer ↔
      ∃ request d, step.inputs.request = .ok request ∧
        (request.compile probe).outcome = .ok d ∧ d.finalDimensions.isEmpty = false ∧
        answer = .ran ⟨engineVersion, d, .ofDocument step.stamp d⟩ := by
  simp only [outcome_result, goal, bind_eq_ok_iff, map_eq_ok_iff]
  constructor
  · rintro ⟨request, requested, job, ran, rfl⟩
    obtain ⟨d, compiled, canvas, rfl⟩ := Request.run_eq_ok_iff.mp ran
    exact ⟨request, d, requested, compiled, canvas, rfl⟩
  · rintro ⟨request, d, requested, compiled, canvas, rfl⟩
    exact ⟨request, requested, _, Request.run_eq_ok_iff.mpr ⟨d, compiled, canvas, rfl⟩, rfl⟩

theorem result_run_eq_ok_iff_compile (goal : step.goal = .run) {answer : Answer} :
    (step.result probe).outcome = .ok answer ↔
      ∃ d, ({ step with goal := .compile }.result probe).outcome = .ok (.compiled d) ∧
        0 < d.finalDimensions.width ∧ 0 < d.finalDimensions.height ∧
        answer = .ran ⟨engineVersion, d, .ofDocument step.stamp d⟩ := by
  rw [result_run_eq_ok_iff goal]
  constructor
  · rintro ⟨request, d, requested, compiled, canvas, rfl⟩
    have positive := Size.isEmpty_eq_false_iff.mp canvas
    exact ⟨d, (result_compile_eq_ok_iff rfl).mpr ⟨request, d, requested, compiled, rfl⟩,
      positive.1, positive.2, rfl⟩
  · rintro ⟨d, compiled, width, height, rfl⟩
    obtain ⟨request, _, requested, compiled, same⟩ := (result_compile_eq_ok_iff rfl).mp compiled
    cases same
    exact ⟨request, d, requested, compiled, Size.isEmpty_eq_false_iff.mpr ⟨width, height⟩, rfl⟩

theorem renderedBy_of_isIdle (idle : step.IsIdle probe) : renderedBy (step.result probe) = [] := by
  obtain goal | ⟨e, failed⟩ := idle
  · rcases outcome : (step.result probe).outcome with e | answer
    · rw [renderedBy, outcome]
    · obtain ⟨_, d, _, _, rfl⟩ := (result_compile_eq_ok_iff goal).mp outcome
      rw [renderedBy, outcome]
  · rw [renderedBy, failed]

theorem serve_of_isIdle (renderer : Renderer) (idle : step.IsIdle probe) :
    step.serve probe renderer = (step.result probe, renderer) := by
  rw [serve_eq, renderedBy_of_isIdle idle, List.append_nil]

/-- Whatever stage a step fails at, the renderer comes back as it was. -/
theorem serve_of_error {renderer : Renderer} {e : PipelineError}
    (failed : (step.serve probe renderer).1.outcome = .error e) :
    (step.serve probe renderer).2 = renderer := by
  rw [serve_eq] at failed ⊢
  rw [renderedBy, failed, List.append_nil]

theorem canvas_of_mem_renderedBy {d : Document Int64}
    (member : d ∈ renderedBy (step.result probe)) :
    0 < d.finalDimensions.width ∧ 0 < d.finalDimensions.height := by
  rw [renderedBy] at member
  split at member
  · rename_i job outcome
    cases goal : step.goal with
    | compile =>
      obtain ⟨_, _, _, _, other⟩ := (result_compile_eq_ok_iff goal).mp outcome
      cases other
    | run =>
      obtain ⟨_, d', _, _, canvas, same⟩ := (result_run_eq_ok_iff goal).mp outcome
      cases same
      cases List.mem_singleton.mp member
      exact Size.isEmpty_eq_false_iff.mp canvas
  · cases member

end Step

/-! ### Sequences of steps -/

def rendererAfter (probe : Probe) (renderer : Renderer) (steps : List Step) : Renderer :=
  (serveAll probe renderer steps).getLast?.elim renderer Prod.snd

/-- The steps that are marked with a stamp, each under the stamp of its mark. -/
def keptSteps (marked : List (Step × Option Stamp)) : List Step :=
  marked.filterMap fun (step, mark) => mark.map fun stamp => { step with stamp }

/-- What was served at the places that are marked with a stamp, under the stamp of the mark. -/
def keptServed (served : List Served) (marks : List (Option Stamp)) : List Served :=
  (served.zip marks).filterMap fun (served, mark) => mark.map fun stamp => served.withStamp stamp

variable {probe : Probe}

theorem serveAll_cons (probe : Probe) (renderer : Renderer) (step : Step) (steps : List Step) :
    serveAll probe renderer (step :: steps) =
      step.serve probe renderer :: serveAll probe (step.serve probe renderer).2 steps := rfl

theorem rendererAfter_cons (probe : Probe) (renderer : Renderer) (step : Step)
    (steps : List Step) :
    rendererAfter probe renderer (step :: steps) =
      rendererAfter probe (step.serve probe renderer).2 steps := by
  rw [rendererAfter, rendererAfter, serveAll_cons, List.getLast?_cons]
  cases (serveAll probe (step.serve probe renderer).2 steps).getLast? with
  | none => rfl
  | some last => rfl

theorem map_fst_serveAll (probe : Probe) (renderer : Renderer) (steps : List Step) :
    (serveAll probe renderer steps).map Prod.fst = steps.map (Step.result probe) := by
  induction steps generalizing renderer with
  | nil => rfl
  | cons step steps ih =>
    rw [serveAll_cons, List.map_cons, List.map_cons, ih, Step.serve_eq]

/-- After each step the renderer holds what it held before and the documents of the runs so far. -/
theorem rendered_getElem_serveAll (probe : Probe) (renderer : Renderer) (steps : List Step)
    (i : Nat) (h : i < (serveAll probe renderer steps).length) :
    (serveAll probe renderer steps)[i].2.rendered =
      renderer.rendered ++
        ((serveAll probe renderer steps).take (i + 1)).flatMap fun s => renderedBy s.1 := by
  induction steps generalizing renderer i with
  | nil => cases h
  | cons step steps ih =>
    cases i with
    | zero => simp [serveAll_cons, Step.serve_eq]
    | succ i =>
      have h : i < (serveAll probe (step.serve probe renderer).2 steps).length :=
        Nat.lt_of_succ_lt_succ h
      have held := ih _ i h
      simp only [serveAll_cons, List.getElem_cons_succ, List.take_succ_cons, List.flatMap_cons,
        held]
      rw [Step.serve_eq, List.append_assoc]

theorem canvas_of_mem_rendered {steps : List Step} {d : Document Int64} {served : Served}
    (here : served ∈ serveAll probe .empty steps) (member : d ∈ served.2.rendered) :
    0 < d.finalDimensions.width ∧ 0 < d.finalDimensions.height := by
  obtain ⟨i, h, rfl⟩ := List.mem_iff_getElem.mp here
  rw [rendered_getElem_serveAll, Renderer.empty, List.nil_append, List.mem_flatMap] at member
  obtain ⟨earlier, taken, member⟩ := member
  have result : earlier.1 ∈ steps.map (Step.result probe) := by
    rw [← map_fst_serveAll probe .empty]
    exact List.mem_map_of_mem (List.mem_of_mem_take taken)
  obtain ⟨step, _, same⟩ := List.mem_map.mp result
  rw [← same] at member
  exact step.canvas_of_mem_renderedBy member

/-- Without some idle steps, and with other stamps, the other steps are served as before. -/
theorem serveAll_keptSteps (renderer : Renderer) {marked : List (Step × Option Stamp)}
    (idle : ∀ step, (step, none) ∈ marked → step.IsIdle probe) :
    serveAll probe renderer (keptSteps marked) =
        keptServed (serveAll probe renderer (marked.map Prod.fst)) (marked.map Prod.snd) ∧
      rendererAfter probe renderer (keptSteps marked) =
        rendererAfter probe renderer (marked.map Prod.fst) := by
  induction marked generalizing renderer with
  | nil => exact ⟨rfl, rfl⟩
  | cons entry marked ih =>
    obtain ⟨step, mark⟩ := entry
    have later := fun step member => idle step (List.mem_cons_of_mem _ member)
    rw [List.map_cons, List.map_cons, serveAll_cons, rendererAfter_cons]
    cases mark with
    | none =>
      -- The renderer that the later steps find is the one before the idle step.
      rw [Step.serve_of_isIdle renderer (idle step List.mem_cons_self)]
      exact ih renderer later
    | some stamp =>
      obtain ⟨served, last⟩ := ih (step.serve probe renderer).2 later
      have kept : keptSteps ((step, some stamp) :: marked) =
          { step with stamp } :: keptSteps marked := rfl
      rw [kept, serveAll_cons, rendererAfter_cons, Step.serve_withStamp]
      exact ⟨congrArg (_ :: ·) served, last⟩

/-- The law of a sequence. A step has one result whatever the renderer holds, and an idle one leaves
the renderer as it is. A run succeeds exactly if the same inputs compile to a document with a canvas,
and answers with that document and its receipt. After each step the renderer holds the documents of
the successful runs so far, and idle steps change nothing for the others. -/
theorem serveAll_law (probe : Probe) :
    (∀ step renderer, (Step.serve probe renderer step).1 = step.result probe ∧
      (step.IsIdle probe → (step.serve probe renderer).2 = renderer)) ∧
    (∀ step : Step, step.goal = .run → ∀ answer, (step.result probe).outcome = .ok answer ↔
      ∃ d, ({ step with goal := .compile }.result probe).outcome = .ok (.compiled d) ∧
        0 < d.finalDimensions.width ∧ 0 < d.finalDimensions.height ∧
        answer = .ran
          { engineVersion := engineVersion
            document := d
            receipt :=
              { stamp := step.stamp
                documentHash := d.hash
                canvas := d.finalDimensions
                destinationFile := d.destinationFile
                format := d.format
                steps := d.instructions.draw.map fun w =>
                  ⟨w.shape.name, Color.paint w.color.name⟩ } }) ∧
    (∀ steps : List Step,
      let served := serveAll probe .empty steps
      served.map Prod.fst = steps.map (Step.result probe) ∧
      ∀ (i : Nat) (h : i < served.length),
        served[i].2.rendered = (served.take (i + 1)).flatMap (fun s => renderedBy s.1) ∧
        ∀ d ∈ served[i].2.rendered, 0 < d.finalDimensions.width ∧ 0 < d.finalDimensions.height) ∧
    (∀ (renderer : Renderer) (marked : List (Step × Option Stamp)),
      (∀ step, (step, none) ∈ marked → step.IsIdle probe) →
      serveAll probe renderer (keptSteps marked) =
          keptServed (serveAll probe renderer (marked.map Prod.fst)) (marked.map Prod.snd) ∧
        rendererAfter probe renderer (keptSteps marked) =
          rendererAfter probe renderer (marked.map Prod.fst)) := by
  refine ⟨fun step renderer => ⟨?_, fun idle => ?_⟩, fun step goal answer => ?_,
    fun steps => ⟨?_, fun i h => ⟨?_, fun d member => ?_⟩⟩,
    fun renderer marked idle => serveAll_keptSteps renderer idle⟩
  · rw [Step.serve_eq]
  · rw [Step.serve_of_isIdle renderer idle]
  · simp only [step.result_run_eq_ok_iff_compile goal, Receipt.ofDocument_eq]
  · exact map_fst_serveAll probe .empty steps
  · exact rendered_getElem_serveAll probe .empty steps i h
  · exact canvas_of_mem_rendered (List.getElem_mem h) member

/-- Two runs among a step without a request, one that only compiles and one without a canvas. The
receipt of the first run shows a color with a value and one without. -/
theorem serveAll_law_of_mixed_steps :
    let probe := Probe.fixed ⟨8, 6⟩
    let midnight : Instant := ⟨⟨2024, 2, 29, by decide⟩, 0, 0⟩
    let inputs (markup : String) : Inputs :=
      ⟨some markup, none, some "in.png", some "out.png", none, none⟩
    let step (markup : String) (goal : Goal) : Step := ⟨inputs markup, goal, ⟨"first", midnight⟩⟩
    let refused : Step := ⟨⟨none, none, none, none, none, none⟩, .run, ⟨"first", midnight⟩⟩
    let again : Option Stamp := some ⟨"second", midnight⟩
    let marked : List (Step × Option Stamp) :=
      [(refused, none), (step "circle,1x2,3,red;gap,1x2,3x4,#fff" .run, again),
        (step "gap,1x2,3x4,#fff" .compile, none), (step "crop,0x0,0x5" .run, none),
        (step "crop,1x1,4x5" .run, again)]
    let drawn : Document Int64 := ⟨⟨8, 6⟩, ⟨8, 6⟩,
      ⟨none, [.circle ⟨⟨1, 2⟩, 3, ⟨"red"⟩⟩, .gap ⟨⟨1, 2⟩, ⟨3, 4⟩, ⟨"#fff"⟩⟩], none⟩,
      "in.png", "out.png", "jpeg"⟩
    let receipt : Receipt := ⟨⟨"first", midnight⟩, drawn.hash, ⟨8, 6⟩, "out.png", "jpeg",
      [⟨"circle", "rgb(193,40,11)"⟩, ⟨"gap", "#fff"⟩]⟩
    let cropped : Document Int64 := ⟨⟨8, 6⟩, ⟨4, 5⟩,
      ⟨some ⟨⟨1, 1⟩, ⟨4, 5⟩⟩, [], none⟩, "in.png", "out.png", "jpeg"⟩
    (∀ step, (step, none) ∈ marked → step.IsIdle probe) ∧
      serveAll probe .empty (keptSteps marked) =
        keptServed (serveAll probe .empty (marked.map Prod.fst)) (marked.map Prod.snd) ∧
      rendererAfter probe .empty (keptSteps marked) =
        rendererAfter probe .empty (marked.map Prod.fst) ∧
      rendererAfter probe .empty (marked.map Prod.fst) = ⟨[drawn, cropped]⟩ ∧
      ((step "circle,1x2,3,red;gap,1x2,3x4,#fff" .run).result probe).outcome =
        .ok (.ran ⟨"1.0.0", drawn, receipt⟩) := by
  intro probe midnight inputs step refused again marked drawn receipt cropped
  have idle : ∀ step, (step, none) ∈ marked → step.IsIdle probe := by
    intro step member
    simp only [marked, again, List.mem_cons, Prod.mk.injEq, reduceCtorEq, and_false, and_true,
      List.not_mem_nil, or_false, false_or] at member
    obtain rfl | rfl | rfl := member
    · exact .inr ⟨.usage .noInput, rfl⟩
    · exact .inl rfl
    · exact .inr ⟨.emptyCanvas ⟨⟨0, 5⟩⟩, by decide +kernel⟩
  obtain ⟨served, last⟩ := (serveAll_law probe).2.2.2 .empty marked idle
  have ran := ((serveAll_law probe).2.1 (step "circle,1x2,3,red;gap,1x2,3x4,#fff" .run) rfl _).mpr
    ⟨drawn, by decide +kernel, by decide, by decide, rfl⟩
  exact ⟨idle, served, last, by decide +kernel, ran⟩

end PaintScript

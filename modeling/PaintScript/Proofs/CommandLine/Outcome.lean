import PaintScript.CommandLine.Outcome
import PaintScript.Proofs.Document.RoundTrip
import PaintScript.Proofs.Json.Printed
import PaintScript.Proofs.Pipeline.Job

/-!
# Reports of the command line

A report is printed on one line, whatever its strings hold, and that line is read as the report
again. So a caller gets the error of a job that failed, and the document of one that ran with the
hash that belongs to it.
-/

namespace PaintScript

open Json (IsPlain IsValue ReadsBack WellFormed)

/-! ### Wire forms -/

theorem Receipt.wellFormed (r : Receipt) (levels : Nat) : r.toJson.WellFormed (levels + 3) := by
  have canvas := (r.canvas.integers_readBack (levels + 1)).wellFormed
  have steps := (PaintStep.list_readsBack r.steps levels).wellFormed
  refine .object (show ["id", "completedAt", "documentHash", "canvas", "destinationFile", "format",
    "steps"].Nodup by decide) ?_
  simp only [List.forall_mem_cons]
  exact ⟨.string _, .string _, .string _, canvas, .string _, .string _, steps,
    List.forall_mem_nil _⟩

namespace CommandLine

theorem success_wellFormed (job : Job) : (success job).WellFormed Json.Read.levelLimit := by
  have document : (job.document.toJson integerJson).WellFormed 126 :=
    (job.document.integers_readBack_below 120).wellFormed
  have receipt : job.receipt.toJson.WellFormed 126 := job.receipt.wellFormed 123
  refine .object (show ["success", "engineVersion", "document", "receipt"].Nodup by decide) ?_
  simp only [List.forall_mem_cons]
  exact ⟨.bool true, .string _, document, receipt, List.forall_mem_nil _⟩

theorem failure_wellFormed (e : PipelineError) : (failure e).WellFormed Json.Read.levelLimit := by
  refine .object (show ["success", "error"].Nodup by decide) ?_
  exact List.forall_mem_cons.mpr ⟨.bool false, List.forall_mem_singleton.mpr (.string _)⟩

/-! ### Lines -/

/-- Whether a text is one line that holds an object with these entries. -/
def IsObjectLine (entries : List (String × Json)) (text : String) : Prop :=
  ∃ line : String, text = line ++ "\n" ∧ '\n' ∉ line.toList ∧ IsValue line.toList ∧
    Json.ofText line = .ok (.object entries)

theorem newline_notMem_of_isPlain {text : List Char} (h : IsPlain text) : '\n' ∉ text := by
  intro member
  exact absurd (h '\n' member) (by decide)

/-- A report is printed on one line, and read as its entries. -/
theorem exists_isObjectLine {entries : List (String × Json)}
    (h : (Json.object entries).WellFormed Json.Read.levelLimit) :
    ∃ es, IsObjectLine es (reportLine (.object entries)) ∧
      ∀ key, es.lookup key = (entries.reverse.lookup key).map Json.sorted := by
  -- What is printed is the sorted form, which is well-formed as an arrangement of the report.
  obtain ⟨es, sorted, lookup⟩ := Json.exists_sorted_object entries
  have settled := h.arrange h.arranges_sorted
  have read : Json.ofText (Json.object entries).canonical = .ok (Json.object entries).sorted :=
    (ReadsBack.value h).decode_canonical
  refine ⟨es, ⟨(Json.object entries).canonical, rfl, ?_, ?_, read.trans (congrArg _ sorted)⟩,
    lookup⟩
  · rw [Json.canonical, Json.text, String.toList_ofList]
    exact newline_notMem_of_isPlain settled.isPlain_print
  · rw [Json.canonical, Json.text, String.toList_ofList]
    exact settled.isValue_print

theorem failure_line (e : PipelineError) :
    ∃ entries, IsObjectLine entries (reportLine (failure e)) ∧
      entries.lookup "success" = some (.bool false) ∧
      entries.lookup "error" = some (.string e.message) := by
  obtain ⟨entries, line, lookup⟩ := exists_isObjectLine (failure_wellFormed e)
  exact ⟨entries, line, lookup "success", lookup "error"⟩

/-- The document in a report on it is decoded as itself, and the receipt holds its hash. -/
theorem success_line (stamp : Stamp) (d : Document Int64) :
    ∃ entries document receipt,
      IsObjectLine entries (reportLine (success ⟨engineVersion, d, .ofDocument stamp d⟩)) ∧
        entries.lookup "success" = some (.bool true) ∧
        entries.lookup "document" = some document ∧ Document.decode document.text = .ok d ∧
        entries.lookup "receipt" = some (.object receipt) ∧
        receipt.lookup "documentHash" = some (.string (Sha256.ofText document.canonical)) := by
  let job : Job := ⟨engineVersion, d, .ofDocument stamp d⟩
  obtain ⟨entries, line, lookup⟩ := exists_isObjectLine (success_wellFormed job)
  obtain ⟨receipt, sorted, fields⟩ :
      ∃ es, job.receipt.toJson.sorted = .object es ∧ ∀ key, es.lookup key = _ :=
    Json.exists_sorted_object _
  refine ⟨entries, (d.toJson integerJson).sorted, receipt, line, lookup "success",
    lookup "document", d.decode_canonical, ?_, ?_⟩
  · rw [← sorted]
    exact lookup "receipt"
  · rw [d.canonical_sorted]
    exact fields "documentHash"

/-! ### Outcomes -/

/-- Inputs that do not go together are noticed before anything is compiled. -/
theorem run_ne_usage {probe : Probe} {renderer : Renderer} {stamp : Stamp} {request : Request}
    (e : UsageError) : (request.run probe renderer stamp).1.outcome ≠ .error (.usage e) := by
  intro h
  simp only [Request.run, Request.compile, Logged.fst_bindWith, Logged.outcome_bind,
    Logged.outcome_map, Logged.outcome_mapError, bind_eq_error_iff, map_eq_error_iff,
    mapError_eq_error_iff] at h
  obtain (assembled | ⟨_, _, _, _, other⟩) | ⟨_, _, _, _, other⟩ := h
  · cases request with
    | document d => cases assembled
    | markup text target =>
      simp only [Request.assemble, Logged.outcome_bind, Logged.outcome_ofExcept,
        Logged.outcome_tell, Logged.outcome_mapError, Logged.outcome_pure, bind_eq_error_iff,
        mapError_eq_error_iff] at assembled
      obtain ⟨_, _, other⟩ | ⟨_, _, other | ⟨_, _, ⟨_, _, other⟩ | ⟨_, _, other | ⟨_, _, other⟩⟩⟩⟩ :=
        assembled <;> cases other
  · cases other
  · cases other

/-- Whether a request or its run fails with an error. -/
def FailsWith (probe : Probe) (stamp : Stamp) (inputs : Inputs) (e : PipelineError) : Prop :=
  inputs.request = .error e ∨
    ∃ request, inputs.request = .ok request ∧ (request.run probe .empty stamp).1.outcome = .error e

variable {probe : Probe} {stamp : Stamp} {inputs : Inputs}

theorem job_eq_error_iff {e : PipelineError} :
    job probe stamp inputs = .error e ↔ FailsWith probe stamp inputs e := by
  unfold job FailsWith
  rw [bind_eq_error_iff]

theorem job_eq_ok_iff {result : Job} :
    job probe stamp inputs = .ok result ↔
      ∃ request d, inputs.request = .ok request ∧ (request.compile probe).outcome = .ok d ∧
        d.finalDimensions.isEmpty = false ∧
        result = ⟨engineVersion, d, .ofDocument stamp d⟩ := by
  unfold job
  rw [bind_eq_ok_iff]
  constructor
  · rintro ⟨request, requested, run⟩
    obtain ⟨d, compiled, canvas, rfl⟩ := Request.run_eq_ok_iff.mp run
    exact ⟨request, d, requested, compiled, canvas, rfl⟩
  · rintro ⟨request, d, requested, compiled, canvas, rfl⟩
    exact ⟨request, requested, Request.run_eq_ok_iff.mpr ⟨d, compiled, canvas, rfl⟩⟩

theorem exists_job_eq_usage_iff (probe : Probe) (stamp : Stamp) (inputs : Inputs) :
    (∃ e, job probe stamp inputs = .error (.usage e)) ↔
      ∃ e, inputs.request = .error (.usage e) := by
  refine exists_congr fun e => job_eq_error_iff.trans ?_
  constructor
  · rintro (refused | ⟨request, _, run⟩)
    · exact refused
    · exact absurd run (run_ne_usage e)
  · exact Or.inl

theorem exists_job_eq_ok_iff (probe : Probe) (stamp : Stamp) (inputs : Inputs) :
    (∃ result, job probe stamp inputs = .ok result) ↔
      ∃ request result, inputs.request = .ok request ∧
        (request.run probe .empty stamp).1.outcome = .ok result := by
  simp only [job, bind_eq_ok_iff]
  exact exists_comm

theorem ofInputs_of_error {e : PipelineError} (debug : Bool)
    (failed : job probe stamp inputs = .error e) (other : ∀ u, e ≠ .usage u) :
    Outcome.ofInputs probe stamp inputs debug = ⟨1, reportLine (failure e), ""⟩ := by
  rw [Outcome.ofInputs, failed]
  cases e with
  | usage u => exact absurd rfl (other u)
  | invalidDocument | probe | markup | coercion | emptyCanvas => rfl

/-- The law of the outcome. The status is 2 exactly if the inputs do not go together, and then
nothing is printed, and 0 exactly if the run succeeds. A failure is reported by a line with the
wording of its error. A success is reported by a line whose document is decoded as the compiled one
and has the hash that the receipt names, and on demand that document is shown as markup. -/
theorem ofInputs_law (probe : Probe) (stamp : Stamp) (inputs : Inputs) (debug : Bool) :
    ∃ status stdout stderr,
      Outcome.ofInputs probe stamp inputs debug = ⟨status, stdout, stderr⟩ ∧
      (status = 2 ↔ ∃ e, inputs.request = .error (.usage e)) ∧
      (status = 0 ↔ ∃ request result, inputs.request = .ok request ∧
        (request.run probe .empty stamp).1.outcome = .ok result) ∧
      ((status = 2 ∧ stdout = "") ∨
        (status = 1 ∧ ∃ e entries, FailsWith probe stamp inputs e ∧
          IsObjectLine entries stdout ∧
          entries.lookup "success" = some (.bool false) ∧
          entries.lookup "error" = some (.string e.message)) ∨
        (status = 0 ∧ ∃ request d entries document receipt, inputs.request = .ok request ∧
          (request.compile probe).outcome = .ok d ∧
          IsObjectLine entries stdout ∧
          entries.lookup "success" = some (.bool true) ∧
          entries.lookup "document" = some document ∧ Document.decode document.text = .ok d ∧
          entries.lookup "receipt" = some (.object receipt) ∧
          receipt.lookup "documentHash" = some (.string (Sha256.ofText document.canonical)) ∧
          stderr = if debug then d.markup ++ "\n" else "")) := by
  rw [← exists_job_eq_usage_iff probe stamp inputs, ← exists_job_eq_ok_iff probe stamp inputs]
  rcases outcome : job probe stamp inputs with e | result
  · have ended : ¬ ∃ result, Except.error e = (.ok result : Except PipelineError Job) := nofun
    by_cases refusal : ∃ u, e = .usage u
    · obtain ⟨u, rfl⟩ := refusal
      refine ⟨2, "", u.message ++ "\n" ++ usage [] ++ "\n", ?_,
        iff_of_true rfl ⟨u, rfl⟩, iff_of_false (by decide) ended, .inl ⟨rfl, rfl⟩⟩
      rw [Outcome.ofInputs, outcome]
    · have other : ∀ u, e ≠ .usage u := fun u same => refusal ⟨u, same⟩
      have accepted : ¬ ∃ u, Except.error e = (.error (.usage u) : Except PipelineError Job) :=
        fun ⟨u, same⟩ => other u (Except.error.inj same)
      obtain ⟨entries, report⟩ := failure_line e
      exact ⟨1, _, _, ofInputs_of_error debug outcome other, iff_of_false (by decide) accepted,
        iff_of_false (by decide) ended,
        .inr (.inl ⟨rfl, e, entries, job_eq_error_iff.mp outcome, report⟩)⟩
  · obtain ⟨request, d, requested, compiled, -, rfl⟩ := job_eq_ok_iff.mp outcome
    obtain ⟨entries, document, receipt, line, success, shown, decoded, held, hash⟩ :=
      success_line stamp d
    refine ⟨0, _, _, ?_, iff_of_false (by decide) nofun, iff_of_true rfl ⟨_, rfl⟩,
      .inr (.inr ⟨rfl, request, d, entries, document, receipt, requested, compiled, line, success,
        shown, decoded, held, hash, rfl⟩)⟩
    rw [Outcome.ofInputs, outcome]

/-- A path with a quote and a line break is reported on one line. -/
example :
    let probe : Probe := fun path => .error ⟨path, "missing"⟩
    let stamp : Stamp := ⟨"first", ⟨⟨2024, 2, 29, by decide⟩, 0, 0⟩⟩
    let inputs : Inputs := ⟨some "crop,0x0,1x1", none, some "a\"\nb", some "c", none, none⟩
    Outcome.ofInputs probe stamp inputs true =
      ⟨1, "\x7b\"error\":\"Cannot read dimensions of 'a\\\"\\nb': missing\"," ++
        "\"success\":false\x7d\n", ""⟩ := by
  decide +kernel

end CommandLine
end PaintScript

import PaintScript.Proofs.Document.Wire
import PaintScript.Proofs.Pipeline.Run

/-!
# Replays

A document of integers is coerced to itself after it was written and read as a raw one. So a job can
be run again from either text of its document.
-/

namespace PaintScript

/-- The texts that a document is kept as: its own and its canonical one. -/
def Document.wireForms (d : Document Int64) : List String :=
  [d.text, d.canonical]

theorem Document.decodeRaw_of_mem_wireForms {d : Document Int64} {text : String}
    (kept : text ∈ d.wireForms) : decodeRaw text = .ok (d.map .int) := by
  have back := d.integers_readBack_raw
  rcases List.mem_cons.mp kept with own | canonical
  · rw [own]
    exact back.decode_text
  · rw [List.mem_singleton.mp canonical]
    exact back.decode_canonical

theorem Document.coerce_map_int (label : String) (d : Document Int64) :
    (d.map .int).coerce label = .ok d :=
  coerce_eq_ok_iff.mpr (d.rel_map fun _ => Numeric.denotes_int.mpr rfl)

theorem Inputs.request_document {text : String} {d : Document Numeric}
    {input output format : Option String} (decoded : Document.decodeRaw text = .ok d) :
    Inputs.request ⟨none, some text, input, output, format, none⟩ = .ok (.document d) := by
  simp only [request, entry, Option.isSome_none, Bool.false_eq_true, if_false, decoded]

/-- A text of a document with a canvas is rendered as the document, whatever was rendered before. -/
theorem Step.serve_wireForm {probe : Probe} {renderer : Renderer} {stamp : Stamp} {text : String}
    {input output format : Option String} {d : Document Int64} (kept : text ∈ d.wireForms)
    (canvas : d.finalDimensions.isEmpty = false) :
    let served :=
      serve probe renderer ⟨⟨none, some text, input, output, format, none⟩, .run, stamp⟩
    served.1.outcome = .ok (.ran ⟨engineVersion, d, .ofDocument stamp d⟩) ∧
      served.2 = ⟨renderer.rendered ++ [d]⟩ := by
  intro served
  let step : Step := ⟨⟨none, some text, input, output, format, none⟩, .run, stamp⟩
  have compiled : ((Request.document (d.map .int)).compile probe).outcome = .ok d := by
    rw [Request.outcome_compile_document, d.coerce_map_int]
    rfl
  have result : (step.result probe).outcome =
      .ok (.ran ⟨engineVersion, d, .ofDocument stamp d⟩) :=
    (result_run_eq_ok_iff rfl).mpr ⟨_, d,
      Inputs.request_document (Document.decodeRaw_of_mem_wireForms kept), compiled, canvas, rfl⟩
  have taken : served = (step.result probe, ⟨renderer.rendered ++ [d]⟩) := by
    have rendered : renderedBy (step.result probe) = [d] := by
      rw [renderedBy, result]
    rw [← rendered]
    exact step.serve_eq probe renderer
  rw [taken]
  exact ⟨result, rfl⟩

/-- Coercion is idempotent through either text of a document, and a job that was run once is run
again from either text, with any probe and renderer: the same document and, under a new stamp, the
same receipt. -/
theorem run_of_wireForm :
    (∀ (d : Document Int64), ∀ text ∈ d.wireForms, ∃ r, Document.decodeRaw text = .ok r ∧
      ∀ label, (r.normalize label).outcome = .ok d) ∧
    ∀ (probe : Probe) (renderer : Renderer) (stamp : Stamp) (request : Request) (job : Job),
      (request.run probe renderer stamp).1.outcome = .ok job →
      ∀ text ∈ job.document.wireForms,
      ∀ (other : Probe) (held : Renderer) (later : Stamp) (input output format : Option String),
        let served :=
          Step.serve other held ⟨⟨none, some text, input, output, format, none⟩, .run, later⟩
        served.1.outcome =
            .ok (.ran ⟨job.engineVersion, job.document, { job.receipt with stamp := later }⟩) ∧
          served.2 = ⟨held.rendered ++ [job.document]⟩ := by
  constructor
  · intro d text kept
    exact ⟨d.map .int, Document.decodeRaw_of_mem_wireForms kept, d.coerce_map_int⟩
  · intro probe renderer stamp request job ran text kept other held later input output format
    obtain ⟨d, -, canvas, rfl⟩ := Request.run_eq_ok_iff.mp ran
    exact Step.serve_wireForm kept canvas

/-- A job with the least and the greatest integer, run again from its canonical text. -/
theorem run_of_wireForm_of_extreme_integers :
    let low := Int64.minValue
    let high := Int64.maxValue
    let d : Document Int64 := ⟨⟨high, low⟩, ⟨8, 6⟩,
      ⟨none, [.circle ⟨⟨low, high⟩, low, ⟨"red"⟩⟩], some high⟩, "in.png", "out.png", "jpeg"⟩
    let stamp : Stamp := ⟨"first", ⟨⟨2024, 2, 29, by decide⟩, 0, 0⟩⟩
    let job : Job := ⟨engineVersion, d, .ofDocument stamp d⟩
    let request := Request.document (d.map .int)
    let ran := request.run (Probe.fixed ⟨0, 0⟩) .empty stamp
    ran.1.outcome = .ok job ∧ ran.2 = ⟨[d]⟩ ∧
      d.canonical ∈ d.wireForms ∧
      let served := Step.serve (Probe.fixed ⟨1, 1⟩) ⟨[d]⟩
        ⟨⟨none, some d.canonical, none, none, none, none⟩, .run, stamp⟩
      served.1.outcome = .ok (.ran job) ∧ served.2 = ⟨[d, d]⟩ := by
  intro low high d stamp job request ran
  have done : ran.1.outcome = .ok job :=
    Request.run_eq_ok_iff.mpr ⟨d, by decide +kernel, by decide, rfl⟩
  have kept : d.canonical ∈ d.wireForms := .tail _ (.head _)
  exact ⟨done, Request.snd_run_of_ok done, kept, run_of_wireForm.2 _ _ _ request job done
    d.canonical kept (Probe.fixed ⟨1, 1⟩) ⟨[d]⟩ stamp none none none⟩

end PaintScript

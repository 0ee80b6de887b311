import PaintScript.Proofs.Document.Wire
import PaintScript.Proofs.Instant.RoundTrip
import PaintScript.Proofs.Pipeline.Run

/-!
# Jobs are read back

A job is decoded from its text as it was, so the hash in the receipt of a job that was run is still
that of its document.
-/

namespace PaintScript

open Json (InOrder ReadsBack)
open Json.Read (required)

/-! ### Parts of a job -/

theorem Instant.readsBack {t : Instant} (plain : t.IsPlain) (levels : Nat) :
    ReadsBack Instant.read levels (.string t.text) t := by
  refine ⟨.string _, fun k arranged rest ends => ?_⟩
  cases arranged
  rw [Instant.read, Json.print, Json.Read.reads_text _ t.text rest ends, ok_bind]
  dsimp only
  rw [Instant.text, String.toList_ofList, Instant.ofText_print plain]

theorem PaintStep.readsBack (s : PaintStep) (levels : Nat) :
    ReadsBack PaintStep.read (levels + 1) s.toJson s := by
  have entries : InOrder levels [required "shape" stringRead, required "color" stringRead]
      (s.shape, s.color, ()) [("shape", .string s.shape), ("color", .string s.color)] :=
    .entry (.text _ _) (.entry (.text _ _) .nil)
  exact (entries.record (show ["shape", "color"].Nodup by decide)).map

theorem PaintStep.list_readsBack (steps : List PaintStep) (levels : Nat) :
    ReadsBack (Json.Read.list PaintStep.read) (levels + 2)
      (.array (steps.map PaintStep.toJson)) steps :=
  .list (List.forall₂_map_left_iff.mpr (List.forall₂_same.mpr fun s _ => s.readsBack levels))

/-- A size needs one level, as in a group that has no other one above it. -/
theorem Size.integers_readBack (s : Size Int64) (levels : Nat) :
    ReadsBack (Size.read integerRead) (levels + 1) (s.toJson integerJson) s :=
  Size.readsBack (.drawingSize 0 .rectangle) fun q _ => integer_readsBack q.2 _

theorem Receipt.readsBack {r : Receipt} (plain : r.stamp.completedAt.IsPlain) (levels : Nat) :
    ReadsBack Receipt.read (levels + 3) r.toJson r := by
  have entries : InOrder (levels + 2)
      [required "id" stringRead, required "completedAt" Instant.read,
        required "documentHash" stringRead, required "canvas" (Size.read integerRead),
        required "destinationFile" stringRead, required "format" stringRead,
        required "steps" (Json.Read.list PaintStep.read)]
      (r.stamp.id, r.stamp.completedAt, r.documentHash, r.canvas, r.destinationFile, r.format,
        r.steps, ())
      [("id", .string r.stamp.id), ("completedAt", .string r.stamp.completedAt.text),
        ("documentHash", .string r.documentHash), ("canvas", r.canvas.toJson integerJson),
        ("destinationFile", .string r.destinationFile), ("format", .string r.format),
        ("steps", .array (r.steps.map PaintStep.toJson))] :=
    .entry (.text _ _) (.entry (Instant.readsBack plain _) (.entry (.text _ _)
      (.entry (r.canvas.integers_readBack (levels + 1)) (.entry (.text _ _) (.entry (.text _ _)
        (.entry (PaintStep.list_readsBack r.steps levels) .nil))))))
  exact ReadsBack.map (entries.record (show ["id", "completedAt", "documentHash", "canvas",
    "destinationFile", "format", "steps"].Nodup by decide))

/-! ### Whole jobs -/

theorem Job.readsBack {job : Job} (plain : job.receipt.stamp.completedAt.IsPlain) :
    ReadsBack Job.read Json.Read.levelLimit job.toJson job := by
  have entries : InOrder 126
      [required "engine_version" stringRead, required "document" (Document.read integerRead),
        required "receipt" Receipt.read]
      (job.engineVersion, job.document, job.receipt, ())
      [("engine_version", .string job.engineVersion),
        ("document", job.document.toJson integerJson), ("receipt", job.receipt.toJson)] :=
    .entry (.text _ _) (.entry (job.document.integers_readBack_below 120)
      (.entry (Receipt.readsBack plain 123) .nil))
  exact ReadsBack.map (entries.record
    (show ["engine_version", "document", "receipt"].Nodup by decide))

theorem Job.decode_text {job : Job} (plain : job.receipt.stamp.completedAt.IsPlain) :
    Job.decode job.text = .ok job :=
  (Job.readsBack plain).decode_text

/-- A job is decoded from its text and written as this text again. If it was run, then the decoded
receipt has the hash of the decoded document. -/
theorem decode_of_jobText :
    (∀ job : Job, job.receipt.stamp.completedAt.IsPlain →
      Job.decode job.text = .ok job ∧ (Job.decode job.text).map Job.text = .ok job.text) ∧
    ∀ (probe : Probe) (renderer : Renderer) (stamp : Stamp) (request : Request) (job : Job),
      stamp.completedAt.IsPlain →
      (request.run probe renderer stamp).1.outcome = .ok job →
      ∃ stored, Job.decode job.text = .ok stored ∧
        stored.document.hash = stored.receipt.documentHash := by
  constructor
  · intro job plain
    have decoded := Job.decode_text plain
    exact ⟨decoded, by rw [decoded]; rfl⟩
  · intro probe renderer stamp request job plain ran
    obtain ⟨d, -, -, rfl⟩ := Request.run_eq_ok_iff.mp ran
    exact ⟨_, Job.decode_text plain, rfl⟩

/-- A job of the last second of a leap day in the year zero, with a fraction of six digits. -/
theorem decode_of_jobText_of_leap_day :
    let stamp : Stamp := ⟨"\"\n", ⟨⟨0, 2, 29, by decide⟩, 86399, 120000⟩⟩
    let d : Document Int64 := ⟨⟨8, 6⟩, ⟨8, 6⟩,
      ⟨none, [.gap ⟨⟨Int64.minValue, 0⟩, ⟨1, 2⟩, ⟨"green"⟩⟩], none⟩, "in.png", "\\", "jpeg"⟩
    let job : Job := ⟨engineVersion, d, .ofDocument stamp d⟩
    let request := Request.document (d.map .int)
    let ran := request.run (Probe.fixed ⟨0, 0⟩) .empty stamp
    stamp.completedAt.print = "0000-02-29T23:59:59.000120Z".toList ∧ stamp.completedAt.IsPlain ∧
      ran.1.outcome = .ok job ∧ ran.2 = ⟨[d]⟩ ∧ Job.decode job.text = .ok job ∧
      ∃ stored, Job.decode job.text = .ok stored ∧
        stored.document.hash = stored.receipt.documentHash := by
  intro stamp d job request ran
  have plain : stamp.completedAt.IsPlain := ⟨by decide, by decide, by decide⟩
  have done : ran.1.outcome = .ok job :=
    Request.run_eq_ok_iff.mpr ⟨d, by decide +kernel, by decide, rfl⟩
  exact ⟨by decide +kernel, plain, done, Request.snd_run_of_ok done,
    (decode_of_jobText.1 job plain).1, decode_of_jobText.2 _ _ stamp request job plain done⟩

end PaintScript

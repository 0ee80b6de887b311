import PaintScript.Pipeline
import PaintScript.Proofs.Markup.RoundTrip

/-!
# Compiling markup

A compiled document is the coerced assembly of what its markup says. Its own markup is compiled to
the same document again, without a warning.
-/

namespace PaintScript

theorem Document.outcome_normalize (label : String) (d : Document Numeric) :
    (d.normalize label).outcome = d.coerce label := rfl

namespace Request

theorem outcome_compile_document (probe : Probe) (d : Document Numeric) :
    ((Request.document d).compile probe).outcome = (d.coerce rootLabel).mapError .coercion := rfl

/-- The outcome of a markup request whose source has a size and whose text is read. -/
theorem outcome_compile_markup {probe : Probe} {text : String} {target : Target} {size : Size Int64}
    {m : Markup} (answer : probe target.sourceFile = .ok size)
    (read : (Markup.ofText text).outcome = .ok m) :
    ((Request.markup text target).compile probe).outcome =
      ((m.assemble size target).coerce rootLabel).mapError .coercion := by
  simp only [compile, assemble, Logged.outcome_bind, Logged.outcome_ofExcept, Logged.outcome_tell,
    Logged.outcome_mapError, Logged.outcome_pure, Document.outcome_normalize, answer, read]
  rfl

theorem compile_markup_eq_ok_iff {probe : Probe} {text : String} {target : Target}
    {d : Document Int64} :
    ((Request.markup text target).compile probe).outcome = .ok d ↔
      ∃ size m, probe target.sourceFile = .ok size ∧ (Markup.ofText text).outcome = .ok m ∧
        (m.assemble size target).Rel Numeric.Denotes d := by
  constructor
  · intro h
    simp only [compile, assemble, Logged.outcome_bind, Logged.outcome_ofExcept,
      Logged.outcome_tell, Logged.outcome_mapError, Logged.outcome_pure,
      Document.outcome_normalize, bind_eq_ok_iff, mapError_eq_ok_iff] at h
    obtain ⟨_, ⟨size, answer, _, _, m, read, _, _, same⟩, coerced⟩ := h
    cases same
    exact ⟨size, m, answer, read, Document.coerce_eq_ok_iff.mp coerced⟩
  · intro fact
    obtain ⟨size, m, answer, read, related⟩ := fact
    rw [outcome_compile_markup answer read, mapError_eq_ok_iff]
    exact Document.coerce_eq_ok_iff.mpr related

end Request

/-! ### Markup of a compiled document -/

theorem Crop.eq_map_of_denotes {x : Option (Crop Numeric)} {y : Option (Crop Int64)}
    (h : Option.Rel (Crop.Rel Numeric.Denotes) x y)
    (tokens : ∀ c ∈ x, ∀ n ∈ c.numbers, n.IsToken) : x = y.map (Crop.map .int) := by
  cases h with
  | none => rfl
  | some denotes =>
    exact congrArg some (denotes.eq_map fun n member i =>
      Numeric.eq_int_of_denotes (tokens _ rfl n member))

theorem Drawing.eq_map_of_denotes {ds : List (Drawing Numeric)} {es : List (Drawing Int64)}
    (h : List.Forall₂ (Drawing.Rel Numeric.Denotes) ds es)
    (tokens : ∀ d ∈ ds, ∀ n ∈ d.numbers, n.IsToken) : ds = es.map (Drawing.map .int) := by
  induction h with
  | nil => rfl
  | cons denotes _ ih =>
    obtain ⟨first, others⟩ := List.forall_mem_cons.mp tokens
    rw [List.map_cons, ← ih others, ← denotes.eq_map fun n member i =>
      Numeric.eq_int_of_denotes (first n member)]

/-- Compiling the markup of a compiled document gives the document again. That markup is read
without an event, so nothing in it is ignored, and it is its own markup. -/
theorem compile_markup_of_compile {probe : Probe} {text : String} {target : Target}
    {d : Document Int64} (h : ((Request.markup text target).compile probe).outcome = .ok d) :
    ((Request.markup d.markup target).compile probe).outcome = .ok d ∧
      (Markup.ofText d.markup).log = [] ∧
      (∃ m, (Markup.ofText d.markup).outcome = .ok m ∧ m.ignored = []) ∧
      ((Request.markup d.markup target).compile probe).outcome.map Document.markup =
        .ok d.markup := by
  obtain ⟨size, m, answer, read, related⟩ := Request.compile_markup_eq_ok_iff.mp h
  obtain ⟨cropTokens, drawTokens⟩ := Markup.ofText_image read
  -- A token that is coerced was an integer before, so coercion has changed nothing.
  have crop : m.crop = d.instructions.crop.map (Crop.map .int) :=
    Crop.eq_map_of_denotes related.instructions.crop cropTokens
  have draw : m.draw = d.instructions.draw.map (Drawing.map .int) :=
    Drawing.eq_map_of_denotes related.instructions.draw fun w member => (drawTokens w member).2
  have again := Markup.ofText_markup (Markup.isWritable_of_read read crop draw)
  have compiled : ((Request.markup d.markup target).compile probe).outcome = .ok d := by
    refine Request.compile_markup_eq_ok_iff.mpr ⟨size, _, answer, congrArg Logged.outcome again, ?_⟩
    rw [← crop, ← draw]
    exact related
  refine ⟨compiled, congrArg Logged.log again, ⟨_, congrArg Logged.outcome again, rfl⟩, ?_⟩
  rw [compiled]
  rfl

/-- A text with an unknown command, a blank segment, unused arguments and two crops becomes one with
none of them. -/
theorem compile_markup_of_padded_text :
    let probe := Probe.fixed ⟨8, 6⟩
    let target : Target := ⟨"in.png", "out.png", none, some "2"⟩
    let text := " circle , 1x2q , +3 , red , extra ;;blur,5;crop,0x0,9x9;crop,1x1,4x4"
    let d : Document Int64 := ⟨⟨8, 6⟩, ⟨4, 4⟩,
      ⟨some ⟨⟨1, 1⟩, ⟨4, 4⟩⟩, [.circle ⟨⟨1, 2⟩, 3, ⟨"red"⟩⟩], some 2⟩, "in.png", "out.png", "jpeg"⟩
    ((Request.markup text target).compile probe).outcome = .ok d ∧
      d.markup = "crop,1x1,4x4;circle,1x2,3,red" ∧
      ((Request.markup d.markup target).compile probe).outcome = .ok d ∧
      (Markup.ofText d.markup).log = [] ∧
      (∃ m, (Markup.ofText d.markup).outcome = .ok m ∧ m.ignored = []) ∧
      ((Request.markup d.markup target).compile probe).outcome.map Document.markup =
        .ok d.markup := by
  intro probe target text d
  have compiled : ((Request.markup text target).compile probe).outcome = .ok d := by decide +kernel
  exact ⟨compiled, rfl, compile_markup_of_compile compiled⟩

end PaintScript

import PaintScript.Proofs.Document.Wire
import PaintScript.Proofs.Pipeline.Compile

/-!
# The two ways into the pipeline

A markup text and the raw document that it describes, passed as JSON, lead to one result.
-/

namespace PaintScript

theorem Numeric.IsToken.isIntOrText {n : Numeric} (h : n.IsToken) : n.IsIntOrText := by
  cases n with
  | int i => trivial
  | text s => trivial
  | float x => exact h.elim
  | other v => exact h.elim

theorem Drawing.mem_numbers_of_mem_listFields {N : Type} {ds : List (Drawing N)} {index : Nat}
    {q : NumericField × N} (h : q ∈ Drawing.listFields index ds) :
    ∃ d ∈ ds, q.2 ∈ d.numbers := by
  obtain ⟨i, d, found, inside⟩ := Drawing.mem_listFields h
  have same : (d.fields (index + i)).map (·.2) = d.numbers := by
    cases d <;> rfl
  exact ⟨d, List.mem_of_getElem? found, same ▸ List.mem_map_of_mem inside⟩

theorem Size.eq_of_mem_fields {N : Type} {s : Size N} {group : FieldGroup} {q : NumericField × N}
    (h : q ∈ s.fields group) : q.2 = s.width ∨ q.2 = s.height := by
  rcases List.mem_cons.mp h with first | second
  · exact Or.inl (congrArg Prod.snd first)
  · exact Or.inr (congrArg Prod.snd (List.mem_singleton.mp second))

theorem Size.isIntOrText_of_measured {size : Size Int64} {group : FieldGroup}
    {q : NumericField × Numeric}
    (h : q ∈ Size.fields group ⟨.int size.width, .int size.height⟩) : q.2.IsIntOrText := by
  rcases Size.eq_of_mem_fields h with width | height
  · rw [width]
    trivial
  · rw [height]
    trivial

/-- Every number that markup assembles was read from a token or measured. -/
theorem Markup.isIntOrText_of_mem_fields {text : String} {m : Markup} {size : Size Int64}
    {target : Target} (read : (ofText text).outcome = .ok m) :
    ∀ q ∈ (m.assemble size target).fields, q.2.IsIntOrText := by
  obtain ⟨cropTokens, drawTokens⟩ := ofText_image read
  intro q member
  rcases List.mem_append.mp member with first | final
  · rcases List.mem_append.mp first with instructions | dimensions
    · rcases List.mem_append.mp instructions with cropOrDraw | stroke
      · rcases List.mem_append.mp cropOrDraw with crop | draw
        · obtain ⟨fields, there, inside⟩ : ∃ fields, m.crop.map Crop.fields = some fields ∧
              q ∈ fields := by
            cases fields : m.crop.map Crop.fields with
            | none =>
              rw [assemble, fields] at crop
              exact absurd crop List.not_mem_nil
            | some fs =>
              rw [assemble, fields] at crop
              exact ⟨fs, rfl, crop⟩
          obtain ⟨c, given, rfl⟩ := Option.map_eq_some_iff.mp there
          exact (cropTokens c given q.2 (List.mem_map_of_mem inside)).isIntOrText
        · obtain ⟨d, there, number⟩ := Drawing.mem_numbers_of_mem_listFields draw
          exact ((drawTokens d there).2 q.2 number).isIntOrText
      · obtain ⟨n, width, rfl⟩ := Option.map_eq_some_iff.mp (Option.mem_toList.mp stroke)
        obtain ⟨w, -, rfl⟩ := Option.map_eq_some_iff.mp width
        exact Numeric.isIntOrText_ofToken w.toList
    · exact Size.isIntOrText_of_measured dimensions
  · cases crop : m.crop with
    | none =>
      rw [assemble, crop] at final
      exact Size.isIntOrText_of_measured final
    | some c =>
      rw [assemble, crop] at final
      have tokens := cropTokens c crop
      rcases Size.eq_of_mem_fields final with width | height
      · rw [width]
        exact (tokens c.size.width (by simp [Crop.numbers, Crop.fields, Size.fields])).isIntOrText
      · rw [height]
        exact (tokens c.size.height (by simp [Crop.numbers, Crop.fields, Size.fields])).isIntOrText

/-- The raw document of a markup text, passed as JSON, is received as it was and compiled to the
result of the markup: the same document or the same field in error. No probe is asked. -/
theorem compile_rawText_eq_compile_markup {probe other : Probe} {text : String} {target : Target}
    {size : Size Int64} {m : Markup} {input output format : Option String}
    (answer : probe target.sourceFile = .ok size) (read : (Markup.ofText text).outcome = .ok m) :
    Inputs.request ⟨none, some (m.assemble size target).rawText, input, output, format, none⟩ =
      .ok (.document (m.assemble size target)) ∧
    ∃ result : Except CoercionError (Document Int64),
      ((Request.markup text target).compile probe).outcome = result.mapError .coercion ∧
      ((Request.document (m.assemble size target)).compile other).outcome =
        result.mapError .coercion := by
  constructor
  · have decoded : Document.decodeRaw (m.assemble size target).rawText =
        .ok (m.assemble size target) :=
      Document.decodeRaw_rawText (Markup.isIntOrText_of_mem_fields read)
    simp only [Inputs.request, Inputs.entry, Option.isSome_none, Bool.false_eq_true, if_false,
      decoded]
  · exact ⟨_, Request.outcome_compile_markup answer read,
      Request.outcome_compile_document other (m.assemble size target)⟩

/-- A quote in a token survives the way through JSON, and the token is reported as it stands. -/
theorem compile_rawText_of_quoted_token :
    let text := "crop,0x0,4xq\";circle,1x2,3,red"
    let target : Target := ⟨"in.png", "out.png", none, some "2"⟩
    let m : Markup := ⟨some ⟨⟨.int 0, .int 0⟩, ⟨.int 4, .text "q\""⟩⟩,
      [.circle ⟨⟨.int 1, .int 2⟩, .int 3, ⟨"red"⟩⟩], []⟩
    let r := m.assemble ⟨8, 6⟩ target
    Probe.fixed ⟨8, 6⟩ target.sourceFile = .ok ⟨8, 6⟩ ∧ (Markup.ofText text).outcome = .ok m ∧
      Inputs.request ⟨none, some r.rawText, none, none, none, none⟩ = .ok (.document r) ∧
      (∃ result : Except CoercionError (Document Int64),
        ((Request.markup text target).compile (Probe.fixed ⟨8, 6⟩)).outcome =
          result.mapError .coercion ∧
        ((Request.document r).compile (Probe.fixed ⟨0, 0⟩)).outcome = result.mapError .coercion) ∧
      ((Request.document r).compile (Probe.fixed ⟨0, 0⟩)).outcome =
        .error (.coercion ⟨rootLabel, ⟨.cropSize, .height⟩, .notANumber "q\""⟩) := by
  intro text target m r
  have answer : Probe.fixed ⟨8, 6⟩ target.sourceFile = .ok ⟨8, 6⟩ := rfl
  have read : (Markup.ofText text).outcome = .ok m := by
    simp only [text, Markup.ofText, String.toList]
    rfl
  obtain ⟨received, agreed⟩ := compile_rawText_eq_compile_markup answer read
  exact ⟨answer, read, received, agreed, by decide +kernel⟩

end PaintScript

import PaintScript.Proofs.Document.FirstFault
import PaintScript.Proofs.Document.Replace
import PaintScript.Proofs.Markup.Token

/-!
# Tokens that are refused

Markup that is read is compiled unless a token of it, or the stroke width, starts with no integer.
The error then says this token and where it stands among the instructions. It never points to a size
of the document, although a crop with a bad size is copied there.
-/

namespace PaintScript

/-- Where markup or the stroke width has a token that starts with no integer, and the token. The
index of a drawing is the number of segments before its own that draw something. -/
inductive IsBadToken (text : String) (m : Markup) (target : Target) :
    String → String → String → Prop
  | crop {c : Crop Numeric} {context property token : String} (given : m.crop = some c)
      (place : ⟨context, property, .text token⟩ ∈ c.places "root.instructions.crop") :
      IsBadToken text m target context property token
  | draw {before after : List (List Char)} {segment : List Char} {d : Drawing Numeric}
      {surplus : Nat} {context property token : String}
      (split : Markup.segments text.toList = before ++ segment :: after)
      (read : Instruction.ofSegment segment = .draw d surplus)
      (drawn : m.draw[(before.filterMap Markup.shape?).length]? = some d)
      (place : ⟨context, property, .text token⟩ ∈ d.places ("root.instructions.draw." ++
        String.ofList (Text.natural (before.filterMap Markup.shape?).length))) :
      IsBadToken text m target context property token
  | stroke {token : String} (given : target.strokeWidth = some token)
      (nothing : Text.prefixInt64? token.toList = none) :
      IsBadToken text m target "root.instructions" "strokeWidth" token

/-! ### Which fields are visited in vain -/

theorem Visits.exists_error_iff {N M ε α : Type} {f : NumericField → N → Except ε M}
    {x : Except ε α} {fields : List (NumericField × N)} (h : Visits f x fields) :
    (∃ e, x = .error e) ↔ ¬ Passes f fields := by
  rw [← h.exists_ok_iff]
  cases x with
  | error e => simp
  | ok a => simp

theorem Size.represents_of_measured {size : Size Int64} {group : FieldGroup} :
    ∀ q ∈ Size.fields group (⟨.int size.width, .int size.height⟩ : Size Numeric),
      ∃ i, q.2.Represents i := by
  intro q member
  rcases List.mem_pair.mp member with rfl | rfl
  · exact ⟨size.width, .int _⟩
  · exact ⟨size.height, .int _⟩

namespace Markup

variable (m : Markup) (size : Size Int64) (target : Target)

theorem fields_assemble : (m.assemble size target).instructions.fields =
    m.fields ++ (target.strokeWidth.map fun w =>
      ((⟨.instructions, .strokeWidth⟩ : NumericField), Numeric.ofToken w.toList)).toList := by
  rw [Instructions.fields, fields, assemble, Option.map_map]
  rfl

/-- The final size passes if the crop does, because it is copied from there. -/
theorem represents_finalDimensions
    (crop : ∀ q ∈ m.fields, ∃ i, q.2.Represents i) :
    ∀ q ∈ (m.assemble size target).finalDimensions.fields .finalDimensions,
      ∃ i, q.2.Represents i := by
  intro q member
  cases given : m.crop with
  | none =>
    rw [assemble, given] at member
    exact Size.represents_of_measured q member
  | some c =>
    rw [assemble, given] at member
    have copied : ∀ p ∈ c.size.fields .cropSize, ∃ i, p.2.Represents i := by
      intro p inside
      apply crop p
      rw [fields, given]
      exact List.mem_append_left _ (List.mem_append_right _ inside)
    rcases List.mem_pair.mp member with rfl | rfl
    · exact copied (⟨.cropSize, .width⟩, c.size.width) (by simp [Size.fields])
    · exact copied (⟨.cropSize, .height⟩, c.size.height) (by simp [Size.fields])

/-- Only the fields of the instructions have a say in what coercion makes of markup. -/
theorem assemble_visits :
    Visits (Numeric.check rootLabel) ((m.assemble size target).coerce rootLabel)
      (m.assemble size target).instructions.fields := by
  intro e
  rw [(m.assemble size target).coerce_visits rootLabel e, Document.fields, failsWith_append,
    failsWith_append]
  constructor
  · rintro ((inside | ⟨-, dimensions⟩) | ⟨passes, final⟩)
    · exact inside
    · exact absurd dimensions
        (not_failsWith_of_passes (passes_check_iff.mpr Size.represents_of_measured))
    · have others := passes_check_iff.mp passes
      have good := m.represents_finalDimensions size target fun q member => others q <| by
        rw [fields_assemble]
        exact List.mem_append_left _ (List.mem_append_left _ member)
      exact absurd final (not_failsWith_of_passes (passes_check_iff.mpr good))
  · intro inside
    exact .inl (.inl inside)

variable {m size target}

theorem isToken_of_mem_fields_assemble {text : String} (read : (ofText text).outcome = .ok m) :
    ∀ q ∈ (m.assemble size target).instructions.fields, q.2.IsToken := by
  intro q member
  rw [fields_assemble] at member
  rcases List.mem_append.mp member with inside | stroke
  · exact (isFieldToken_of_mem_fields read q inside).isToken
  · obtain ⟨w, -, rfl⟩ := Option.map_eq_some_iff.mp (Option.mem_toList.mp stroke)
    exact Numeric.isToken_ofToken w.toList

end Markup

theorem Numeric.IsToken.not_represents_iff {n : Numeric} (h : n.IsToken) :
    (¬ ∃ i, n.Represents i) ↔ ∃ token, n = .text token := by
  cases n with
  | int v => exact iff_of_false (not_not_intro ⟨v, .int v⟩) nofun
  | text token =>
    refine iff_of_true ?_ ⟨token, rfl⟩
    rintro ⟨i, represents⟩
    cases represents with
    | text start =>
      rw [show Text.prefixInt64? token.toList = none from h] at start
      cases start
  | float x => exact h.elim
  | other v => exact h.elim

theorem Numeric.ofToken_eq_text_iff {w token : String} :
    ofToken w.toList = .text token ↔ w = token ∧ Text.prefixInt64? token.toList = none := by
  unfold ofToken
  cases found : Text.prefixInt64? w.toList with
  | some n =>
    refine iff_of_false nofun ?_
    rintro ⟨rfl, nothing⟩
    rw [nothing] at found
    cases found
  | none =>
    rw [String.ofList_toList, Numeric.text.injEq]
    exact ⟨fun same => ⟨same, same ▸ found⟩, And.left⟩

/-! ### What an error says -/

theorem FieldGroup.exists_keys {group : FieldGroup} (dimensions : .dimensions ≠ group)
    (final : .finalDimensions ≠ group) : ∃ keys, group.keys = "instructions" :: keys := by
  cases group with
  | dimensions => exact absurd rfl dimensions
  | finalDimensions => exact absurd rfl final
  | _ => exact ⟨_, rfl⟩

theorem Instructions.exists_path_of_mem {N : Type} {i : Instructions N} {q : NumericField × N}
    (h : q ∈ i.fields) (label : String) :
    ∃ rest, q.1.group.path label = label ++ ".instructions" ++ rest := by
  obtain ⟨-, dimensions, final⟩ := i.keys_of_mem q.1 (List.mem_map_of_mem h)
  obtain ⟨keys, start⟩ := FieldGroup.exists_keys dimensions final
  refine ⟨String.join (keys.map fun k => "." ++ k), ?_⟩
  simp [FieldGroup.path, start, String.append_assoc]

/-- An error of coercion stands for a field of the instructions that is a text. -/
theorem Markup.exists_text_of_coerce {text : String} {m : Markup} {size : Size Int64}
    {target : Target} {cause : CoercionError} (read : (ofText text).outcome = .ok m)
    (failed : (m.assemble size target).coerce rootLabel = .error cause) :
    ∃ token, (cause.field, .text token) ∈ (m.assemble size target).instructions.fields ∧
      cause.label = rootLabel ∧ cause.fault = .notANumber token := by
  obtain ⟨before, q, after, split, -, refused⟩ :=
    failsWith_iff.mp ((m.assemble_visits size target cause).mp failed)
  obtain ⟨label, field, bad, reported⟩ := Numeric.check_eq_error_iff.mp refused
  have member : q ∈ (m.assemble size target).instructions.fields :=
    split ▸ List.mem_append_right before List.mem_cons_self
  obtain ⟨token, same⟩ := (isToken_of_mem_fields_assemble read q member).not_represents_iff.mp bad
  rw [same] at reported
  refine ⟨token, ?_, label, reported.unique (.text token)⟩
  rw [field, ← same]
  exact member

/-- A field that is a text is a bad token in its place. -/
theorem Markup.isBadToken_of_mem {text : String} {m : Markup} {size : Size Int64}
    {target : Target} {field : NumericField} {token : String}
    (read : (ofText text).outcome = .ok m)
    (member : (field, .text token) ∈ (m.assemble size target).instructions.fields) :
    IsBadToken text m target (field.group.path "root") field.property.name token := by
  have place {fields : List (NumericField × Numeric)} (inside : (field, .text token) ∈ fields) :
      (⟨field.group.path "root", field.property.name, .text token⟩ : Place Numeric) ∈
        fields.map (Place.ofField "root") := List.mem_map_of_mem inside
  rw [fields_assemble] at member
  rcases List.mem_append.mp member with inside | stroke
  · rcases mem_fields inside with ⟨c, given, there⟩ | ⟨index, d, drawn, there⟩
    · exact .crop given (Crop.places_eq "root" c ▸ place there)
    · rw [ofText, outcome_ofSegments] at read
      obtain ⟨before, segment, after, surplus, split, rfl, made⟩ :=
        exists_segment_of_draw read drawn
      exact .draw split made drawn (Drawing.places_eq "root" _ d ▸ place there)
  · obtain ⟨w, given, same⟩ := Option.map_eq_some_iff.mp (Option.mem_toList.mp stroke)
    obtain ⟨rfl, number⟩ := Prod.mk.inj same
    obtain ⟨rfl, nothing⟩ := Numeric.ofToken_eq_text_iff.mp number
    exact .stroke given nothing

theorem Numeric.exists_ofToken_eq_text_iff {w : String} :
    (∃ token, ofToken w.toList = .text token) ↔ Text.prefixInt64? w.toList = none := by
  simp only [ofToken_eq_text_iff]
  exact ⟨fun ⟨_, same, nothing⟩ => same ▸ nothing, fun nothing => ⟨w, rfl, nothing⟩⟩

theorem Markup.coerce_assemble_fails_iff {text : String} {m : Markup} (size : Size Int64)
    {target : Target} (read : (ofText text).outcome = .ok m) :
    (∃ cause, (m.assemble size target).coerce rootLabel = .error cause) ↔
      (∃ q ∈ m.fields, ∃ token, q.2 = .text token) ∨
        ∃ w ∈ target.strokeWidth, Text.prefixInt64? w.toList = none := by
  have texts : (∃ cause, (m.assemble size target).coerce rootLabel = .error cause) ↔
      ∃ q ∈ (m.assemble size target).instructions.fields, ∃ token, q.2 = .text token := by
    rw [(m.assemble_visits size target).exists_error_iff, passes_check_iff, Classical.not_forall]
    simp only [Classical.not_imp]
    exact exists_congr fun q => and_congr_right fun member =>
      (isToken_of_mem_fields_assemble read q member).not_represents_iff
  rw [texts, fields_assemble]
  simp only [List.mem_append, or_and_right, exists_or, ← Numeric.exists_ofToken_eq_text_iff]
  refine or_congr_right ?_
  cases target.strokeWidth with
  | none => simp
  | some w => simp

/-- What is read of markup holds plain colors, integers above the least one, and tokens that start
with no integer. It is refused exactly if there is such a token, or if the stroke width is one, and
then for this token at its place among the instructions. -/
theorem compile_markup_error_of_read {text : String} {m : Markup}
    (read : (Markup.ofText text).outcome = .ok m) :
    (∀ q ∈ m.fields, q.2.IsFieldToken (q.1.property ≠ .radius)) ∧
    (∀ d ∈ m.draw, d.color.IsPlain) ∧
    ∀ (probe : Probe) (target : Target) (size : Size Int64), probe target.sourceFile = .ok size →
      let outcome := ((Request.markup text target).compile probe).outcome
      ((∃ cause, outcome = .error (.coercion cause)) ↔
        (∃ q ∈ m.fields, ∃ token, q.2 = .text token) ∨
          ∃ w ∈ target.strokeWidth, Text.prefixInt64? w.toList = none) ∧
      ∀ e, outcome = .error e → ∃ cause token, e = .coercion cause ∧
        cause.fault = .notANumber token ∧
        IsBadToken text m target cause.context cause.property token ∧
        (∃ rest, cause.context = "root.instructions" ++ rest) ∧
        cause.context ≠ "root.dimensions" ∧ cause.context ≠ "root.finalDimensions" := by
  refine ⟨Markup.isFieldToken_of_mem_fields read, fun d member =>
    ((Markup.ofText_image read).2 d member).1, fun probe target size answer => ?_⟩
  rw [Request.outcome_compile_markup answer read]
  refine ⟨?_, fun e failed => ?_⟩
  · rw [← Markup.coerce_assemble_fails_iff size read]
    simp only [mapError_eq_error_iff, PipelineError.coercion.injEq, exists_eq_right]
  · obtain ⟨cause, coerced, rfl⟩ := mapError_eq_error_iff.mp failed
    obtain ⟨token, member, label, fault⟩ := Markup.exists_text_of_coerce read coerced
    have context : cause.context = cause.field.group.path "root" := by
      rw [CoercionError.context, label, rootLabel]
    obtain ⟨rest, inside⟩ := Instructions.exists_path_of_mem member "root"
    have under : cause.context = "root.instructions" ++ rest := context.trans inside
    have sixth : cause.context.toList[5]? = some 'i' := by
      rw [under, String.toList_append]
      rfl
    refine ⟨cause, token, rfl, fault, ?_, ⟨rest, under⟩, ?_, ?_⟩
    · rw [context]
      exact Markup.isBadToken_of_mem read member
    · intro same
      rw [same] at sixth
      exact absurd sixth (by decide)
    · intro same
      rw [same] at sixth
      exact absurd sixth (by decide)

/-- A crop, a blank segment and an unknown command do not count for the index of a drawing. The crop
is bad as well, but it is replaced. -/
theorem compile_markup_error_of_second_drawing :
    let text := "crop,0x0,wide;;blur;circle,1x2,3,red;crop,0x0,4x4;gap,1x2, 3x7px ,a;gap,1x2,3xq x4,b"
    let target : Target := ⟨"in.png", "out.png", none, some "2"⟩
    let point (x y : Int64) : Point Numeric := ⟨.int x, .int y⟩
    let m : Markup := ⟨some ⟨point 0 0, ⟨.int 4, .int 4⟩⟩,
      [.circle ⟨point 1 2, .int 3, ⟨"red"⟩⟩, .gap ⟨point 1 2, point 3 7, ⟨"a"⟩⟩,
        .gap ⟨point 1 2, ⟨.int 3, .text "q "⟩, ⟨"b"⟩⟩], [⟨2, "blur"⟩]⟩
    let e : CoercionError := ⟨rootLabel, ⟨.drawingStop 2 .gap, .y⟩, .notANumber "q "⟩
    (Markup.ofText text).outcome = .ok m ∧
      ((Request.markup text target).compile (.fixed ⟨8, 6⟩)).outcome = .error (.coercion e) ∧
      (∃ q ∈ m.fields, ∃ token, q.2 = .text token) ∧
      IsBadToken text m target "root.instructions.draw.2.gap.to" "y" "q " := by
  intro text target point m e
  have read : (Markup.ofText text).outcome = .ok m := by
    simp only [text, Markup.ofText, String.toList]
    rfl
  have failed : ((Request.markup text target).compile (.fixed ⟨8, 6⟩)).outcome =
      .error (.coercion e) := by decide +kernel
  obtain ⟨fails, places⟩ :=
    (compile_markup_error_of_read read).2.2 (.fixed ⟨8, 6⟩) target ⟨8, 6⟩ rfl
  refine ⟨read, failed, ?_, ?_⟩
  · rcases fails.mp ⟨e, failed⟩ with inside | ⟨w, given, nothing⟩
    · exact inside
    · obtain rfl : "2" = w := Option.some.inj given
      cases nothing
  · obtain ⟨cause, token, same, fault, bad, -⟩ := places _ failed
    obtain rfl : e = cause := PipelineError.coercion.inj same
    obtain rfl : "q " = token := NumericFault.notANumber.inj fault
    exact bad

end PaintScript

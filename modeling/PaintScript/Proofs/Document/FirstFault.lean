import PaintScript.Proofs.Document.Represents

/-!
# Where a normalization fails

`Document.places` lists the numbers of a document in the order of their checks, each under the path
that an error gives for it. A normalization fails exactly at the first place whose number represents
no integer, and nothing after that place has a say in its error.
-/

namespace PaintScript

/-- A number of a document, with the path of its group and the name of its property. -/
structure Place (N : Type) where
  context : String
  property : String
  value : N

section

variable {N : Type}

def Point.places (context : String) (p : Point N) : List (Place N) :=
  [⟨context, "x", p.x⟩, ⟨context, "y", p.y⟩]

def Size.places (context : String) (s : Size N) : List (Place N) :=
  [⟨context, "width", s.width⟩, ⟨context, "height", s.height⟩]

def Crop.places (context : String) (c : Crop N) : List (Place N) :=
  c.origin.places (context ++ ".from") ++ c.size.places (context ++ ".size")

/-- The numbers of a drawing, whose shape is a part of their paths. -/
def Drawing.places (context : String) (d : Drawing N) : List (Place N) :=
  let context := context ++ "." ++ d.shape.name
  match d with
  | .circle c => c.center.places (context ++ ".from") ++ [⟨context, "radius", c.radius⟩]
  | .rectangle r => r.corner.places (context ++ ".from") ++ r.size.places (context ++ ".size")
  | .line s | .arrow s | .gap s =>
    s.start.places (context ++ ".from") ++ s.stop.places (context ++ ".to")

/-- The numbers of instructions: those of the crop, of the drawings in their order, and the stroke
width. -/
def Instructions.places (context : String) (i : Instructions N) : List (Place N) :=
  i.crop.toList.flatMap (Crop.places (context ++ ".crop")) ++
    i.draw.zipIdx.flatMap (fun (d, index) =>
      d.places (context ++ ".draw." ++ String.ofList (Text.natural index))) ++
    i.strokeWidth.toList.map (⟨context, "strokeWidth", ·⟩)

/-- The numbers of a document: those of its instructions come before its sizes. -/
def Document.places (label : String) (d : Document N) : List (Place N) :=
  d.instructions.places (label ++ ".instructions") ++
    d.dimensions.places (label ++ ".dimensions") ++
    d.finalDimensions.places (label ++ ".finalDimensions")

/-! ### Places and fields -/

/-- The place of a field under a label. -/
def Place.ofField (label : String) (q : NumericField × N) : Place N :=
  ⟨q.1.group.path label, q.1.property.name, q.2⟩

theorem Point.places_path (label : String) (group : FieldGroup) (p : Point N) :
    p.places (group.path label) = (p.fields group).map (Place.ofField label) := rfl

theorem Size.places_path (label : String) (group : FieldGroup) (s : Size N) :
    s.places (group.path label) = (s.fields group).map (Place.ofField label) := rfl

theorem FieldGroup.path_below {group part : FieldGroup} (label key : String)
    (below : part.keys = group.keys ++ [key]) :
    group.path label ++ ("." ++ key) = part.path label := by
  simp [FieldGroup.path, below, String.append_assoc]

theorem Crop.places_eq (label : String) (c : Crop N) :
    c.places (label ++ ".instructions" ++ ".crop") = c.fields.map (Place.ofField label) := by
  have origin : label ++ ".instructions" ++ ".crop" ++ ".from" =
      FieldGroup.cropOrigin.path label := by
    simp [FieldGroup.path, FieldGroup.keys, String.append_assoc]
  have size : label ++ ".instructions" ++ ".crop" ++ ".size" = FieldGroup.cropSize.path label := by
    simp [FieldGroup.path, FieldGroup.keys, String.append_assoc]
  rw [Crop.places, origin, size, Crop.fields, List.map_append, Point.places_path, Size.places_path]

theorem Drawing.places_eq (label : String) (index : Nat) (d : Drawing N) :
    d.places (label ++ ".instructions" ++ ".draw." ++ String.ofList (Text.natural index)) =
      (d.fields index).map (Place.ofField label) := by
  have whole : ∀ shape : Shape, label ++ ".instructions" ++ ".draw." ++
      String.ofList (Text.natural index) ++ "." ++ shape.name =
      (FieldGroup.drawing index shape).path label := by
    intro shape
    apply String.toList_injective
    simp [FieldGroup.path, FieldGroup.keys, FieldGroup.keys.drawingKeys]
  have start (shape : Shape) : (FieldGroup.drawing index shape).path label ++ ".from" =
      (FieldGroup.drawingStart index shape).path label := FieldGroup.path_below label "from" rfl
  have size (shape : Shape) : (FieldGroup.drawing index shape).path label ++ ".size" =
      (FieldGroup.drawingSize index shape).path label := FieldGroup.path_below label "size" rfl
  have stop (shape : Shape) : (FieldGroup.drawing index shape).path label ++ ".to" =
      (FieldGroup.drawingStop index shape).path label := FieldGroup.path_below label "to" rfl
  unfold Drawing.places
  simp only [whole, start, size, stop]
  cases d <;> rfl

theorem Drawing.list_places_eq (label : String) (index : Nat) (ds : List (Drawing N)) :
    (ds.zipIdx index).flatMap (fun (d, index) =>
      d.places (label ++ ".instructions" ++ ".draw." ++ String.ofList (Text.natural index))) =
      (Drawing.listFields index ds).map (Place.ofField label) := by
  induction ds generalizing index with
  | nil => rfl
  | cons d ds ih =>
    rw [List.zipIdx_cons, List.flatMap_cons, ih, Drawing.listFields, List.map_append]
    exact congrArg (· ++ _) (Drawing.places_eq label index d)

theorem Instructions.places_eq (label : String) (i : Instructions N) :
    i.places (label ++ ".instructions") = i.fields.map (Place.ofField label) := by
  obtain ⟨crop, draw, stroke⟩ := i
  have ofCrop : crop.toList.flatMap (Crop.places (label ++ ".instructions" ++ ".crop")) =
      ((crop.map Crop.fields).getD []).map (Place.ofField label) := by
    cases crop with
    | none => rfl
    | some c => simp [Crop.places_eq]
  have ofStroke : stroke.toList.map (⟨label ++ ".instructions", "strokeWidth", ·⟩ : N → Place N) =
      (stroke.map fun n => (⟨.instructions, .strokeWidth⟩, n)).toList.map
        (Place.ofField label) := by
    cases stroke with
    | none => rfl
    | some n => rfl
  rw [Instructions.places, ofCrop, ofStroke, Drawing.list_places_eq, Instructions.fields,
    List.map_append, List.map_append]

/-- The places of a document are those of its fields, in the order in which they are visited. -/
theorem Document.places_eq (label : String) (d : Document N) :
    d.places label = d.fields.map (Place.ofField label) := by
  rw [Document.places, Instructions.places_eq, Document.fields, List.map_append, List.map_append]
  rfl

end

/-! ### The first fault -/

/-- Whether a fault is the one of the first place whose number represents no integer. -/
def IsFirstFault (places : List (Place Numeric)) (context property : String)
    (fault : NumericFault) : Prop :=
  ∃ before n after, places = before ++ ⟨context, property, n⟩ :: after ∧
    (∀ p ∈ before, ∃ i, p.value.Represents i) ∧ (¬ ∃ i, n.Represents i) ∧ n.ReportedAs fault

theorem Numeric.exists_reportedAs {n : Numeric} (h : ¬ ∃ i, n.Represents i) :
    ∃ fault, n.ReportedAs fault := by
  cases n with
  | int i => exact absurd ⟨i, .int i⟩ h
  | float x => exact ⟨_, .float x⟩
  | text s => exact ⟨_, .text s⟩
  | other v => exact ⟨_, .other v⟩

theorem exists_isFirstFault {places : List (Place Numeric)}
    (h : ∃ p ∈ places, ¬ ∃ i, p.value.Represents i) :
    ∃ context property fault, IsFirstFault places context property fault := by
  induction places with
  | nil =>
    obtain ⟨p, member, -⟩ := h
    cases member
  | cons p places ih =>
    by_cases good : ∃ i, p.value.Represents i
    · have later : ∃ p ∈ places, ¬ ∃ i, p.value.Represents i := by
        obtain ⟨q, member, bad⟩ := h
        rcases List.mem_cons.mp member with rfl | there
        · exact absurd good bad
        · exact ⟨q, there, bad⟩
      obtain ⟨context, property, fault, before, n, after, rfl, others, bad⟩ := ih later
      exact ⟨context, property, fault, p :: before, n, after, rfl,
        List.forall_mem_cons.mpr ⟨good, others⟩, bad⟩
    · obtain ⟨fault, reported⟩ := Numeric.exists_reportedAs good
      exact ⟨p.context, p.property, fault, [], p.value, places, rfl,
        fun q member => absurd member List.not_mem_nil, good, reported⟩

/-- What follows does not change the first fault. -/
theorem IsFirstFault.of_prefix {shared places : List (Place Numeric)} {context property : String}
    {fault : NumericFault} (h : IsFirstFault shared context property fault)
    (start : shared <+: places) : IsFirstFault places context property fault := by
  obtain ⟨before, n, after, rfl, others, bad⟩ := h
  obtain ⟨rest, rfl⟩ := start
  exact ⟨before, n, after ++ rest, by rw [List.append_assoc, List.cons_append], others, bad⟩

theorem Numeric.check_eq_error_iff {label : String} {field : NumericField} {n : Numeric}
    {e : CoercionError} :
    n.check label field = .error e ↔ e.label = label ∧ e.field = field ∧
      (¬ ∃ i, n.Represents i) ∧ n.ReportedAs e.fault := by
  obtain ⟨l, f, fault⟩ := e
  simp only [check, mapError_eq_error_iff, CoercionError.mk.injEq, ← toInt64_eq_error_iff]
  constructor
  · rintro ⟨cause, fails, rfl, rfl, rfl⟩
    exact ⟨rfl, rfl, fails⟩
  · rintro ⟨rfl, rfl, fails⟩
    exact ⟨fault, fails, rfl, rfl, rfl⟩

theorem Document.coerce_eq_error_iff {label : String} {d : Document Numeric} {e : CoercionError} :
    d.coerce label = .error e ↔ ∃ before n after, d.fields = before ++ (e.field, n) :: after ∧
      (∀ q ∈ before, ∃ i, q.2.Represents i) ∧ e.label = label ∧ (¬ ∃ i, n.Represents i) ∧
      n.ReportedAs e.fault := by
  rw [d.coerce_visits label e, failsWith_iff]
  simp only [passes_check_iff, Numeric.check_eq_error_iff]
  constructor
  · rintro ⟨before, ⟨field, n⟩, after, split, others, same, rfl, bad⟩
    exact ⟨before, n, after, split, others, same, bad⟩
  · rintro ⟨before, n, after, split, others, same, bad⟩
    exact ⟨before, (e.field, n), after, split, others, same, rfl, bad⟩

theorem Document.exists_coerce_eq_error_iff {label : String} {d : Document Numeric}
    {context property : String} {fault : NumericFault} :
    (∃ e, d.coerce label = .error e ∧ e.context = context ∧ e.property = property ∧
      e.fault = fault) ↔ IsFirstFault (d.places label) context property fault := by
  rw [d.places_eq label]
  constructor
  · rintro ⟨e, fails, rfl, rfl, rfl⟩
    obtain ⟨before, n, after, split, others, rfl, bad⟩ := Document.coerce_eq_error_iff.mp fails
    refine ⟨before.map (Place.ofField e.label), n, after.map (Place.ofField e.label), ?_, ?_, bad⟩
    · rw [split, List.map_append, List.map_cons]
      rfl
    · exact List.forall_mem_map.mpr others
  · rintro ⟨before, n, after, split, others, bad, reported⟩
    obtain ⟨first, rest, fields, rfl, tail⟩ := List.map_eq_append_iff.mp split
    obtain ⟨⟨field, m⟩, last, rfl, place, rfl⟩ := List.map_eq_cons_iff.mp tail
    obtain ⟨rfl, rfl, rfl⟩ := Place.mk.inj place
    refine ⟨⟨label, field, fault⟩, Document.coerce_eq_error_iff.mpr ?_, rfl, rfl, rfl⟩
    exact ⟨first, m, last, fields, fun q member => others _ (List.mem_map_of_mem member), rfl, bad,
      reported⟩

/-- A document is refused, under any label, for the first place whose number represents no integer:
the error has the path and the property of this place and says what is written there. A document
that starts with the same places is refused for the same place, whatever comes after it. -/
theorem normalize_eq_error_iff_first_place (label : String) (d : Document Numeric) :
    (∀ context property fault,
      (∃ e, (d.normalize label).outcome = .error e ∧ e.context = context ∧
        e.property = property ∧ e.fault = fault) ↔
      IsFirstFault (d.places label) context property fault) ∧
    ∀ (other : Document Numeric) (shared : List (Place Numeric)),
      shared <+: d.places label → shared <+: other.places label →
      (∃ p ∈ shared, ¬ ∃ i, p.value.Represents i) →
      ∃ e f, (d.normalize label).outcome = .error e ∧
        (other.normalize label).outcome = .error f ∧
        e.context = f.context ∧ e.property = f.property ∧ e.fault = f.fault := by
  simp only [Document.outcome_normalize]
  refine ⟨fun context property fault => Document.exists_coerce_eq_error_iff, ?_⟩
  intro other shared start otherStart bad
  obtain ⟨context, property, fault, first⟩ := exists_isFirstFault bad
  obtain ⟨e, fails, rfl, rfl, rfl⟩ :=
    Document.exists_coerce_eq_error_iff.mpr (first.of_prefix start)
  obtain ⟨f, otherFails, same⟩ :=
    Document.exists_coerce_eq_error_iff.mpr (first.of_prefix otherStart)
  exact ⟨e, f, fails, otherFails, same.1.symm, same.2.1.symm, same.2.2.symm⟩

/-- Two documents start with one arrow, from a point whose second coordinate is a list. What is bad
in the second document after this point is not reported. -/
theorem normalize_error_of_shared_start :
    let start : Point Numeric := ⟨.text "3px", .other (.array [.null])⟩
    let one : Size Numeric := ⟨.int 1, .int 1⟩
    let d : Document Numeric := ⟨one, one,
      ⟨none, [.arrow ⟨start, ⟨.int 4, .int 5⟩, ⟨"red"⟩⟩], none⟩, "in", "out", "jpeg"⟩
    let other : Document Numeric := ⟨⟨.text "wide", .int 1⟩, one,
      ⟨none, [.arrow ⟨start, ⟨.int 4, .text ""⟩, ⟨"red"⟩⟩], some (.other .null)⟩, "in", "out",
      "jpeg"⟩
    let shared : List (Place Numeric) :=
      [⟨"root.instructions.draw.0.arrow.from", "x", start.x⟩,
        ⟨"root.instructions.draw.0.arrow.from", "y", start.y⟩]
    shared <+: d.places "root" ∧ shared <+: other.places "root" ∧
      (∃ p ∈ shared, ¬ ∃ i, p.value.Represents i) ∧
      ∃ e f, (d.normalize "root").outcome = .error e ∧
        (other.normalize "root").outcome = .error f ∧
        e.context = f.context ∧ e.property = f.property ∧ e.fault = f.fault := by
  intro start one d other shared
  have first : shared <+: d.places "root" := ⟨_, rfl⟩
  have second : shared <+: other.places "root" := ⟨_, rfl⟩
  have bad : ∃ p ∈ shared, ¬ ∃ i, p.value.Represents i := by
    refine ⟨_, List.mem_cons_of_mem _ List.mem_cons_self, ?_⟩
    rintro ⟨i, ⟨⟩⟩
  exact ⟨first, second, bad,
    (normalize_eq_error_iff_first_place "root" d).2 other shared first second bad⟩

end PaintScript

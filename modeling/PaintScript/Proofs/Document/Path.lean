import PaintScript.Proofs.Document.FirstFault

/-!
# Paths of fields

The path of a group ends in its keys with a dot in front of each. No key holds a dot, so a path
tells which group it leads to, whatever label stands in front. The label has no part in what is
refused.
-/

namespace PaintScript

/-! ### Keys and paths -/

/-- A path without the label in front of it. -/
def FieldGroup.suffix (group : FieldGroup) : String :=
  String.join (group.keys.map fun k => "." ++ k)

theorem FieldGroup.path_eq (label : String) (group : FieldGroup) :
    group.path label = label ++ group.suffix := rfl

theorem intercalate_nil_cons (pieces : List (List Char)) :
    ['.'].intercalate ([] :: pieces) = pieces.flatMap ('.' :: ·) := by
  induction pieces with
  | nil => rfl
  | cons piece pieces ih =>
    cases pieces with
    | nil => simp
    | cons next pieces => simpa [List.intercalate_cons_cons] using ih

/-- Pieces without a dot are told apart by their text with a dot in front of each. -/
theorem dotted_inj {pieces others : List (List Char)} (plain : ∀ piece ∈ pieces, '.' ∉ piece)
    (otherPlain : ∀ piece ∈ others, '.' ∉ piece)
    (h : pieces.flatMap ('.' :: ·) = others.flatMap ('.' :: ·)) : pieces = others := by
  have split {pieces : List (List Char)} (plain : ∀ piece ∈ pieces, '.' ∉ piece) :
      (pieces.flatMap ('.' :: ·)).splitOn '.' = [] :: pieces := by
    rw [← intercalate_nil_cons]
    exact List.splitOn_intercalate '.' (List.forall_mem_cons.mpr ⟨List.not_mem_nil, plain⟩)
      (List.cons_ne_nil _ _)
  have same := split plain
  rw [h, split otherPlain] at same
  exact (List.cons.inj same).2.symm

theorem FieldGroup.toList_suffix (group : FieldGroup) :
    group.suffix.toList = (group.keys.map String.toList).flatMap ('.' :: ·) := by
  simp [FieldGroup.suffix, List.flatMap_def, Function.comp_def]

theorem not_mem_natural (n : Nat) : '.' ∉ Text.natural n := by
  intro member
  exact absurd (Text.isDigit_of_mem_natural member) (by decide)

theorem Shape.dot_not_mem_name (shape : Shape) : '.' ∉ shape.name.toList := by
  cases shape <;> decide

theorem FieldGroup.dot_not_mem_keys (group : FieldGroup) : ∀ k ∈ group.keys, '.' ∉ k.toList := by
  cases group <;>
    simp [FieldGroup.keys, FieldGroup.keys.drawingKeys, not_mem_natural, Shape.dot_not_mem_name]

theorem Shape.name_inj {shape other : Shape} : shape.name = other.name ↔ shape = other := by
  constructor
  · intro h
    have named := Shape.ofName?_name shape
    rw [h, Shape.ofName?_name] at named
    exact (Option.some.inj named).symm
  · exact congrArg Shape.name

theorem natural_key_inj {m n : Nat} :
    String.ofList (Text.natural m) = String.ofList (Text.natural n) ↔ m = n := by
  constructor
  · exact fun h => Text.natural_inj (String.ofList_injective h)
  · exact congrArg fun n => String.ofList (Text.natural n)

/-- The keys of a group tell the index and the shape of a drawing as well. -/
theorem FieldGroup.keys_inj {group other : FieldGroup} (h : group.keys = other.keys) :
    group = other := by
  cases group <;> cases other <;>
    simp_all [FieldGroup.keys, FieldGroup.keys.drawingKeys, Shape.name_inj, natural_key_inj]

theorem FieldGroup.path_inj {label : String} {group other : FieldGroup}
    (h : group.path label = other.path label) : group = other := by
  have suffixes : group.suffix.toList = other.suffix.toList := by
    have texts := congrArg String.toList h
    rw [FieldGroup.path_eq, FieldGroup.path_eq, String.toList_append, String.toList_append] at texts
    exact List.append_cancel_left texts
  rw [FieldGroup.toList_suffix, FieldGroup.toList_suffix] at suffixes
  have pieces := dotted_inj (List.forall_mem_map.mpr group.dot_not_mem_keys)
    (List.forall_mem_map.mpr other.dot_not_mem_keys) suffixes
  exact FieldGroup.keys_inj (List.map_injective_iff.mpr (fun _ _ => String.toList_injective) pieces)

theorem Property.name_inj {property other : Property} (h : property.name = other.name) :
    property = other := by
  cases property <;> cases other <;> simp_all [Property.name]

/-! ### Labels -/

/-- Whether a field is the first one of a document whose number represents no integer. -/
def Document.FailsAt (d : Document Numeric) (field : NumericField) : Prop :=
  ∃ before n after, d.fields = before ++ (field, n) :: after ∧
    (∀ q ∈ before, ∃ i, q.2.Represents i) ∧ ¬ ∃ i, n.Represents i

/-- The field of an error is the one that fails, and there is no other. -/
theorem Document.failsAt_iff {label : String} {d : Document Numeric} {e : CoercionError}
    (h : d.coerce label = .error e) {field : NumericField} : d.FailsAt field ↔ field = e.field := by
  constructor
  · rintro ⟨before, n, after, split, others, bad⟩
    obtain ⟨fault, reported⟩ := Numeric.exists_reportedAs bad
    have fails : d.coerce label = .error ⟨label, field, fault⟩ :=
      Document.coerce_eq_error_iff.mpr ⟨before, n, after, split, others, rfl, bad, reported⟩
    rw [h] at fails
    exact (congrArg CoercionError.field (Except.error.inj fails)).symm
  · rintro rfl
    obtain ⟨before, n, after, split, others, -, bad, -⟩ := Document.coerce_eq_error_iff.mp h
    exact ⟨before, n, after, split, others, bad⟩

theorem Document.label_of_coerce {label : String} {d : Document Numeric} {e : CoercionError}
    (h : d.coerce label = .error e) : e.label = label := by
  obtain ⟨_, _, _, _, _, same, _⟩ := Document.coerce_eq_error_iff.mp h
  exact same

theorem Document.coerce_relabel_ok {label : String} (other : String) {d : Document Numeric}
    {e : Document Int64} (h : d.coerce label = .ok e) : d.coerce other = .ok e :=
  Document.coerce_eq_ok_iff.mpr (Document.coerce_eq_ok_iff.mp h)

/-- Under another label the same field fails for the same reason. -/
theorem Document.coerce_relabel_error {label : String} (other : String) {d : Document Numeric}
    {e : CoercionError} (h : d.coerce label = .error e) :
    d.coerce other = .error { e with label := other } := by
  obtain ⟨before, n, after, split, others, -, bad⟩ := Document.coerce_eq_error_iff.mp h
  exact Document.coerce_eq_error_iff.mpr ⟨before, n, after, split, others, rfl, bad⟩

theorem CoercionError.field_eq {e f : CoercionError} (label : e.label = f.label)
    (context : e.context = f.context) (property : e.property = f.property) :
    e.field = f.field := by
  rw [CoercionError.context, CoercionError.context, label] at context
  have group : e.field.group = f.field.group := FieldGroup.path_inj context
  have member : e.field.property = f.field.property := Property.name_inj property
  rw [NumericField.mk.injEq]
  exact ⟨group, member⟩

/-- A document is normalized to the same under every label, or refused for the same field, whose
path has the label in front. Under one label, the path and the property of an error tell which field
has failed: no two fields, of one document or of two, have both in common. -/
theorem normalize_error_path (label : String) :
    (∀ d : Document Numeric,
      (∃ e, (d.normalize label).outcome = .ok e ∧ (d.normalize rootLabel).outcome = .ok e) ∨
      ∃ e f suffix, (d.normalize label).outcome = .error e ∧
        (d.normalize rootLabel).outcome = .error f ∧ e.fault = f.fault ∧ e.property = f.property ∧
        e.context = label ++ suffix ∧ f.context = "root" ++ suffix) ∧
    ∀ (d other : Document Numeric) (e f : CoercionError),
      (d.normalize label).outcome = .error e → (other.normalize label).outcome = .error f →
      e.context = f.context → e.property = f.property →
      ∃ field, (∀ g, d.FailsAt g ↔ g = field) ∧ ∀ g, other.FailsAt g ↔ g = field := by
  simp only [Document.outcome_normalize]
  refine ⟨fun d => ?_, fun d other e f fails otherFails context property => ?_⟩
  · cases outcome : d.coerce label with
    | ok e => exact Or.inl ⟨e, rfl, Document.coerce_relabel_ok rootLabel outcome⟩
    | error e =>
      refine Or.inr ⟨e, _, e.field.group.suffix, rfl,
        Document.coerce_relabel_error rootLabel outcome, rfl, rfl, ?_, rfl⟩
      rw [CoercionError.context, Document.label_of_coerce outcome, FieldGroup.path_eq]
  · have labels : e.label = f.label := by
      rw [Document.label_of_coerce fails, Document.label_of_coerce otherFails]
    have same := CoercionError.field_eq labels context property
    exact ⟨e.field, fun _ => Document.failsAt_iff fails,
      fun _ => same ▸ Document.failsAt_iff otherFails⟩

/-- The label ends as if it led to another drawing. Both documents fail at the end of their second
drawing, one for a text and one for a value that is no number. -/
theorem normalize_error_path_of_misleading_label :
    let label := "root.instructions.draw.1"
    let size : Size Numeric := ⟨.int 8, .text "6px"⟩
    let point : Point Numeric := ⟨.int 1, .text " +2"⟩
    let document (draw : List (Drawing Numeric)) : Document Numeric :=
      ⟨size, size, ⟨none, draw, some (.text "wide")⟩, "in", "out", "jpeg"⟩
    let d := document [.circle ⟨point, .int 3, ⟨"red"⟩⟩, .line ⟨point, ⟨.text "x", .int 0⟩, ⟨"a"⟩⟩]
    let other := document [.gap ⟨point, point, ⟨""⟩⟩, .line ⟨point, ⟨.other .null, .text ""⟩, ⟨"b"⟩⟩]
    let field : NumericField := ⟨.drawingStop 1 .line, .x⟩
    let e : CoercionError := ⟨label, field, .notANumber "x"⟩
    let f : CoercionError := ⟨label, field, .notANumber "null"⟩
    (d.normalize label).outcome = .error e ∧ (other.normalize label).outcome = .error f ∧
      e.context = "root.instructions.draw.1.instructions.draw.1.line.to" ∧ e.context = f.context ∧
      e.property = f.property ∧
      ∃ field, (∀ g, d.FailsAt g ↔ g = field) ∧ ∀ g, other.FailsAt g ↔ g = field := by
  intro label size point document d other field e f
  have fails : (d.normalize label).outcome = .error e := by rfl
  have otherFails : (other.normalize label).outcome = .error f := by rfl
  exact ⟨fails, otherFails, by decide +kernel, rfl, rfl,
    (normalize_error_path label).2 d other e f fails otherFails rfl rfl⟩

end PaintScript

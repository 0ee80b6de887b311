import PaintScript.Proofs.Document.Wire
import PaintScript.Proofs.Json.Image

/-!
# Documents that were read

Each number of a document that was read comes from the reader of numbers, at the depth where it
stands. So a raw document without floating-point numbers is read back from its own text.
-/

namespace PaintScript

open Json (Reader ReadsBack)
open Json.Read (Obtained dropSpace list_all optional_some record_obtained tagged_read)

theorem Json.Read.map_read {α β : Type} {f : α → β} {read : Nat → Reader α} {levels : Nat}
    {text rest : List Char} {b : β} (h : Json.Reader.map f read levels text = .ok (b, rest)) :
    ∃ a, read levels text = .ok (a, rest) ∧ f a = b := by
  obtain ⟨⟨a, more⟩, read, h⟩ := bind_eq_ok_iff.mp h
  cases h
  exact ⟨a, read, rfl⟩

open Json.Read (map_read)

section

variable {N : Type} {number : Nat → Reader N} {levels : Nat} {text rest : List Char}

/-- Whether the reader of numbers gave the fields, each at the depth where it stands. -/
def FieldsRead (number : Nat → Reader N) (levels : Nat) (fields : List (NumericField × N)) : Prop :=
  ∀ q ∈ fields, ∃ text rest, number (levels + q.1.group.above) text = .ok (q.2, rest)

theorem FieldsRead.append {first second : List (NumericField × N)}
    (one : FieldsRead number levels first) (other : FieldsRead number levels second) :
    FieldsRead number levels (first ++ second) :=
  List.forall_mem_append.mpr ⟨one, other⟩

theorem FieldsRead.pair {p q : NumericField × N}
    (first : ∃ text rest, number (levels + p.1.group.above) text = .ok (p.2, rest))
    (second : ∃ text rest, number (levels + q.1.group.above) text = .ok (q.2, rest)) :
    FieldsRead number levels [p, q] :=
  List.forall_mem_cons.mpr ⟨first, List.forall_mem_singleton.mpr second⟩

theorem read_of_required {α : Type} {v : α} {P : Prop} (h : none = some v ∨ P) : P :=
  h.resolve_left nofun

/-! ### Parts of a document -/

theorem Point.fieldsRead (group : FieldGroup) {p : Point N}
    (h : Point.read number (levels + group.above + 1) text = .ok (p, rest)) :
    FieldsRead number levels (p.fields group) := by
  obtain ⟨⟨x, y, ⟨⟩⟩, read, rfl⟩ := map_read h
  obtain ⟨first, second, -⟩ := record_obtained read
  exact .pair (read_of_required first) (read_of_required second)

theorem Size.fieldsRead (group : FieldGroup) {s : Size N}
    (h : Size.read number (levels + group.above + 1) text = .ok (s, rest)) :
    FieldsRead number levels (s.fields group) := by
  obtain ⟨⟨width, height, ⟨⟩⟩, read, rfl⟩ := map_read h
  obtain ⟨first, second, -⟩ := record_obtained read
  exact .pair (read_of_required first) (read_of_required second)

theorem Crop.fieldsRead {c : Crop N} (h : Crop.read number (levels + 4) text = .ok (c, rest)) :
    FieldsRead number levels c.fields := by
  obtain ⟨⟨origin, size, ⟨⟩⟩, read, rfl⟩ := map_read h
  obtain ⟨first, second, -⟩ := record_obtained read
  obtain ⟨_, _, point⟩ := read_of_required first
  obtain ⟨_, _, extent⟩ := read_of_required second
  exact (Point.fieldsRead .cropOrigin point).append (Size.fieldsRead .cropSize extent)

theorem Segment.fieldsRead {s : Segment N} (index : Nat) (shape : Shape)
    (h : Segment.read number (levels + 2) text = .ok (s, rest)) :
    FieldsRead number levels
      (s.start.fields (.drawingStart index shape) ++ s.stop.fields (.drawingStop index shape)) := by
  obtain ⟨⟨start, stop, color, ⟨⟩⟩, read, rfl⟩ := map_read h
  obtain ⟨first, second, -, -⟩ := record_obtained read
  obtain ⟨_, _, one⟩ := read_of_required first
  obtain ⟨_, _, other⟩ := read_of_required second
  exact (Point.fieldsRead (.drawingStart index shape) one).append
    (Point.fieldsRead (.drawingStop index shape) other)

theorem Drawing.body_fieldsRead {d : Drawing N} (index : Nat) {shape : Shape}
    (h : Drawing.readBody number shape (levels + 2) text = .ok (d, rest)) :
    FieldsRead number levels (d.fields index) := by
  cases shape with
  | circle =>
    obtain ⟨c, body, rfl⟩ := map_read h
    obtain ⟨⟨center, radius, color, ⟨⟩⟩, read, rfl⟩ := map_read body
    obtain ⟨first, second, -, -⟩ := record_obtained read
    obtain ⟨_, _, point⟩ := read_of_required first
    exact (Point.fieldsRead (.drawingStart index .circle) point).append
      (List.forall_mem_singleton.mpr (read_of_required second))
  | rectangle =>
    obtain ⟨r, body, rfl⟩ := map_read h
    obtain ⟨⟨corner, size, color, ⟨⟩⟩, read, rfl⟩ := map_read body
    obtain ⟨first, second, -, -⟩ := record_obtained read
    obtain ⟨_, _, point⟩ := read_of_required first
    obtain ⟨_, _, extent⟩ := read_of_required second
    exact (Point.fieldsRead (.drawingStart index .rectangle) point).append
      (Size.fieldsRead (.drawingSize index .rectangle) extent)
  | line =>
    obtain ⟨s, body, rfl⟩ := map_read h
    exact Segment.fieldsRead index .line body
  | arrow =>
    obtain ⟨s, body, rfl⟩ := map_read h
    exact Segment.fieldsRead index .arrow body
  | gap =>
    obtain ⟨s, body, rfl⟩ := map_read h
    exact Segment.fieldsRead index .gap body

theorem Drawing.listFieldsRead {ds : List (Drawing N)} (index : Nat)
    (h : ∀ d ∈ ds, ∃ text rest, Drawing.read number (levels + 3) text = .ok (d, rest)) :
    FieldsRead number levels (Drawing.listFields index ds) := by
  induction ds generalizing index with
  | nil => exact fun q member => absurd member List.not_mem_nil
  | cons d ds ih =>
    obtain ⟨⟨_, _, here⟩, others⟩ := List.forall_mem_cons.mp h
    obtain ⟨shape, _, _, body⟩ := tagged_read here
    exact (Drawing.body_fieldsRead index body).append (ih (index + 1) others)

/-! ### Whole documents -/

theorem Instructions.fieldsRead {i : Instructions N}
    (h : Instructions.read number (levels + 5) text = .ok (i, rest)) :
    FieldsRead number levels i.fields ∧
      ∀ n ∈ i.strokeWidth, ∃ text rest, number (levels + 4) text = .ok (n, rest) ∧
        (dropSpace text).head? ≠ some 'n' := by
  obtain ⟨⟨(crop : Option (Crop N)), (draw : List (Drawing N)), (stroke : Option N), ⟨⟩⟩, read,
    rfl⟩ := map_read h
  obtain ⟨first, second, third, -⟩ := record_obtained read
  -- A default holds no number, so only the fields that were read remain.
  have ofCrop : FieldsRead number levels ((crop.map Crop.fields).getD []) := by
    cases crop with
    | none => exact fun q member => absurd member List.not_mem_nil
    | some c =>
      obtain ⟨_, _, some⟩ := first.resolve_left nofun
      obtain ⟨_, there, -⟩ := optional_some some
      exact Crop.fieldsRead there
  have ofDraw : ∀ d ∈ draw, ∃ text rest,
      Drawing.read number (levels + 3) text = .ok (d, rest) := by
    rcases second with default | ⟨_, _, list⟩
    · cases default
      exact fun d member => absurd member List.not_mem_nil
    · exact list_all (fun _ _ _ item => ⟨_, _, item⟩) list
  have ofStroke : ∀ n ∈ stroke, ∃ text rest,
      number (levels + 4) text = .ok (n, rest) ∧ (dropSpace text).head? ≠ some 'n' := by
    intro n same
    cases same
    obtain ⟨_, _, some⟩ := third.resolve_left nofun
    obtain ⟨more, there, other⟩ := optional_some some
    exact ⟨more, _, there, other⟩
  refine ⟨(ofCrop.append (Drawing.listFieldsRead 0 ofDraw)).append ?_, ofStroke⟩
  cases stroke with
  | none => exact fun q member => absurd member List.not_mem_nil
  | some n =>
    obtain ⟨text, rest, there, -⟩ := ofStroke n rfl
    exact List.forall_mem_singleton.mpr ⟨text, rest, there⟩

theorem Document.fieldsRead {d : Document N}
    (h : Document.read number (levels + 6) text = .ok (d, rest)) :
    FieldsRead number levels d.fields ∧
      ∀ n ∈ d.instructions.strokeWidth, ∃ text rest, number (levels + 4) text = .ok (n, rest) ∧
        (dropSpace text).head? ≠ some 'n' := by
  obtain ⟨⟨dimensions, final, instructions, source, destination, format, ⟨⟩⟩, read, rfl⟩ :=
    map_read h
  obtain ⟨first, second, third, -⟩ := record_obtained read
  obtain ⟨_, _, ofDimensions⟩ := read_of_required first
  obtain ⟨_, _, ofFinal⟩ := read_of_required second
  obtain ⟨_, _, ofInstructions⟩ := read_of_required third
  obtain ⟨numbers, stroke⟩ := Instructions.fieldsRead ofInstructions
  have sizes := Size.fieldsRead .dimensions ofDimensions
  exact ⟨(numbers.append sizes).append (Size.fieldsRead .finalDimensions ofFinal), stroke⟩

end

/-! ### Raw documents -/

namespace Numeric

/-- Whether a written number is none with a fraction or an exponent and holds none. -/
def IsFloatFree : Numeric → Prop
  | .int _ => True
  | .text _ => True
  | .float _ => False
  | .other v => v.FloatFree

/-- Without floating-point numbers, what was read is written as it was. -/
theorem toJson_ofJson {v : Json} (h : (ofJson v).IsFloatFree) :
    (ofJson v).toJson = v ∧ v.FloatFree := by
  cases v with
  | null => exact ⟨rfl, .null⟩
  | bool b => exact ⟨rfl, .bool b⟩
  | integer n =>
    refine ⟨?_, .integer n⟩
    rw [ofJson] at h ⊢
    split at h
    · rename_i bounds
      rw [if_pos bounds, toJson, Int64.toInt_ofInt_of_le bounds.1 bounds.2]
    · rename_i outside
      rw [if_neg outside]
      split at h
      · exact h.elim
      · rfl
  | float x => exact h.elim
  | string s => exact ⟨rfl, .string s⟩
  | array items => exact ⟨rfl, h⟩
  | object entries => exact ⟨rfl, h⟩

theorem readsBack_of_read {n : Numeric} {levels : Nat} {text rest : List Char}
    (h : Numeric.read levels text = .ok (n, rest)) (free : n.IsFloatFree) :
    ReadsBack Numeric.read levels n.toJson n := by
  obtain ⟨v, read, rfl⟩ := map_read h
  obtain ⟨order, wellFormed⟩ := Json.Read.value_image read
  obtain ⟨same, valueFree⟩ := toJson_ofJson free
  refine Numeric.readsBack ?_ ?_ ?_
  · rw [same]
    exact wellFormed valueFree
  · rw [same, order]
  · rw [same]

theorem toJson_ne_null_of_read {n : Numeric} {levels : Nat} {text rest : List Char}
    (h : Numeric.read levels text = .ok (n, rest)) (other : (dropSpace text).head? ≠ some 'n')
    (free : n.IsFloatFree) : n.toJson ≠ .null := by
  obtain ⟨v, read, rfl⟩ := map_read h
  rw [(toJson_ofJson free).1]
  exact Json.Read.value_ne_null read other

end Numeric

theorem Document.raw_readsBack_of_decode {t : String} {r : Document Numeric}
    (h : Document.decodeRaw t = .ok r) (free : ∀ q ∈ r.fields, q.2.IsFloatFree) :
    ReadsBack (Document.read Numeric.read) Json.Read.levelLimit (r.toJson Numeric.toJson) r := by
  obtain ⟨rest, read⟩ := Json.Read.read_of_decode h
  obtain ⟨numbers, stroke⟩ : FieldsRead Numeric.read 121 r.fields ∧
      ∀ n ∈ r.instructions.strokeWidth, ∃ text rest, Numeric.read 125 text = .ok (n, rest) ∧
        (dropSpace text).head? ≠ some 'n' := Document.fieldsRead read
  have fields : ReadsFields Numeric.toJson Numeric.read 121 r.fields := by
    intro q member
    obtain ⟨text, rest, number⟩ := numbers q member
    exact Numeric.readsBack_of_read number (free q member)
  refine Document.readsBack fields fun n there => ?_
  obtain ⟨text, rest, number, other⟩ := stroke n there
  exact Numeric.toJson_ne_null_of_read number other (free _ (mem_fields_of_strokeWidth there))

end PaintScript

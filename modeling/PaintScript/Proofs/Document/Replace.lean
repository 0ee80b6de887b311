import PaintScript.Proofs.Document.Update
import PaintScript.Proofs.Document.Wire
import PaintScript.Proofs.Text.Decimal

/-!
# A value in the place of a number

`Json.replace` changes the value that a path of keys leads to. In the wire form of a document the
keys of a numeric field lead to the number of this field and to no other one.
-/

namespace PaintScript

/-! ### Values in a tree -/

/-- The value with another one in the place that the keys lead to. The index of an item in an array
is a key as well. -/
def Json.replace : Json → List String → Json → Json
  | _, [], v => v
  | .object entries, key :: keys, v =>
    .object (entries.map fun e => if e.1 = key then (e.1, e.2.replace keys v) else e)
  | .array items, key :: keys, v =>
    .array (items.mapIdx fun index item =>
      if String.ofList (Text.natural index) = key then item.replace keys v else item)
  | j, _ :: _, _ => j

/-- The keys that lead from the root of a document to a field. -/
def NumericField.keys (field : NumericField) : List String :=
  field.group.keys ++ [field.property.name]

section

variable {N : Type} (num : N → Json) (field : NumericField) (v : Json)

/-- Writes a value in one field, and a number in the others. -/
def writing : NumericField → N → Json :=
  fun f n => if f = field then v else num n

variable {field}

theorem writing_of_group_ne {group : FieldGroup} (other : group ≠ field.group)
    (property : Property) (n : N) : writing num field v ⟨group, property⟩ n = num n :=
  if_neg fun same => other (congrArg NumericField.group same)

/-! ### Parts without the field -/

theorem Point.toJson_writing (p : Point N) {group : FieldGroup} (other : group ≠ field.group) :
    (p.mapFields (writing num field v) group).toJson id = p.toJson num := by
  simp only [Point.toJson, Point.mapFields, writing_of_group_ne num v other, id]

theorem Size.toJson_writing (s : Size N) {group : FieldGroup} (other : group ≠ field.group) :
    (s.mapFields (writing num field v) group).toJson id = s.toJson num := by
  simp only [Size.toJson, Size.mapFields, writing_of_group_ne num v other, id]

theorem Crop.toJson_writing (c : Crop N) (origin : .cropOrigin ≠ field.group)
    (size : .cropSize ≠ field.group) :
    (c.mapFields (writing num field v)).toJson id = c.toJson num := by
  simp only [Crop.toJson, Crop.mapFields, Point.toJson_writing num v c.origin origin,
    Size.toJson_writing num v c.size size]

/-- The index of the drawing that a group belongs to. -/
def FieldGroup.drawingIndex? : FieldGroup → Option Nat
  | .drawing index _ | .drawingStart index _ | .drawingSize index _ | .drawingStop index _ =>
    some index
  | .cropOrigin | .cropSize | .instructions | .dimensions | .finalDimensions => none

theorem Drawing.toJson_writing (d : Drawing N) {index : Nat}
    (other : field.group.drawingIndex? ≠ some index) :
    (d.mapFields (writing num field v) index).toJson id = d.toJson num := by
  have radius (shape : Shape) : .drawing index shape ≠ field.group :=
    fun same => other (same ▸ rfl)
  have start (shape : Shape) : .drawingStart index shape ≠ field.group :=
    fun same => other (same ▸ rfl)
  have size (shape : Shape) : .drawingSize index shape ≠ field.group :=
    fun same => other (same ▸ rfl)
  have stop (shape : Shape) : .drawingStop index shape ≠ field.group :=
    fun same => other (same ▸ rfl)
  cases d <;>
    simp [Drawing.toJson, Drawing.body, Drawing.mapFields, Drawing.shape, Circle.toJson,
      Rectangle.toJson, Segment.toJson, Segment.mapFields, Point.toJson_writing num v _ (start _),
      Point.toJson_writing num v _ (stop _), Size.toJson_writing num v _ (size _),
      writing_of_group_ne num v (radius _)]

theorem Drawing.list_toJson_writing (ds : List (Drawing N))
    (other : field.group.drawingIndex? = none) (index : Nat) :
    (Drawing.listMapFields (writing num field v) index ds).map (Drawing.toJson id) =
      ds.map (Drawing.toJson num) := by
  induction ds generalizing index with
  | nil => rfl
  | cons d ds ih =>
    have apart : field.group.drawingIndex? ≠ some index := by simp [other]
    rw [Drawing.listMapFields, List.map_cons, List.map_cons, ih,
      Drawing.toJson_writing num v d apart]

theorem Instructions.toJson_writing (i : Instructions N)
    (other : field.group = .dimensions ∨ field.group = .finalDimensions) :
    (i.mapFields (writing num field v)).toJson id = i.toJson num := by
  obtain ⟨crop, draw, stroke⟩ := i
  have noCrop : .cropOrigin ≠ field.group ∧ .cropSize ≠ field.group := by
    rcases other with group | group <;> rw [group] <;> decide
  have noDrawing : field.group.drawingIndex? = none := by
    rcases other with group | group <;> rw [group] <;> rfl
  have noStroke : .instructions ≠ field.group := by
    rcases other with group | group <;> rw [group] <;> decide
  have drawings := Drawing.list_toJson_writing num v draw noDrawing 0
  have ofCrop (c : Crop N) := Crop.toJson_writing num v c noCrop.1 noCrop.2
  have ofStroke := writing_of_group_ne num v noStroke .strokeWidth
  cases crop <;> cases stroke <;>
    simp [Instructions.toJson, Instructions.mapFields, drawings, ofCrop, ofStroke]

/-! ### Parts with the field -/

theorem Size.group_of_mem {s : Size N} {group : FieldGroup}
    (there : field ∈ (s.fields group).map Prod.fst) : field.group = group := by
  have choice : field = ⟨group, .width⟩ ∨ field = ⟨group, .height⟩ := by
    simpa [Size.fields] using there
  rcases choice with rfl | rfl <;> rfl

theorem Size.replace_toJson (s : Size N) (group : FieldGroup)
    (there : field ∈ (s.fields group).map Prod.fst) :
    (s.toJson num).replace [field.property.name] v =
      (s.mapFields (writing num field v) group).toJson id := by
  have choice : field = ⟨group, .width⟩ ∨ field = ⟨group, .height⟩ := by
    simpa [Size.fields] using there
  rcases choice with rfl | rfl <;>
    simp [Size.toJson, Json.replace, Size.mapFields, writing, Property.name]

theorem Crop.replace_toJson (c : Crop N) (there : field ∈ c.fields.map Prod.fst) :
    (c.toJson num).replace (field.keys.drop 2) v =
      (c.mapFields (writing num field v)).toJson id := by
  have choice : field = ⟨.cropOrigin, .x⟩ ∨ field = ⟨.cropOrigin, .y⟩ ∨
      field = ⟨.cropSize, .width⟩ ∨ field = ⟨.cropSize, .height⟩ := by
    simpa [Crop.fields, Point.fields, Size.fields] using there
  rcases choice with rfl | rfl | rfl | rfl <;>
    simp [Crop.toJson, Point.toJson, Size.toJson, Json.replace, NumericField.keys, FieldGroup.keys,
      Property.name, Crop.mapFields, Point.mapFields, Size.mapFields, writing]

theorem Segment.replace_toJson (s : Segment N) (index : Nat) (shape : Shape)
    (there : field ∈ (s.start.fields (.drawingStart index shape) ++
      s.stop.fields (.drawingStop index shape)).map Prod.fst) :
    (s.toJson num).replace (field.keys.drop 4) v =
      (s.mapFields (writing num field v) index shape).toJson id := by
  have choice : field = ⟨.drawingStart index shape, .x⟩ ∨ field = ⟨.drawingStart index shape, .y⟩ ∨
      field = ⟨.drawingStop index shape, .x⟩ ∨ field = ⟨.drawingStop index shape, .y⟩ := by
    simpa [Point.fields] using there
  rcases choice with rfl | rfl | rfl | rfl <;>
    simp [Segment.toJson, Point.toJson, Json.replace, NumericField.keys, FieldGroup.keys,
      FieldGroup.keys.drawingKeys, Property.name, Segment.mapFields, Point.mapFields, writing]

theorem Drawing.keys_of_mem (d : Drawing N) (index : Nat) :
    ∀ f ∈ (d.fields index).map Prod.fst, f.keys =
      "instructions" :: "draw" :: String.ofList (Text.natural index) :: d.shape.name ::
        f.keys.drop 4 := by
  cases d <;>
    simp [Drawing.fields, Point.fields, Size.fields, NumericField.keys, FieldGroup.keys,
      FieldGroup.keys.drawingKeys, Drawing.shape]

theorem Drawing.index_of_mem (d : Drawing N) (index : Nat) :
    ∀ f ∈ (d.fields index).map Prod.fst, f.group.drawingIndex? = some index := by
  cases d <;> simp [Drawing.fields, Point.fields, Size.fields, FieldGroup.drawingIndex?]

theorem Drawing.replace_body (d : Drawing N) (index : Nat)
    (there : field ∈ (d.fields index).map Prod.fst) :
    (d.body num).replace (field.keys.drop 4) v =
      (d.mapFields (writing num field v) index).body id := by
  cases d with
  | circle c =>
    have choice : field = ⟨.drawingStart index .circle, .x⟩ ∨
        field = ⟨.drawingStart index .circle, .y⟩ ∨ field = ⟨.drawing index .circle, .radius⟩ := by
      simpa [Drawing.fields, Point.fields, Drawing.shape] using there
    rcases choice with rfl | rfl | rfl <;>
      simp [Drawing.body, Circle.toJson, Point.toJson, Json.replace, NumericField.keys,
        FieldGroup.keys, FieldGroup.keys.drawingKeys, Property.name, Drawing.mapFields,
        Point.mapFields, writing]
  | rectangle r =>
    have choice : field = ⟨.drawingStart index .rectangle, .x⟩ ∨
        field = ⟨.drawingStart index .rectangle, .y⟩ ∨
        field = ⟨.drawingSize index .rectangle, .width⟩ ∨
        field = ⟨.drawingSize index .rectangle, .height⟩ := by
      simpa [Drawing.fields, Point.fields, Size.fields, Drawing.shape] using there
    rcases choice with rfl | rfl | rfl | rfl <;>
      simp [Drawing.body, Rectangle.toJson, Point.toJson, Size.toJson, Json.replace,
        NumericField.keys, FieldGroup.keys, FieldGroup.keys.drawingKeys, Property.name,
        Drawing.mapFields, Point.mapFields, Size.mapFields, writing]
  | line s => exact s.replace_toJson num v index .line there
  | arrow s => exact s.replace_toJson num v index .arrow there
  | gap s => exact s.replace_toJson num v index .gap there

theorem Drawing.shape_mapFields {M : Type} (g : NumericField → N → M) (index : Nat)
    (d : Drawing N) : (d.mapFields g index).shape = d.shape := by
  cases d <;> rfl

theorem Drawing.replace_toJson (d : Drawing N) (index : Nat)
    (there : field ∈ (d.fields index).map Prod.fst) :
    (d.toJson num).replace (d.shape.name :: field.keys.drop 4) v =
      (d.mapFields (writing num field v) index).toJson id := by
  simp [Drawing.toJson, Json.replace, Drawing.shape_mapFields, d.replace_body num v index there]

theorem Drawing.exists_of_mem_listFields {ds : List (Drawing N)} {index : Nat}
    (there : field ∈ (Drawing.listFields index ds).map Prod.fst) :
    ∃ i, ∃ d : Drawing N, ds[i]? = some d ∧ field ∈ (d.fields (index + i)).map Prod.fst := by
  obtain ⟨q, member, rfl⟩ := List.mem_map.mp there
  obtain ⟨i, d, found, inside⟩ := Drawing.mem_listFields member
  exact ⟨i, d, found, List.mem_map_of_mem inside⟩

theorem Drawing.listMapFields_eq_mapIdx {M : Type} (g : NumericField → N → M)
    (ds : List (Drawing N)) (index : Nat) :
    Drawing.listMapFields g index ds = ds.mapIdx fun i d => d.mapFields g (index + i) := by
  induction ds generalizing index with
  | nil => rfl
  | cons d ds ih =>
    have later : (fun i (d : Drawing N) => d.mapFields g (index + 1 + i)) =
        fun i d => d.mapFields g (index + (i + 1)) := by
      funext i d
      rw [show index + 1 + i = index + (i + 1) by omega]
    rw [Drawing.listMapFields, ih, List.mapIdx_cons, later]
    rfl

theorem Drawing.replace_list (ds : List (Drawing N)) {i : Nat} {d : Drawing N}
    (found : ds[i]? = some d) (there : field ∈ (d.fields i).map Prod.fst) :
    (Json.array (ds.map (Drawing.toJson num))).replace (field.keys.drop 2) v =
      .array ((Drawing.listMapFields (writing num field v) 0 ds).map (Drawing.toJson id)) := by
  have keys : field.keys.drop 2 =
      String.ofList (Text.natural i) :: d.shape.name :: field.keys.drop 4 := by
    rw [d.keys_of_mem i field there]
    rfl
  have index := d.index_of_mem i field there
  rw [keys, Json.replace, Drawing.listMapFields_eq_mapIdx]
  refine congrArg Json.array (List.ext_getElem (by simp) fun j short _ => ?_)
  simp only [List.getElem_mapIdx, List.getElem_map, Nat.zero_add]
  by_cases same : j = i
  · subst same
    obtain ⟨bound, rfl⟩ := List.getElem?_eq_some_iff.mp found
    rw [if_pos rfl]
    exact Drawing.replace_toJson num v _ j there
  · have other : String.ofList (Text.natural j) ≠ String.ofList (Text.natural i) :=
      fun equal => same (Text.natural_inj (String.ofList_injective equal))
    have apart : field.group.drawingIndex? ≠ some j := by
      rw [index]
      exact fun equal => same (Option.some.inj equal).symm
    simp [other, Drawing.toJson_writing num v _ apart]

/-! ### Instructions and documents -/

theorem Crop.group_of_mem (c : Crop N) :
    ∀ f ∈ c.fields.map Prod.fst, f.group = .cropOrigin ∨ f.group = .cropSize := by
  simp [Crop.fields, Point.fields, Size.fields]

theorem Instructions.replace_crop (c : Crop N) (draw : List (Drawing N)) (stroke : Option N)
    (there : field ∈ c.fields.map Prod.fst) :
    ((Instructions.mk (some c) draw stroke).toJson num).replace field.keys.tail v =
      ((Instructions.mk (some c) draw stroke).mapFields (writing num field v)).toJson id := by
  have group := c.group_of_mem field there
  have keys : field.keys.tail = "crop" :: field.keys.drop 2 := by
    rw [NumericField.keys]
    rcases group with group | group <;> rw [group] <;> rfl
  have noDrawing : field.group.drawingIndex? = none := by
    rcases group with group | group <;> rw [group] <;> rfl
  have noStroke : .instructions ≠ field.group := by
    rcases group with group | group <;> rw [group] <;> decide
  have drawings := Drawing.list_toJson_writing num v draw noDrawing 0
  have ofStroke := writing_of_group_ne num v noStroke .strokeWidth
  cases stroke <;>
    simp [Instructions.toJson, Instructions.mapFields, keys, Json.replace, drawings, ofStroke,
      c.replace_toJson num v there]

theorem Instructions.replace_draw (crop : Option (Crop N)) (draw : List (Drawing N))
    (stroke : Option N) (there : field ∈ (Drawing.listFields 0 draw).map Prod.fst) :
    ((Instructions.mk crop draw stroke).toJson num).replace field.keys.tail v =
      ((Instructions.mk crop draw stroke).mapFields (writing num field v)).toJson id := by
  obtain ⟨i, d, found, there⟩ := Drawing.exists_of_mem_listFields there
  rw [Nat.zero_add] at there
  have keys : field.keys.tail = "draw" :: field.keys.drop 2 := by
    rw [d.keys_of_mem i field there]
    rfl
  have index := d.index_of_mem i field there
  have noCrop : .cropOrigin ≠ field.group ∧ .cropSize ≠ field.group := by
    constructor <;> intro same <;> rw [← same] at index <;> cases index
  have noStroke : .instructions ≠ field.group := by
    intro same
    rw [← same] at index
    cases index
  have ofCrop (c : Crop N) := Crop.toJson_writing num v c noCrop.1 noCrop.2
  have ofStroke := writing_of_group_ne num v noStroke .strokeWidth
  have drawings := Drawing.replace_list num v draw found there
  cases crop <;> cases stroke <;>
    simp [Instructions.toJson, Instructions.mapFields, keys, Json.replace, drawings, ofCrop,
      ofStroke]

theorem Instructions.replace_stroke (crop : Option (Crop N)) (draw : List (Drawing N)) (n : N) :
    ((Instructions.mk crop draw (some n)).toJson num).replace ["strokeWidth"] v =
      ((Instructions.mk crop draw (some n)).mapFields
        (writing num ⟨.instructions, .strokeWidth⟩ v)).toJson id := by
  have ofCrop (c : Crop N) :
      (c.mapFields (writing num ⟨.instructions, .strokeWidth⟩ v)).toJson id = c.toJson num :=
    c.toJson_writing num v (by decide) (by decide)
  have drawings : (Drawing.listMapFields (writing num ⟨.instructions, .strokeWidth⟩ v) 0 draw).map
      (Drawing.toJson id) = draw.map (Drawing.toJson num) :=
    Drawing.list_toJson_writing num v draw rfl 0
  cases crop <;>
    simp [Instructions.toJson, Instructions.mapFields, Json.replace, drawings, ofCrop, writing]

theorem Instructions.replace_toJson (i : Instructions N) (there : field ∈ i.fields.map Prod.fst) :
    (i.toJson num).replace field.keys.tail v =
      (i.mapFields (writing num field v)).toJson id := by
  obtain ⟨crop, draw, stroke⟩ := i
  simp only [Instructions.fields, List.map_append, List.mem_append] at there
  rcases there with (ofCrop | ofDraw) | ofStroke
  · cases crop with
    | none => cases ofCrop
    | some c => exact Instructions.replace_crop num v c draw stroke ofCrop
  · exact Instructions.replace_draw num v crop draw stroke ofDraw
  · cases stroke with
    | none => cases ofStroke
    | some n =>
      obtain rfl : field = ⟨.instructions, .strokeWidth⟩ := List.mem_singleton.mp ofStroke
      exact Instructions.replace_stroke num v crop draw n

/-- The fields of instructions have a key in common and are none of those outside. -/
theorem Instructions.keys_of_mem (i : Instructions N) :
    ∀ f ∈ i.fields.map Prod.fst, f.keys = "instructions" :: f.keys.tail ∧
      .dimensions ≠ f.group ∧ .finalDimensions ≠ f.group := by
  intro f there
  obtain ⟨crop, draw, stroke⟩ := i
  simp only [Instructions.fields, List.map_append, List.mem_append] at there
  rcases there with (ofCrop | ofDraw) | ofStroke
  · cases crop with
    | none => cases ofCrop
    | some c =>
      rw [NumericField.keys]
      rcases c.group_of_mem f ofCrop with group | group <;> rw [group] <;> exact ⟨rfl, by decide⟩
  · obtain ⟨i, d, -, there⟩ := Drawing.exists_of_mem_listFields ofDraw
    rw [Nat.zero_add] at there
    have index := d.index_of_mem i f there
    refine ⟨by rw [d.keys_of_mem i f there]; rfl, ?_⟩
    constructor <;> intro same <;> rw [← same] at index <;> cases index
  · cases stroke with
    | none => cases ofStroke
    | some n =>
      obtain rfl : f = ⟨.instructions, .strokeWidth⟩ := List.mem_singleton.mp ofStroke
      exact ⟨rfl, by decide⟩

/-- A field of a document is changed by changing the value that its keys lead to. -/
theorem Document.replace_toJson (d : Document N) (there : field ∈ d.fields.map Prod.fst) :
    (d.toJson num).replace field.keys v = (d.mapFields (writing num field v)).toJson id := by
  simp only [Document.fields, List.map_append, List.mem_append] at there
  rcases there with (ofInstructions | ofDimensions) | ofFinal
  · obtain ⟨keys, noDimensions, noFinal⟩ := d.instructions.keys_of_mem field ofInstructions
    rw [keys]
    simp [Document.toJson, Document.mapFields, Json.replace,
      d.dimensions.toJson_writing num v noDimensions,
      d.finalDimensions.toJson_writing num v noFinal,
      d.instructions.replace_toJson num v ofInstructions]
  · have group : field.group = .dimensions := Size.group_of_mem ofDimensions
    have noFinal : .finalDimensions ≠ field.group := by
      rw [group]
      decide
    simp [Document.toJson, Document.mapFields, Json.replace, NumericField.keys, group,
      FieldGroup.keys, d.dimensions.replace_toJson num v .dimensions ofDimensions,
      d.finalDimensions.toJson_writing num v noFinal,
      d.instructions.toJson_writing num v (Or.inl group)]
  · have group : field.group = .finalDimensions := Size.group_of_mem ofFinal
    have noDimensions : .dimensions ≠ field.group := by
      rw [group]
      decide
    simp [Document.toJson, Document.mapFields, Json.replace, NumericField.keys, group,
      FieldGroup.keys, d.finalDimensions.replace_toJson num v .finalDimensions ofFinal,
      d.dimensions.toJson_writing num v noDimensions,
      d.instructions.toJson_writing num v (Or.inr group)]

end

-- The value goes into the drawing with the index among the keys.
example :
    let line (width : Json) := Json.object [("to", .object [("x", width), ("y", .integer 0)])]
    (Json.array [line (.integer 3), line (.integer 4)]).replace ["1", "to", "x"] .null =
      .array [line (.integer 3), line .null] := by
  cbv

end PaintScript

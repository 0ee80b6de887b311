import PaintScript.Proofs.Document.Map

/-!
# Documents with another number in one field

`Document.mapFields` maps each number with regard to the field it stands in, and `Document.set`
changes the number of one field.
-/

namespace PaintScript

variable {N M K : Type}

section

variable (g : NumericField → N → M)

def Point.mapFields (group : FieldGroup) (p : Point N) : Point M :=
  ⟨g ⟨group, .x⟩ p.x, g ⟨group, .y⟩ p.y⟩

def Size.mapFields (group : FieldGroup) (s : Size N) : Size M :=
  ⟨g ⟨group, .width⟩ s.width, g ⟨group, .height⟩ s.height⟩

def Crop.mapFields (c : Crop N) : Crop M :=
  ⟨c.origin.mapFields g .cropOrigin, c.size.mapFields g .cropSize⟩

def Segment.mapFields (index : Nat) (shape : Shape) (s : Segment N) : Segment M :=
  ⟨s.start.mapFields g (.drawingStart index shape), s.stop.mapFields g (.drawingStop index shape),
    s.color⟩

def Drawing.mapFields (index : Nat) : Drawing N → Drawing M
  | .circle c => .circle ⟨c.center.mapFields g (.drawingStart index .circle),
      g ⟨.drawing index .circle, .radius⟩ c.radius, c.color⟩
  | .rectangle r => .rectangle ⟨r.corner.mapFields g (.drawingStart index .rectangle),
      r.size.mapFields g (.drawingSize index .rectangle), r.color⟩
  | .line s => .line (s.mapFields g index .line)
  | .arrow s => .arrow (s.mapFields g index .arrow)
  | .gap s => .gap (s.mapFields g index .gap)

/-- Maps the numbers of drawings, of which the first has the given index. -/
def Drawing.listMapFields : Nat → List (Drawing N) → List (Drawing M)
  | _, [] => []
  | index, d :: rest => d.mapFields g index :: listMapFields (index + 1) rest

def Instructions.mapFields (i : Instructions N) : Instructions M :=
  ⟨i.crop.map (Crop.mapFields g), Drawing.listMapFields g 0 i.draw,
    i.strokeWidth.map (g ⟨.instructions, .strokeWidth⟩)⟩

/-- The document with a number in every place that may depend on the field. -/
def Document.mapFields (d : Document N) : Document M :=
  ⟨d.dimensions.mapFields g .dimensions, d.finalDimensions.mapFields g .finalDimensions,
    d.instructions.mapFields g, d.sourceFile, d.destinationFile, d.format⟩

end

/-- The document with another number in one field. -/
def Document.set (field : NumericField) (x : N) (d : Document N) : Document N :=
  d.mapFields fun f n => if f = field then x else n

/-! ### Fields -/

section

variable (g : NumericField → N → M)

theorem Drawing.fields_mapFields (index : Nat) (d : Drawing N) :
    (d.mapFields g index).fields index = (d.fields index).map fun q => (q.1, g q.1 q.2) := by
  cases d <;> rfl

theorem Drawing.listFields_mapFields (index : Nat) (ds : List (Drawing N)) :
    Drawing.listFields index (Drawing.listMapFields g index ds) =
      (Drawing.listFields index ds).map fun q => (q.1, g q.1 q.2) := by
  induction ds generalizing index with
  | nil => rfl
  | cons d ds ih =>
    rw [Drawing.listMapFields, Drawing.listFields, Drawing.listFields, Drawing.fields_mapFields, ih,
      List.map_append]

theorem Drawing.length_listMapFields (index : Nat) (ds : List (Drawing N)) :
    (Drawing.listMapFields g index ds).length = ds.length := by
  induction ds generalizing index with
  | nil => rfl
  | cons d ds ih => rw [Drawing.listMapFields, List.length_cons, List.length_cons, ih]

theorem Document.length_draw_mapFields (d : Document N) :
    (d.mapFields g).instructions.draw.length = d.instructions.draw.length :=
  Drawing.length_listMapFields g 0 d.instructions.draw

theorem Document.fields_mapFields (d : Document N) :
    (d.mapFields g).fields = d.fields.map fun q => (q.1, g q.1 q.2) := by
  obtain ⟨_, _, ⟨crop, draw, stroke⟩, _, _, _⟩ := d
  simp only [Document.fields, Document.mapFields, Instructions.fields, Instructions.mapFields,
    Drawing.listFields_mapFields, List.map_append]
  cases crop <;> cases stroke <;> rfl

end

/-! ### Chains of mappings -/

theorem Drawing.map_mapFields (g : NumericField → N → M) (h : M → K) (index : Nat)
    (d : Drawing N) : (d.mapFields g index).map h = d.mapFields (fun f n => h (g f n)) index := by
  cases d <;> rfl

theorem Drawing.map_listMapFields (g : NumericField → N → M) (h : M → K) (index : Nat)
    (ds : List (Drawing N)) :
    (Drawing.listMapFields g index ds).map (Drawing.map h) =
      Drawing.listMapFields (fun f n => h (g f n)) index ds := by
  induction ds generalizing index with
  | nil => rfl
  | cons d ds ih =>
    rw [Drawing.listMapFields, List.map_cons, Drawing.map_mapFields, ih, Drawing.listMapFields]

theorem Document.map_mapFields (g : NumericField → N → M) (h : M → K) (d : Document N) :
    (d.mapFields g).map h = d.mapFields fun f n => h (g f n) := by
  obtain ⟨_, _, ⟨crop, draw, stroke⟩, _, _, _⟩ := d
  simp only [Document.map, Document.mapFields, Instructions.map, Instructions.mapFields,
    Drawing.map_listMapFields]
  cases crop <;> cases stroke <;> rfl

theorem Drawing.mapFields_map (g : NumericField → M → K) (h : N → M) (index : Nat)
    (d : Drawing N) : (d.map h).mapFields g index = d.mapFields (fun f n => g f (h n)) index := by
  cases d <;> rfl

theorem Drawing.listMapFields_map (g : NumericField → M → K) (h : N → M) (index : Nat)
    (ds : List (Drawing N)) :
    Drawing.listMapFields g index (ds.map (Drawing.map h)) =
      Drawing.listMapFields (fun f n => g f (h n)) index ds := by
  induction ds generalizing index with
  | nil => rfl
  | cons d ds ih =>
    rw [List.map_cons, Drawing.listMapFields, Drawing.mapFields_map, ih, Drawing.listMapFields]

theorem Document.mapFields_map (g : NumericField → M → K) (h : N → M) (d : Document N) :
    (d.map h).mapFields g = d.mapFields fun f n => g f (h n) := by
  obtain ⟨_, _, ⟨crop, draw, stroke⟩, _, _, _⟩ := d
  simp only [Document.map, Document.mapFields, Instructions.map, Instructions.mapFields,
    Drawing.listMapFields_map]
  cases crop <;> cases stroke <;> rfl

section

variable {ε : Type} (f : NumericField → M → Except ε K) (g : NumericField → N → M)

theorem Drawing.mapM_mapFields (index : Nat) (d : Drawing N) :
    (d.mapFields g index).mapM f index = d.mapM (fun field n => f field (g field n)) index := by
  cases d <;> rfl

theorem Drawing.listMapM_listMapFields (index : Nat) (ds : List (Drawing N)) :
    Drawing.listMapM f index (Drawing.listMapFields g index ds) =
      Drawing.listMapM (fun field n => f field (g field n)) index ds := by
  induction ds generalizing index with
  | nil => rfl
  | cons d ds ih =>
    simp only [Drawing.listMapFields, Drawing.listMapM, Drawing.mapM_mapFields, ih]

theorem Document.mapM_mapFields (d : Document N) :
    (d.mapFields g).mapM f = d.mapM fun field n => f field (g field n) := by
  obtain ⟨_, _, ⟨crop, draw, stroke⟩, _, _, _⟩ := d
  simp only [Document.mapM, Document.mapFields, Instructions.mapM, Instructions.mapFields,
    Drawing.listMapM_listMapFields]
  cases crop <;> cases stroke <;> rfl

end

/-! ### Related mappings -/

section

variable {R : M → K → Prop} {g : NumericField → N → M} {h : NumericField → N → K}
  (related : ∀ f n, R (g f n) (h f n))

include related

theorem Drawing.rel_mapFields (index : Nat) (d : Drawing N) :
    (d.mapFields g index).Rel R (d.mapFields h index) := by
  cases d with
  | circle c => exact .circle ⟨related _ _, related _ _⟩ (related _ _) rfl
  | rectangle r =>
    exact .rectangle ⟨related _ _, related _ _⟩ ⟨related _ _, related _ _⟩ rfl
  | line s => exact .line ⟨⟨related _ _, related _ _⟩, ⟨related _ _, related _ _⟩, rfl⟩
  | arrow s => exact .arrow ⟨⟨related _ _, related _ _⟩, ⟨related _ _, related _ _⟩, rfl⟩
  | gap s => exact .gap ⟨⟨related _ _, related _ _⟩, ⟨related _ _, related _ _⟩, rfl⟩

theorem Drawing.rel_listMapFields (index : Nat) (ds : List (Drawing N)) :
    List.Forall₂ (Drawing.Rel R) (Drawing.listMapFields g index ds)
      (Drawing.listMapFields h index ds) := by
  induction ds generalizing index with
  | nil => exact .nil
  | cons d ds ih => exact .cons (Drawing.rel_mapFields related index d) (ih (index + 1))

theorem Document.rel_mapFields (d : Document N) : (d.mapFields g).Rel R (d.mapFields h) := by
  obtain ⟨_, _, ⟨crop, draw, stroke⟩, _, _, _⟩ := d
  refine ⟨⟨related _ _, related _ _⟩, ⟨related _ _, related _ _⟩, ⟨?_, ?_, ?_⟩, rfl, rfl, rfl⟩
  · cases crop with
    | none => exact .none
    | some c => exact .some ⟨⟨related _ _, related _ _⟩, ⟨related _ _, related _ _⟩⟩
  · exact Drawing.rel_listMapFields related 0 draw
  · cases stroke with
    | none => exact .none
    | some n => exact .some (related _ n)

end
end PaintScript

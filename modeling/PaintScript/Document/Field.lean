import PaintScript.Document.Basic
import PaintScript.Text.Decimal

/-!
# The numeric fields of a document

A `NumericField` names one numeric field by the group it belongs to and its property.
`Document.fields` lists all of them with their values, and `Document.mapM` visits them in the same
order, so that the first field that fails decides.
-/

namespace PaintScript

/-- The group of fields that a numeric field stands in. -/
inductive FieldGroup
  | cropOrigin
  | cropSize
  | drawing (index : Nat) (shape : Shape)
  | drawingStart (index : Nat) (shape : Shape)
  | drawingSize (index : Nat) (shape : Shape)
  | drawingStop (index : Nat) (shape : Shape)
  | instructions
  | dimensions
  | finalDimensions
  deriving DecidableEq

inductive Property
  | x
  | y
  | width
  | height
  | radius
  | strokeWidth
  deriving DecidableEq

structure NumericField where
  group : FieldGroup
  property : Property
  deriving DecidableEq

def Property.name : Property → String
  | .x => "x"
  | .y => "y"
  | .width => "width"
  | .height => "height"
  | .radius => "radius"
  | .strokeWidth => "strokeWidth"

/-- The keys that lead from the root of a document to a group, the index of a drawing being one of
them. -/
def FieldGroup.keys : FieldGroup → List String
  | .cropOrigin => ["instructions", "crop", "from"]
  | .cropSize => ["instructions", "crop", "size"]
  | .drawing index shape => drawingKeys index shape
  | .drawingStart index shape => drawingKeys index shape ++ ["from"]
  | .drawingSize index shape => drawingKeys index shape ++ ["size"]
  | .drawingStop index shape => drawingKeys index shape ++ ["to"]
  | .instructions => ["instructions"]
  | .dimensions => ["dimensions"]
  | .finalDimensions => ["finalDimensions"]
where
  /-- The keys that lead to a drawing. -/
  drawingKeys (index : Nat) (shape : Shape) : List String :=
    ["instructions", "draw", String.ofList (Text.natural index), shape.name]

def FieldGroup.path (label : String) (group : FieldGroup) : String :=
  label ++ String.join (group.keys.map fun k => "." ++ k)

section

variable {N M ε : Type}

/-! ### Listing -/

def Point.fields (group : FieldGroup) (p : Point N) : List (NumericField × N) :=
  [(⟨group, .x⟩, p.x), (⟨group, .y⟩, p.y)]

def Size.fields (group : FieldGroup) (s : Size N) : List (NumericField × N) :=
  [(⟨group, .width⟩, s.width), (⟨group, .height⟩, s.height)]

def Crop.fields (c : Crop N) : List (NumericField × N) :=
  c.origin.fields .cropOrigin ++ c.size.fields .cropSize

def Drawing.fields (index : Nat) (d : Drawing N) : List (NumericField × N) :=
  match d with
  | .circle c =>
    c.center.fields (.drawingStart index d.shape) ++ [(⟨.drawing index d.shape, .radius⟩, c.radius)]
  | .rectangle r =>
    r.corner.fields (.drawingStart index d.shape) ++ r.size.fields (.drawingSize index d.shape)
  | .line s | .arrow s | .gap s =>
    s.start.fields (.drawingStart index d.shape) ++ s.stop.fields (.drawingStop index d.shape)

/-- The numeric fields of drawings, of which the first has the given index. -/
def Drawing.listFields : Nat → List (Drawing N) → List (NumericField × N)
  | _, [] => []
  | index, d :: rest => d.fields index ++ listFields (index + 1) rest

def Instructions.fields (i : Instructions N) : List (NumericField × N) :=
  (i.crop.map Crop.fields).getD [] ++ Drawing.listFields 0 i.draw ++
    (i.strokeWidth.map fun n => (⟨.instructions, .strokeWidth⟩, n)).toList

/-- The numeric fields of a document with their values: first those of the instructions. -/
def Document.fields (d : Document N) : List (NumericField × N) :=
  d.instructions.fields ++ d.dimensions.fields .dimensions ++
    d.finalDimensions.fields .finalDimensions

/-! ### Visiting -/

variable (f : NumericField → N → Except ε M)

def Point.mapM (group : FieldGroup) (p : Point N) : Except ε (Point M) := do
  let x ← f ⟨group, .x⟩ p.x
  let y ← f ⟨group, .y⟩ p.y
  return ⟨x, y⟩

def Size.mapM (group : FieldGroup) (s : Size N) : Except ε (Size M) := do
  let width ← f ⟨group, .width⟩ s.width
  let height ← f ⟨group, .height⟩ s.height
  return ⟨width, height⟩

def Crop.mapM (c : Crop N) : Except ε (Crop M) := do
  let origin ← c.origin.mapM f .cropOrigin
  let size ← c.size.mapM f .cropSize
  return ⟨origin, size⟩

def Segment.mapM (index : Nat) (shape : Shape) (s : Segment N) : Except ε (Segment M) := do
  let start ← s.start.mapM f (.drawingStart index shape)
  let stop ← s.stop.mapM f (.drawingStop index shape)
  return ⟨start, stop, s.color⟩

def Drawing.mapM (index : Nat) : Drawing N → Except ε (Drawing M)
  | .circle c => do
    let center ← c.center.mapM f (.drawingStart index .circle)
    let radius ← f ⟨.drawing index .circle, .radius⟩ c.radius
    return .circle ⟨center, radius, c.color⟩
  | .rectangle r => do
    let corner ← r.corner.mapM f (.drawingStart index .rectangle)
    let size ← r.size.mapM f (.drawingSize index .rectangle)
    return .rectangle ⟨corner, size, r.color⟩
  | .line s => return .line (← s.mapM f index .line)
  | .arrow s => return .arrow (← s.mapM f index .arrow)
  | .gap s => return .gap (← s.mapM f index .gap)

/-- Visits the fields of drawings, of which the first has the given index. -/
def Drawing.listMapM : Nat → List (Drawing N) → Except ε (List (Drawing M))
  | _, [] => return []
  | index, d :: rest => do
    let d ← d.mapM f index
    let rest ← listMapM (index + 1) rest
    return d :: rest

def optionMapM {α β : Type} (g : α → Except ε β) : Option α → Except ε (Option β)
  | none => return none
  | some a => return some (← g a)

def Instructions.mapM (i : Instructions N) : Except ε (Instructions M) := do
  let crop ← optionMapM (Crop.mapM f) i.crop
  let draw ← Drawing.listMapM f 0 i.draw
  let strokeWidth ← optionMapM (f ⟨.instructions, .strokeWidth⟩) i.strokeWidth
  return ⟨crop, draw, strokeWidth⟩

/-- Replaces every numeric field, in the order of `fields`. -/
def Document.mapM (d : Document N) : Except ε (Document M) := do
  let instructions ← d.instructions.mapM f
  let dimensions ← d.dimensions.mapM f .dimensions
  let finalDimensions ← d.finalDimensions.mapM f .finalDimensions
  return ⟨dimensions, finalDimensions, instructions, d.sourceFile, d.destinationFile, d.format⟩

end
end PaintScript

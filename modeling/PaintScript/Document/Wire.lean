import PaintScript.Document.Basic
import PaintScript.Json.Printer
import PaintScript.Json.Record

/-!
# The wire form of documents

Documents are written as JSON objects with their keys in declaration order. One reader serves both
kinds of documents: it is given the reader of the numeric fields.
-/

namespace PaintScript

open Json (Reader)
open Json.Read (required defaulted record)

/-! ### Writing -/

def Color.toJson (c : Color) : Json :=
  .string c.name

def Numeric.toJson : Numeric → Json
  | .int n => .integer n.toInt
  | .float x => .float x
  | .text s => .string s
  | .other v => v

def integerJson (n : Int64) : Json :=
  .integer n.toInt

section

variable {N : Type} (number : N → Json)

def Point.toJson (p : Point N) : Json :=
  .object [("x", number p.x), ("y", number p.y)]

def Size.toJson (s : Size N) : Json :=
  .object [("width", number s.width), ("height", number s.height)]

def Crop.toJson (c : Crop N) : Json :=
  .object [("from", c.origin.toJson number), ("size", c.size.toJson number)]

def Circle.toJson (c : Circle N) : Json :=
  .object [("from", c.center.toJson number), ("radius", number c.radius), ("color", c.color.toJson)]

def Rectangle.toJson (r : Rectangle N) : Json :=
  .object [("from", r.corner.toJson number), ("size", r.size.toJson number),
    ("color", r.color.toJson)]

def Segment.toJson (s : Segment N) : Json :=
  .object [("from", s.start.toJson number), ("to", s.stop.toJson number), ("color", s.color.toJson)]

/-- The members of a drawing, without its shape. -/
def Drawing.body : Drawing N → Json
  | .circle c => c.toJson number
  | .rectangle r => r.toJson number
  | .line s | .arrow s | .gap s => s.toJson number

/-- A drawing is an object whose only key is the name of its shape. -/
def Drawing.toJson (d : Drawing N) : Json :=
  .object [(d.shape.name, d.body number)]

/-- The crop and the stroke width are left out when there is none. -/
def Instructions.toJson (i : Instructions N) : Json :=
  .object ((i.crop.map fun c => ("crop", c.toJson number)).toList ++
    [("draw", .array (i.draw.map fun d => d.toJson number))] ++
    (i.strokeWidth.map fun n => ("strokeWidth", number n)).toList)

def Document.toJson (d : Document N) : Json :=
  .object [("dimensions", d.dimensions.toJson number),
    ("finalDimensions", d.finalDimensions.toJson number),
    ("instructions", d.instructions.toJson number),
    ("sourceFile", .string d.sourceFile),
    ("destinationFile", .string d.destinationFile),
    ("format", .string d.format)]

end

/-! ### Reading -/

def Json.Reader.map {α β : Type} (f : α → β) (read : Nat → Reader α) (levels : Nat) : Reader β :=
  fun rest => do
    let (v, rest) ← read levels rest
    .ok (f v, rest)

/-- A value in the place of a number. An integer of more than 64 bits becomes the nearest
floating-point number. -/
def Numeric.ofJson : Json → Numeric
  | .integer n =>
    if -2 ^ 63 ≤ n ∧ n < 2 ^ 63 then .int (Int64.ofInt n)
    else
      match Binary64.ofRatio (n < 0) n.natAbs 1 with
      | some x => .float x
      | none => .other (.integer n)
  | .float x => .float x
  | .string s => .text s
  | v => .other v

def Numeric.read : Nat → Reader Numeric :=
  .map Numeric.ofJson Json.Read.value

def integerRead (_levels : Nat) : Reader Int64 :=
  Json.Read.int64

def stringRead (_levels : Nat) : Reader String :=
  Json.Read.text "a string"

def Color.read : Nat → Reader Color :=
  .map Color.mk stringRead

section

variable {N : Type} (number : Nat → Reader N)

def Point.read : Nat → Reader (Point N) :=
  .map (fun (x, y, _) => ⟨x, y⟩)
    (record "struct Point" [required "x" number, required "y" number])

def Size.read : Nat → Reader (Size N) :=
  .map (fun (width, height, _) => ⟨width, height⟩)
    (record "struct Size" [required "width" number, required "height" number])

def Crop.read : Nat → Reader (Crop N) :=
  .map (fun (origin, size, _) => ⟨origin, size⟩)
    (record "struct CropInstruction"
      [required "from" (Point.read number), required "size" (Size.read number)])

def Circle.read : Nat → Reader (Circle N) :=
  .map (fun (center, radius, color, _) => ⟨center, radius, color⟩)
    (record "struct Circle"
      [required "from" (Point.read number), required "radius" number, required "color" Color.read])

def Rectangle.read : Nat → Reader (Rectangle N) :=
  .map (fun (corner, size, color, _) => ⟨corner, size, color⟩)
    (record "struct Rectangle"
      [required "from" (Point.read number), required "size" (Size.read number),
        required "color" Color.read])

def Segment.read : Nat → Reader (Segment N) :=
  .map (fun (start, stop, color, _) => ⟨start, stop, color⟩)
    (record "struct Segment"
      [required "from" (Point.read number), required "to" (Point.read number),
        required "color" Color.read])

def Drawing.readBody : Shape → Nat → Reader (Drawing N)
  | .circle => .map .circle (Circle.read number)
  | .rectangle => .map .rectangle (Rectangle.read number)
  | .line => .map .line (Segment.read number)
  | .arrow => .map .arrow (Segment.read number)
  | .gap => .map .gap (Segment.read number)

def Drawing.read : Nat → Reader (Drawing N) :=
  Json.Read.tagged Shape.ofName? (Shape.all.map Shape.name) (Drawing.readBody number)

def Instructions.read : Nat → Reader (Instructions N) :=
  .map (fun (crop, draw, strokeWidth, _) => ⟨crop, draw, strokeWidth⟩)
    (record "struct Instructions"
      [defaulted "crop" (Json.Read.optional (Crop.read number)) none,
        defaulted "draw" (Json.Read.list (Drawing.read number)) [],
        defaulted "strokeWidth" (Json.Read.optional number) none])

def Document.read : Nat → Reader (Document N) :=
  .map (fun (dimensions, finalDimensions, instructions, sourceFile, destinationFile, format, _) =>
      ⟨dimensions, finalDimensions, instructions, sourceFile, destinationFile, format⟩)
    (record "struct InstructionDocument"
      [required "dimensions" (Size.read number), required "finalDimensions" (Size.read number),
        required "instructions" (Instructions.read number), required "sourceFile" stringRead,
        required "destinationFile" stringRead, defaulted "format" stringRead defaultFormat])

end

/-- The text of a document that a renderer receives. -/
def Document.text (d : Document Int64) : String :=
  (d.toJson integerJson).text

/-- The text of a document with the keys of every object in order. -/
def Document.canonical (d : Document Int64) : String :=
  (d.toJson integerJson).canonical

/-- The text of a document as an author may write it. -/
def Document.rawText (d : Document Numeric) : String :=
  (d.toJson Numeric.toJson).text

/-- Reads a document whose numeric fields are integers. -/
def Document.decode (text : String) : Except Json.Located (Document Int64) :=
  Json.decode (Document.read integerRead) text

/-- Reads a document whose numeric fields are free. -/
def Document.decodeRaw (text : String) : Except Json.Located (Document Numeric) :=
  Json.decode (Document.read Numeric.read) text

end PaintScript

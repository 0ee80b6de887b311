import PaintScript.Document.Wire
import PaintScript.Instant.Text
import PaintScript.Sha256

/-!
# Receipts and jobs

A `Receipt` tells what a renderer painted: the hash of the document, the canvas, and one step per
drawing. A `Job` is a document with its receipt.
-/

namespace PaintScript

open Json (Reader)
open Json.Read (required record)

def engineVersion : String :=
  "1.0.0"

/-- A drawing as it is painted, with the value of its color. -/
structure PaintStep where
  shape : String
  color : String
  deriving DecidableEq

/-- What sets one rendering apart from another of the same document. -/
structure Stamp where
  id : String
  completedAt : Instant
  deriving DecidableEq

/-- What a renderer hands back. -/
structure Receipt where
  stamp : Stamp
  documentHash : String
  canvas : Size Int64
  destinationFile : String
  format : String
  steps : List PaintStep
  deriving DecidableEq

structure Job where
  engineVersion : String
  document : Document Int64
  receipt : Receipt
  deriving DecidableEq

/-- The hash of a document, the same for every order of keys. -/
def Document.hash (d : Document Int64) : String :=
  Sha256.ofText d.canonical

def PaintStep.ofDrawing (d : Drawing Int64) : PaintStep :=
  ⟨d.shape.name, d.color.resolved⟩

def Receipt.ofDocument (stamp : Stamp) (d : Document Int64) : Receipt :=
  { stamp
    documentHash := d.hash
    canvas := d.finalDimensions
    destinationFile := d.destinationFile
    format := d.format
    steps := d.instructions.draw.map PaintStep.ofDrawing }

/-! ### Wire form -/

def PaintStep.toJson (s : PaintStep) : Json :=
  .object [("shape", .string s.shape), ("color", .string s.color)]

def Receipt.toJson (r : Receipt) : Json :=
  .object [("id", .string r.stamp.id),
    ("completedAt", .string r.stamp.completedAt.text),
    ("documentHash", .string r.documentHash),
    ("canvas", r.canvas.toJson integerJson),
    ("destinationFile", .string r.destinationFile),
    ("format", .string r.format),
    ("steps", .array (r.steps.map PaintStep.toJson))]

def Job.toJson (j : Job) : Json :=
  .object [("engine_version", .string j.engineVersion),
    ("document", j.document.toJson integerJson),
    ("receipt", j.receipt.toJson)]

def Instant.read (_levels : Nat) : Reader Instant := fun rest => do
  let (s, rest) ← Json.Read.text "an RFC 3339 formatted date and time string" rest
  match Instant.ofText s.toList with
  | .ok t => .ok (t, rest)
  | .error e => Json.stop (.rejected e.message) rest 0

def PaintStep.read : Nat → Reader PaintStep :=
  .map (fun (shape, color, _) => ⟨shape, color⟩)
    (record "struct PaintStep" [required "shape" stringRead, required "color" stringRead])

def Receipt.read : Nat → Reader Receipt :=
  .map (fun (id, completedAt, documentHash, canvas, destinationFile, format, steps, _) =>
      ⟨⟨id, completedAt⟩, documentHash, canvas, destinationFile, format, steps⟩)
    (record "struct RenderReceipt"
      [required "id" stringRead, required "completedAt" Instant.read,
        required "documentHash" stringRead, required "canvas" (Size.read integerRead),
        required "destinationFile" stringRead, required "format" stringRead,
        required "steps" (Json.Read.list PaintStep.read)])

def Job.read : Nat → Reader Job :=
  .map (fun (engineVersion, document, receipt, _) => ⟨engineVersion, document, receipt⟩)
    (record "struct CompiledJob"
      [required "engine_version" stringRead, required "document" (Document.read integerRead),
        required "receipt" Receipt.read])

def Job.text (j : Job) : String :=
  j.toJson.text

def Job.decode (text : String) : Except Json.Located Job :=
  Json.decode Job.read text

end PaintScript

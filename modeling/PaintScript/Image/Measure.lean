import PaintScript.Image.Folder
import PaintScript.Image.Header
import PaintScript.Pipeline
import PaintScript.Text.Quoted

/-!
# Measuring images

`measure` chooses the kind of image by the extension of the file name and reads the size from the
header of the file. `Folder.probe` does so for the images in a folder.
-/

namespace PaintScript.Image

/-- The extension of a path: what follows the last dot in its last name, if there is something on
both sides of the dot. -/
def extension? (path : String) : Option String := do
  let name ← (names path).getLast?
  let after := name.toList.reverse.takeWhile (· ≠ '.')
  let before := name.toList.reverse.drop (after.length + 1)
  if name = ".." ∨ after.isEmpty ∨ before.isEmpty then none else some (String.ofList after.reverse)

def formatOf (path : String) : Except String Format :=
  match extension? path with
  | none => .error "The image format could not be determined"
  | some extension =>
    match Format.ofExtension? extension with
    | some format => .ok format
    | none =>
      .error ("The file extension `." ++ String.ofList (Text.quoted extension.toList) ++
        "` was not recognized as an image format")

/-- The size of the image in a file that was found, or not, at a path. A directory can be opened as
well, and fails only when it is read. -/
def measure (path : String) (file : Except OpenError (List UInt8)) :
    Except ProbeError (Size Int64) :=
  let answer : Except String (Size Int64) :=
    match file with
    | .error .isDirectory => do
      let _ ← formatOf path
      .error OpenError.isDirectory.message
    | .error e => .error e.message
    | .ok content => do
      let format ← formatOf path
      let (width, height) ← (size format content).mapError HeaderFault.message
      .ok ⟨Int64.ofNat width, Int64.ofNat height⟩
  answer.mapError (⟨path, ·⟩)

def Folder.probe (folder : Folder) : Probe :=
  fun path => measure path (folder.find path)

end PaintScript.Image

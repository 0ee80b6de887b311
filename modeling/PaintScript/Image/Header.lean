import PaintScript.Image.Bitmap
import PaintScript.Image.Format
import PaintScript.Image.PortableMap

/-!
# Image headers

`size` reads the width and the height of an image from the start of its file. The kinds of files
that it reads are PNG, BMP, GIF and the portable maps.
-/

namespace PaintScript.Image

inductive HeaderFault
  | unreadable
  | unsupportedKind (name : String)
  | unfinished
  | noPngSignature
  | noGifSignature
  | memoryLimit
  | bitmap (fault : BitmapFault)
  | portableMap (fault : PortableMapFault)
  deriving DecidableEq

def HeaderFault.message : HeaderFault → String
  | .unreadable => "The image header could not be read"
  | .unsupportedKind name => "The image format " ++ name ++ " is not supported"
  | .unfinished => "unexpected end of file"
  | .noPngSignature => malformed "Png" "Invalid PNG signature."
  | .noGifSignature => malformed "Gif" "malformed GIF header"
  | .memoryLimit => "Memory limit exceeded"
  | .bitmap fault => fault.message
  | .portableMap fault => fault.message

/-- The bytes from `start` on, which have to be there. -/
def slice (content : List UInt8) (start count : Nat) : Except HeaderFault (List UInt8) :=
  match slice? content start count with
  | some bytes => .ok bytes
  | none => .error .unfinished

/-! ### PNG files -/

/-- The names of the first chunks, up to the ones that hold pixels. -/
def chunkNames : Nat → List UInt8 → List String
  | 0, _ => []
  | fuel + 1, content =>
    match slice? content 0 8 with
    | none => []
    | some start =>
      let name := String.ofList ((start.drop 4).map fun b => Char.ofNat b.toNat)
      if name = "IDAT" then []
      else name :: chunkNames fuel (content.drop (bigEndian (start.take 4) + 12))

def rowLimit : Nat :=
  2 ^ 29

/-- The number of bytes of a row of pixels. A sample takes whole bytes, and a color of a palette has
three samples, or four. -/
def rowBytes (width depth color : Nat) (transparent : Bool) : Nat :=
  let samples := match color with
    | 0 => if transparent then 2 else 1
    | 4 => 2
    | 6 => 4
    | _ => if transparent then 4 else 3
  width * samples * (if depth = 16 then 2 else 1)

def pngSignature : List UInt8 :=
  [0x89, 0x50, 0x4e, 0x47, 0x0d, 0x0a, 0x1a, 0x0a]

/-- Whether a PNG file names transparent colors. -/
def isTransparent (content : List UInt8) : Bool :=
  "tRNS" ∈ chunkNames content.length (content.drop pngSignature.length)

/-- The size in the first chunk of a PNG file. A row of pixels has to fit into memory. -/
def pngSize (content : List UInt8) : Except HeaderFault (Nat × Nat) := do
  if (← slice content 0 8) ≠ pngSignature then .error .noPngSignature
  else
    let width := bigEndian (← slice content 16 4)
    let height := bigEndian (← slice content 20 4)
    let depth := bigEndian (← slice content 24 1)
    let color := bigEndian (← slice content 25 1)
    if rowLimit < rowBytes width depth color (isTransparent content) then .error .memoryLimit
    else return (width, height)

/-! ### GIF files -/

def gifSignatures : List (List UInt8) :=
  [[0x47, 0x49, 0x46, 0x38, 0x37, 0x61], [0x47, 0x49, 0x46, 0x38, 0x39, 0x61]]

/-- The size of the logical screen of a GIF file. -/
def gifSize (content : List UInt8) : Except HeaderFault (Nat × Nat) := do
  if (← slice content 0 6) ∉ gifSignatures then .error .noGifSignature
  else
    let width := littleEndian (← slice content 6 2)
    let height := littleEndian (← slice content 8 2)
    return (width, height)

/-! ### All kinds of files -/

def size (format : Format) (content : List UInt8) : Except HeaderFault (Nat × Nat) :=
  match format with
  | .png => pngSize content
  | .bmp => (Bitmap.size content).mapError .bitmap
  | .gif => gifSize content
  | .portableMap => (PortableMap.size content).mapError .portableMap
  | .avif => .error (.unsupportedKind "Avif")
  | _ => .error .unreadable

end PaintScript.Image

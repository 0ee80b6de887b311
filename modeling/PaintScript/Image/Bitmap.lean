import PaintScript.Image.Bytes
import PaintScript.Image.Wording

/-!
# Bitmap files

`Bitmap.size` reads the two headers of a BMP file, and whatever follows them before the pixels. The
headers are checked on the way, and the first fault counts.
-/

namespace PaintScript.Image

inductive PixelCoding
  | plain
  | runs8
  | runs4
  | masks
  deriving DecidableEq

def PixelCoding.name : PixelCoding → String
  | .plain => "RGB"
  | .runs8 => "RLE8"
  | .runs4 => "RLE4"
  | .masks => "bitfields"

inductive BitmapFault
  | truncated
  | noSignature
  | smallHeader (length : Nat)
  | unknownHeader (length : Nat)
  | negativeWidth (width : Int)
  | tooLarge (width height : Int)
  | lowestHeight
  | noPixels (width height : Nat)
  | severalPlanes
  | pixelBits (coding : PixelCoding) (bits : Nat)
  | fromTop (compression : Nat)
  | otherCoding (name : String)
  | unknownCoding (compression : Nat)
  | maskWithGaps
  | maskTooLong
  | maskMissing (bits : Nat)
  | largePalette (colors bits : Nat)
  deriving DecidableEq

namespace BitmapFault

def message : BitmapFault → String
  | .truncated => "failed to fill whole buffer"
  | .noSignature => malformed kind "BMP signature not found"
  | .smallHeader length => malformed kind ("Bitmap header too small (" ++ shown length ++ " bytes)")
  | .unknownHeader length =>
    unsupported kind ("Unknown bitmap header type (size=" ++ shown length ++ ")")
  | .negativeWidth width => malformed kind ("Negative width (" ++ shownInteger width ++ ")")
  | .tooLarge width height =>
    malformed kind ("Image too large (one of (" ++ shownInteger width ++ ", " ++
      shownInteger height ++ ") > soft limit of 65535)")
  | .lowestHeight => malformed kind "Invalid height"
  | .noPixels width height =>
    unsupported kind ("Image dimensions (" ++ shown width ++ "x" ++ shown height ++
      " w/3 channels) are too large")
  | .severalPlanes => malformed kind "More than one plane"
  | .pixelBits coding bits =>
    malformed kind ("Invalid channel bit count for " ++ coding.name ++ ": " ++ shown bits)
  | .fromTop compression =>
    malformed kind ("Invalid image type " ++ shown compression ++ " for top-down image.")
  | .otherCoding name => unsupported kind name
  | .unknownCoding compression =>
    malformed kind ("Unknown image compression type " ++ shown compression)
  | .maskWithGaps => malformed kind "Non-contiguous bitfield mask"
  | .maskTooLong => malformed kind "Invalid bitfield mask"
  | .maskMissing bits => malformed kind ("Missing " ++ shown bits ++ "-bit bitfield mask")
  | .largePalette colors bits =>
    malformed kind ("Palette size " ++ shown colors ++
      " exceeds maximum size for BMP with bit count of " ++ shown bits)
where
  /-- The kind of file. -/
  kind : String := "Bmp"

end BitmapFault

namespace Bitmap

def number (content : List UInt8) (start count : Nat) : Except BitmapFault Nat :=
  match slice? content start count with
  | some bytes => .ok (littleEndian bytes)
  | none => .error .truncated

def signedNumber (content : List UInt8) (start : Nat) : Except BitmapFault Int := do
  return Int.bmod (← number content start 4) (2 ^ 32)

def check (condition : Bool) (fault : BitmapFault) : Except BitmapFault Unit :=
  if condition then .ok () else .error fault

/-- The lengths of the second header that come with 32-bit numbers. -/
def longHeaders : List Nat :=
  [40, 52, 56, 108, 124]

/-- The lengths of the second header that hold a mask for opacity. -/
def alphaHeaders : List Nat :=
  [56, 108, 124]

/-- The greatest width, and height of an image that is stored from the bottom. -/
def lengthLimit : Int :=
  65535

def checkArea (width height : Nat) : Except BitmapFault Unit :=
  check (0 < width && 0 < height) (.noPixels width height)

/-- Checks that a palette is there. Colors beyond the first 256 are not looked at. -/
def checkPalette (content : List UInt8) (start bytesPerColor colors bits : Nat) :
    Except BitmapFault Unit := do
  check (colors ≤ 2 ^ bits) (.largePalette colors bits)
  let colors := if colors = 0 then 2 ^ bits else colors
  check (slice? content start (min colors 256 * bytesPerColor)).isSome .truncated

/-- Checks that the bits of a mask stand side by side, below the given width. -/
def checkMask (width mask : Nat) : Except BitmapFault Unit := do
  let withoutLowest := mask &&& (mask - 1)
  let run := mask / (mask - withoutLowest)
  check (mask = 0 || run &&& (run + 1) = 0) .maskWithGaps
  check (mask < 2 ^ width) .maskTooLong

def checkMasks (content : List UInt8) (headerLength width : Nat) : Except BitmapFault Unit := do
  let colors ← [54, 58, 62].mapM (number content · 4)
  let alpha ← if headerLength ∈ alphaHeaders then number content 66 4 else .ok 0
  (colors ++ [alpha]).forM (checkMask width)
  check (colors.all (· ≠ 0)) (.maskMissing width)

def coding (compression bits : Nat) : Except BitmapFault PixelCoding :=
  match compression with
  | 0 => among .plain [1, 2, 4, 8, 16, 24, 32]
  | 1 => among .runs8 [8]
  | 2 => among .runs4 [4]
  | 3 => among .masks [16, 32]
  | 4 => .error (.otherCoding "JPEG compression")
  | 5 => .error (.otherCoding "PNG compression")
  | 11 | 12 | 13 => .error (.otherCoding "CMYK format")
  | _ => .error (.unknownCoding compression)
where
  /-- A coding that goes with some numbers of bits for a pixel. -/
  among (coding : PixelCoding) (allowed : List Nat) : Except BitmapFault PixelCoding :=
    if bits ∈ allowed then .ok coding else .error (.pixelBits coding bits)

/-- The size in the oldest header, which has 16-bit numbers. -/
def shortSize (content : List UInt8) : Except BitmapFault (Nat × Nat) := do
  let width ← number content 18 2
  let height ← number content 20 2
  checkArea width height
  check ((← number content 22 2) = 1) .severalPlanes
  let bits ← number content 24 2
  check (bits ∈ [1, 4, 8, 24]) (.pixelBits .plain bits)
  if bits ≤ 8 then checkPalette content 26 3 0 bits
  return (width, height)

/-- The size in a header with 32-bit numbers. The height is negative when the rows are stored from
the top. -/
def longSize (content : List UInt8) (headerLength : Nat) : Except BitmapFault (Nat × Nat) := do
  let width ← signedNumber content 18
  let height ← signedNumber content 22
  check (0 ≤ width) (.negativeWidth width)
  check (width ≤ lengthLimit && height ≤ lengthLimit) (.tooLarge width height)
  check (height ≠ -2 ^ 31) .lowestHeight
  checkArea width.toNat height.natAbs
  check ((← number content 26 2) = 1) .severalPlanes
  let bits ← number content 28 2
  let compression ← number content 30 4
  check (0 ≤ height || compression ∈ [0, 3]) (.fromTop compression)
  let coding ← coding compression bits
  let colors ← number content 46 4
  -- The number of important colors, which is not needed.
  let _ ← number content 50 4
  if coding = .masks then checkMasks content headerLength bits
  else if bits ≤ 8 then checkPalette content (14 + headerLength) 4 colors bits
  return (width.toNat, height.natAbs)

def size (content : List UInt8) : Except BitmapFault (Nat × Nat) := do
  check ((← number content 0 2) = 0x4d42) .noSignature
  -- Where the pixels start, which is not needed.
  let _ ← number content 10 4
  let headerLength ← number content 14 4
  if headerLength = 12 then shortSize content
  else if headerLength ∈ longHeaders then longSize content headerLength
  else if headerLength < 12 then .error (.smallHeader headerLength)
  else .error (.unknownHeader headerLength)

end Bitmap
end PaintScript.Image

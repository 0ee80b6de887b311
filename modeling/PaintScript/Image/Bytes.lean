/-!
# Numbers in files

`slice?` takes bytes out of a file, and `bigEndian` and `littleEndian` read them as a number.
-/

namespace PaintScript.Image

/-- The number that bytes stand for, the most significant byte first. -/
def bigEndian (bytes : List UInt8) : Nat :=
  bytes.foldl (fun n b => n * 256 + b.toNat) 0

/-- The number that bytes stand for, the least significant byte first. -/
def littleEndian (bytes : List UInt8) : Nat :=
  bigEndian bytes.reverse

/-- The bytes from `start` on, if there are that many. -/
def slice? (content : List UInt8) (start count : Nat) : Option (List UInt8) :=
  let bytes := (content.drop start).take count
  if bytes.length = count then some bytes else none

end PaintScript.Image

import PaintScript.Image.Wording
import PaintScript.Text.Quoted

/-!
# Portable map files

`PortableMap.size` reads the header of a portable map. The first six kinds have their numbers in
order, among blanks and comments; the last kind names its numbers, one in a line.
-/

namespace PaintScript.Image

inductive NumeralFault
  | empty
  | invalidDigit
  | tooLarge
  deriving DecidableEq

/-- What the samples of a pixel stand for. -/
inductive TupleType
  | blackAndWhite
  | blackAndWhiteAlpha
  | grayscale
  | grayscaleAlpha
  | rgb
  | rgbAlpha
  deriving DecidableEq

inductive HeaderLine
  | height
  | width
  | depth
  | maxval
  deriving DecidableEq

/-- A header that names its numbers, as far as it was read. -/
structure NamedHeader where
  height : Option Nat
  width : Option Nat
  depth : Option Nat
  maxval : Option Nat
  tuple : Option (List Char)
  deriving DecidableEq

inductive PortableMapFault
  | truncated
  | unfinished
  | noSignature (first second : UInt8)
  | foreignByte (b : UInt8)
  | badNumber (token : List Char) (line : Option HeaderLine) (fault : NumeralFault)
  | noLine (b : UInt8)
  | unfinishedHeader
  | invalidText
  | foreignLine
  | repeatedLine (line : HeaderLine)
  | unknownLine (name : List Char)
  | missingLine (header : NamedHeader)
  | maxvalZero
  | maxvalTooLarge (maxval : Nat)
  | badDepthOrMaxval (tuple : TupleType) (depth maxval : Nat)
  | badDepth (tuple : TupleType) (depth : Nat)
  | noTuple
  | otherTuple (name : List Char)
  | tooLarge (width height : Nat)
  deriving DecidableEq

/-! ### Wording -/

def NumeralFault.message : NumeralFault → String
  | .empty => "cannot parse integer from empty string"
  | .invalidDigit => "invalid digit found in string"
  | .tooLarge => "number too large to fit in target type"

def TupleType.name : TupleType → String
  | .blackAndWhite => "BLACKANDWHITE"
  | .blackAndWhiteAlpha => "BLACKANDWHITE_ALPHA"
  | .grayscale => "GRAYSCALE"
  | .grayscaleAlpha => "GRAYSCALE_ALPHA"
  | .rgb => "RGB"
  | .rgbAlpha => "RGB_ALPHA"

def HeaderLine.name : HeaderLine → String
  | .height => "HEIGHT"
  | .width => "WIDTH"
  | .depth => "DEPTH"
  | .maxval => "MAXVAL"

namespace PortableMapFault

def hexByte (b : UInt8) : String :=
  let digits := (Nat.toDigits 16 b.toNat).map Char.toUpper
  "0x" ++ String.ofList (List.replicate (2 - digits.length) '0' ++ digits)

def quoted (text : List Char) : String :=
  String.ofList (Text.quoted text)

def found : Option Nat → String
  | some n => "Some(" ++ shown n ++ ")"
  | none => "None"

def message : PortableMapFault → String
  | .truncated => "failed to fill whole buffer"
  | .unfinished => "unexpected end of file"
  | .noSignature first second =>
    malformed kind ("Expected magic constant for PNM: P1..P7, got [" ++ hexByte first ++ ", " ++
      hexByte second ++ "]")
  | .foreignByte b => malformed kind ("Non-ASCII character " ++ hexByte b ++ " in header")
  | .badNumber token line fault =>
    malformed kind ("Error parsing " ++ quoted token ++ " as " ++
      ((line.map HeaderLine.name).getD "number in preamble") ++ ": " ++ fault.message)
  | .noLine b => malformed kind ("Expected newline after P7 magic, got " ++ hexByte b)
  | .unfinishedHeader => malformed kind "Unexpected end of PNM header"
  | .invalidText => "stream did not contain valid UTF-8"
  | .foreignLine => malformed kind "Non-ASCII line in PAM header"
  | .repeatedLine line => malformed kind ("Duplicate " ++ line.name ++ " line")
  | .unknownLine name => malformed kind ("Unknown header line with identifier " ++ quoted name)
  | .missingLine header =>
    malformed kind ("Missing header line: have height=" ++ found header.height ++ ", width=" ++
      found header.width ++ ", depth=" ++ found header.depth ++ ", maxval=" ++
      found header.maxval)
  | .maxvalZero => malformed kind "Image MAXVAL is zero"
  | .maxvalTooLarge maxval => malformed kind ("Image MAXVAL exceeds 65535: " ++ shown maxval)
  | .badDepthOrMaxval tuple depth maxval =>
    malformed kind ("Invalid depth (" ++ shown depth ++ ") or maxval (" ++ shown maxval ++
      ") for tuple type " ++ tuple.name)
  | .badDepth tuple depth =>
    malformed kind ("Invalid depth (" ++ shown depth ++ ") for tuple type " ++ tuple.name)
  | .noTuple => malformed kind "Tuple type not recognized"
  | .otherTuple name => unsupported kind ("Tuple type " ++ quoted name)
  | .tooLarge width height =>
    unsupported kind ("Image dimensions (" ++ shown width ++ "x" ++ shown height ++
      ") are too large")
where
  /-- The kind of file. -/
  kind : String := "Pnm"

end PortableMapFault

namespace PortableMap

/-! ### Numbers -/

def characters (bytes : List UInt8) : List Char :=
  bytes.map fun b => Char.ofNat b.toNat

/-- The number that decimal digits stand for. A plus sign may come before them. -/
def natural32 (token : List Char) : Except NumeralFault Nat :=
  match token with
  | [] => .error .empty
  | ['+'] => .error .invalidDigit
  | '+' :: digits => digits.foldlM digit 0
  | digits => digits.foldlM digit 0
where
  /-- Appends a digit to a number. -/
  digit (n : Nat) (c : Char) : Except NumeralFault Nat :=
    if !c.isDigit then .error .invalidDigit
    else
      let n := n * 10 + (c.toNat - '0'.toNat)
      if n < 2 ^ 32 then .ok n else .error .tooLarge

/-! ### Numbers in order -/

/-- Whether a byte separates tokens. -/
def isGap (b : UInt8) : Bool :=
  b = 0x20 || (0x09 ≤ b && b ≤ 0x0d)

def isLineEnd (b : UInt8) : Bool :=
  b = 0x0a || b = 0x0d

/-- Reads the next token of a header, of which `taken` holds the bytes so far, the last one first. A
comment goes from a number sign to the end of the line and may also stand inside a token. -/
def token (inComment : Bool) (taken : List UInt8) :
    List UInt8 → Except PortableMapFault (List UInt8 × List UInt8)
  | [] => if taken.isEmpty then .error .unfinished else .ok (taken.reverse, [])
  | b :: rest =>
    if inComment then token (!isLineEnd b) taken rest
    else if b = 0x23 then token true taken rest
    else if isGap b then
      if taken.isEmpty then token false taken rest else .ok (taken.reverse, rest)
    else if 0x80 ≤ b then .error (.foreignByte b)
    else token false (b :: taken) rest

def nextNumber (header : List UInt8) : Except PortableMapFault (Nat × List UInt8) := do
  let (bytes, rest) ← token false [] header
  let text := characters bytes
  let n ← (natural32 text).mapError (.badNumber text none)
  return (n, rest)

/-- The size of an image whose pixels take the given number of bytes. The size of all of them has to
fit into 64 bits. -/
def checked (width height bytes : Nat) : Except PortableMapFault (Nat × Nat) :=
  if (2 ^ 64 - 1) / bytes < width * height then .error (.tooLarge width height)
  else .ok (width, height)

def sampleBytes (maxval : Nat) : Nat :=
  if maxval ≤ 255 then 1 else 2

def bilevelSize (header : List UInt8) : Except PortableMapFault (Nat × Nat) := do
  let (width, header) ← nextNumber header
  let (height, _) ← nextNumber header
  checked width height 1

/-- The size in a header with the greatest sample, for pixels with `depth` samples. -/
def samplesSize (depth : Nat) (header : List UInt8) : Except PortableMapFault (Nat × Nat) := do
  let (width, header) ← nextNumber header
  let (height, header) ← nextNumber header
  let (maxval, _) ← nextNumber header
  if maxval = 0 then .error .maxvalZero
  else if 65535 < maxval then .error (.maxvalTooLarge maxval)
  else checked width height (depth * sampleBytes maxval)

/-! ### Named numbers -/

/-- The lines of a text, each with the byte that ends it. -/
def lines (content : List UInt8) : List (List UInt8) :=
  let parts := content.splitOn 0x0a
  parts.dropLast.map (· ++ [0x0a]) ++ parts.getLast?.toList.filter (!·.isEmpty)

/-- Reads the number of a line that must not come twice. -/
def lineNumber (line : HeaderLine) (before : Option Nat) (rest : List Char) :
    Except PortableMapFault (Option Nat) := do
  if before.isSome then .error (.repeatedLine line)
  else
    let n ← (natural32 (Text.trim rest)).mapError (.badNumber rest (some line))
    return some n

/-- Reads a line of a header. Nothing is left to read after the last one. -/
def readLine (header : NamedHeader) (line : List UInt8) :
    Except PortableMapFault (Option NamedHeader) := do
  let isName (c : Char) : Bool := !Text.isBlank c
  let name := (characters line).takeWhile isName
  let rest := (characters line).dropWhile isName
  if !ByteArray.validateUTF8 ⟨line.toArray⟩ then .error .invalidText
  else if line.head? = some 0x23 then return some header
  else if line.any (0x80 ≤ ·) then .error .foreignLine
  else
    match String.ofList name with
    | "ENDHDR" => return none
    | "HEIGHT" => return some { header with height := ← lineNumber .height header.height rest }
    | "WIDTH" => return some { header with width := ← lineNumber .width header.width rest }
    | "DEPTH" => return some { header with depth := ← lineNumber .depth header.depth rest }
    | "MAXVAL" => return some { header with maxval := ← lineNumber .maxval header.maxval rest }
    | "TUPLTYPE" =>
      let words := header.tuple.toList ++ [Text.trim rest]
      return some { header with tuple := some ([' '].intercalate words) }
    | _ => .error (.unknownLine name)

def readLines : NamedHeader → List (List UInt8) → Except PortableMapFault NamedHeader
  | _, [] => .error .unfinishedHeader
  | header, line :: rest => do
    match ← readLine header line with
    | none => return header
    | some header => readLines header rest

def tupleTypes : List TupleType :=
  [.blackAndWhite, .blackAndWhiteAlpha, .grayscale, .grayscaleAlpha, .rgb, .rgbAlpha]

def samples : TupleType → Nat
  | .blackAndWhite | .grayscale => 1
  | .blackAndWhiteAlpha | .grayscaleAlpha => 2
  | .rgb => 3
  | .rgbAlpha => 4

def allowsMaxval (tuple : TupleType) (maxval : Nat) : Bool :=
  match tuple with
  | .blackAndWhite | .blackAndWhiteAlpha => maxval = 1
  | _ => maxval ≤ 65535

def pixelBytes (tuple : Option (List Char)) (depth maxval : Nat) : Except PortableMapFault Nat :=
  match tuple with
  | none => if 1 ≤ depth ∧ depth ≤ 4 then .ok depth else .error .noTuple
  | some name =>
    match tupleTypes.find? fun tuple => tuple.name = String.ofList name with
    | none => .error (.otherTuple name)
    | some tuple =>
      if depth = samples tuple && allowsMaxval tuple maxval then .ok (depth * sampleBytes maxval)
      else if tuple = .rgb ∨ tuple = .rgbAlpha then .error (.badDepth tuple depth)
      else .error (.badDepthOrMaxval tuple depth maxval)

def namedSize (content : List UInt8) : Except PortableMapFault (Nat × Nat) := do
  let header ← readLines ⟨none, none, none, none, none⟩ (lines content)
  match header with
  | ⟨some height, some width, some depth, some maxval, tuple⟩ =>
    checked width height (← pixelBytes tuple depth maxval)
  | header => .error (.missingLine header)

def size (content : List UInt8) : Except PortableMapFault (Nat × Nat) :=
  match content with
  | 0x50 :: 0x37 :: header =>
    match header with
    | [] => .error .unfinished
    | 0x0a :: header => namedSize header
    | b :: _ => .error (.noLine b)
  | first :: kind :: header =>
    if first ≠ 0x50 then .error (.noSignature first kind)
    else if kind = 0x31 ∨ kind = 0x34 then bilevelSize header
    else if kind = 0x32 ∨ kind = 0x35 then samplesSize 1 header
    else if kind = 0x33 ∨ kind = 0x36 then samplesSize 3 header
    else .error (.noSignature first kind)
  | _ => .error .truncated

end PortableMap
end PaintScript.Image

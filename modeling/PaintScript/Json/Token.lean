import PaintScript.Binary64.Rounding
import PaintScript.Json.Basic
import PaintScript.Json.Fault

/-!
# The tokens of a JSON text

Each function reads one token from the front of a text and returns it with what follows. Loops are
bounded by the length of the text.
-/

namespace PaintScript.Json.Read

/-- The four characters that may stand between tokens. -/
def isSpace (c : Char) : Bool :=
  c == ' ' || c == '\t' || c == '\n' || c == '\r'

def dropSpace (rest : List Char) : List Char :=
  rest.dropWhile isSpace

def literal : List Char → List Char → Except Fault (List Char)
  | [], rest => .ok rest
  | _ :: _, [] => stop (.unfinished .value) [] 0
  | c :: cs, d :: rest => if c = d then literal cs rest else stop .expectedLiteral (d :: rest) 1

/-! ### Strings -/

def hexDigit? (c : Char) : Option Nat :=
  if '0' ≤ c ∧ c ≤ '9' then some (c.toNat - '0'.toNat)
  else if 'a' ≤ c ∧ c ≤ 'f' then some (c.toNat - 'a'.toNat + 10)
  else if 'A' ≤ c ∧ c ≤ 'F' then some (c.toNat - 'A'.toNat + 10)
  else none

def hexQuad? (a b c d : Char) : Option Nat := do
  let a ← hexDigit? a
  let b ← hexDigit? b
  let c ← hexDigit? c
  let d ← hexDigit? d
  return ((a * 16 + b) * 16 + c) * 16 + d

/-- Fails on four bytes that are no hexadecimal digits, or on the end of the text before them. -/
def badQuad {α : Type} (rest : List Char) : Except Fault α :=
  if byteSize rest < 4 then stop (.unfinished .string) [] 0 else stop .invalidEscape rest 4

def hexQuad (rest : List Char) : Except Fault (Nat × List Char) :=
  match rest with
  | a :: b :: c :: d :: tail =>
    match hexQuad? a b c d with
    | some n => .ok (n, tail)
    | none => badQuad rest
  | _ => badQuad rest

/-- Reads one character inside an escaped pair. -/
def pairChar (expected : Char) : List Char → Except Fault (List Char)
  | [] => stop (.unfinished .string) [] 0
  | c :: rest => if c = expected then .ok rest else stop .unpairedSurrogate (c :: rest) 1

/-- Reads the digits of a code point. One above `0xFFFF` is written as two surrogates. -/
def codePoint (rest : List Char) : Except Fault (Char × List Char) := do
  let (high, rest) ← hexQuad rest
  if 0xDC00 ≤ high ∧ high ≤ 0xDFFF then stop .loneSurrogate rest 0
  else if 0xD800 ≤ high ∧ high ≤ 0xDBFF then do
    let rest ← pairChar '\\' rest
    let rest ← pairChar 'u' rest
    let (low, rest) ← hexQuad rest
    if 0xDC00 ≤ low ∧ low ≤ 0xDFFF then
      .ok (Char.ofNat (0x10000 + (high - 0xD800) * 0x400 + (low - 0xDC00)), rest)
    else stop .loneSurrogate rest 0
  else .ok (Char.ofNat high, rest)

/-- The character that a backslash and one letter stand for. -/
def shortEscape? (c : Char) : Option Char :=
  match c with
  | '"' => some '"'
  | '\\' => some '\\'
  | '/' => some '/'
  | 'b' => some '\x08'
  | 'f' => some '\x0c'
  | 'n' => some '\n'
  | 'r' => some '\r'
  | 't' => some '\t'
  | _ => none

def escaped : List Char → Except Fault (Char × List Char)
  | [] => stop (.unfinished .string) [] 0
  | c :: rest =>
    if c = 'u' then codePoint rest
    else
      match shortEscape? c with
      | some d => .ok (d, rest)
      | none => stop .invalidEscape (c :: rest) 1

def stringBody : Nat → List Char → Except Fault (List Char × List Char)
  | _, [] => stop (.unfinished .string) [] 0
  | 0, rest => stop (.unfinished .string) rest 0
  | fuel + 1, c :: rest =>
    if c = '"' then .ok ([], rest)
    else if c = '\\' then do
      let (d, rest) ← escaped rest
      let (s, rest) ← stringBody fuel rest
      .ok (d :: s, rest)
    else if c.toNat < 0x20 then stop .controlCharacter (c :: rest) 1
    else do
      let (s, rest) ← stringBody fuel rest
      .ok (c :: s, rest)

def string (rest : List Char) : Except Fault (String × List Char) := do
  let (s, rest) ← stringBody rest.length rest
  .ok (String.ofList s, rest)

/-! ### Numbers -/

/-- The value of a number: an integer or a finite floating-point number. -/
inductive Number
  | integer (n : Int)
  | float (x : Binary64)
  deriving DecidableEq

def Number.toJson : Number → Json
  | .integer n => .integer n
  | .float x => .float x

/-- A number as it is written. -/
structure Numeral where
  negative : Bool
  whole : List Char
  fraction : Option (List Char)
  exponent : Option (Bool × List Char)

/-- Reads the digits before the point. A zero stands alone. -/
def wholePart (ended : Cause) : List Char → Except Fault (List Char × List Char)
  | [] => stop ended [] 0
  | c :: rest =>
    if c = '0' then
      match rest with
      | d :: _ => if d.isDigit then stop .invalidNumber rest 1 else .ok (['0'], rest)
      | [] => .ok (['0'], rest)
    else if c.isDigit then
      .ok ((c :: rest).takeWhile Char.isDigit, (c :: rest).dropWhile Char.isDigit)
    else stop .invalidNumber (c :: rest) 1

def someDigits (ended : Cause) (rest : List Char) : Except Fault (List Char × List Char) :=
  match rest.takeWhile Char.isDigit, rest.dropWhile Char.isDigit with
  | [], [] => stop ended [] 0
  | [], rest => stop .invalidNumber rest 1
  | digits, rest => .ok (digits, rest)

def fractionPart (ended : Cause) : List Char → Except Fault (Option (List Char) × List Char)
  | '.' :: rest => do
    let (digits, rest) ← someDigits ended rest
    .ok (some digits, rest)
  | rest => .ok (none, rest)

def exponentPart (ended : Cause) :
    List Char → Except Fault (Option (Bool × List Char) × List Char)
  | c :: rest =>
    if c = 'e' ∨ c = 'E' then do
      let (negative, rest) := Text.takeSign rest
      let (digits, rest) ← someDigits ended rest
      .ok (some (negative, digits), rest)
    else .ok (none, c :: rest)
  | [] => .ok (none, [])

/-- Reads a number. The cause `ended` is given if the text ends where a digit has to stand. -/
def numeral (ended : Cause) (rest : List Char) : Except Fault (Numeral × List Char) := do
  let (negative, rest) := match rest with
    | '-' :: rest => (true, rest)
    | rest => (false, rest)
  let (whole, rest) ← wholePart ended rest
  let (fraction, rest) ← fractionPart ended rest
  let (exponent, rest) ← exponentPart ended rest
  .ok (⟨negative, whole, fraction, exponent⟩, rest)

/-- The exponent of a numeral. -/
def Numeral.power (n : Numeral) : Int :=
  match n.exponent with
  | none => 0
  | some (negative, digits) => Text.signed negative (Text.naturalOf digits)

/-- Appends digits to a significand for as long as it stays below `2 ^ 64`, and counts them. -/
def appendDigits (significand : Nat) : List Char → Nat × Nat
  | [] => (significand, 0)
  | d :: rest =>
    let next := 10 * significand + (d.toNat - '0'.toNat)
    if next < 2 ^ 64 then
      let (significand, taken) := appendDigits next rest
      (significand, taken + 1)
    else (significand, 0)

/-- The floating-point number that a numeral is read as, unless it is too large. Digits that the
significand has no room for only count before the point, where each is a factor of ten. -/
def Numeral.toBinary64? (n : Numeral) : Option Binary64 :=
  let (significand, whole) := appendDigits 0 n.whole
  let (significand, fraction) := appendDigits significand (n.fraction.getD [])
  Binary64.ofDecimal n.negative significand (n.power + (n.whole.length - whole : Nat) - fraction)

/-- The value of a numeral: an integer between `-2 ^ 63` and `2 ^ 64 - 1` if it is written as one,
otherwise a floating-point number. A negative zero is a floating-point number. -/
def Numeral.value? (n : Numeral) : Option Number :=
  let magnitude := Text.naturalOf n.whole
  let isInteger := n.fraction.isNone && n.exponent.isNone &&
    (if n.negative then 0 < magnitude && magnitude ≤ 2 ^ 63 else magnitude < 2 ^ 64)
  if isInteger then some (.integer (Text.signed n.negative magnitude))
  else n.toBinary64?.map .float

/-- How many digits follow the one that takes an exponent above `limit`. -/
def digitsBeyond (limit : Nat) (value : Nat) : List Char → Nat
  | [] => 0
  | d :: rest =>
    let next := 10 * value + (d.toNat - '0'.toNat)
    if limit < next then rest.length else digitsBeyond limit next rest

/-- Reads a number. One that is too large is refused after its last digit, or within an exponent
that itself exceeds 31 bits. -/
def number (rest : List Char) : Except Fault (Number × List Char) := do
  let (n, rest) ← numeral (.unfinished .value) rest
  match n.value? with
  | some v => .ok (v, rest)
  | none =>
    let unread := match n.exponent with
      | some (_, digits) => digitsBeyond (2 ^ 31 - 1) 0 digits
      | none => 0
    .error ⟨.numberOutOfRange, byteSize rest + unread⟩

end PaintScript.Json.Read

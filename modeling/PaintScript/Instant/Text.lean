import PaintScript.Instant.Basic
import PaintScript.Text.Decimal

/-!
# Instants as text

`Instant.text` writes the form of RFC 3339 in Coordinated Universal Time, with the fewest of 0, 3, 6
or 9 digits after the point that lose nothing. `Instant.ofText` reads any offset, blanks between
the parts, and fractions of any length.
-/

namespace PaintScript

inductive TimeFault
  | invalid
  | tooShort
  | tooLong
  | outOfRange
  | impossible
  deriving DecidableEq

def TimeFault.message : TimeFault → String
  | .invalid => "input contains invalid characters"
  | .tooShort => "premature end of input"
  | .tooLong => "trailing input"
  | .outOfRange => "input is out of range"
  | .impossible => "no possible date and time matching input"

namespace Instant

/-! ### Writing -/

def zeroPadded (width n : Nat) : List Char :=
  let digits := Text.natural n
  List.replicate (width - digits.length) '0' ++ digits

/-- A year: four digits, with a sign if four unsigned digits do not suffice. -/
def yearText (year : Int) : List Char :=
  if year < 0 then '-' :: zeroPadded 4 year.natAbs
  else if 9999 < year then '+' :: zeroPadded 4 year.natAbs
  else zeroPadded 4 year.natAbs

def fractionText (nano : Nat) : List Char :=
  if nano = 0 then []
  else if nano % 1000000 = 0 then '.' :: zeroPadded 3 (nano / 1000000)
  else if nano % 1000 = 0 then '.' :: zeroPadded 6 (nano / 1000)
  else '.' :: zeroPadded 9 nano

def print (t : Instant) : List Char :=
  let leap := t.nano.val / 1000000000
  yearText t.date.year ++ '-' :: zeroPadded 2 t.date.month ++ '-' :: zeroPadded 2 t.date.day ++
    'T' :: zeroPadded 2 (t.second / 3600) ++ ':' :: zeroPadded 2 (t.second / 60 % 60) ++
    ':' :: zeroPadded 2 (t.second % 60 + leap) ++ fractionText (t.nano % 1000000000) ++ ['Z']

def text (t : Instant) : String :=
  String.ofList t.print

/-! ### Reading -/

/-- Reads a run of digits, of which at most `limit` are taken. -/
def digits (limit : Nat) (s : List Char) : Except TimeFault (Nat × List Char) :=
  let taken := (s.take limit).takeWhile Char.isDigit
  match s with
  | [] => .error .tooShort
  | _ =>
    if taken.isEmpty then .error .invalid
    else .ok (Text.naturalOf taken, s.drop taken.length)

/-- Reads a number of one or two digits between bounds. -/
def bounded (low high : Nat) (s : List Char) : Except TimeFault (Nat × List Char) := do
  let (n, rest) ← digits 2 (Text.trimStart s)
  if low ≤ n ∧ n ≤ high then .ok (n, rest) else .error .outOfRange

/-- Reads a year. One with a sign may have any number of digits, but has to fit into 32 bits. -/
def year (s : List Char) : Except TimeFault (Int × List Char) := do
  let s := Text.trimStart s
  let (signs, body) := match s with
    | '-' :: rest => (some true, rest)
    | '+' :: rest => (some false, rest)
    | rest => (none, rest)
  let (n, rest) ← digits (if signs.isSome then body.length else 4) body
  let year := Text.signed (signs.getD false) n
  if -2 ^ 31 ≤ year ∧ year < 2 ^ 31 then .ok (year, rest) else .error .outOfRange

/-- Reads one character after any blanks. -/
def mark (expected : Char) (s : List Char) : Except TimeFault (List Char) :=
  match Text.trimStart s with
  | [] => .error .tooShort
  | c :: rest => if c = expected then .ok rest else .error .invalid

def separator : List Char → Except TimeFault (List Char)
  | [] => .error .tooShort
  | c :: rest => if c = 'T' ∨ c = 't' ∨ c = ' ' then .ok rest else .error .invalid

/-- Reads a fraction, if there is one, in units of `10 ^ -9`. Further digits are dropped. -/
def fraction : List Char → Except TimeFault (Nat × List Char)
  | '.' :: rest => do
    let (n, after) ← digits 9 rest
    let width := rest.length - after.length
    .ok (n * 10 ^ (9 - width), after.dropWhile Char.isDigit)
  | rest => .ok (0, rest)

/-- Reads two digits that follow each other at once, of which the first is at most `high`. -/
def twoDigits (high : Char) (s : List Char) : Except TimeFault (Nat × List Char) :=
  match s with
  | a :: b :: rest =>
    if a.isDigit && b.isDigit then
      if a ≤ high then .ok (Text.naturalOf [a, b], rest) else .error .outOfRange
    else .error .invalid
  | [a] => if a.utf8Size < 2 then .error .tooShort else .error .invalid
  | [] => .error .tooShort

def hoursAndMinutes (s : List Char) : Except TimeFault (Nat × List Char) := do
  let (hours, s) ← twoDigits '9' s
  let (minutes, s) ← twoDigits '5' (s.dropWhile fun c => c = ':' || Text.isBlank c)
  .ok (hours * 3600 + minutes * 60, s)

/-- Reads the number of seconds that a clock is ahead. -/
def offset (s : List Char) : Except TimeFault (Int × List Char) :=
  match Text.trimStart s with
  | u :: t :: c :: rest =>
    if u.toUpper = 'U' ∧ t.toUpper = 'T' ∧ c.toUpper = 'C' then .ok (0, rest)
    else signed (u :: t :: c :: rest)
  | s => signed s
where
  /-- Reads the letter of a clock that is not ahead, or a sign with hours and minutes. -/
  signed : List Char → Except TimeFault (Int × List Char)
    | [] => .error .tooShort
    | c :: rest =>
      if c = 'Z' ∨ c = 'z' then .ok (0, rest)
      else if c = '+' then do
        let (n, rest) ← hoursAndMinutes rest
        .ok (n, rest)
      else if c = '-' ∨ c = '−' then do
        let (n, rest) ← hoursAndMinutes rest
        .ok (-(n : Int), rest)
      else .error .invalid

def isKnownYear (year : Int) : Bool :=
  -262143 ≤ year && year ≤ 262142

def ofText (s : List Char) : Except TimeFault Instant := do
  let (year, s) ← year s
  let s ← mark '-' s
  let (month, s) ← bounded 1 12 s
  let s ← mark '-' s
  let (day, s) ← bounded 1 31 s
  let s ← separator s
  let (hour, s) ← bounded 0 23 s
  let s ← mark ':' s
  let (minute, s) ← bounded 0 59 s
  let s ← mark ':' s
  let (second, s) ← bounded 0 60 s
  let (nano, s) ← fraction s
  let (offset, s) ← offset s
  if !(Text.trimStart s).isEmpty then .error .tooLong
  else
    match Date.of? year month day with
    | none => .error .outOfRange
    | some date =>
      if !isKnownYear year || 86400 ≤ offset.natAbs then .error .outOfRange
      else
        let leap := second / 60
        let instant := ofLocal date (hour * 3600 + minute * 60 + (second - leap))
          (Fin.ofNat 2000000000 (nano + leap * 1000000000)) offset
        if isKnownYear instant.date.year then .ok instant else .error .impossible

end Instant
end PaintScript

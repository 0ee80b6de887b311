/-!
# Text without control sequences

`visible` keeps of a text what a terminal would show: it leaves out control characters other than
line breaks and tabs, and whole escape sequences.
-/

namespace PaintScript.Text

/-- Where a text stands with regard to escape sequences. -/
inductive Mode
  | plain
  | escape
  | intermediate
  | control
  | deviceEntry
  | deviceParameters
  | deviceIntermediate
  | string
  | title
  deriving DecidableEq

/-- Control characters that only move on to the next line or column. -/
def isLayout (c : Char) : Bool :=
  c = '\t' || c = '\n' || c = '\x0c' || c = '\r'

/-- Characters that a plain text shows. -/
def isShown (c : Char) : Bool :=
  isLayout c || (' ' ≤ c && c ≠ '\x7f')

/-- Whether a character ends a control string, as the byte `0x9C` does wherever it stands. -/
def endsString (c : Char) : Bool :=
  (String.utf8EncodeChar c).contains 0x9c

namespace Mode

def next (mode : Mode) (c : Char) : Mode :=
  if c = '\x1b' then .escape
  else if c = '\x18' ∨ c = '\x1a' then .plain
  else
    match mode with
    | .plain => .plain
    | .escape =>
      if ' ' ≤ c ∧ c ≤ '/' then .intermediate
      else if c = '[' then .control
      else if c = ']' then .title
      else if c = 'P' then .deviceEntry
      else if c = 'X' ∨ c = '^' ∨ c = '_' then .string
      else if '0' ≤ c ∧ c ≤ '~' then .plain
      else .escape
    | .intermediate => if '0' ≤ c ∧ c ≤ '~' then .plain else .intermediate
    | .control => if '@' ≤ c ∧ c ≤ '~' then .plain else .control
    | .deviceEntry =>
      if ' ' ≤ c ∧ c ≤ '/' then .deviceIntermediate
      else if '0' ≤ c ∧ c ≤ '?' then .deviceParameters
      else if '@' ≤ c ∧ c ≤ '~' then .string
      else .deviceEntry
    | .deviceParameters =>
      if ' ' ≤ c ∧ c ≤ '/' then .deviceIntermediate
      else if '<' ≤ c ∧ c ≤ '~' then .string
      else .deviceParameters
    | .deviceIntermediate => if '0' ≤ c ∧ c ≤ '~' then .string else .deviceIntermediate
    | .string => if endsString c then .plain else .string
    | .title => if c = '\x07' then .plain else .title

def shows (mode : Mode) (c : Char) : Bool :=
  match mode with
  | .plain => isShown c
  | .escape | .intermediate | .control => isLayout c
  | _ => false

end Mode

/-- The part of a text that is shown. Layout inside an escape sequence interrupts it: the text that
follows is shown up to the next control character, where the sequence goes on unless a character
beyond ASCII has ended it. -/
def shownFrom (mode : Mode) (interrupted : Bool) : List Char → List Char
  | [] => []
  | c :: rest =>
    if (interrupted && isShown c) || mode.shows c then
      c :: shownFrom (if c.toNat < 0x80 then mode else .plain) true rest
    else shownFrom (mode.next c) false rest

/-- The part of a text that a terminal shows. -/
def visible (text : List Char) : List Char :=
  shownFrom .plain false text

end PaintScript.Text

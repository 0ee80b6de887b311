import PaintScript.Binary64.Shortest
import PaintScript.Text.Quoted

/-!
# Faults in a JSON text

A `Fault` is a cause and the number of bytes that were still unread when it was met. `locate` turns
that number into a line and a column, and `Located.message` words the whole.
-/

namespace PaintScript.Json

/-- What a text was in the middle of when it ended. -/
inductive Construct
  | value
  | string
  | list
  | object
  deriving DecidableEq

/-- What stands where a value of another shape is expected. -/
inductive Found
  | null
  | bool (b : Bool)
  | integer (n : Int)
  | float (x : Binary64)
  | string (s : String)
  | sequence
  | map
  | bareTag
  deriving DecidableEq

inductive Cause
  | unfinished (what : Construct)
  | expectedColon
  | expectedCommaOrBracket
  | expectedCommaOrBrace
  | expectedLiteral
  | expectedValue
  | invalidEscape
  | invalidNumber
  | numberOutOfRange
  | controlCharacter
  | keyNotString
  | loneSurrogate
  | unpairedSurrogate
  | trailingComma
  | trailingCharacters
  | nestedTooDeep
  | wrongType (found : Found) (expected : String)
  | wrongValue (found : Found) (expected : String)
  | wrongLength (length : Nat) (expected : String)
  | missingField (key : String)
  | duplicateField (key : String)
  | unknownTag (tag : String) (known : List String)
  | rejected (reason : String)
  deriving DecidableEq

def Construct.name : Construct → String
  | .value => "a value"
  | .string => "a string"
  | .list => "a list"
  | .object => "an object"

def Found.name : Found → String
  | .null => "null"
  | .bool b => "boolean `" ++ (if b then "true" else "false") ++ "`"
  | .integer n => "integer `" ++ String.ofList (Text.integer n) ++ "`"
  | .float x => "floating point `" ++ String.ofList x.text ++ "`"
  | .string s => "string " ++ String.ofList (Text.quoted s.toList)
  | .sequence => "sequence"
  | .map => "map"
  | .bareTag => "unit variant"

def Cause.message : Cause → String
  | .unfinished what => "EOF while parsing " ++ what.name
  | .expectedColon => "expected `:`"
  | .expectedCommaOrBracket => "expected `,` or `]`"
  | .expectedCommaOrBrace => "expected `,` or `\x7d`"
  | .expectedLiteral => "expected ident"
  | .expectedValue => "expected value"
  | .invalidEscape => "invalid escape"
  | .invalidNumber => "invalid number"
  | .numberOutOfRange => "number out of range"
  | .controlCharacter => "control character (\\u0000-\\u001F) found while parsing a string"
  | .keyNotString => "key must be a string"
  | .loneSurrogate => "lone leading surrogate in hex escape"
  | .unpairedSurrogate => "unexpected end of hex escape"
  | .trailingComma => "trailing comma"
  | .trailingCharacters => "trailing characters"
  | .nestedTooDeep => "recursion limit exceeded"
  | .wrongType found expected => "invalid type: " ++ found.name ++ ", expected " ++ expected
  | .wrongValue found expected => "invalid value: " ++ found.name ++ ", expected " ++ expected
  | .wrongLength length expected =>
    "invalid length " ++ String.ofList (Text.natural length) ++ ", expected " ++ expected
  | .missingField key => "missing field `" ++ key ++ "`"
  | .duplicateField key => "duplicate field `" ++ key ++ "`"
  | .unknownTag tag known =>
    "unknown variant `" ++ tag ++ "`, expected one of " ++
      ", ".intercalate (known.map fun k => "`" ++ k ++ "`")
  | .rejected reason => reason

/-- A cause and the number of bytes that were unread when it was met. -/
structure Fault where
  cause : Cause
  unread : Nat
  deriving DecidableEq

def byteSize (s : List Char) : Nat :=
  s.foldl (fun n c => n + c.utf8Size) 0

/-- Fails in front of `rest`, of which the first `ahead` bytes were looked at. -/
def stop {α : Type} (cause : Cause) (rest : List Char) (ahead : Nat) : Except Fault α :=
  .error ⟨cause, byteSize rest - ahead⟩

/-- A line, counted from one, and the number of bytes read of it. -/
structure Position where
  line : Nat
  column : Nat
  deriving DecidableEq

def Position.advance (p : Position) : List Char → Nat → Position
  | [], _ => p
  | c :: rest, bytes =>
    if bytes < c.utf8Size then ⟨p.line, p.column + bytes⟩
    else
      let next : Position :=
        if c = '\n' then ⟨p.line + 1, 0⟩ else ⟨p.line, p.column + c.utf8Size⟩
      next.advance rest (bytes - c.utf8Size)

structure Located where
  cause : Cause
  position : Position
  deriving DecidableEq

def Fault.locate (text : List Char) (fault : Fault) : Located :=
  ⟨fault.cause, Position.advance ⟨1, 0⟩ text (byteSize text - fault.unread)⟩

def Located.message (e : Located) : String :=
  e.cause.message ++ " at line " ++ String.ofList (Text.natural e.position.line) ++
    " column " ++ String.ofList (Text.natural e.position.column)

end PaintScript.Json

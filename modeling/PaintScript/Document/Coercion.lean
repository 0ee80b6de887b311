import PaintScript.Binary64.Integer
import PaintScript.Document.Field
import PaintScript.Json.Printer

/-!
# From written numbers to integers

`Document.coerce` turns every numeric field into an integer and changes nothing else. The first
field that is no integer is reported with the path of its group.
-/

namespace PaintScript

inductive NumericFault
  | notANumber (value : String)
  | notAnInteger (value : Binary64)
  deriving DecidableEq

/-- A field that is no integer, and why. The label stands for the document's root in paths. -/
structure CoercionError where
  label : String
  field : NumericField
  fault : NumericFault
  deriving DecidableEq

def Numeric.toInt64 : Numeric → Except NumericFault Int64
  | .int n => .ok n
  | .float x =>
    match x.int64? with
    | some n => .ok n
    | none => .error (.notAnInteger x)
  | .text s =>
    match Text.prefixInt64? s.toList with
    | some n => .ok n
    | none => .error (.notANumber s)
  | .other v => .error (.notANumber v.canonical)

/-- The document with an integer in every numeric field. -/
def Document.coerce (label : String) (d : Document Numeric) :
    Except CoercionError (Document Int64) :=
  d.mapM fun field n => n.toInt64.mapError (⟨label, field, ·⟩)

def rootLabel : String :=
  "root"

/-- The path of the group that the field stands in. -/
def CoercionError.context (e : CoercionError) : String :=
  e.field.group.path e.label

def CoercionError.property (e : CoercionError) : String :=
  e.field.property.name

def CoercionError.message (e : CoercionError) : String :=
  let fault := match e.fault with
    | .notANumber _ => "not a number"
    | .notAnInteger _ => "not an integer"
  "In '" ++ e.context ++ "': property '" ++ e.property ++ "' is " ++ fault ++ "."

end PaintScript

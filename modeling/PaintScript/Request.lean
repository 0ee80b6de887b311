import PaintScript.Document.Wire
import PaintScript.Markup.Basic

/-!
# Requests

A request comes either as markup with both paths or as a document. `Inputs.entry` decides which from
the presence of the inputs alone; only then is a document decoded.
-/

namespace PaintScript

/-- The inputs of a caller, none of them checked. -/
structure Inputs where
  markup : Option String
  json : Option String
  input : Option String
  output : Option String
  format : Option String
  stroke : Option String
  deriving DecidableEq

/-- Inputs that do not go together. -/
inductive UsageError
  | markupAndDocument
  | strokeWithDocument
  | missingPaths
  | noInput
  deriving DecidableEq

def UsageError.message : UsageError → String
  | .markupAndDocument => "Invalid usage: processing JSON and markup at once"
  | .strokeWithDocument => "Invalid usage: 'stroke' cannot be combined with JSON"
  | .missingPaths => "Invalid usage: input or output path missing"
  | .noInput => "Invalid usage: either markup or JSON is required"

/-- What a caller asks for. -/
inductive Entry
  | markup (text : String) (target : Target)
  | json (text : String)
  deriving DecidableEq

inductive Request
  | markup (text : String) (target : Target)
  | document (d : Document Numeric)

namespace Inputs

def entry (i : Inputs) : Except UsageError Entry :=
  match i.markup, i.json with
  | some _, some _ => .error .markupAndDocument
  | none, some json => if i.stroke.isSome then .error .strokeWithDocument else .ok (.json json)
  | some markup, none =>
    match i.input, i.output with
    | some source, some destination =>
      .ok (.markup markup ⟨source, destination, i.format, i.stroke⟩)
    | _, _ => .error .missingPaths
  | none, none => .error .noInput

end Inputs
end PaintScript

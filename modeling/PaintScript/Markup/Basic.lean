import PaintScript.Document.Basic

/-!
# Markup

Markup is a list of instructions, and an instruction a list of arguments that starts with a command.
`Markup` holds what a markup text says; `Markup.assemble` makes a document of it.
-/

namespace PaintScript

inductive Command
  | crop
  | draw (shape : Shape)
  deriving DecidableEq

namespace Command

def name : Command → String
  | .crop => "crop"
  | .draw shape => shape.name

def ofName? (s : String) : Option Command :=
  if s = "crop" then some .crop else (Shape.ofName? s).map .draw

def arity : Command → Nat
  | .crop => 2
  | .draw _ => 3

end Command

/-- An instruction whose command is unknown. -/
structure Ignored where
  index : Nat
  command : String
  deriving DecidableEq

/-- The last crop, the drawings and the ignored instructions of a markup text. -/
structure Markup where
  crop : Option (Crop Numeric)
  draw : List (Drawing Numeric)
  ignored : List Ignored

/-- An instruction that has fewer arguments than its command needs. -/
structure MissingArguments where
  index : Nat
  instruction : String
  command : Command
  found : Nat
  deriving DecidableEq

def MissingArguments.message (e : MissingArguments) : String :=
  "Instruction " ++ String.ofList (Text.natural e.index) ++ " ('" ++ e.instruction ++ "'): '" ++
    e.command.name ++ "' expects " ++ String.ofList (Text.natural e.command.arity) ++
    " arguments, found " ++ String.ofList (Text.natural e.found)

/-- What a markup request says beside the markup itself. -/
structure Target where
  sourceFile : String
  destinationFile : String
  format : Option String
  strokeWidth : Option String
  deriving DecidableEq

namespace Markup

def empty : Markup :=
  ⟨none, [], []⟩

/-- The document that markup describes for an image of the given size. A crop decides the final
size. -/
def assemble (m : Markup) (size : Size Int64) (target : Target) : Document Numeric :=
  let dimensions : Size Numeric := ⟨.int size.width, .int size.height⟩
  { dimensions
    finalDimensions := (m.crop.map Crop.size).getD dimensions
    instructions :=
      ⟨m.crop, m.draw, target.strokeWidth.map fun stroke => Numeric.ofToken stroke.toList⟩
    sourceFile := target.sourceFile
    destinationFile := target.destinationFile
    format := target.format.getD defaultFormat }

end Markup
end PaintScript

import PaintScript.Color
import PaintScript.Json.Basic
import PaintScript.Text.Decimal

/-!
# Instruction documents

A `Document` says how an image is cropped and what is drawn on it. Its numeric fields have a type
`N`: `Numeric` for what an author may write, `Int64` for what a renderer receives.
-/

namespace PaintScript

/-- A number as it was written: an integer, or something that may still turn out to be one. A
floating-point number is finite, for neither markup nor JSON holds another one. A program that fills
in a document by hand may use NaN or an infinity; these are left out here, and are no integers. -/
inductive Numeric
  | int (n : Int64)
  | float (x : Binary64)
  | text (s : String)
  | other (v : Json)

structure Point (N : Type) where
  x : N
  y : N
  deriving DecidableEq

structure Size (N : Type) where
  width : N
  height : N
  deriving DecidableEq

/-- The part of the image to keep. -/
structure Crop (N : Type) where
  origin : Point N
  size : Size N
  deriving DecidableEq

structure Circle (N : Type) where
  center : Point N
  radius : N
  color : Color
  deriving DecidableEq

/-- A rectangle with one corner at a point. -/
structure Rectangle (N : Type) where
  corner : Point N
  size : Size N
  color : Color
  deriving DecidableEq

structure Segment (N : Type) where
  start : Point N
  stop : Point N
  color : Color
  deriving DecidableEq

inductive Shape
  | circle
  | rectangle
  | line
  | arrow
  | gap
  deriving DecidableEq

inductive Drawing (N : Type)
  | circle (c : Circle N)
  | rectangle (r : Rectangle N)
  | line (s : Segment N)
  | arrow (s : Segment N)
  | gap (s : Segment N)
  deriving DecidableEq

/-- What to do with an image: crop it, then draw in the given order. -/
structure Instructions (N : Type) where
  crop : Option (Crop N)
  draw : List (Drawing N)
  strokeWidth : Option N
  deriving DecidableEq

/-- An image, its size before and after cropping, and what to do with it. -/
structure Document (N : Type) where
  dimensions : Size N
  finalDimensions : Size N
  instructions : Instructions N
  sourceFile : String
  destinationFile : String
  format : String
  deriving DecidableEq

/-- The output format of a document that names none. -/
def defaultFormat : String :=
  "jpeg"

namespace Shape

def all : List Shape :=
  [.circle, .rectangle, .line, .arrow, .gap]

def name : Shape → String
  | .circle => "circle"
  | .rectangle => "rectangle"
  | .line => "line"
  | .arrow => "arrow"
  | .gap => "gap"

def ofName? (s : String) : Option Shape :=
  all.find? fun shape => shape.name = s

theorem ofName?_name (shape : Shape) : ofName? shape.name = some shape := by
  cases shape <;> decide

theorem eq_name_of_ofName? {s : String} {shape : Shape} (h : ofName? s = some shape) :
    s = shape.name := by
  have found := List.find?_some h
  exact (of_decide_eq_true found).symm

end Shape

namespace Drawing

variable {N : Type}

def shape : Drawing N → Shape
  | .circle _ => .circle
  | .rectangle _ => .rectangle
  | .line _ => .line
  | .arrow _ => .arrow
  | .gap _ => .gap

def color : Drawing N → Color
  | .circle c => c.color
  | .rectangle r => r.color
  | .line s | .arrow s | .gap s => s.color

end Drawing

namespace Numeric

/-- Reads the integer that a token starts with and keeps any other token as text. -/
def ofToken (token : List Char) : Numeric :=
  match Text.prefixInt64? token with
  | some n => .int n
  | none => .text (String.ofList token)

end Numeric
end PaintScript

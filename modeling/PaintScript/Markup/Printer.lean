import PaintScript.Document.Basic

/-!
# Writing markup

`Document.markup` writes the crop of a document and then its drawings in order. The stroke width has
no place in markup and is left out.
-/

namespace PaintScript

def pairToken (a b : Int64) : List Char :=
  Text.int64 a ++ 'x' :: Text.int64 b

def Point.token (p : Point Int64) : List Char :=
  pairToken p.x p.y

def Size.token (s : Size Int64) : List Char :=
  pairToken s.width s.height

def Crop.markup (c : Crop Int64) : List (List Char) :=
  ["crop".toList, c.origin.token, c.size.token]

def Drawing.markup (d : Drawing Int64) : List (List Char) :=
  d.shape.name.toList ::
    match d with
    | .circle c => [c.center.token, Text.int64 c.radius, c.color.name.toList]
    | .rectangle r => [r.corner.token, r.size.token, r.color.name.toList]
    | .line s | .arrow s | .gap s => [s.start.token, s.stop.token, s.color.name.toList]

/-- The instructions of a document, each as its fields. -/
def Instructions.markup (i : Instructions Int64) : List (List (List Char)) :=
  (i.crop.map Crop.markup).toList ++ i.draw.map Drawing.markup

def Document.markup (d : Document Int64) : String :=
  String.ofList ([';'].intercalate (d.instructions.markup.map [','].intercalate))

end PaintScript

import PaintScript.Log
import PaintScript.Receipt

/-!
# Rendering

A `Renderer` keeps the documents that it has rendered. It refuses a document whose canvas is empty
before it keeps it.
-/

namespace PaintScript

/-- The documents rendered so far, the first one first. -/
structure Renderer where
  rendered : List (Document Int64)
  deriving DecidableEq

structure EmptyCanvas where
  size : Size Int64
  deriving DecidableEq

def EmptyCanvas.message (e : EmptyCanvas) : String :=
  "Canvas is empty: " ++ Event.sizeText e.size

def Size.isEmpty (s : Size Int64) : Bool :=
  s.width ≤ 0 || s.height ≤ 0

namespace Renderer

def empty : Renderer :=
  ⟨[]⟩

/-- Renders a document. The renderer comes back with the receipt and with the refusal alike. -/
def render (r : Renderer) (stamp : Stamp) (d : Document Int64) :
    Logged EmptyCanvas Receipt × Renderer :=
  if d.finalDimensions.isEmpty then (.ofExcept (.error ⟨d.finalDimensions⟩), r)
  else
    let receipt := Receipt.ofDocument stamp d
    let kept : Renderer := ⟨r.rendered ++ [d]⟩
    (.after [.rendered receipt.steps.length d.finalDimensions d.destinationFile]
      (.ofExcept (.ok receipt)), kept)

end Renderer
end PaintScript

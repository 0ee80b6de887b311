/-!
# Colors

A `Color` is the text that an author wrote. The palette gives some names a value; every other color
stands for itself.
-/

namespace PaintScript

/-- A color as it was written. -/
structure Color where
  name : String
  deriving DecidableEq

def palette : List (String × String) :=
  [("red", "rgb(193,40,11)"),
   ("orange", "rgb(255,144,36)"),
   ("yellow", "rgb(243,224,14)"),
   ("green", "rgb(22,220,129)"),
   ("lightblue", "rgb(27, 177, 233)"),
   ("blue", "rgb(35,67,232)"),
   ("violet", "rgb(220,84,183)"),
   ("black", "rgb(0,0,0)")]

namespace Color

/-- The value that the palette gives a color. -/
def value? (c : Color) : Option String :=
  palette.lookup c.name

def isSymbolic (c : Color) : Bool :=
  c.value?.isSome

/-- The palette's value of a color, or the color itself. -/
def resolved (c : Color) : String :=
  c.value?.getD c.name

/-- What a color of the given name is painted with. -/
def paint : String → String
  | "red" => "rgb(193,40,11)"
  | "orange" => "rgb(255,144,36)"
  | "yellow" => "rgb(243,224,14)"
  | "green" => "rgb(22,220,129)"
  | "lightblue" => "rgb(27, 177, 233)"
  | "blue" => "rgb(35,67,232)"
  | "violet" => "rgb(220,84,183)"
  | "black" => "rgb(0,0,0)"
  | name => name

/-- Eight names are painted with a value of the palette, any other color with what was written. -/
theorem resolved_eq_paint (c : Color) : c.resolved = paint c.name := by
  unfold paint
  split
  case h_9 red orange yellow green lightblue blue violet black =>
    have absent : palette.lookup c.name = none := by
      rw [List.lookup_eq_none_iff]
      simpa [palette] using ⟨red, orange, yellow, green, lightblue, blue, violet, black⟩
    rw [resolved, value?, absent]
    rfl
  all_goals
    rename_i named
    rw [resolved, value?, named]
    rfl

end Color
end PaintScript

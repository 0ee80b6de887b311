import PaintScript.Text.Decimal

/-!
# Wording of faults in image files

The messages about files that break the rules of their kind, or use what is not supported, start
with the name of that kind.
-/

namespace PaintScript.Image

/-- The message about a file that breaks the rules of its kind. -/
def malformed (kind detail : String) : String :=
  "Format error decoding " ++ kind ++ ": " ++ detail

/-- The message about a file that uses what is not supported. -/
def unsupported (kind feature : String) : String :=
  "The decoder for " ++ kind ++ " does not support the format features " ++ feature

def shown (n : Nat) : String :=
  String.ofList (Text.natural n)

def shownInteger (n : Int) : String :=
  String.ofList (Text.integer n)

end PaintScript.Image

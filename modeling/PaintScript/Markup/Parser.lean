import PaintScript.Log
import PaintScript.Markup.Basic

/-!
# Reading markup

A text is split at `;` into segments and a segment at `,` into trimmed fields.
`Instruction.ofSegment` says what one segment means, and `Markup.ofText` collects all of them.
Tokens that are no integers are kept as text.
-/

namespace PaintScript

/-- What a segment of markup means. The surplus is the number of arguments that are not used. -/
inductive Instruction
  | blank
  | unknown (command : String)
  | incomplete (command : Command) (found : Nat)
  | crop (c : Crop Numeric) (surplus : Nat)
  | draw (d : Drawing Numeric) (surplus : Nat)

/-- The two halves of a token `AxB`. A missing half is empty. -/
def halves (token : List Char) : List Char × List Char :=
  match token.splitOn 'x' with
  | first :: second :: _ => (first, second)
  | [first] => (first, [])
  | [] => ([], [])

def Point.ofToken (token : List Char) : Point Numeric :=
  let (x, y) := halves token
  ⟨.ofToken x, .ofToken y⟩

def Size.ofToken (token : List Char) : Size Numeric :=
  let (width, height) := halves token
  ⟨.ofToken width, .ofToken height⟩

def Shape.drawing (shape : Shape) (first second color : List Char) : Drawing Numeric :=
  let color : Color := ⟨String.ofList color⟩
  match shape with
  | .circle => .circle ⟨.ofToken first, .ofToken second, color⟩
  | .rectangle => .rectangle ⟨.ofToken first, .ofToken second, color⟩
  | .line => .line ⟨.ofToken first, .ofToken second, color⟩
  | .arrow => .arrow ⟨.ofToken first, .ofToken second, color⟩
  | .gap => .gap ⟨.ofToken first, .ofToken second, color⟩

def Command.apply : Command → List (List Char) → Instruction
  | .crop, origin :: size :: more => .crop ⟨.ofToken origin, .ofToken size⟩ more.length
  | .draw shape, first :: second :: color :: more =>
    .draw (shape.drawing first second color) more.length
  | command, arguments => .incomplete command arguments.length

def segmentFields (segment : List Char) : List (List Char) :=
  (segment.splitOn ',').map Text.trim

def Instruction.ofSegment (segment : List Char) : Instruction :=
  if segment.all Text.isBlank then .blank
  else
    match segmentFields segment with
    | [] => .blank
    | name :: arguments =>
      match Command.ofName? (String.ofList name) with
      | none => .unknown (String.ofList name)
      | some command => command.apply arguments

def surplusEvents (index : Nat) (segment : List Char) (surplus : Nat) : List Event :=
  if surplus = 0 then [] else [.surplusArguments index (String.ofList segment) surplus]

namespace Markup

/-- Collects segments, of which the first has the given index; `cropped` tells whether a crop came
before it. The first segment with too few arguments ends the work. -/
def ofSegments : Nat → Bool → List (List Char) → Logged MissingArguments Markup
  | _, _, [] => .ofExcept (.ok empty)
  | index, cropped, segment :: rest =>
    match Instruction.ofSegment segment with
    | .blank => ofSegments (index + 1) cropped rest
    | .unknown command =>
      .after [.unknownCommand index command]
        ((ofSegments (index + 1) cropped rest).map fun m =>
          { m with ignored := ⟨index, command⟩ :: m.ignored })
    | .incomplete command found =>
      .ofExcept (.error ⟨index, String.ofList segment, command, found⟩)
    | .crop c surplus =>
      let replaced := if cropped then [Event.cropReplaced index] else []
      .after (surplusEvents index segment surplus ++ replaced)
        ((ofSegments (index + 1) true rest).map fun m => { m with crop := m.crop <|> some c })
    | .draw d surplus =>
      .after (surplusEvents index segment surplus)
        ((ofSegments (index + 1) cropped rest).map fun m => { m with draw := d :: m.draw })

def segments (text : List Char) : List (List Char) :=
  text.splitOn ';'

def ofText (text : String) : Logged MissingArguments Markup :=
  ofSegments 0 false (segments text.toList)

end Markup
end PaintScript

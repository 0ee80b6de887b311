import PaintScript.CommandLine.Argument
import PaintScript.Markup.Printer
import PaintScript.Pipeline

/-!
# Outcomes of the command line

An `Outcome` is all that a caller sees of an invocation: the exit status and the two output streams.
The status is 0 for a rendered job, 2 for inputs that do not go together, and 1 for other failures.
-/

namespace PaintScript.CommandLine

structure Outcome where
  status : Nat
  stdout : String
  stderr : String
  deriving DecidableEq

def helpText : String :=
  "ImageMarkup CLI - Image Edit Markup Compiler\n\n" ++ usage [] ++ "\n\nOptions:\n" ++
    "  -i, --input <INPUT>    Source image path\n" ++
    "  -o, --output <OUTPUT>  Destination image path\n" ++
    "  -m, --markup <MARKUP>  Markup, e.g. 'crop,0x0,200x100;circle,50x50,20,red'\n" ++
    "  -j, --json <JSON>      Instruction document as JSON\n" ++
    "  -f, --format <FORMAT>  Output format (default: jpeg)\n" ++
    "  -s, --stroke <STROKE>  Global stroke width\n" ++
    "  -d, --debug            Print the compiled document as markup to stderr\n" ++
    "  -h, --help             Print help\n"

def success (job : Job) : Json :=
  .object [("success", .bool true), ("engineVersion", .string job.engineVersion),
    ("document", job.document.toJson integerJson), ("receipt", job.receipt.toJson)]

def failure (e : PipelineError) : Json :=
  .object [("success", .bool false), ("error", .string e.message)]

/-- A report as one line with sorted keys. -/
def reportLine (report : Json) : String :=
  report.canonical ++ "\n"

def job (probe : Probe) (stamp : Stamp) (inputs : Inputs) : Except PipelineError Job := do
  let request ← inputs.request
  (request.run probe .empty stamp).1.outcome

def Outcome.ofInputs (probe : Probe) (stamp : Stamp) (inputs : Inputs) (debug : Bool) : Outcome :=
  match job probe stamp inputs with
  | .ok job => ⟨0, reportLine (success job), if debug then job.document.markup ++ "\n" else ""⟩
  | .error (.usage e) => ⟨2, "", e.message ++ "\n" ++ usage [] ++ "\n"⟩
  | .error e => ⟨1, reportLine (failure e), ""⟩

def Outcome.ofArguments (probe : Probe) (stamp : Stamp) (line : List String) : Outcome :=
  match Arguments.read line with
  | .ok .help => ⟨0, helpText, ""⟩
  | .ok (.compile inputs debug) => .ofInputs probe stamp inputs debug
  | .error e => ⟨2, "", e.message⟩

end PaintScript.CommandLine

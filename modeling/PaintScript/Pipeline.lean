import PaintScript.Document.Coercion
import PaintScript.Markup.Parser
import PaintScript.Renderer
import PaintScript.Request

/-!
# The pipeline

`Request.compile` makes a document of integers, and `Request.run` renders it as well. `serve` takes
one step from the inputs of a caller to an answer and `serveAll` a list of them. One renderer is
handed from step to step, whatever becomes of a step.
-/

namespace PaintScript

structure ProbeError where
  path : String
  reason : String
  deriving DecidableEq

def ProbeError.message (e : ProbeError) : String :=
  "Cannot read dimensions of '" ++ e.path ++ "': " ++ e.reason

/-- Tells the size of the image at a path. -/
abbrev Probe := String → Except ProbeError (Size Int64)

/-- The probe that has one answer for every path. -/
def Probe.fixed (size : Size Int64) : Probe :=
  fun _ => .ok size

inductive PipelineError
  | usage (e : UsageError)
  | invalidDocument (e : Json.Located)
  | probe (e : ProbeError)
  | markup (e : MissingArguments)
  | coercion (e : CoercionError)
  | emptyCanvas (e : EmptyCanvas)
  deriving DecidableEq

def PipelineError.message : PipelineError → String
  | .usage e => e.message
  | .invalidDocument e => "Invalid document: " ++ e.message
  | .probe e => e.message
  | .markup e => "Parse error: " ++ e.message
  | .coercion e => "Normalization failed: " ++ e.message
  | .emptyCanvas e => e.message

def Inputs.request (i : Inputs) : Except PipelineError Request :=
  match i.entry with
  | .error e => .error (.usage e)
  | .ok (.markup text target) => .ok (.markup text target)
  | .ok (.json text) =>
    match Document.decodeRaw text with
    | .ok d => .ok (.document d)
    | .error e => .error (.invalidDocument e)

/-- The document with integers, under the given label for its root. -/
def Document.normalize (label : String) (d : Document Numeric) :
    Logged CoercionError (Document Int64) :=
  .after [.coercing d.instructions.draw.length] (.ofExcept (d.coerce label))

namespace Request

/-- The document that a request describes, as it is written. A markup request needs the size of its
source. -/
def assemble (probe : Probe) : Request → Logged PipelineError (Document Numeric)
  | .markup text target => do
    let size ← .ofExcept ((probe target.sourceFile).mapError .probe)
    .tell (.sourceMeasured target.sourceFile size)
    let m ← (Markup.ofText text).mapError .markup
    .tell (.markupRead m.draw.length m.crop.isSome m.ignored.length)
    return m.assemble size target
  | .document d => do
    .tell (.documentSupplied d.sourceFile)
    return d

/-- The document that a request describes, with integers. -/
def compile (probe : Probe) (request : Request) : Logged PipelineError (Document Int64) := do
  let d ← request.assemble probe
  (d.normalize rootLabel).mapError .coercion

/-- Compiles a request and renders the document. -/
def run (probe : Probe) (renderer : Renderer) (stamp : Stamp) (request : Request) :
    Logged PipelineError Job × Renderer :=
  (request.compile probe).bindWith renderer fun d =>
    let rendered := renderer.render stamp d
    ((rendered.1.mapError .emptyCanvas).map fun receipt => ⟨engineVersion, d, receipt⟩, rendered.2)

end Request

/-! ### Steps -/

/-- How far a step goes. -/
inductive Goal
  | compile
  | run
  deriving DecidableEq

/-- The inputs of a caller, how far they are to be taken, and the stamp of a rendering. -/
structure Step where
  inputs : Inputs
  goal : Goal
  stamp : Stamp
  deriving DecidableEq

inductive Answer
  | compiled (d : Document Int64)
  | ran (job : Job)
  deriving DecidableEq

/-- Takes a step. The renderer comes back with the answer and with the error alike. -/
def Step.serve (probe : Probe) (renderer : Renderer) (step : Step) :
    Logged PipelineError Answer × Renderer :=
  (Logged.ofExcept step.inputs.request).bindWith renderer fun request =>
    match step.goal with
    | .compile => ((request.compile probe).map .compiled, renderer)
    | .run =>
      let ran := request.run probe renderer step.stamp
      (ran.1.map .ran, ran.2)

/-- Takes steps one after the other. Each result comes with the renderer after its step. -/
def serveAll (probe : Probe) : Renderer → List Step → List (Logged PipelineError Answer × Renderer)
  | _, [] => []
  | renderer, step :: rest =>
    let served := step.serve probe renderer
    served :: serveAll probe served.2 rest

end PaintScript

import PaintScript.Document.Basic

/-!
# Logged steps

A `Logged` step has an outcome and the events that led to it. A failure keeps the events before it,
so `bind` never loses one.
-/

namespace PaintScript

/-- Something that happens while a request is served. -/
inductive Event
  | unknownCommand (index : Nat) (command : String)
  | surplusArguments (index : Nat) (instruction : String) (count : Nat)
  | cropReplaced (index : Nat)
  | sourceMeasured (sourceFile : String) (size : Size Int64)
  | markupRead (drawings : Nat) (cropped : Bool) (ignored : Nat)
  | documentSupplied (sourceFile : String)
  | coercing (drawings : Nat)
  | rendered (steps : Nat) (canvas : Size Int64) (destinationFile : String)
  deriving DecidableEq

inductive Severity
  | debug
  | info
  | warning
  deriving DecidableEq

def Severity.name : Severity → String
  | .debug => "DEBUG"
  | .info => "INFO"
  | .warning => "WARN"

namespace Event

def severity : Event → Severity
  | .unknownCommand .. | .surplusArguments .. => .warning
  | .rendered .. => .info
  | .cropReplaced .. | .sourceMeasured .. | .markupRead .. | .documentSupplied .. | .coercing .. =>
    .debug

def countText (n : Nat) : String :=
  String.ofList (Text.natural n)

def sizeText (s : Size Int64) : String :=
  String.ofList (Text.int64 s.width ++ 'x' :: Text.int64 s.height)

def message : Event → String
  | .unknownCommand index command =>
    "Ignoring unknown command '" ++ command ++ "' at instruction " ++ countText index
  | .surplusArguments index instruction n =>
    "Instruction " ++ countText index ++ " ('" ++ instruction ++ "'): ignoring " ++ countText n ++
      " extra argument(s)"
  | .cropReplaced index => "Instruction " ++ countText index ++ ": crop replaces an earlier crop"
  | .sourceMeasured sourceFile size => "Source '" ++ sourceFile ++ "' is " ++ sizeText size
  | .markupRead drawings cropped ignored =>
    "Parsed " ++ countText drawings ++ " draw instruction(s), crop: " ++
      (if cropped then "true" else "false") ++ ", ignored: " ++ countText ignored
  | .documentSupplied sourceFile => "Using supplied document for '" ++ sourceFile ++ "'"
  | .coercing drawings =>
    "Normalizing document with " ++ countText drawings ++ " draw instruction(s)"
  | .rendered steps canvas destinationFile =>
    "Rendered " ++ countText steps ++ " step(s) onto " ++ sizeText canvas ++ " canvas for '" ++
      destinationFile ++ "'"

def line (e : Event) : String :=
  e.severity.name ++ " " ++ e.message

end Event

/-- An outcome and the events that led to it. -/
structure Logged (ε α : Type) where
  log : List Event
  outcome : Except ε α

namespace Logged

variable {σ ε ε' α β : Type}

def ofExcept (outcome : Except ε α) : Logged ε α :=
  ⟨[], outcome⟩

def after (events : List Event) (step : Logged ε α) : Logged ε α :=
  ⟨events ++ step.log, step.outcome⟩

def tell (event : Event) : Logged ε Unit :=
  ⟨[event], .ok ()⟩

def map (f : α → β) (step : Logged ε α) : Logged ε β :=
  ⟨step.log, step.outcome.map f⟩

def bind (step : Logged ε α) (next : α → Logged ε β) : Logged ε β :=
  match step.outcome with
  | .ok a => (next a).after step.log
  | .error e => ⟨step.log, .error e⟩

/-- Goes on with a step that may change a state. If there is nothing to go on with, the state stays
as it is. -/
def bindWith (step : Logged ε α) (state : σ) (next : α → Logged ε β × σ) : Logged ε β × σ :=
  match step.outcome with
  | .ok a =>
    let later := next a
    (later.1.after step.log, later.2)
  | .error e => (⟨step.log, .error e⟩, state)

instance : Monad (Logged ε) where
  map := map
  pure a := ⟨[], .ok a⟩
  bind := bind

def mapError (f : ε → ε') (step : Logged ε α) : Logged ε' α :=
  ⟨step.log, step.outcome.mapError f⟩

end Logged
end PaintScript

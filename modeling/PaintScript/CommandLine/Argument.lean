import PaintScript.Request
import PaintScript.Text.Similar
import PaintScript.Text.Visible

/-!
# Arguments of the command line

`Arguments.read` turns the words of a command line into an `Invocation`. A word that does not fit is
refused with an `ArgumentError`, and of several the first.
-/

namespace PaintScript.CommandLine

/-- The options that take a value. -/
inductive Setting
  | input
  | output
  | markup
  | json
  | format
  | stroke
  deriving DecidableEq

/-- What a word that starts with a dash can name. -/
inductive Flag
  | setting (s : Setting)
  | debug
  | help
  deriving DecidableEq

def Setting.name : Setting → String
  | .input => "input"
  | .output => "output"
  | .markup => "markup"
  | .json => "json"
  | .format => "format"
  | .stroke => "stroke"

namespace Flag

/-- All flags in the order of the help text. -/
def all : List Flag :=
  [.setting .input, .setting .output, .setting .markup, .setting .json, .setting .format,
   .setting .stroke, .debug, .help]

/-- The name after two dashes. -/
def name : Flag → String
  | .setting s => s.name
  | .debug => "debug"
  | .help => "help"

def ofName? (name : String) : Option Flag :=
  all.find? fun flag => flag.name = name

/-- The flag with the given letter, which is the first of its name. -/
def ofLetter? (c : Char) : Option Flag :=
  all.find? fun flag => flag.name.toList.head? = some c

def shown : Flag → String
  | .setting s => "--" ++ s.name ++ " <" ++ s.name.toUpper ++ ">"
  | .debug => "--debug"
  | .help => "--help"

end Flag

inductive Invocation
  | help
  | compile (inputs : Inputs) (debug : Bool)
  deriving DecidableEq

/-- A word that does not fit. `used` are the flags that the usage line names, and `others` tells
whether other flags were taken before. -/
inductive ArgumentError
  | unexpected (word : String) (similar : Option Flag) (used : List Flag)
  | missingValue (setting : Setting)
  | repeated (flag : Flag)
  | unexpectedValue (value : String) (flag : Flag) (others : Bool)
  deriving DecidableEq

/-- The line that shows how the program is called. Without parts it is the general one. -/
def usage (parts : List String) : String :=
  "Usage: imagemarkup-cli" ++
    if parts.isEmpty then " [OPTIONS]" else String.join (parts.map (" " ++ ·))

/-- The flags that describe a job, which are all but the one that asks for help. -/
def Flag.ofJob : List Flag :=
  Flag.all.filter (· ≠ .help)

def jobChoice : String :=
  "<" ++ "|".intercalate (Flag.ofJob.map Flag.shown) ++ ">"

/-- The parts of the usage line for one flag among others. The flags that describe a job are shown
as one choice. -/
def partsAmongOthers (flag : Flag) : List String :=
  (if flag ∈ Flag.ofJob then [] else [flag.shown]) ++ [jobChoice]

/-- The wording of an error, down to the hint on how to get help. Of the words only the visible part
is shown. -/
def ArgumentError.message : ArgumentError → String
  | .unexpected word similar used =>
    let tip := match similar with
      | some flag => "\n\n  tip: a similar argument exists: '--" ++ flag.name ++ "'"
      | none => ""
    "error: unexpected argument '" ++ visible word ++ "' found" ++ tip ++ "\n\n" ++
      usage (used.map Flag.shown) ++ hint
  | .missingValue setting =>
    "error: a value is required for '" ++ (Flag.setting setting).shown ++
      "' but none was supplied" ++ hint
  | .repeated flag =>
    "error: the argument '" ++ flag.shown ++ "' cannot be used multiple times\n\n" ++ usage [] ++
      hint
  | .unexpectedValue value flag others =>
    "error: unexpected value '" ++ visible value ++ "' for '" ++ flag.shown ++
      "' found; no more were expected\n\n" ++
      usage (if others then partsAmongOthers flag else [flag.shown]) ++ hint
where
  /-- The part of a word that is shown. -/
  visible (word : String) : String := String.ofList (Text.visible word.toList)
  /-- The hint on how to get help. -/
  hint : String := "\n\nFor more information, try '--help'.\n"

/-! ### Reading -/

/-- The words read so far. A setting whose value is not settled yet is pending. -/
structure Arguments where
  used : List Flag
  values : List (Setting × String)
  pending : Option (Setting × Option String)
  deriving DecidableEq

/-- What ends the reading of words before their end. -/
inductive Interruption
  | help
  | refused (e : ArgumentError)
  deriving DecidableEq

namespace Arguments

def empty : Arguments :=
  ⟨[], [], none⟩

/-- Takes a flag, which may stand only once. -/
def take (flag : Flag) (a : Arguments) : Except ArgumentError Arguments :=
  if flag ∈ a.used then .error (.repeated flag) else .ok { a with used := a.used ++ [flag] }

def set (setting : Setting) (value : String) (a : Arguments) : Except ArgumentError Arguments := do
  let a ← a.take (.setting setting)
  return { a with values := a.values ++ [(setting, value)] }

def settle (a : Arguments) : Except ArgumentError Arguments :=
  match a.pending with
  | none => .ok a
  | some (setting, none) => .error (.missingValue setting)
  | some (setting, some value) => { a with pending := none }.set setting value

/-- The flags that a refusal names, a pending setting among them. One that was given twice is
named no more. -/
def named (a : Arguments) : List Flag :=
  match a.settle with
  | .ok a => a.used
  | .error (.repeated flag) => a.used.filter (· ≠ flag)
  | .error _ => a.used

def flag (flag : Flag) (attached : Option String) (a : Arguments) :
    Except Interruption Arguments := do
  match flag, attached with
  | .setting setting, some value => ((← settled).set setting value).mapError .refused
  | .setting setting, none => return { ← settled with pending := some (setting, none) }
  | flag, some value =>
    .error (.refused (.unexpectedValue value flag !a.used.isEmpty))
  | .help, none =>
    let _ ← settled
    .error .help
  | .debug, none => ((← settled).take .debug).mapError .refused
where
  /-- The words so far, with nothing pending. -/
  settled : Except Interruption Arguments :=
    a.settle.mapError .refused

/-- Takes the letters of a word with one dash. What follows the letter of a setting is its value. -/
def letters : List Char → Arguments → Except Interruption Arguments
  | [], a => .ok a
  | c :: rest, a =>
    match Flag.ofLetter? c with
    | none => .error (.refused (.unexpected (String.ofList ['-', c]) none []))
    | some (.setting setting) =>
      let attached := match rest with
        | [] => none
        | '=' :: value => some value
        | value => some value
      a.flag (.setting setting) (attached.map String.ofList)
    | some flag => do
      let a ← a.flag flag none
      letters rest a

/-- Takes the name of a word with two dashes, and the value after an equals sign if there is one. -/
def long (body : List Char) (a : Arguments) : Except Interruption Arguments :=
  let name := String.ofList (body.takeWhile (· ≠ '='))
  let attached := match body.dropWhile (· ≠ '=') with
    | _ :: value => some (String.ofList value)
    | [] => none
  match Flag.ofName? name with
  | some flag => a.flag flag attached
  | none =>
    let similar := (Text.mostSimilar? (Flag.all.map Flag.name) name).bind Flag.ofName?
    let used := a.named
    let used := match similar with
      | some flag => if flag ∈ used then used else used ++ [flag]
      | none => used
    .error (.refused (.unexpected ("--" ++ name) similar used))

def stray (word : String) : Except Interruption Arguments :=
  .error (.refused (.unexpected word none []))

/-- Takes all words. Two dashes alone mean that no flag follows. -/
def words : List String → Arguments → Except Interruption Arguments
  | [], a => .ok a
  | word :: rest, a =>
    match word.toList with
    | ['-', '-'] =>
      match rest with
      | [] => .ok a
      | next :: _ => stray next
    | '-' :: '-' :: body => do
      let a ← a.long body
      words rest a
    | '-' :: c :: body => do
      let a ← a.letters (c :: body)
      words rest a
    | _ =>
      match a.pending with
      | some (setting, none) => words rest { a with pending := some (setting, some word) }
      | _ => stray word

def inputs (a : Arguments) : Inputs :=
  { markup := a.values.lookup .markup
    json := a.values.lookup .json
    input := a.values.lookup .input
    output := a.values.lookup .output
    format := a.values.lookup .format
    stroke := a.values.lookup .stroke }

def read (line : List String) : Except ArgumentError Invocation :=
  match words line empty with
  | .ok a => do
    let a ← a.settle
    return .compile a.inputs (.debug ∈ a.used)
  | .error .help => .ok .help
  | .error (.refused e) => .error e

end Arguments
end PaintScript.CommandLine

import PaintScript.CommandLine.Outcome
import PaintScript.Image.Measure
import Std.Time

/-!
# The program

`main` reads the source image, makes a stamp from the clock and from random bytes, and shows the
outcome of the command line.
-/

namespace PaintScript.CommandLine

/-- The instant a number of nanoseconds after the start of 1970. -/
def instantOfUnix (nanoseconds : Nat) : Instant :=
  let seconds := nanoseconds / 1000000000
  let epoch : Date := ⟨1970, 1, 1, by decide⟩
  ⟨Nat.repeat Date.next (seconds / 86400) epoch,
    ⟨seconds % 86400, Nat.mod_lt _ (by decide)⟩,
    ⟨nanoseconds % 1000000000, Nat.lt_of_lt_of_le (Nat.mod_lt _ (by decide)) (by decide)⟩⟩

/-- The text of a random identifier of version 4. -/
def identifier (bytes : List UInt8) : String :=
  let marked := bytes.mapIdx fun i b =>
    if i = 6 then b % 16 + 0x40 else if i = 8 then b % 64 + 0x80 else b
  let digits := marked.flatMap Sha256.hexByte
  let part (start count : Nat) : List Char := (digits.drop start).take count
  String.ofList (['-'].intercalate [part 0 8, part 8 4, part 12 4, part 16 4, part 20 12])

def freshStamp : IO Stamp := do
  let now ← Std.Time.Timestamp.now
  let bytes ← IO.getRandomBytes 16
  return ⟨identifier bytes.toList, instantOfUnix now.toNanosecondsSinceUnixEpoch.val.toNat⟩

def openFile (path : String) : IO (Except Image.OpenError (List UInt8)) := do
  try
    return .ok (← IO.FS.readBinFile path).toList
  catch
    | .noFileOrDirectory .. => return .error .notFound
    | .inappropriateType _ 21 _ => return .error .isDirectory
    | .inappropriateType .. => return .error .notDirectory
    | .invalidArgument _ 22 _ => return .error .nulInName
    | .invalidArgument .. => return .error .nameTooLong
    | _ => return .error .denied

def serve (line : List String) : IO Outcome := do
  let path := match Arguments.read line with
    | .ok (.compile inputs _) => inputs.input.getD ""
    | _ => ""
  let file ← openFile path
  return Outcome.ofArguments (fun path => Image.measure path file) (← freshStamp) line

end PaintScript.CommandLine

/-- Serves a command line and gives the exit status. -/
def main (line : List String) : IO UInt32 := do
  let outcome ← PaintScript.CommandLine.serve line
  IO.print outcome.stdout
  IO.eprint outcome.stderr
  return outcome.status.toUInt32

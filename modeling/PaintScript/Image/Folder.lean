/-!
# Files in a folder

`Folder.find` follows a path from the folder, or from the root if it starts with a slash. Nothing is
known of the directories above the folder, except that they are there.
-/

namespace PaintScript.Image

inductive OpenError
  | nulInName
  | nameTooLong
  | notFound
  | notDirectory
  | isDirectory
  | denied
  deriving DecidableEq

def OpenError.message : OpenError → String
  | .nulInName => "file name contained an unexpected NUL byte"
  | .nameTooLong => "File name too long (os error 36)"
  | .notFound => "No such file or directory (os error 2)"
  | .notDirectory => "Not a directory (os error 20)"
  | .isDirectory => "Is a directory (os error 21)"
  | .denied => "Permission denied (os error 13)"

/-- The texts between the slashes of a path. -/
def segments (path : String) : List String :=
  (path.toList.splitOn '/').map String.ofList

/-- The names in a path: its segments without the empty ones and the single dots. -/
def names (path : String) : List String :=
  (segments path).filter fun name => name ≠ "" ∧ name ≠ "."

structure Folder where
  files : List (List String × List UInt8)

/-- A place that a path can reach: one below the folder, or a directory above it. -/
inductive Place
  | below (names : List String)
  | above
  deriving DecidableEq

def Place.parent : Place → Place
  | .below [] => .above
  | .below names => .below names.dropLast
  | .above => .above

inductive Entry
  | file (content : List UInt8)
  | directory
  deriving DecidableEq

namespace Folder

def ofFiles (files : List (String × List UInt8)) : Folder :=
  ⟨files.map fun (path, content) => (names path, content)⟩

/-- What is found at a place, if anything. The names before the last one of a file are
directories. -/
def entry? (folder : Folder) : Place → Option Entry
  | .above => some .directory
  | .below names =>
    match folder.files.lookup names with
    | some content => some (.file content)
    | none =>
      if names.isEmpty || folder.files.any fun file => names.isPrefixOf file.1 then some .directory
      else none

/-- The number of bytes that a name can have. -/
def nameLimit : Nat :=
  255

/-- The number of bytes that a path can have. -/
def pathLimit : Nat :=
  4095

def step (folder : Folder) (place : Place) (segment : String) : Except OpenError Place :=
  match folder.entry? place with
  | some .directory =>
    if segment = "" ∨ segment = "." then .ok place
    else if segment = ".." then .ok place.parent
    else if nameLimit < segment.utf8ByteSize then .error .nameTooLong
    else
      match place with
      | .above => .error .notFound
      | .below names =>
        let next : Place := .below (names ++ [segment])
        if (folder.entry? next).isSome then .ok next else .error .notFound
  | _ => .error .notDirectory

def find (folder : Folder) (path : String) : Except OpenError (List UInt8) := do
  if '\x00' ∈ path.toList then .error .nulInName
  else if path = "" then .error .notFound
  else if pathLimit < path.utf8ByteSize then .error .nameTooLong
  else
    let start : Place := if path.startsWith "/" then .above else .below []
    let place ← (segments path).foldlM folder.step start
    match folder.entry? place with
    | some (.file content) => .ok content
    | _ => .error .isDirectory

end Folder
end PaintScript.Image

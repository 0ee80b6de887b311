import PaintScript.Json.Skip

/-!
# Reading records

A record is a list of fields. `record` reads one from an object, whose keys may come in any order
and among unknown ones, or from the array of its values in declaration order. No known key may be
repeated, and only a field with a default may be left out.
-/

namespace PaintScript.Json.Read

/-- A field of a record: its key, how its value is read, and the value it has when left out. -/
structure Field where
  key : String
  Value : Type
  read : Nat → Reader Value
  absent : Option Value

/-- A field that has to be present. -/
def required {α : Type} (key : String) (read : Nat → Reader α) : Field :=
  ⟨key, α, read, none⟩

/-- A field that has the given value when it is left out. -/
def defaulted {α : Type} (key : String) (read : Nat → Reader α) (value : α) : Field :=
  ⟨key, α, read, some value⟩

abbrev Values : List Field → Type
  | [] => Unit
  | f :: fs => f.Value × Values fs

/-- The values of the fields that have been read so far. -/
abbrev Slots : List Field → Type
  | [] => Unit
  | f :: fs => Option f.Value × Slots fs

def noSlots : (fields : List Field) → Slots fields
  | [] => ()
  | _ :: fs => (none, noSlots fs)

/-- Reads the colon and the value that follow a key. The value of an unknown key is skipped. -/
def fill : (fields : List Field) → String → Nat → Slots fields → Reader (Slots fields)
  | [], _, _, _, rest => do
    let rest ← colon rest
    let rest ← skip rest
    .ok ((), rest)
  | f :: fs, key, levels, (slot, slots), rest =>
    if key = f.key then
      if slot.isSome then stop (.duplicateField key) (leaveObject rest).2 0
      else do
        let rest ← colon rest
        let (v, rest) ← f.read levels rest
        .ok ((some v, slots), rest)
    else do
      let (slots, rest) ← fill fs key levels slots rest
      .ok ((slot, slots), rest)

/-- The values of all fields, or the key of the first one that is missing. -/
def complete : (fields : List Field) → Slots fields → Except String (Values fields)
  | [], _ => .ok ()
  | f :: fs, (slot, slots) =>
    match slot <|> f.absent with
    | none => .error f.key
    | some v => do
      let vs ← complete fs slots
      .ok (v, vs)

def members (fields : List Field) (levels : Nat) :
    Nat → Bool → Slots fields → Reader (Slots fields)
  | 0, _, _, rest => stop (.unfinished .object) rest 0
  | fuel + 1, first, slots, rest => do
    let (k, rest) ← nextKey first rest
    match k with
    | none => .ok (slots, rest)
    | some k =>
      let (slots, rest) ← fill fields k levels slots rest
      members fields levels fuel false slots rest

def keyed (fields : List Field) (levels : Nat) : Reader (Values fields) := fun rest => do
  let (slots, rest) ← members fields levels (rest.length + 1) true (noSlots fields) rest
  let (left, after) := leaveObject rest
  match complete fields slots with
  | .error key => stop (.missingField key) after 0
  | .ok values => do
    left
    .ok (values, after)

/-- The values of fields that an array has no items for, or the number of the first that needs
one. -/
def remaining : (fields : List Field) → Nat → Except Nat (Values fields)
  | [], _ => .ok ()
  | f :: fs, index =>
    match f.absent with
    | none => .error index
    | some v => do
      let vs ← remaining fs (index + 1)
      .ok (v, vs)

/-- Reads the items of an array as the values of the fields. -/
def ordered (expected : String) (levels : Nat) :
    (fields : List Field) → Nat → Reader (Values fields)
  | [], _, rest => .ok ((), rest)
  | f :: fs, index, rest => do
    let (more, rest) ← nextItem (index == 0) rest
    if more then
      let (v, rest) ← f.read levels rest
      let (vs, rest) ← ordered expected levels fs (index + 1) rest
      .ok ((v, vs), rest)
    else
      match remaining (f :: fs) index with
      | .ok vs => .ok (vs, rest)
      | .error index => stop (.wrongLength index expected) (leaveArray rest).2 0

def positional (name : String) (fields : List Field) (levels : Nat) : Reader (Values fields) :=
  fun rest => do
    let expected := name ++ " with " ++ String.ofList (Text.natural fields.length) ++ " elements"
    let (values, rest) ← ordered expected levels fields 0 rest
    let (left, rest) := leaveArray rest
    left
    .ok (values, rest)

/-- Reads a record in either form. The name stands for it in messages. -/
def record (name : String) (fields : List Field) (levels : Nat) : Reader (Values fields) :=
  fun rest =>
    match dropSpace rest with
    | '[' :: rest => nested levels '[' rest (positional name fields)
    | '\x7b' :: rest => nested levels '\x7b' rest (keyed fields)
    | rest => misplaced name rest

/-! ### Tagged values -/

/-- Reads a value that is the only entry of an object, whose key is a tag. The tag tells how the
value is read, and it is read as a key: what stands in its place is refused as in any other object.
A tag that stands alone is refused where the array around it goes on. -/
def tagged {α τ : Type} (tag? : String → Option τ) (known : List String)
    (read : τ → Nat → Reader α) (levels : Nat) : Reader α := fun rest =>
  let resolve (name : String) : Reader τ := fun rest =>
    match tag? name with
    | some t => .ok (t, rest)
    | none => stop (.unknownTag name known) rest 0
  match dropSpace rest with
  | '\x7b' :: rest => do
    let (v, rest) ← nested levels '\x7b' rest fun levels rest => do
      let (name, rest) ← nextKey true rest
      match name with
      | none => stop .expectedValue rest 1
      | some name =>
        let (t, rest) ← resolve name rest
        let rest ← colon rest
        read t levels rest
    match dropSpace rest with
    | '\x7d' :: rest => .ok (v, rest)
    | [] => stop (.unfinished .object) [] 0
    | rest => stop .expectedValue rest 0
  | '"' :: rest => do
    let (name, rest) ← string rest
    let (_, rest) ← resolve name rest
    stop (.wrongType .bareTag "newtype variant") (leaveArray rest).2 0
  | [] => stop (.unfinished .value) [] 0
  | rest => stop .expectedValue rest 1

end PaintScript.Json.Read

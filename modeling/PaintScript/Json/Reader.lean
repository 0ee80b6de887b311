import PaintScript.Json.Token

/-!
# Reading values

A `Reader` reads a value of one type from the front of a text and returns it with what follows.
Readers of nested values take the number of brackets that may still be opened. `decode` runs a
reader over a whole text.
-/

namespace PaintScript.Json

/-- Reads a value from the front of a text. -/
abbrev Reader (α : Type) := List Char → Except Fault (α × List Char)

namespace Read

/-! ### Moving through arrays and objects -/

/-- Moves on to the next item of an array. The result tells whether there is one; if not, the text
goes on at the closing bracket. -/
def nextItem (first : Bool) (rest : List Char) : Except Fault (Bool × List Char) :=
  match dropSpace rest with
  | [] => stop (.unfinished .list) [] 0
  | ']' :: rest => .ok (false, ']' :: rest)
  | c :: rest =>
    if first then .ok (true, c :: rest)
    else if c = ',' then
      match dropSpace rest with
      | [] => stop (.unfinished .value) [] 0
      | ']' :: rest => stop .trailingComma (']' :: rest) 1
      | rest => .ok (true, rest)
    else stop .expectedCommaOrBracket (c :: rest) 1

/-- Reads a key whose quote comes next. -/
def key : List Char → Except Fault (Option String × List Char)
  | '"' :: rest => do
    let (k, rest) ← string rest
    .ok (some k, rest)
  | rest => stop .keyNotString rest 1

/-- Moves on to the next entry of an object and reads its key. Without one, the text goes on at the
closing brace. -/
def nextKey (first : Bool) (rest : List Char) : Except Fault (Option String × List Char) :=
  match dropSpace rest with
  | [] => stop (.unfinished .object) [] 0
  | '\x7d' :: rest => .ok (none, '\x7d' :: rest)
  | c :: rest =>
    if first then key (c :: rest)
    else if c = ',' then
      match dropSpace rest with
      | [] => stop (.unfinished .value) [] 0
      | '\x7d' :: rest => stop .trailingComma ('\x7d' :: rest) 1
      | rest => key rest
    else stop .expectedCommaOrBrace (c :: rest) 1

def colon (rest : List Char) : Except Fault (List Char) :=
  match dropSpace rest with
  | [] => stop (.unfinished .object) [] 0
  | c :: rest => if c = ':' then .ok rest else stop .expectedColon (c :: rest) 1

/-- Leaves an array. The second part is the text after the attempt, whatever came of it. -/
def leaveArray (rest : List Char) : Except Fault Unit × List Char :=
  match dropSpace rest with
  | [] => (stop (.unfinished .list) [] 0, [])
  | ']' :: rest => (.ok (), rest)
  | ',' :: rest =>
    match dropSpace rest with
    | ']' :: rest => (stop .trailingComma (']' :: rest) 1, ']' :: rest)
    | rest => (stop .trailingCharacters rest 1, rest)
  | rest => (stop .trailingCharacters rest 1, rest)

/-- Leaves an object. The second part is the text after the attempt, whatever came of it. -/
def leaveObject (rest : List Char) : Except Fault Unit × List Char :=
  match dropSpace rest with
  | [] => (stop (.unfinished .object) [] 0, [])
  | '\x7d' :: rest => (.ok (), rest)
  | ',' :: rest => (stop .trailingComma (',' :: rest) 1, ',' :: rest)
  | rest => (stop .trailingCharacters rest 1, rest)

/-- Opens a bracket and reads what it holds, if one more may be opened. -/
def nested {α : Type} (levels : Nat) (bracket : Char) (rest : List Char)
    (body : Nat → Reader α) : Except Fault (α × List Char) :=
  match levels with
  | 0 => stop .nestedTooDeep (bracket :: rest) 1
  | levels + 1 => body levels rest

def items {α : Type} (item : Reader α) : Nat → Bool → Reader (List α)
  | 0, _, rest => stop (.unfinished .list) rest 0
  | fuel + 1, first, rest => do
    let (more, rest) ← nextItem first rest
    if more then
      let (v, rest) ← item rest
      let (vs, rest) ← items item fuel false rest
      .ok (v :: vs, rest)
    else .ok ([], rest)

def arrayBody {α : Type} (item : Reader α) : Reader (List α) := fun rest => do
  let (vs, rest) ← items item (rest.length + 1) true rest
  let (left, rest) := leaveArray rest
  left
  .ok (vs, rest)

def entries {α : Type} (value : Reader α) : Nat → Bool → Reader (List (String × α))
  | 0, _, rest => stop (.unfinished .object) rest 0
  | fuel + 1, first, rest => do
    let (k, rest) ← nextKey first rest
    match k with
    | none => .ok ([], rest)
    | some k =>
      let rest ← colon rest
      let (v, rest) ← value rest
      let (more, rest) ← entries value fuel false rest
      .ok ((k, v) :: more, rest)

def objectBody {α : Type} (value : Reader α) : Reader (List (String × α)) := fun rest => do
  let (members, rest) ← entries value (rest.length + 1) true rest
  let (left, rest) := leaveObject rest
  left
  .ok (members, rest)

/-! ### Any value -/

/-- Reads any value. Of repeated keys the last one counts. -/
def value : Nat → Reader Json
  | levels, rest =>
    match dropSpace rest with
    | [] => stop (.unfinished .value) [] 0
    | 'n' :: rest => do
      let rest ← literal ['u', 'l', 'l'] rest
      .ok (.null, rest)
    | 't' :: rest => do
      let rest ← literal ['r', 'u', 'e'] rest
      .ok (.bool true, rest)
    | 'f' :: rest => do
      let rest ← literal ['a', 'l', 's', 'e'] rest
      .ok (.bool false, rest)
    | '"' :: rest => do
      let (s, rest) ← string rest
      .ok (.string s, rest)
    | '[' :: rest =>
      match levels with
      | 0 => stop .nestedTooDeep ('[' :: rest) 1
      | levels + 1 => do
        let (vs, rest) ← arrayBody (value levels) rest
        .ok (.array vs, rest)
    | '\x7b' :: rest =>
      match levels with
      | 0 => stop .nestedTooDeep ('\x7b' :: rest) 1
      | levels + 1 => do
        let (members, rest) ← objectBody (value levels) rest
        .ok (ofEntries members, rest)
    | c :: rest =>
      if c = '-' ∨ c.isDigit then do
        let (n, rest) ← number (c :: rest)
        .ok (n.toJson, rest)
      else stop .expectedValue (c :: rest) 1

/-! ### Values of one kind -/

/-- A number, where a value of another kind is expected. -/
def Number.found : Number → Found
  | .integer n => .integer n
  | .float x => .float x

/-- Fails on a value of another kind than expected. A value without parts is read first, so that the
message can name it. -/
def misplaced {α : Type} (expected : String) (rest : List Char) : Except Fault α :=
  match rest with
  | 'n' :: rest => do
    let rest ← literal ['u', 'l', 'l'] rest
    stop (.wrongType .null expected) rest 0
  | 't' :: rest => do
    let rest ← literal ['r', 'u', 'e'] rest
    stop (.wrongType (.bool true) expected) rest 0
  | 'f' :: rest => do
    let rest ← literal ['a', 'l', 's', 'e'] rest
    stop (.wrongType (.bool false) expected) rest 0
  | '"' :: rest => do
    let (s, rest) ← string rest
    stop (.wrongType (.string s) expected) rest 0
  | '[' :: _ => stop (.wrongType .sequence expected) rest 0
  | '\x7b' :: _ => stop (.wrongType .map expected) rest 0
  | c :: _ =>
    if c = '-' ∨ c.isDigit then do
      let (n, rest) ← number rest
      stop (.wrongType n.found expected) rest 0
    else stop .expectedValue rest 1
  | [] => stop (.unfinished .value) [] 0

/-- Reads a string. The message of a fault calls it `expected`. -/
def text (expected : String) : Reader String := fun rest =>
  match dropSpace rest with
  | '"' :: rest => string rest
  | rest => misplaced expected rest

def int64 : Reader Int64 := fun rest =>
  match dropSpace rest with
  | [] => stop (.unfinished .value) [] 0
  | c :: rest =>
    if c = '-' ∨ c.isDigit then do
      let (n, rest) ← number (c :: rest)
      match n with
      | .integer n =>
        if -2 ^ 63 ≤ n ∧ n < 2 ^ 63 then .ok (Int64.ofInt n, rest)
        else stop (.wrongValue (.integer n) "i64") rest 0
      | .float x => stop (.wrongType (.float x) "i64") rest 0
    else misplaced "i64" (c :: rest)

def list {α : Type} (item : Nat → Reader α) (levels : Nat) : Reader (List α) := fun rest =>
  match dropSpace rest with
  | '[' :: rest => nested levels '[' rest fun levels => arrayBody (item levels)
  | rest => misplaced "a sequence" rest

/-- Reads a value, or `null` in place of one. -/
def optional {α : Type} (read : Nat → Reader α) (levels : Nat) : Reader (Option α) :=
  fun rest =>
  match dropSpace rest with
  | 'n' :: rest => do
    let rest ← literal ['u', 'l', 'l'] rest
    .ok (none, rest)
  | rest => do
    let (v, rest) ← read levels rest
    .ok (some v, rest)

/-! ### Whole texts -/

/-- The number of brackets that may stand open at once. -/
def levelLimit : Nat :=
  127

/-- Reads a text that holds one value and spaces around it. -/
def whole {α : Type} (read : Nat → Reader α) (text : List Char) : Except Fault α := do
  let (v, rest) ← read levelLimit text
  match dropSpace rest with
  | [] => .ok v
  | rest => stop .trailingCharacters rest 1

end Read

/-- Reads a text that holds one value. A fault comes with its line and column. -/
def decode {α : Type} (read : Nat → Reader α) (text : String) : Except Located α :=
  (Read.whole read text.toList).mapError (Fault.locate text.toList)

def ofText (text : String) : Except Located Json :=
  decode Read.value text

end PaintScript.Json

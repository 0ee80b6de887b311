import PaintScript.Binary64.Basic

/-!
# JSON values

`Json` keeps the entries of an object as a list. `ofEntries` builds the object that a text with
repeated keys stands for, and `sorted` puts the keys of every object into code point order.
-/

namespace PaintScript

/-- A JSON value. Numbers are integers or finite floating-point numbers. -/
inductive Json
  | null
  | bool (b : Bool)
  | integer (n : Int)
  | float (x : Binary64)
  | string (s : String)
  | array (items : List Json)
  | object (entries : List (String × Json))
  deriving Inhabited

namespace Json

/-- Puts an entry into a list that is in key order. An entry with the same key is replaced. -/
def insertEntry (key : String) (value : Json) : List (String × Json) → List (String × Json)
  | [] => [(key, value)]
  | (k, v) :: rest =>
    if key < k then (key, value) :: (k, v) :: rest
    else if key = k then (key, value) :: rest
    else (k, v) :: insertEntry key value rest

/-- The entries in key order, the last one of each key. -/
def sortEntries (entries : List (String × Json)) : List (String × Json) :=
  entries.foldl (fun kept (k, v) => insertEntry k v kept) []

/-- The object with the given entries, of which the last one of each key counts. -/
def ofEntries (entries : List (String × Json)) : Json :=
  .object (sortEntries entries)

mutual

/-- The same value with the keys of every object in order. -/
def sorted : Json → Json
  | .array items => .array (sortedItems items)
  | .object entries => .object (sortEntries (sortedEntries entries))
  | .null => .null
  | .bool b => .bool b
  | .integer n => .integer n
  | .float x => .float x
  | .string s => .string s

def sortedItems : List Json → List Json
  | [] => []
  | v :: rest => v.sorted :: sortedItems rest

def sortedEntries : List (String × Json) → List (String × Json)
  | [] => []
  | (k, v) :: rest => (k, v.sorted) :: sortedEntries rest

end

end Json
end PaintScript

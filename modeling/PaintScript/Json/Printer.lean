import PaintScript.Binary64.Shortest
import PaintScript.Json.Basic

/-!
# JSON text

`print` writes a value without whitespace and with its entries in the order they stand in;
`canonical` writes it with sorted keys, so that equal values have equal texts.
-/

namespace PaintScript.Json

def hexPair (n : Nat) : List Char :=
  [Nat.digitChar (n / 16 % 16), Nat.digitChar (n % 16)]

/-- One character inside a string: the quote, the backslash and the controls are escaped. -/
def escape (c : Char) : List Char :=
  match c with
  | '"' => ['\\', '"']
  | '\\' => ['\\', '\\']
  | '\n' => ['\\', 'n']
  | '\r' => ['\\', 'r']
  | '\t' => ['\\', 't']
  | '\x08' => ['\\', 'b']
  | '\x0c' => ['\\', 'f']
  | c => if c.toNat < 0x20 then '\\' :: 'u' :: '0' :: '0' :: hexPair c.toNat else [c]

def printString (s : String) : List Char :=
  '"' :: (s.toList.flatMap escape ++ ['"'])

mutual

/-- The compact text of a value. -/
def print : Json → List Char
  | .null => ['n', 'u', 'l', 'l']
  | .bool true => ['t', 'r', 'u', 'e']
  | .bool false => ['f', 'a', 'l', 's', 'e']
  | .integer n => Text.integer n
  | .float x => x.text
  | .string s => printString s
  | .array items => '[' :: (printItems items ++ [']'])
  | .object entries => '\x7b' :: (printEntries entries ++ ['\x7d'])

def printItems : List Json → List Char
  | [] => []
  | v :: rest => v.print ++ (if rest.isEmpty then [] else ',' :: printItems rest)

def printEntries : List (String × Json) → List Char
  | [] => []
  | (k, v) :: rest =>
    printString k ++ ':' :: (v.print ++ (if rest.isEmpty then [] else ',' :: printEntries rest))

end

def text (v : Json) : String :=
  String.ofList v.print

/-- The compact text of a value with the keys of every object in order. -/
def canonical (v : Json) : String :=
  v.sorted.text

end PaintScript.Json

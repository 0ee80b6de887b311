import PaintScript.Json.Reader

/-!
# Skipping a value

`skip` passes over one value whose content does not matter. The value has to be well formed, but it
may nest to any depth, and neither the size of a number nor the code points of a string are looked
at.
-/

namespace PaintScript.Json.Read

def skipString : Nat → List Char → Except Fault (List Char)
  | _, [] => stop (.unfinished .string) [] 0
  | 0, rest => stop (.unfinished .string) rest 0
  | fuel + 1, c :: rest =>
    if c = '"' then .ok rest
    else if c = '\\' then
      match rest with
      | 'u' :: rest => do
        let (_, rest) ← hexQuad rest
        skipString fuel rest
      | rest => do
        let (_, rest) ← escaped rest
        skipString fuel rest
    else if c.toNat < 0x20 then stop .controlCharacter (c :: rest) 0
    else skipString fuel rest

def skipKey (rest : List Char) : Except Fault (List Char) :=
  match dropSpace rest with
  | [] => stop (.unfinished .object) [] 0
  | c :: rest =>
    if c = '"' then do
      let rest ← skipString rest.length rest
      colon rest
    else stop .keyNotString (c :: rest) 1

mutual

def skipValue : Nat → List Char → Except Fault (List Char)
  | 0, rest => stop (.unfinished .value) rest 0
  | fuel + 1, rest =>
    match dropSpace rest with
    | [] => stop (.unfinished .value) [] 0
    | 'n' :: rest => literal ['u', 'l', 'l'] rest
    | 't' :: rest => literal ['r', 'u', 'e'] rest
    | 'f' :: rest => literal ['a', 'l', 's', 'e'] rest
    | '"' :: rest => skipString rest.length rest
    | '[' :: rest => skipItems fuel true rest
    | '\x7b' :: rest => skipEntries fuel true rest
    | c :: rest =>
      if c = '-' ∨ c.isDigit then do
        let (_, rest) ← numeral .invalidNumber (c :: rest)
        .ok rest
      else stop .expectedValue (c :: rest) 1

def skipItems : Nat → Bool → List Char → Except Fault (List Char)
  | 0, _, rest => stop (.unfinished .list) rest 0
  | fuel + 1, first, rest =>
    match dropSpace rest with
    | [] => stop (.unfinished .list) [] 0
    | ']' :: rest => .ok rest
    | c :: rest => do
      let rest ← if first then pure (c :: rest)
        else if c = ',' then pure rest
        else stop .expectedCommaOrBracket (c :: rest) 1
      let rest ← skipValue fuel rest
      skipItems fuel false rest

def skipEntries : Nat → Bool → List Char → Except Fault (List Char)
  | 0, _, rest => stop (.unfinished .object) rest 0
  | fuel + 1, first, rest =>
    match dropSpace rest with
    | [] => stop (.unfinished .object) [] 0
    | '\x7d' :: rest => .ok rest
    | c :: rest => do
      let rest ← if first then pure (c :: rest)
        else if c = ',' then pure rest
        else stop .expectedCommaOrBrace (c :: rest) 1
      let rest ← skipKey rest
      let rest ← skipValue fuel rest
      skipEntries fuel false rest

end

def skip (rest : List Char) : Except Fault (List Char) :=
  skipValue (2 * rest.length + 2) rest

end PaintScript.Json.Read

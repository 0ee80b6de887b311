import PaintScript.Text.Printable

/-!
# Quoted text in messages

`quoted` shows a text between double quotes, with every character that could not be read back from
the page written as an escape.
-/

namespace PaintScript.Text

def hexadecimal (n : Nat) : List Char :=
  Nat.toDigits 16 n

def quotedChar (c : Char) : List Char :=
  match c with
  | '\x00' => ['\\', '0']
  | '\t' => ['\\', 't']
  | '\r' => ['\\', 'r']
  | '\n' => ['\\', 'n']
  | '\\' => ['\\', '\\']
  | '"' => ['\\', '"']
  | c => if isPrintable c then [c] else ['\\', 'u', '\x7b'] ++ hexadecimal c.toNat ++ ['\x7d']

def quoted (s : List Char) : List Char :=
  '"' :: (s.flatMap quotedChar ++ ['"'])

end PaintScript.Text

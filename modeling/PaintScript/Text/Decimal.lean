import PaintScript.Power
import PaintScript.Text.Blank

/-!
# Decimal integers

`integer` writes an integer, and `prefixInt64?` reads the one that a text starts with.
-/

namespace PaintScript.Text

/-- The decimal digits of a natural number, without leading zeros. -/
def natural (n : Nat) : List Char :=
  Nat.toDigits 10 n

def integer (n : Int) : List Char :=
  if n < 0 then '-' :: natural n.natAbs else natural n.natAbs

def naturalOf (digits : List Char) : Nat :=
  Nat.ofDigitChars 10 digits 0

theorem naturalOf_natural (n : Nat) : naturalOf (natural n) = n :=
  Nat.ofDigitChars_toDigits (by decide) (by decide)

/-- Whether a text starts with a minus sign, and what stands after its sign. -/
def takeSign : List Char → Bool × List Char
  | '-' :: s => (true, s)
  | '+' :: s => (false, s)
  | s => (false, s)

def signed (negative : Bool) (magnitude : Nat) : Int :=
  if negative then -(magnitude : Int) else magnitude

/-- The integer that a text starts with: leading blanks are skipped, then a sign may stand, then
comes the longest run of digits. The magnitude has to be below `2 ^ 63`; what follows is free. -/
def prefixInt64? (s : List Char) : Option Int64 :=
  let (negative, rest) := takeSign (trimStart s)
  let digits := rest.takeWhile Char.isDigit
  if digits.isEmpty then none
  else
    let magnitude := naturalOf digits
    if magnitude < 2 ^ 63 then some (Int64.ofInt (signed negative magnitude)) else none

def int64 (n : Int64) : List Char :=
  integer n.toInt

end PaintScript.Text

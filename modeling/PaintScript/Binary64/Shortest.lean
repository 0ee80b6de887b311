import PaintScript.Binary64.Basic
import PaintScript.Text.Decimal

/-!
# The shortest decimal text

`shortest` finds the fewest decimal digits that read back as the same number, and `text` writes
them, positionally from `10 ^ -5` up to `10 ^ 16` and with an exponent elsewhere.
-/

namespace PaintScript.Binary64

/-- A decimal number `digits * 10 ^ exponent`. -/
structure Decimal where
  digits : Nat
  exponent : Int
  deriving DecidableEq

/-- The exponent of the leading decimal digit of a positive number of units. -/
def leadingExponent (units : Nat) : Int :=
  if one ≤ units then ((Nat.toDigits 10 (units / one)).length : Int) - 1
  else -((Nat.toDigits 10 ((one - 1) / units)).length : Int)

/-- The decimal of the given exponent that is nearest to a magnitude among those that read back as
it, of two equally near ones the even one. -/
def onGrid? (magnitude : Nat) (exponent : Int) : Option Decimal :=
  let up := 10 ^ (-exponent).toNat
  let step := one * 10 ^ exponent.toNat
  let value := unitsOf magnitude * up
  let low := (unitsOf (magnitude - 1) + unitsOf magnitude) * up
  let high := (unitsOf magnitude + unitsOf (magnitude + 1)) * up
  let inside (d : Nat) : Bool :=
    if magnitude % 2 = 0 then low ≤ 2 * d * step && 2 * d * step ≤ high
    else low < 2 * d * step && 2 * d * step < high
  let below := value / step
  let rest := value % step
  let nearer := if 2 * rest < step ∨ (2 * rest = step ∧ below % 2 = 0) then below else below + 1
  let farther := if nearer = below then below + 1 else below
  if inside nearer then some ⟨nearer, exponent⟩
  else if inside farther then some ⟨farther, exponent⟩
  else none

/-- The first grid, from coarse to fine, that has a decimal reading back as the magnitude. -/
def search (magnitude : Nat) : Nat → Int → Decimal
  | 0, exponent =>
    ⟨unitsOf magnitude * 10 ^ (-exponent).toNat / (one * 10 ^ exponent.toNat), exponent⟩
  | fuel + 1, exponent => (onGrid? magnitude exponent).getD (search magnitude fuel (exponent - 1))

/-- The fewest digits that read back as the number, and of those the nearest. -/
def shortest (x : Binary64) : Decimal :=
  if x.magnitude.val = 0 then ⟨0, 0⟩
  else search x.magnitude 17 (leadingExponent x.units)

def significant (digits : List Char) : List Char :=
  (digits.reverse.dropWhile (· = '0')).reverse

/-- A fraction, never left empty. -/
def fraction (digits : List Char) : List Char :=
  if digits.isEmpty then ['0'] else digits

/-- Writes `d.ddd * 10 ^ exponent`, where `digits` are the `d`s: positionally when the exponent is
at least `-5` and below `16`. -/
def layout (digits : List Char) (exponent : Int) : List Char :=
  if 0 ≤ exponent ∧ exponent < 16 then
    let whole := exponent.toNat + 1
    let padded := digits ++ List.replicate (whole - digits.length) '0'
    padded.take whole ++ '.' :: fraction (padded.drop whole)
  else if -5 ≤ exponent ∧ exponent < 0 then
    '0' :: '.' :: (List.replicate (-exponent - 1).toNat '0' ++ digits)
  else
    let mantissa := match digits with
      | [] => ['0']
      | [d] => [d]
      | d :: rest => d :: '.' :: rest
    let sign := if exponent < 0 then '-' else '+'
    mantissa ++ 'e' :: sign :: Text.natural exponent.natAbs

/-- The decimal text of a number. It always has a fraction or an exponent. -/
def text (x : Binary64) : List Char :=
  let magnitude :=
    if x.magnitude.val = 0 then ['0', '.', '0']
    else
      let d := x.shortest
      let digits := Text.natural d.digits
      layout (significant digits) (d.exponent + digits.length - 1)
  if x.negative then '-' :: magnitude else magnitude

end PaintScript.Binary64

import PaintScript.Binary64.Rounding

/-!
# Similar names

`similarity` rates two texts by the characters that they share. The rating is the magnitude of a
64-bit floating-point number, so greater ones mean more similar texts. `mostSimilar?` picks a name
by it.
-/

namespace PaintScript.Text

/-- Marks the first unmarked element that equals `c`, among those between two indices. -/
def markMatch (c : Char) (first last : Nat) :
    Nat → List (Char × Bool) → Option (List (Char × Bool))
  | _, [] => none
  | index, (d, marked) :: rest =>
    if last < index then none
    else if first ≤ index ∧ c = d ∧ !marked then some ((d, true) :: rest)
    else (markMatch c first last (index + 1) rest).map ((d, marked) :: ·)

/-- Pairs the characters of two texts that are equal and not far apart. The result lists the paired
characters of the first text in order, and marks those of the second. -/
def pairUp (reach : Nat) :
    Nat → List Char → List (Char × Bool) → List Char × List (Char × Bool)
  | _, [], marks => ([], marks)
  | index, c :: rest, marks =>
    match markMatch c (index - reach) (index + reach) 0 marks with
    | some marks =>
      let (paired, marks) := pairUp reach (index + 1) rest marks
      (c :: paired, marks)
    | none => pairUp reach (index + 1) rest marks

/-- The mean of the paired share of each text and of the share of pairs that kept their order. Each
quotient and each sum is rounded. -/
def similarity (a b : List Char) : Nat :=
  let reach := max a.length b.length / 2 - 1
  let (left, marks) := pairUp reach 0 a (b.map (·, false))
  let right := (marks.filter (·.2)).map (·.1)
  let paired := left.length
  let moved := ((left.zip right).filter fun (c, d) => c ≠ d).length / 2
  if paired = 0 then if a.isEmpty && b.isEmpty then quotient 1 1 else 0
  else
    third (sum (sum (quotient paired a.length) (quotient paired b.length))
      (quotient (paired - moved) paired))
where
  /-- A rounded quotient. -/
  quotient : Nat → Nat → Nat := Binary64.magnitudeOf
  /-- A rounded sum. -/
  sum (x y : Nat) : Nat :=
    Binary64.magnitudeOf (Binary64.unitsOf x + Binary64.unitsOf y) Binary64.one
  /-- A rounded third. -/
  third (x : Nat) : Nat :=
    Binary64.magnitudeOf (Binary64.unitsOf x) (3 * Binary64.one)

/-- The similarity that a name has to exceed, to be proposed for a text. -/
def enough : Nat :=
  Binary64.magnitudeOf 7 10

/-- The name that is most similar to a text, if it is similar enough; of equally similar ones the
last. -/
def mostSimilar? (names : List String) (text : String) : Option String :=
  let rated := names.map fun name => (name, similarity text.toList name.toList)
  let best := (rated.filter fun (_, rate) => enough < rate).foldl (fun best (name, rate) =>
    match best with
    | some (other, top) => if top ≤ rate then some (name, rate) else some (other, top)
    | none => some (name, rate)) none
  best.map (·.1)

end PaintScript.Text

/-!
# Powers

A power of a number is the one of the core library, also where Mathlib offers another.
-/

namespace PaintScript

/-- The powers of the core library, before any others. -/
@[default_instance 20000]
instance (priority := high) corePow {α : Type} [NatPow α] : Pow α Nat :=
  instPowNat

end PaintScript

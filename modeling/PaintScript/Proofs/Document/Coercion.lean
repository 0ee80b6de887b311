import PaintScript.Document.Coercion
import PaintScript.Proofs.Document.Map
import PaintScript.Proofs.Text.Decimal

/-!
# What written numbers stand for

A document is coerced exactly if each of its numbers stands for an integer, whatever the label of
its root.
-/

namespace PaintScript

namespace Numeric

/-- The integer that a written number stands for. -/
def Denotes (n : Numeric) (i : Int64) : Prop :=
  n.toInt64 = .ok i

theorem denotes_int {n i : Int64} : (int n).Denotes i ↔ n = i := by
  simp [Denotes, toInt64]

theorem denotes_ofToken {token : List Char} {i : Int64} :
    (ofToken token).Denotes i ↔ Text.prefixInt64? token = some i := by
  unfold Denotes ofToken
  cases h : Text.prefixInt64? token with
  | some n => simp [toInt64]
  | none => simp [toInt64, h]

/-- What can become of a token: an integer above the least one, or a text that starts with none. -/
def IsToken : Numeric → Prop
  | .int n => n ≠ Int64.minValue
  | .text s => Text.prefixInt64? s.toList = none
  | .float _ => False
  | .other _ => False

theorem isToken_ofToken (token : List Char) : (ofToken token).IsToken := by
  unfold ofToken
  cases h : Text.prefixInt64? token with
  | some n => exact Text.ne_minValue_of_prefixInt64? h
  | none => simpa only [IsToken, String.toList_ofList] using h

/-- A token that stands for an integer has become that integer. -/
theorem eq_int_of_denotes {n : Numeric} {i : Int64} (token : n.IsToken) (h : n.Denotes i) :
    n = .int i := by
  cases n with
  | int n => rw [denotes_int.mp h]
  | text s =>
    simp only [Denotes, toInt64, show Text.prefixInt64? s.toList = none from token] at h
    cases h
  | float x => exact token.elim
  | other v => exact token.elim

end Numeric

theorem Document.coerce_eq_ok_iff {label : String} {d : Document Numeric} {e : Document Int64} :
    d.coerce label = .ok e ↔ d.Rel Numeric.Denotes e :=
  Document.mapM_eq_ok_iff fun _ _ _ => mapError_eq_ok_iff

end PaintScript

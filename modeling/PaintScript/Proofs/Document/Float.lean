import PaintScript.Proofs.Document.AnyValue

/-!
# Floating-point numbers in documents

A floating-point number in a document is normalized to its exact value if this is an integer of 64
bits, and refused otherwise. So nothing is rounded or clamped, though the upper limit that a number
is compared with is no integer of 64 bits.
-/

namespace PaintScript

open Binary64 (ofInt64 valueOf zero)

/-- Whether the value of a number is an integer of 64 bits. -/
def Binary64.IsInt64 (x : Binary64) : Prop :=
  ∃ k : Int, -2 ^ 63 ≤ k ∧ k < 2 ^ 63 ∧ x.toRat = k

theorem Binary64.exists_int64_iff {x : Binary64} :
    (∃ n : Int64, x.toRat = n.toInt) ↔ x.IsInt64 := by
  constructor
  · rintro ⟨n, value⟩
    exact ⟨n.toInt, n.le_toInt, n.toInt_lt, value⟩
  · rintro ⟨k, least, greatest, value⟩
    exact ⟨Int64.ofInt k, by rw [Int64.toInt_ofInt_of_le least greatest]; exact value⟩

theorem Numeric.represents_float {x : Binary64} {n : Int64} :
    (Numeric.float x).Represents n ↔ x.toRat = n.toInt := by
  constructor
  · rintro ⟨⟩
    assumption
  · exact .float

theorem Numeric.toInt64_float_eq_error_iff {x : Binary64} {fault : NumericFault} :
    (Numeric.float x).toInt64 = .error fault ↔ ¬ x.IsInt64 ∧ fault = .notAnInteger x := by
  simp only [toInt64_eq_error_iff, represents_float, Binary64.exists_int64_iff]
  refine and_congr_right fun _ => ⟨?_, ?_⟩
  · rintro ⟨⟩
    rfl
  · rintro rfl
    exact .float x

/-- A floating-point number is coerced to its exact value if this is an integer of 64 bits and is
reported otherwise, also where it is a field of a document. The limits of the check are the numbers
nearest to the least and to the greatest integer, of which only the first one is exact. -/
theorem normalize_float_exact :
    (∀ x : Binary64, x.toRat = valueOf x.negative (x.magnitude / 2 ^ 52) (x.magnitude % 2 ^ 52)) ∧
    (ofInt64 Int64.minValue).toRat = (-2 ^ 63 : Int) ∧
    (ofInt64 Int64.maxValue).toRat = (2 ^ 63 : Int) ∧
    (∀ x : Binary64,
      (∀ n, (Numeric.float x).toInt64 = .ok n ↔ x.toRat = n.toInt) ∧
      ∀ fault, (Numeric.float x).toInt64 = .error fault ↔ ¬ x.IsInt64 ∧ fault = .notAnInteger x) ∧
    ∀ label (d : Document Int64) field (x : Binary64), field ∈ d.fields.map Prod.fst →
      let normalized := (((d.map .int).set field (.float x)).normalize label).outcome
      (∀ n : Int64, x.toRat = n.toInt → normalized = .ok (d.set field n)) ∧
      (¬ x.IsInt64 → normalized = .error ⟨label, field, .notAnInteger x⟩) := by
  refine ⟨Binary64.toRat_eq_valueOf, Binary64.toRat_eq_int_iff.mpr Binary64.signedUnits_least,
    Binary64.toRat_eq_int_iff.mpr Binary64.signedUnits_greatest, fun x => ⟨fun n => ?_, fun _ => ?_⟩,
    fun label d field x there => ?_⟩
  · rw [Numeric.toInt64_eq_ok_iff, Numeric.represents_float]
  · exact Numeric.toInt64_float_eq_error_iff
  · intro normalized
    have outcome : normalized = ((d.map .int).set field (.float x)).coerce label :=
      Document.outcome_normalize ..
    rw [outcome]
    constructor
    · intro n value
      exact Document.coerce_set_eq_ok label (.float value)
    · intro bad
      refine Document.coerce_set_eq_error label there ?_ (.float x)
      simpa only [Numeric.represents_float, Binary64.exists_int64_iff] using bad

/-- A radius of minus zero is zero, and the least integer is a radius. The number nearest to the
greatest integer is none, as it is one more than this integer. -/
theorem normalize_float_at_limits :
    let d : Document Int64 := ⟨⟨1, 1⟩, ⟨1, 1⟩, ⟨none, [.circle ⟨⟨2, 3⟩, 4, ⟨"red"⟩⟩], none⟩,
      "in", "out", "jpeg"⟩
    let field : NumericField := ⟨.drawing 0 .circle, .radius⟩
    let normalized := fun x => (((d.map .int).set field (.float x)).normalize "root").outcome
    let least := ofInt64 Int64.minValue
    let above := ofInt64 Int64.maxValue
    field ∈ d.fields.map Prod.fst ∧
      (zero true).toRat = (0 : Int64).toInt ∧ normalized (zero true) = .ok (d.set field 0) ∧
      least.toRat = Int64.minValue.toInt ∧ normalized least = .ok (d.set field Int64.minValue) ∧
      ¬ above.IsInt64 ∧
      normalized above = .error ⟨"root", field, .notAnInteger above⟩ := by
  intro d field normalized least above
  have there : field ∈ d.fields.map Prod.fst := by decide
  have law := fun x => normalize_float_exact.2.2.2.2 "root" d field x there
  have nothing : (zero true).toRat = (0 : Int64).toInt :=
    Binary64.toRat_eq_int_iff.mpr (by decide +kernel)
  have exact : least.toRat = Int64.minValue.toInt := normalize_float_exact.2.1
  have tooLarge : ¬ above.IsInt64 := by
    rintro ⟨k, -, greatest, value⟩
    have limit : above.toRat = (2 ^ 63 : Int) := normalize_float_exact.2.2.1
    rw [limit] at value
    have same : 2 ^ 63 = k := by exact_mod_cast value
    omega
  exact ⟨there, nothing, (law _).1 0 nothing, exact, (law least).1 _ exact, tooLarge,
    (law above).2 tooLarge⟩

end PaintScript

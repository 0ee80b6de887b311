import PaintScript.Proofs.Binary64.Value
import PaintScript.Proofs.Document.Agreement
import PaintScript.Proofs.Document.Visit
import PaintScript.Proofs.Pipeline.Compile

/-!
# Which documents are made of integers

`Numeric.Represents` says which integer a written number is, without regard to how it is coerced.
A document is normalized exactly if each of its numbers represents an integer, and the result holds
these integers in the same places.
-/

namespace PaintScript

/-! ### Numbers -/

namespace Numeric

/-- The integer that a written number is: itself, what its text starts with, or its exact value. -/
inductive Represents : Numeric → Int64 → Prop
  | int (n : Int64) : Represents (.int n) n
  | text {s : String} {n : Int64} (start : Text.prefixInt64? s.toList = some n) :
      Represents (.text s) n
  | float {x : Binary64} {n : Int64} (value : x.toRat = n.toInt) : Represents (.float x) n

/-- The fault that is reported for a number that represents no integer. -/
inductive ReportedAs : Numeric → NumericFault → Prop
  | float (x : Binary64) : ReportedAs (.float x) (.notAnInteger x)
  | text (s : String) : ReportedAs (.text s) (.notANumber s)
  | other (v : Json) : ReportedAs (.other v) (.notANumber v.canonical)

theorem toInt64_eq_ok_iff {n : Numeric} {i : Int64} : n.toInt64 = .ok i ↔ n.Represents i := by
  cases n with
  | int n =>
    constructor
    · rintro ⟨⟩
      exact .int _
    · rintro ⟨⟩
      rfl
  | float x =>
    have exact : x.int64? = some i ↔ x.toRat = i.toInt := Binary64.int64?_eq_some_iff
    constructor
    · intro h
      cases found : x.int64? with
      | none => simp [toInt64, found] at h
      | some n =>
        simp only [toInt64, found, Except.ok.injEq] at h
        exact .float (exact.mp (h ▸ found))
    · rintro ⟨⟩
      rename_i value
      simp only [toInt64, exact.mpr value]
  | text s =>
    constructor
    · intro h
      cases found : Text.prefixInt64? s.toList with
      | none => simp [toInt64, found] at h
      | some n =>
        simp only [toInt64, found, Except.ok.injEq] at h
        exact .text (h ▸ found)
    · rintro ⟨⟩
      rename_i start
      simp only [toInt64, start]
  | other v => constructor <;> rintro ⟨⟩

theorem denotes_iff_represents : Denotes = Represents :=
  funext fun _ => funext fun _ => propext toInt64_eq_ok_iff

theorem ReportedAs.unique {n : Numeric} {fault other : NumericFault} (h : n.ReportedAs fault)
    (k : n.ReportedAs other) : fault = other := by
  cases h <;> cases k <;> rfl

theorem reportedAs_of_toInt64 {n : Numeric} {fault : NumericFault}
    (h : n.toInt64 = .error fault) : n.ReportedAs fault := by
  cases n with
  | int n => cases h
  | float x =>
    cases found : x.int64? with
    | some n => simp [toInt64, found] at h
    | none =>
      simp only [toInt64, found, Except.error.injEq] at h
      exact h ▸ .float x
  | text s =>
    cases found : Text.prefixInt64? s.toList with
    | some n => simp [toInt64, found] at h
    | none =>
      simp only [toInt64, found, Except.error.injEq] at h
      exact h ▸ .text s
  | other v =>
    cases h
    exact .other v

theorem toInt64_eq_error_iff {n : Numeric} {fault : NumericFault} :
    n.toInt64 = .error fault ↔ (¬ ∃ i, n.Represents i) ∧ n.ReportedAs fault := by
  simp only [← toInt64_eq_ok_iff]
  constructor
  · intro h
    exact ⟨by simp [h], reportedAs_of_toInt64 h⟩
  · rintro ⟨nothing, reported⟩
    cases result : n.toInt64 with
    | ok i => exact absurd ⟨i, result⟩ nothing
    | error other => rw [(reportedAs_of_toInt64 result).unique reported]

end Numeric

/-! ### Documents -/

theorem Document.coerce_eq_ok_iff_represents {label : String} {d : Document Numeric}
    {e : Document Int64} : d.coerce label = .ok e ↔ d.Rel Numeric.Represents e := by
  rw [Document.coerce_eq_ok_iff, Numeric.denotes_iff_represents]

/-- The check of one field, as coercion makes it. -/
def Numeric.check (label : String) (field : NumericField) (n : Numeric) :
    Except CoercionError Int64 :=
  n.toInt64.mapError (⟨label, field, ·⟩)

theorem Document.coerce_visits (label : String) (d : Document Numeric) :
    Visits (Numeric.check label) (d.coerce label) d.fields :=
  d.visits

theorem passes_check_iff {label : String} {fields : List (NumericField × Numeric)} :
    Passes (Numeric.check label) fields ↔ ∀ q ∈ fields, ∃ i, q.2.Represents i := by
  unfold Passes Numeric.check
  simp only [mapError_eq_ok_iff, Numeric.toInt64_eq_ok_iff]

/-- A document is normalized, under any label, exactly if each of its numbers represents an integer.
The result differs from it in its numbers alone and has the represented integer in each place. A
document of integers stays as it is. -/
theorem normalize_eq_ok_iff_represents (label : String) (d : Document Numeric) :
    ((∃ e, (d.normalize label).outcome = .ok e) ↔ ∀ q ∈ d.fields, ∃ n, q.2.Represents n) ∧
    (∀ e, (d.normalize label).outcome = .ok e ↔ d.Rel Numeric.Represents e) ∧
    ((∀ q ∈ d.fields, ∃ n, .int n = q.2) ↔
      ∃ e, (d.normalize label).outcome = .ok e ∧ d = e.map .int) := by
  rw [Document.outcome_normalize]
  refine ⟨?_, fun e => Document.coerce_eq_ok_iff_represents, ?_⟩
  · rw [(d.coerce_visits label).exists_ok_iff, passes_check_iff]
  · constructor
    · intro integers
      obtain ⟨e, rfl⟩ := Document.exists_map integers
      exact ⟨e, e.coerce_map_int label, rfl⟩
    · rintro ⟨e, -, rfl⟩
      exact e.areImages_map

end PaintScript

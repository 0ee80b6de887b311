import PaintScript.Proofs.Document.FirstFault
import PaintScript.Proofs.Document.Update

/-!
# Integers written as texts

A text stands for the integer of its leading digits. In a document it is normalized like the number
itself, unless it stands for the least integer. It makes no difference whether texts are read before
the document is normalized or as a part of it.
-/

namespace PaintScript

open Text (LeadingDigits int64 naturalOf prefixInt64? signed)

theorem Text.prefixInt64?_minValue : prefixInt64? (int64 Int64.minValue) = none := by
  decide +kernel

theorem Numeric.toInt64_text_int64 {n : Int64} (greater : n ≠ Int64.minValue) :
    (Numeric.text (String.ofList (int64 n))).toInt64 = (Numeric.int n).toInt64 := by
  rw [toInt64, toInt64, String.toList_ofList, Text.prefixInt64?_int64 greater]

/-! ### Only the coerced number counts -/

theorem Numeric.check_congr {label : String} {field : NumericField} {x y : Numeric}
    (same : x.toInt64 = y.toInt64) : x.check label field = y.check label field := by
  rw [check, check, same]

theorem Document.coerce_mapFields {N : Type} (label : String) (d : Document N)
    (g : NumericField → N → Numeric) :
    (d.mapFields g).coerce label = d.mapM fun f n => (g f n).check label f :=
  d.mapM_mapFields (Numeric.check label) g

theorem Document.coerce_set_congr (label : String) (d : Document Numeric) (field : NumericField)
    {x y : Numeric} (same : x.toInt64 = y.toInt64) :
    (d.set field x).coerce label = (d.set field y).coerce label := by
  rw [Document.set, Document.set, Document.coerce_mapFields, Document.coerce_mapFields]
  congr 1
  funext f n
  refine Numeric.check_congr ?_
  split
  · exact same
  · rfl

/-! ### Leading digits -/

/-- A text is read as the integer that its leading digits stand for. Nothing is read if there are no
digits, or if this integer does not fit or is the least one, which would fit. In a document, the
text of any other integer is normalized like the integer. -/
theorem prefixInt64?_reads_leading_digits (s : List Char) :
    (∃ negative digits, LeadingDigits s negative digits) ∧
    (∀ negative digits, LeadingDigits s negative digits →
      let value := signed negative (naturalOf digits)
      (prefixInt64? s = none ↔ digits = [] ∨ value ≤ -2 ^ 63 ∨ 2 ^ 63 ≤ value) ∧
        ∀ n, prefixInt64? s = some n ↔ digits ≠ [] ∧ n ≠ Int64.minValue ∧ n.toInt = value) ∧
    (∀ n, prefixInt64? (int64 n) = if n = Int64.minValue then none else some n) ∧
    ∀ label (d : Document Numeric) field n, n ≠ Int64.minValue →
      ((d.set field (.text (String.ofList (int64 n)))).normalize label).outcome =
        ((d.set field (.int n)).normalize label).outcome := by
  refine ⟨Text.exists_leadingDigits s, fun negative digits leading => ?_, fun n => ?_,
    fun label d field n greater => ?_⟩
  · exact ⟨leading.prefixInt64?_eq_none_iff, fun n => leading.prefixInt64?_eq_some_iff⟩
  · split
    · rename_i least
      rw [least, Text.prefixInt64?_minValue]
    · rename_i greater
      exact Text.prefixInt64?_int64 greater
  · rw [Document.outcome_normalize, Document.outcome_normalize]
    exact d.coerce_set_congr label field (Numeric.toInt64_text_int64 greater)

/-- Zeros in front of the greatest integer do not count, and a digit that is not an ASCII one ends
it. -/
theorem prefixInt64?_reads_greatest :
    let s := "\u3000+0000009223372036854775807\u0663".toList
    let digits := "0000009223372036854775807".toList
    LeadingDigits s false digits ∧ prefixInt64? s = some Int64.maxValue := by
  intro s digits
  have parts : s = ['\u3000'] ++ '+' :: (digits ++ ['\u0663']) := by decide +kernel
  have all : ∀ c ∈ digits, c.isDigit = true := List.all_eq_true.mp (by decide +kernel)
  have leading : LeadingDigits s false digits := by
    rw [parts]
    exact .plus (List.forall_mem_singleton.mpr (by decide)) all (by rintro c ⟨⟩; decide)
  have magnitude : naturalOf digits = 9223372036854775807 := by decide +kernel
  have value : Int64.maxValue.toInt = signed false (naturalOf digits) := by
    rw [magnitude]
    decide
  have read := ((prefixInt64?_reads_leading_digits s).2.1 false digits leading).2 Int64.maxValue
  have present : digits ≠ [] := by decide +kernel
  exact ⟨leading, read.mpr ⟨present, by decide, value⟩⟩

/-- The magnitude of the least integer is too large before its sign is applied. So its text is not
read, though the integer fits, and a document that has it as a number is normalized. -/
theorem prefixInt64?_misses_least :
    let s := "-9223372036854775808".toList
    let digits := "9223372036854775808".toList
    LeadingDigits s true digits ∧ digits ≠ [] ∧
      signed true (naturalOf digits) = Int64.minValue.toInt ∧ s = int64 Int64.minValue ∧
      prefixInt64? s ≠ some Int64.minValue ∧ prefixInt64? s = none ∧
      (Numeric.text (String.ofList s)).toInt64 ≠ (Numeric.int Int64.minValue).toInt64 := by
  intro s digits
  have text : s = int64 Int64.minValue := by decide +kernel
  have parts : s = [] ++ '-' :: (digits ++ []) := by decide +kernel
  have all : ∀ c ∈ digits, c.isDigit = true := List.all_eq_true.mp (by decide +kernel)
  have leading : LeadingDigits s true digits := by
    rw [parts]
    exact .minus (List.forall_mem_nil _) all Text.endsDigits_nil
  have magnitude : naturalOf digits = 9223372036854775808 := by decide +kernel
  have value : signed true (naturalOf digits) = Int64.minValue.toInt := by
    rw [magnitude]
    decide
  have nothing : prefixInt64? s = none := by rw [text, Text.prefixInt64?_minValue]
  have unread : prefixInt64? s ≠ some Int64.minValue := by
    rw [nothing]
    exact (Option.some_ne_none _).symm
  refine ⟨leading, by decide, value, text, unread, nothing, ?_⟩
  rw [Numeric.toInt64, Numeric.toInt64, String.toList_ofList, nothing]
  rintro ⟨⟩

/-! ### Texts that are read early -/

/-- The number with a text replaced by what becomes of it as a token. -/
def Numeric.readText : Numeric → Numeric
  | .text s => .ofToken s.toList
  | n => n

/-- The document with the texts of some fields read as tokens. -/
def Document.readTexts (early : NumericField → Bool) (d : Document Numeric) : Document Numeric :=
  d.mapFields fun field n => if early field then n.readText else n

theorem Numeric.toInt64_readText (n : Numeric) : n.readText.toInt64 = n.toInt64 := by
  cases n with
  | text s =>
    rw [readText, ofToken]
    cases found : prefixInt64? s.toList with
    | some n => simp only [toInt64, found]
    | none => rw [String.ofList_toList]
  | _ => rfl

theorem Document.coerce_readTexts (label : String) (early : NumericField → Bool)
    (d : Document Numeric) : (d.readTexts early).coerce label = d.coerce label := by
  rw [Document.readTexts, Document.coerce_mapFields]
  change _ = d.mapM (Numeric.check label)
  congr 1
  funext f n
  refine Numeric.check_congr ?_
  split
  · exact n.toInt64_readText
  · rfl

/-- A document is normalized with one result, document or error, whichever of its texts were read as
tokens before. The error has the number of its field as it was written. -/
theorem normalize_readTexts (label : String) (early : NumericField → Bool)
    (d : Document Numeric) :
    (d.readTexts early).normalize label = d.normalize label ∧
    ∀ e, ((d.readTexts early).normalize label).outcome = .error e →
      e.label = label ∧ ∃ n, (e.field, n) ∈ d.fields ∧ n.ReportedAs e.fault := by
  have same : (d.readTexts early).normalize label = d.normalize label := by
    rw [Document.normalize, Document.normalize, Document.coerce_readTexts, Document.readTexts,
      Document.length_draw_mapFields]
  refine ⟨same, fun e fails => ?_⟩
  rw [same, Document.outcome_normalize] at fails
  obtain ⟨before, n, after, fields, -, labelled, -, reported⟩ :=
    Document.coerce_eq_error_iff.mp fails
  have member : (e.field, n) ∈ d.fields := by
    rw [fields]
    exact List.mem_append_cons_self
  exact ⟨labelled, n, member, reported⟩

/-- Of four texts the first and the third are read early. The third one is not read at all, as its
magnitude is too large, and is reported as it was written. -/
theorem normalize_readTexts_of_least :
    let early : NumericField → Bool := fun field => field.property = .width
    let d : Document Numeric := ⟨⟨.text "\u3000+7px", .text "-0"⟩,
      ⟨.text "-9223372036854775808", .text "wide"⟩, ⟨none, [], none⟩, "in", "out", "jpeg"⟩
    let e : CoercionError :=
      ⟨"job", ⟨.finalDimensions, .width⟩, .notANumber "-9223372036854775808"⟩
    ((d.readTexts early).normalize "job").outcome = .error e ∧
      (d.normalize "job").outcome = .error e ∧
      ∃ n, (e.field, n) ∈ d.fields ∧ n.ReportedAs e.fault := by
  intro early d e
  have fails : ((d.readTexts early).normalize "job").outcome = .error e := by decide +kernel
  have law := normalize_readTexts "job" early d
  exact ⟨fails, law.1 ▸ fails, (law.2 e fails).2⟩

end PaintScript

import Mathlib
import PaintScript.Proofs.Document.Image
import PaintScript.Receipt

/-!
# Texts of documents

A document is decoded from its own text, and so is a raw document that was decoded before. The
canonical text of a document determines the document, and so does its hash if no hash collides.
-/

namespace PaintScript

/-- Decoding undoes encoding: for every document of integers, and for every raw document that some
text stands for, if it holds no floating-point number. Encoding it once more changes nothing. -/
theorem decode_of_encode :
    (∀ d : Document Int64, Document.decode d.text = .ok d) ∧
      ∀ (t : String) (r : Document Numeric), Document.decodeRaw t = .ok r →
        (∀ q ∈ r.fields, q.2.IsFloatFree) →
          Document.decodeRaw r.rawText = .ok r ∧
            (Document.decodeRaw r.rawText).map Document.rawText = .ok r.rawText := by
  constructor
  · intro d
    exact (Document.integers_readBack d).decode_text
  · intro t r decoded free
    have again : Document.decodeRaw r.rawText = .ok r :=
      (Document.raw_readsBack_of_decode decoded free).decode_text
    refine ⟨again, ?_⟩
    rw [again]
    rfl

/-- A document as an array, with values of other kinds in place of three numbers. -/
theorem decode_of_encode_of_other_values :
    let t := "[[4,\x7b\"b\":[],\"a\":-7\x7d],[1,\"2px\"],[null,[],true],\"in\",\"out\"]"
    let sides := Json.object [("a", .integer (-7)), ("b", .array [])]
    let r : Document Numeric := ⟨⟨.int 4, .other sides⟩, ⟨.int 1, .text "2px"⟩,
      ⟨none, [], some (.other (.bool true))⟩, "in", "out", "jpeg"⟩
    Document.decodeRaw t = .ok r ∧ (∀ q ∈ r.fields, q.2.IsFloatFree) ∧
      Document.decodeRaw r.rawText = .ok r ∧
      (Document.decodeRaw r.rawText).map Document.rawText = .ok r.rawText := by
  intro t sides r
  have decoded : Document.decodeRaw t = .ok r := by cbv
  have sidesFree : sides.FloatFree := by
    refine .object fun e member => ?_
    simp only [List.mem_cons, List.not_mem_nil, or_false] at member
    obtain rfl | rfl := member
    · exact .integer (-7)
    · exact .array fun v member => absurd member List.not_mem_nil
  have free : ∀ q ∈ r.fields, q.2.IsFloatFree := by
    intro q member
    have values : q.2 ∈ [.other (.bool true), .int 4, .other sides, .int 1, .text "2px"] :=
      List.mem_map_of_mem member
    simp only [List.mem_cons, List.not_mem_nil, or_false] at values
    obtain same | same | same | same | same := values <;> rw [same]
    · exact .bool true
    · trivial
    · exact sidesFree
    · trivial
    · trivial
  exact ⟨decoded, free, decode_of_encode.2 t r decoded free⟩

/-! ### Canonical texts -/

theorem Document.decode_canonical (d : Document Int64) : Document.decode d.canonical = .ok d :=
  (Document.integers_readBack d).decode_canonical

theorem Document.canonical_inj {d e : Document Int64} : d.canonical = e.canonical ↔ d = e := by
  constructor
  · intro same
    have decoded := d.decode_canonical
    rw [same, e.decode_canonical] at decoded
    exact (Except.ok.inj decoded).symm
  · intro same
    rw [same]

theorem Document.canonical_sorted (d : Document Int64) :
    (d.toJson integerJson).sorted.canonical = d.canonical :=
  congrArg Json.text (Document.integers_readBack d).wellFormed.sorted_sorted

/-- The value that is read from the text of a document has the canonical text of the document. -/
theorem Document.canonical_of_ofText (d : Document Int64) :
    (Json.ofText d.text).map Json.canonical = .ok d.canonical := by
  have wellFormed := (Document.integers_readBack d).wellFormed
  have read : Json.ofText d.text = .ok (d.toJson integerJson).sorted :=
    (Json.ReadsBack.value wellFormed).decode_text
  rw [read]
  exact congrArg Except.ok d.canonical_sorted

/-- The canonical text is decoded as the document and is that of the value in its ordinary text. So
two documents have one canonical text only if they are equal, and one hash only if they are equal or
their canonical texts collide. -/
theorem canonical_identifies :
    (∀ d : Document Int64, Document.decode d.canonical = .ok d ∧
      (Json.ofText d.text).map Json.canonical = .ok d.canonical) ∧
    ∀ d e : Document Int64, (d.canonical = e.canonical ↔ d = e) ∧
      (d.hash = e.hash ↔ d = e ∨ d.canonical ≠ e.canonical ∧
        Sha256.ofText d.canonical = Sha256.ofText e.canonical) := by
  constructor
  · intro d
    exact ⟨d.decode_canonical, d.canonical_of_ofText⟩
  · intro d e
    refine ⟨Document.canonical_inj, ?_⟩
    constructor
    · intro hash
      by_cases same : d = e
      · exact Or.inl same
      · exact Or.inr ⟨fun text => same (Document.canonical_inj.mp text), hash⟩
    · rintro (same | ⟨-, collision⟩)
      · rw [same]
      · exact collision

end PaintScript

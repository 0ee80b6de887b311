import PaintScript.Proofs.Document.FirstFault
import PaintScript.Proofs.Document.Replace
import PaintScript.Proofs.Json.Layout

/-!
# Documents with any value in the place of a number

Whatever value is written in a numeric field, the document is decoded. Normalization decides whether
the value is an integer, and its error has the path of the field.
-/

namespace PaintScript

open Json (ReadsBack)
open Json.Read (levelLimit)

/-! ### Normalizing -/

section

variable (label : String) {d : Document Int64} {field : NumericField} {x : Numeric}

theorem Document.fields_set_map (d : Document Int64) (field : NumericField) (x : Numeric) :
    ((d.map .int).set field x).fields =
      d.fields.map fun q => (q.1, if q.1 = field then x else .int q.2) := by
  rw [Document.set, Document.mapFields_map, Document.fields_mapFields]

theorem Document.coerce_set_eq_ok {n : Int64} (h : x.Represents n) :
    ((d.map .int).set field x).coerce label = .ok (d.set field n) := by
  rw [Document.coerce_eq_ok_iff_represents, Document.set, Document.mapFields_map]
  refine Document.rel_mapFields (fun f m => ?_) d
  by_cases same : f = field
  · rw [if_pos same, if_pos same]
    exact h
  · rw [if_neg same, if_neg same]
    exact .int m

theorem Document.coerce_set_eq_error {fault : NumericFault}
    (there : field ∈ d.fields.map Prod.fst) (bad : ¬ ∃ n, x.Represents n)
    (reported : x.ReportedAs fault) :
    ((d.map .int).set field x).coerce label = .error ⟨label, field, fault⟩ := by
  obtain ⟨before, after, split, first⟩ := List.eq_append_cons_of_mem there
  obtain ⟨front, rest, fields, rfl, tail⟩ := List.map_eq_append_iff.mp split
  obtain ⟨⟨f, n⟩, back, rfl, rfl, rfl⟩ := List.map_eq_cons_iff.mp tail
  rw [Document.coerce_eq_error_iff, Document.fields_set_map, fields, List.map_append, List.map_cons,
    if_pos rfl]
  refine ⟨_, x, _, rfl, List.forall_mem_map.mpr fun q member => ?_, rfl, bad, reported⟩
  have first : f ∉ front.map Prod.fst := first
  have other : q.1 ≠ f := fun same => first (same ▸ List.mem_map_of_mem member)
  exact ⟨q.2, by rw [if_neg other]; exact .int q.2⟩

end

/-! ### Decoding -/

/-- What is written for a number, with the given value for one that is no integer and no text. -/
def Numeric.toJsonOr (v : Json) : Numeric → Json
  | .int n => integerJson n
  | .text s => .string s
  | .float _ | .other _ => v

theorem Numeric.toJsonOr_ofJson_sorted (v : Json) : toJsonOr v (ofJson v.sorted) = v := by
  cases v with
  | integer n =>
    rw [Json.sorted, ofJson]
    split
    · rename_i bounds
      rw [toJsonOr, integerJson, Int64.toInt_ofInt_of_le bounds.1 bounds.2]
    · split <;> rfl
  | _ => rfl

theorem NumericField.length_keys (field : NumericField) :
    field.keys.length + field.group.above = 6 := by
  obtain ⟨group, property⟩ := field
  cases group <;> rfl

theorem Document.toJson_set (d : Document Int64) {field : NumericField} (v : Json)
    (there : field ∈ d.fields.map Prod.fst) :
    ((d.map .int).set field (Numeric.ofJson v.sorted)).toJson (Numeric.toJsonOr v) =
      (d.toJson integerJson).replace field.keys v := by
  have written : (fun f (n : Int64) =>
      Numeric.toJsonOr v (if f = field then Numeric.ofJson v.sorted else .int n)) =
      writing integerJson field v := by
    funext f n
    rw [apply_ite (Numeric.toJsonOr v), Numeric.toJsonOr_ofJson_sorted]
    rfl
  rw [Document.replace_toJson integerJson v d there, ← written, ← Document.map_mapFields,
    Document.toJson_map, Document.set, Document.mapFields_map]
  rfl

theorem Document.readsFields_set (d : Document Int64) {field : NumericField} {v : Json}
    (wellFormed : v.WellFormed (levelLimit - field.keys.length)) :
    ReadsFields (Numeric.toJsonOr v) Numeric.read 121
      ((d.map .int).set field (Numeric.ofJson v.sorted)).fields := by
  rw [Document.fields_set_map]
  refine List.forall_mem_map.mpr fun q _ => ?_
  by_cases same : q.1 = field
  · have room : levelLimit - field.keys.length = 121 + q.1.group.above := by
      have total := field.length_keys
      rw [same, levelLimit]
      omega
    rw [if_pos same, Numeric.toJsonOr_ofJson_sorted, ← room]
    exact (ReadsBack.value wellFormed).map
  · rw [if_neg same]
    exact Numeric.IsIntOrText.readsBack (n := .int q.2) trivial _

/-- A document with a value in the place of a number is decoded with what is read for the value,
unless it is a stroke width of `null`. -/
theorem Document.decodeRaw_replaced (d : Document Int64) {field : NumericField} {v : Json}
    (there : field ∈ d.fields.map Prod.fst)
    (wellFormed : v.WellFormed (levelLimit - field.keys.length))
    (present : field = ⟨.instructions, .strokeWidth⟩ → v ≠ .null) :
    Document.decodeRaw ((d.toJson integerJson).replace field.keys v).text =
      .ok ((d.map .int).set field (Numeric.ofJson v.sorted)) := by
  rw [← d.toJson_set v there]
  refine ReadsBack.decode_text (Document.readsBack (d.readsFields_set wellFormed) ?_)
  intro n member
  have width : (⟨.instructions, .strokeWidth⟩, n) ∈
      ((d.map .int).set field (Numeric.ofJson v.sorted)).fields :=
    Document.mem_fields_of_strokeWidth member
  rw [Document.fields_set_map] at width
  obtain ⟨⟨f, m⟩, -, same⟩ := List.mem_map.mp width
  obtain ⟨rfl, rfl⟩ := Prod.mk.inj same
  dsimp only
  split
  · rename_i same
    rw [Numeric.toJsonOr_ofJson_sorted]
    exact present same.symm
  · rintro ⟨⟩

/-! ### A stroke width of `null` -/

theorem Json.ReadsBack.optional_null {α : Type} (read : Nat → Json.Reader α) (levels : Nat) :
    ReadsBack (Json.Read.optional read) levels .null none := by
  refine ⟨.null, fun k arranged => ?_⟩
  cases arranged
  rw [Json.print]
  exact (Json.Read.presents_null read levels).read rfl

section

variable {N : Type}

theorem Drawing.listMapFields_set_stroke (x : N) (index : Nat) (ds : List (Drawing N)) :
    Drawing.listMapFields (fun f n => if f = ⟨.instructions, .strokeWidth⟩ then x else n) index ds =
      ds := by
  induction ds generalizing index with
  | nil => rfl
  | cons d ds ih =>
    have same : d.mapFields (fun f n => if f = ⟨.instructions, .strokeWidth⟩ then x else n) index =
        d := by
      cases d <;> rfl
    rw [Drawing.listMapFields, ih, same]

theorem Document.withStroke_set (width : Option N) (x : N) (d : Document N) :
    (d.set ⟨.instructions, .strokeWidth⟩ x).withStroke width = d.withStroke width := by
  obtain ⟨_, _, ⟨crop, draw, stroke⟩, _, _, _⟩ := d
  simp only [Document.set, Document.mapFields, Instructions.mapFields,
    Drawing.listMapFields_set_stroke]
  cases crop <;> rfl

end

/-- A stroke width of `null` is decoded as no stroke width. -/
theorem Document.decodeRaw_null_stroke (d : Document Int64)
    (there : ⟨.instructions, .strokeWidth⟩ ∈ d.fields.map Prod.fst) :
    Document.decodeRaw ((d.toJson integerJson).replace
      (NumericField.keys ⟨.instructions, .strokeWidth⟩) .null).text =
      .ok ((d.map .int).withStroke none) := by
  let null : Numeric := .other .null
  have numbers : ReadsFields (Numeric.toJsonOr .null) Numeric.read 121
      ((d.map .int).set ⟨.instructions, .strokeWidth⟩ null).fields := d.readsFields_set .null
  rw [← d.toJson_set .null there, ← Document.withStroke_set none null]
  refine ReadsBack.decode_text (Document.readsBack_withStroke
    (fun q member => numbers q (Document.fields_withStroke_none_subset _ member)) ?_)
  obtain ⟨_, _, ⟨crop, draw, stroke⟩, _, _, _⟩ := d
  cases stroke with
  | none => exact .absent rfl .nil
  | some n => exact .entry (Json.ReadsBack.optional_null _ _) .nil

theorem Document.coerce_withStroke_none (label : String) (d : Document Int64) :
    ((d.map .int).withStroke none).coerce label = .ok (d.withStroke none) :=
  (d.withStroke none).coerce_map_int label

/-! ### Any value -/

theorem Numeric.ofJson_of_integer {n : Int} {levels : Nat} (h : (Json.integer n).WellFormed levels)
    (small : n < 2 ^ 63) : ofJson (Json.sorted (.integer n)) = .int (.ofInt n) := by
  cases h with
  | integer least _ => exact if_pos ⟨least, small⟩

theorem Numeric.ofJson_of_other {v : Json} {levels : Nat} (h : v.WellFormed levels)
    (noInteger : ∀ n, v ≠ .integer n) (noString : ∀ s, v ≠ .string s) :
    ofJson v.sorted = .other v.sorted := by
  cases h with
  | integer _ _ => exact absurd rfl (noInteger _)
  | string s => exact absurd rfl (noString s)
  | _ => rfl

/-- A document with any value in the place of one of its numbers is decoded. An integer or a text
stays what it is, another value is kept as it is, and a stroke width of `null` is none. The document
is normalized if the value is or starts with an integer, and is refused for this field otherwise. -/
theorem decodeRaw_of_replaced_number (d : Document Int64) (field : NumericField) (v : Json)
    (there : field ∈ d.fields.map Prod.fst)
    (wellFormed : v.WellFormed (levelLimit - field.keys.length))
    (small : ∀ n, v = .integer n → n < 2 ^ 63) :
    ∃ raw, Document.decodeRaw ((d.toJson integerJson).replace field.keys v).text = .ok raw ∧
      match v, field with
      | .integer n, _ => raw = (d.map .int).set field (.int (.ofInt n)) ∧
          ∀ label, (raw.normalize label).outcome = .ok (d.set field (.ofInt n))
      | .string s, _ => raw = (d.map .int).set field (.text s) ∧
          ∀ label, (raw.normalize label).outcome =
            match Text.prefixInt64? s.toList with
            | some n => .ok (d.set field n)
            | none => .error ⟨label, field, .notANumber s⟩
      | .null, ⟨.instructions, .strokeWidth⟩ => raw = (d.map .int).withStroke none ∧
          ∀ label, (raw.normalize label).outcome = .ok (d.withStroke none)
      | v, field => raw = (d.map .int).set field (.other v.sorted) ∧
          ∀ label, (raw.normalize label).outcome =
            .error ⟨label, field, .notANumber v.canonical⟩ := by
  simp only [Document.outcome_normalize]
  split
  · rename_i n
    have value := Numeric.ofJson_of_integer wellFormed (small n rfl)
    have decoded := d.decodeRaw_replaced there wellFormed fun _ => by rintro ⟨⟩
    rw [value] at decoded
    exact ⟨_, decoded, rfl, fun label => Document.coerce_set_eq_ok label (.int _)⟩
  · rename_i s
    have decoded := d.decodeRaw_replaced there wellFormed fun _ => by rintro ⟨⟩
    refine ⟨_, decoded, rfl, fun label => ?_⟩
    split
    · rename_i n start
      exact Document.coerce_set_eq_ok label (.text start)
    · rename_i nothing
      refine Document.coerce_set_eq_error label there ?_ (.text s)
      rintro ⟨n, ⟨⟩⟩
      rename_i start
      rw [nothing] at start
      cases start
  · exact ⟨_, d.decodeRaw_null_stroke there, rfl, fun label => d.coerce_withStroke_none label⟩
  · rename_i noInteger noString noStroke
    have value := Numeric.ofJson_of_other wellFormed noInteger noString
    have decoded := d.decodeRaw_replaced there wellFormed fun stroke null => noStroke null stroke
    rw [value] at decoded
    refine ⟨_, decoded, rfl, fun label => ?_⟩
    have reported : (Numeric.other v.sorted).ReportedAs (.notANumber v.canonical) := by
      have same : v.sorted.canonical = v.canonical := by
        rw [Json.canonical, wellFormed.sorted_sorted, Json.canonical]
      exact same ▸ .other v.sorted
    refine Document.coerce_set_eq_error label there ?_ reported
    rintro ⟨n, ⟨⟩⟩

/-- An object stands for a coordinate of the second drawing. It is reported under the path of this
coordinate, with its keys in order. -/
theorem decodeRaw_of_replaced_coordinate :
    let gap : Segment Int64 := ⟨⟨1, 2⟩, ⟨3, 0⟩, ⟨"red"⟩⟩
    let d : Document Int64 :=
      ⟨⟨8, 6⟩, ⟨4, 5⟩, ⟨none, [.gap gap, .line gap], some 2⟩, "in", "out", "jpeg"⟩
    let field : NumericField := ⟨.drawingStop 1 .line, .y⟩
    let v := Json.object [("b", .array [.null, .integer (-7)]), ("a", .string "9")]
    field ∈ d.fields.map Prod.fst ∧ v.WellFormed (levelLimit - field.keys.length) ∧
      (∀ n, v = .integer n → n < 2 ^ 63) ∧
      ∃ raw, Document.decodeRaw ((d.toJson integerJson).replace field.keys v).text = .ok raw ∧
        raw = (d.map .int).set field (.other v.sorted) ∧
        ∀ label, (raw.normalize label).outcome =
          .error ⟨label, field, .notANumber "\x7b\"a\":\"9\",\"b\":[null,-7]\x7d"⟩ := by
  intro gap d field v
  have there : field ∈ d.fields.map Prod.fst := by decide
  have items : (Json.array [.null, .integer (-7)]).WellFormed 120 :=
    .array (List.forall_mem_cons.mpr ⟨.null, List.forall_mem_singleton.mpr
      (.integer (by decide) (by decide))⟩)
  have wellFormed : v.WellFormed (levelLimit - field.keys.length) :=
    .object (by decide)
      (List.forall_mem_cons.mpr ⟨items, List.forall_mem_singleton.mpr (.string _)⟩)
  have small : ∀ n, v = .integer n → n < 2 ^ 63 := by simp [v]
  have canonical : v.canonical = "\x7b\"a\":\"9\",\"b\":[null,-7]\x7d" := by cbv
  refine ⟨there, wellFormed, small, ?_⟩
  rw [← canonical]
  exact decodeRaw_of_replaced_number d field v there wellFormed small

end PaintScript

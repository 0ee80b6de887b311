import PaintScript.Proofs.Document.Image
import PaintScript.Proofs.Json.Agreement
import PaintScript.Proofs.Pipeline.Replay

/-!
# The two readers of documents

The reader of documents of integers agrees with the reader of raw documents: it reads the same texts
as long as every number in them is an integer. So the raw one, with coercion after it, only ever
reads more.
-/

namespace PaintScript

open Json.Read (Agreement Agrees FieldAgreement dropSpace map_read number)

theorem Json.Read.map_of_read {α β : Type} (f : α → β) {read : Nat → Json.Reader α} {levels : Nat}
    {text rest : List Char} {a : α} (h : read levels text = .ok (a, rest)) :
    Json.Reader.map f read levels text = .ok (f a, rest) := by
  rw [Json.Reader.map, h]
  rfl

open Json.Read (map_of_read)

theorem Json.Read.Agrees.map {α β σ τ : Type} {image : α → β} {strict : Nat → Json.Reader α}
    {lenient : Nat → Json.Reader β} (h : Agrees image strict lenient) {build : α → σ}
    {rebuild : β → τ} {lift : σ → τ} (natural : ∀ a, rebuild (image a) = lift (build a))
    (reflects : ∀ b v, rebuild b = lift v → ∃ a, image a = b) :
    Agrees lift (Json.Reader.map build strict) (Json.Reader.map rebuild lenient) where
  widen := by
    intro levels text rest v mapped
    obtain ⟨a, read, rfl⟩ := map_read mapped
    rw [map_of_read rebuild (h.widen read), natural]
  narrow := by
    intro levels text rest v mapped
    obtain ⟨b, read, built⟩ := map_read mapped
    obtain ⟨a, rfl⟩ := reflects b v built
    obtain ⟨u, same, read⟩ := h.narrow read
    refine ⟨build u, ?_, map_of_read build read⟩
    rw [← natural, same, built]

/-! ### Single numbers -/

/-- An integer is read where a number starts. -/
theorem Json.Read.value_integer_iff {levels : Nat} {text rest : List Char} {k : Int} :
    Json.Read.value levels text = .ok (.integer k, rest) ↔
      ∃ c more, dropSpace text = c :: more ∧ (c = '-' ∨ c.isDigit = true) ∧
        number (c :: more) = .ok (.integer k, rest) := by
  constructor
  · intro h
    unfold Json.Read.value at h
    split at h
    case h_8 front =>
      split at h
      · rename_i first
        obtain ⟨⟨n, rest⟩, read, h⟩ := bind_eq_ok_iff.mp h
        cases n <;> cases h
        exact ⟨_, _, front, first, read⟩
      · cases h
    case h_1 => cases h
    case h_6 | h_7 =>
      cases levels with
      | zero => cases h
      | succ levels =>
        obtain ⟨inside, -, h⟩ := bind_eq_ok_iff.mp h
        cases h
    all_goals
      obtain ⟨inside, -, h⟩ := bind_eq_ok_iff.mp h
      cases h
  · rintro ⟨c, more, front, first, read⟩
    have same : Json.Read.value levels text = Json.Read.value levels (c :: more) := by
      rw [← front]
      unfold Json.Read.value
      rw [dropSpace, dropSpace, List.dropWhile_idempotent]
    rw [same, Json.Read.value_number levels first, read]
    rfl

theorem integerRead_eq_ok_iff {levels : Nat} {text rest : List Char} {n : Int64} :
    integerRead levels text = .ok (n, rest) ↔
      ∃ c more, dropSpace text = c :: more ∧ (c = '-' ∨ c.isDigit = true) ∧
        number (c :: more) = .ok (.integer n.toInt, rest) := by
  unfold integerRead Json.Read.int64
  constructor
  · intro h
    split at h
    · cases h
    · rename_i front
      split at h
      · rename_i first
        obtain ⟨⟨n, rest⟩, read, h⟩ := bind_eq_ok_iff.mp h
        cases n with
        | float x => cases h
        | integer k =>
          dsimp only at h
          split at h
          · rename_i bounds
            cases h
            refine ⟨_, _, front, first, ?_⟩
            rw [Int64.toInt_ofInt_of_le bounds.1 bounds.2]
            exact read
          · cases h
      · exact absurd h Json.Read.misplaced_ne_ok
  · rintro ⟨c, more, front, first, read⟩
    have bounds : -2 ^ 63 ≤ n.toInt ∧ n.toInt < 2 ^ 63 := ⟨n.le_toInt, n.toInt_lt⟩
    simp only [front, if_pos first, read, ok_bind, if_pos bounds, Int64.ofInt_toInt]

theorem Numeric.ofJson_eq_int_iff {v : Json} {n : Int64} :
    ofJson v = .int n ↔ v = .integer n.toInt := by
  constructor
  · intro h
    cases v with
    | integer k =>
      rw [ofJson] at h
      split at h
      · rename_i bounds
        cases h
        rw [Int64.toInt_ofInt_of_le bounds.1 bounds.2]
      · split at h <;> cases h
    | _ => cases h
  · rintro rfl
    exact ofJson_integer n

/-- An integer of 64 bits is read by both, and nothing else by the first. -/
theorem Numeric.read_eq_ok_int_iff {levels : Nat} {text rest : List Char} {n : Int64} :
    Numeric.read levels text = .ok (.int n, rest) ↔ integerRead levels text = .ok (n, rest) := by
  rw [integerRead_eq_ok_iff]
  constructor
  · intro h
    obtain ⟨v, read, same⟩ := map_read h
    rw [Numeric.ofJson_eq_int_iff.mp same] at read
    exact Json.Read.value_integer_iff.mp read
  · intro h
    have read : Json.Read.value levels text = .ok (.integer n.toInt, rest) :=
      Json.Read.value_integer_iff.mpr h
    rw [Numeric.read, map_of_read Numeric.ofJson read, Numeric.ofJson_integer]

theorem integerRead_agrees : Agrees Numeric.int integerRead Numeric.read :=
  ⟨Numeric.read_eq_ok_int_iff.mpr, fun h => ⟨_, rfl, Numeric.read_eq_ok_int_iff.mp h⟩⟩

/-! ### Parts of a document -/

section

variable {N M : Type} {image : N → M} {strict : Nat → Json.Reader N}
  {lenient : Nat → Json.Reader M}

/-- The circle with other numbers. -/
def Circle.map (g : N → M) (c : Circle N) : Circle M :=
  ⟨c.center.map g, g c.radius, c.color⟩

def Rectangle.map (g : N → M) (r : Rectangle N) : Rectangle M :=
  ⟨r.corner.map g, r.size.map g, r.color⟩

section

variable (h : Agrees image strict lenient)

include h

theorem Point.read_agrees : Agrees (Point.map image) (Point.read strict) (Point.read lenient) := by
  let fields := Agreement.cons (.required "x" h) (.cons (.required "y" h) .nil)
  refine (fields.record "struct Point").map (fun (_, _, _) => rfl) ?_
  rintro ⟨x, y, ⟨⟩⟩ p same
  cases same
  exact ⟨(p.x, p.y, ()), rfl⟩

theorem Size.read_agrees : Agrees (Size.map image) (Size.read strict) (Size.read lenient) := by
  let fields := Agreement.cons (.required "width" h) (.cons (.required "height" h) .nil)
  refine (fields.record "struct Size").map (fun (_, _, _) => rfl) ?_
  rintro ⟨width, height, ⟨⟩⟩ s same
  cases same
  exact ⟨(s.width, s.height, ()), rfl⟩

theorem Crop.read_agrees : Agrees (Crop.map image) (Crop.read strict) (Crop.read lenient) := by
  let fields := Agreement.cons (.required "from" (Point.read_agrees h))
    (.cons (.required "size" (Size.read_agrees h)) .nil)
  refine (fields.record "struct CropInstruction").map (fun (_, _, _) => rfl) ?_
  rintro ⟨origin, size, ⟨⟩⟩ c same
  cases same
  exact ⟨(c.origin, c.size, ()), rfl⟩

theorem Circle.read_agrees :
    Agrees (Circle.map image) (Circle.read strict) (Circle.read lenient) := by
  let fields := Agreement.cons (.required "from" (Point.read_agrees h))
    (.cons (.required "radius" h) (.cons (.required "color" (.refl Color.read)) .nil))
  refine (fields.record "struct Circle").map (fun (_, _, _, _) => rfl) ?_
  rintro ⟨center, radius, color, ⟨⟩⟩ c same
  cases same
  exact ⟨(c.center, c.radius, c.color, ()), rfl⟩

theorem Rectangle.read_agrees :
    Agrees (Rectangle.map image) (Rectangle.read strict) (Rectangle.read lenient) := by
  let fields := Agreement.cons (.required "from" (Point.read_agrees h))
    (.cons (.required "size" (Size.read_agrees h))
      (.cons (.required "color" (.refl Color.read)) .nil))
  refine (fields.record "struct Rectangle").map (fun (_, _, _, _) => rfl) ?_
  rintro ⟨corner, size, color, ⟨⟩⟩ r same
  cases same
  exact ⟨(r.corner, r.size, r.color, ()), rfl⟩

theorem Segment.read_agrees :
    Agrees (Segment.map image) (Segment.read strict) (Segment.read lenient) := by
  let fields := Agreement.cons (.required "from" (Point.read_agrees h))
    (.cons (.required "to" (Point.read_agrees h))
      (.cons (.required "color" (.refl Color.read)) .nil))
  refine (fields.record "struct Segment").map (fun (_, _, _, _) => rfl) ?_
  rintro ⟨start, stop, color, ⟨⟩⟩ s same
  cases same
  exact ⟨(s.start, s.stop, s.color, ()), rfl⟩

theorem Drawing.readBody_agrees (shape : Shape) :
    Agrees (Drawing.map image) (Drawing.readBody strict shape) (Drawing.readBody lenient shape) := by
  -- A shape is kept, so a drawing of this shape is the image of one of this shape alone.
  cases shape with
  | circle =>
    refine (Circle.read_agrees h).map (fun _ => rfl) ?_
    intro c d same
    cases d <;> cases same
    exact ⟨_, rfl⟩
  | rectangle =>
    refine (Rectangle.read_agrees h).map (fun _ => rfl) ?_
    intro r d same
    cases d <;> cases same
    exact ⟨_, rfl⟩
  | line =>
    refine (Segment.read_agrees h).map (fun _ => rfl) ?_
    intro s d same
    cases d <;> cases same
    exact ⟨_, rfl⟩
  | arrow =>
    refine (Segment.read_agrees h).map (fun _ => rfl) ?_
    intro s d same
    cases d <;> cases same
    exact ⟨_, rfl⟩
  | gap =>
    refine (Segment.read_agrees h).map (fun _ => rfl) ?_
    intro s d same
    cases d <;> cases same
    exact ⟨_, rfl⟩

theorem Drawing.read_agrees :
    Agrees (Drawing.map image) (Drawing.read strict) (Drawing.read lenient) :=
  .tagged (Drawing.readBody_agrees h)

theorem Instructions.read_agrees :
    Agrees (Instructions.map image) (Instructions.read strict) (Instructions.read lenient) := by
  let fields := Agreement.cons (.defaulted "crop" none (Crop.read_agrees h).optional)
    (.cons (.defaulted "draw" [] (Drawing.read_agrees h).list)
      (.cons (.defaulted "strokeWidth" none h.optional) .nil))
  refine (fields.record "struct Instructions").map (fun (_, _, _, _) => rfl) ?_
  rintro ⟨crop, draw, stroke, ⟨⟩⟩ i same
  cases same
  exact ⟨(i.crop, i.draw, i.strokeWidth, ()), rfl⟩

theorem Document.read_agrees :
    Agrees (Document.map image) (Document.read strict) (Document.read lenient) := by
  have size := Size.read_agrees h
  have string := Agrees.refl stringRead
  let fields := Agreement.cons (.required "dimensions" size)
    (.cons (.required "finalDimensions" size)
      (.cons (.required "instructions" (Instructions.read_agrees h))
        (.cons (.required "sourceFile" string)
          (.cons (.required "destinationFile" string)
            (.cons (.defaulted "format" defaultFormat string) .nil)))))
  refine (fields.record "struct InstructionDocument").map (fun (_, _, _, _, _, _, _) => rfl) ?_
  rintro ⟨dimensions, final, instructions, source, destination, format, ⟨⟩⟩ d same
  cases same
  exact ⟨(d.dimensions, d.finalDimensions, d.instructions, d.sourceFile, d.destinationFile,
    d.format, ()), rfl⟩

end
end

/-! ### Whole texts -/

theorem Json.Read.decode_eq_ok_iff {α : Type} {read : Nat → Json.Reader α} {text : String} {v : α} :
    Json.decode read text = .ok v ↔
      ∃ rest, read Json.Read.levelLimit text.toList = .ok (v, rest) ∧ dropSpace rest = [] := by
  rw [Json.decode, mapError_eq_ok_iff, Json.Read.whole, bind_eq_ok_iff]
  constructor
  · rintro ⟨⟨w, rest⟩, front, h⟩
    dsimp only at h
    split at h
    · rename_i ended
      cases h
      exact ⟨rest, front, ended⟩
    · cases h
  · rintro ⟨rest, front, ended⟩
    refine ⟨(v, rest), front, ?_⟩
    simp only [ended]

theorem Document.map_int_inj {d e : Document Int64} (h : d.map Numeric.int = e.map .int) : d = e := by
  have coerced := d.coerce_map_int rootLabel
  rw [h, e.coerce_map_int] at coerced
  exact (Except.ok.inj coerced).symm

/-- What is read as a document of integers is read as the raw document with these integers, and the
other way round. -/
theorem Document.decode_eq_ok_iff {t : String} {d : Document Int64} :
    decode t = .ok d ↔ decodeRaw t = .ok (d.map .int) := by
  have agrees := Document.read_agrees integerRead_agrees
  unfold decode decodeRaw
  rw [Json.Read.decode_eq_ok_iff, Json.Read.decode_eq_ok_iff]
  constructor
  · rintro ⟨rest, front, ended⟩
    exact ⟨rest, agrees.widen front, ended⟩
  · rintro ⟨rest, front, ended⟩
    obtain ⟨e, same, front⟩ := agrees.narrow front
    rw [Document.map_int_inj same] at front
    exact ⟨rest, front, ended⟩

/-! ### Images -/

section

variable {N M : Type} {g : N → M}

/-- Whether each number is the image of another one. -/
def AreImages (g : N → M) (fields : List (NumericField × M)) : Prop :=
  ∀ q ∈ fields, ∃ n, g n = q.2

theorem AreImages.append {first second : List (NumericField × M)}
    (h : AreImages g (first ++ second)) : AreImages g first ∧ AreImages g second :=
  List.forall_mem_append.mp h

theorem Point.exists_map {group : FieldGroup} {p : Point M} (h : AreImages g (p.fields group)) :
    ∃ o, Point.map g o = p := by
  obtain ⟨x, ofX⟩ := h (⟨group, .x⟩, p.x) (by simp [Point.fields])
  obtain ⟨y, ofY⟩ := h (⟨group, .y⟩, p.y) (by simp [Point.fields])
  exact ⟨⟨x, y⟩, by rw [Point.map, ofX, ofY]⟩

theorem Size.exists_map {group : FieldGroup} {s : Size M} (h : AreImages g (s.fields group)) :
    ∃ o, Size.map g o = s := by
  obtain ⟨width, ofWidth⟩ := h (⟨group, .width⟩, s.width) (by simp [Size.fields])
  obtain ⟨height, ofHeight⟩ := h (⟨group, .height⟩, s.height) (by simp [Size.fields])
  exact ⟨⟨width, height⟩, by rw [Size.map, ofWidth, ofHeight]⟩

theorem Crop.exists_map {c : Crop M} (h : AreImages g c.fields) : ∃ o, Crop.map g o = c := by
  obtain ⟨ofOrigin, ofSize⟩ := h.append
  obtain ⟨origin, first⟩ := Point.exists_map ofOrigin
  obtain ⟨size, second⟩ := Size.exists_map ofSize
  exact ⟨⟨origin, size⟩, by rw [Crop.map, first, second]⟩

theorem Segment.exists_map {index : Nat} {shape : Shape} {s : Segment M}
    (h : AreImages g (s.start.fields (.drawingStart index shape) ++
      s.stop.fields (.drawingStop index shape))) : ∃ o, Segment.map g o = s := by
  obtain ⟨ofStart, ofStop⟩ := h.append
  obtain ⟨start, first⟩ := Point.exists_map ofStart
  obtain ⟨stop, second⟩ := Point.exists_map ofStop
  exact ⟨⟨start, stop, s.color⟩, by rw [Segment.map, first, second]⟩

theorem Drawing.exists_map {index : Nat} {d : Drawing M} (h : AreImages g (d.fields index)) :
    ∃ o, Drawing.map g o = d := by
  cases d with
  | circle c =>
    obtain ⟨ofCenter, ofRadius⟩ := h.append
    obtain ⟨center, first⟩ := Point.exists_map ofCenter
    obtain ⟨radius, second⟩ := ofRadius _ List.mem_cons_self
    exact ⟨.circle ⟨center, radius, c.color⟩, by rw [Drawing.map, first, second]⟩
  | rectangle r =>
    obtain ⟨ofCorner, ofSize⟩ := h.append
    obtain ⟨corner, first⟩ := Point.exists_map ofCorner
    obtain ⟨size, second⟩ := Size.exists_map ofSize
    exact ⟨.rectangle ⟨corner, size, r.color⟩, by rw [Drawing.map, first, second]⟩
  | line s =>
    obtain ⟨o, rfl⟩ := Segment.exists_map h
    exact ⟨.line o, rfl⟩
  | arrow s =>
    obtain ⟨o, rfl⟩ := Segment.exists_map h
    exact ⟨.arrow o, rfl⟩
  | gap s =>
    obtain ⟨o, rfl⟩ := Segment.exists_map h
    exact ⟨.gap o, rfl⟩

theorem Drawing.exists_map_list {index : Nat} {ds : List (Drawing M)}
    (h : AreImages g (Drawing.listFields index ds)) : ∃ os, List.map (Drawing.map g) os = ds := by
  induction ds generalizing index with
  | nil => exact ⟨[], rfl⟩
  | cons d ds ih =>
    obtain ⟨here, others⟩ := h.append
    obtain ⟨o, rfl⟩ := Drawing.exists_map here
    obtain ⟨os, rfl⟩ := ih others
    exact ⟨o :: os, rfl⟩

theorem Instructions.exists_map {i : Instructions M} (h : AreImages g i.fields) :
    ∃ o, Instructions.map g o = i := by
  obtain ⟨crop, draw, stroke⟩ := i
  obtain ⟨first, ofStroke⟩ := h.append
  obtain ⟨ofCrop, ofDraw⟩ := first.append
  obtain ⟨draw, rfl⟩ := Drawing.exists_map_list ofDraw
  obtain ⟨crop, rfl⟩ : ∃ o, Option.map (Crop.map g) o = crop := by
    cases crop with
    | none => exact ⟨none, rfl⟩
    | some c =>
      obtain ⟨o, rfl⟩ := Crop.exists_map ofCrop
      exact ⟨some o, rfl⟩
  obtain ⟨stroke, rfl⟩ : ∃ o, Option.map g o = stroke := by
    cases stroke with
    | none => exact ⟨none, rfl⟩
    | some n =>
      obtain ⟨o, same⟩ := ofStroke _ List.mem_cons_self
      exact ⟨some o, congrArg some same⟩
  exact ⟨⟨crop, draw, stroke⟩, rfl⟩

/-- A document all of whose numbers are images is an image. -/
theorem Document.exists_map {d : Document M} (h : AreImages g d.fields) :
    ∃ o, Document.map g o = d := by
  obtain ⟨first, ofFinal⟩ := h.append
  obtain ⟨ofInstructions, ofDimensions⟩ := first.append
  obtain ⟨instructions, one⟩ := Instructions.exists_map ofInstructions
  obtain ⟨dimensions, two⟩ := Size.exists_map ofDimensions
  obtain ⟨final, three⟩ := Size.exists_map ofFinal
  exact ⟨⟨dimensions, final, instructions, d.sourceFile, d.destinationFile, d.format⟩,
    by rw [Document.map, one, two, three]⟩

theorem Document.areImages_map (d : Document N) : AreImages g (d.map g).fields := by
  intro q member
  rw [Document.fields_map] at member
  obtain ⟨p, -, rfl⟩ := List.mem_map.mp member
  exact ⟨p.2, rfl⟩

end

/-- A text is read as a document of integers exactly if it is read as the raw document whose numbers
are these integers, and it is so if no number of its raw document is anything else. Coercion then
gives the document, whatever the label. -/
theorem decode_iff_decodeRaw (t : String) :
    (∀ d : Document Int64, Document.decode t = .ok d ↔
      ∃ r, Document.decodeRaw t = .ok r ∧ (∀ q ∈ r.fields, ∃ n, .int n = q.2) ∧ r = d.map .int) ∧
    (∀ r, Document.decodeRaw t = .ok r → (∀ q ∈ r.fields, ∃ n, .int n = q.2) →
      ∃ d, Document.decode t = .ok d) ∧
    ∀ d, Document.decode t = .ok d →
      ∃ r, Document.decodeRaw t = .ok r ∧
        ∀ label, (r.normalize label).outcome = .ok d := by
  refine ⟨fun d => ?_, ?_, ?_⟩
  · rw [Document.decode_eq_ok_iff]
    constructor
    · intro decoded
      exact ⟨_, decoded, d.areImages_map, rfl⟩
    · rintro ⟨r, decoded, -, rfl⟩
      exact decoded
  · intro r decoded integers
    obtain ⟨d, rfl⟩ := Document.exists_map integers
    exact ⟨d, Document.decode_eq_ok_iff.mpr decoded⟩
  · intro d decoded
    exact ⟨_, Document.decode_eq_ok_iff.mp decoded, fun label => d.coerce_map_int label⟩

/-- A text with arrays for objects, an unknown key, no format and the extreme integers. -/
theorem decode_iff_decodeRaw_of_mixed_forms :
    let t := "\x7b\"dimensions\":[9223372036854775807,-9223372036854775808],\"n\":[1e400]," ++
      "\"instructions\":[null,[\x7b\"gap\":[[1,2],\x7b\"y\":4,\"x\":3\x7d,\"red\"]\x7d]]," ++
      "\"finalDimensions\":\x7b\"height\":6,\"width\":5\x7d,\"sourceFile\":\"in\"," ++
      "\"destinationFile\":\"out\"\x7d"
    let d : Document Int64 := ⟨⟨Int64.maxValue, Int64.minValue⟩, ⟨5, 6⟩,
      ⟨none, [.gap ⟨⟨1, 2⟩, ⟨3, 4⟩, ⟨"red"⟩⟩], none⟩, "in", "out", "jpeg"⟩
    Document.decode t = .ok d ∧
      (∃ r, Document.decodeRaw t = .ok r ∧ (∀ q ∈ r.fields, ∃ n, .int n = q.2) ∧
        r = d.map .int) ∧
      (∃ r, Document.decodeRaw t = .ok r ∧ ∀ label, (r.normalize label).outcome = .ok d) ∧
      ∃ e, Document.decode t = .ok e := by
  intro t d
  have decoded : Document.decode t = .ok d := by decide +kernel
  obtain ⟨agreed, integers, coerced⟩ := decode_iff_decodeRaw t
  have raw := (agreed d).mp decoded
  obtain ⟨r, read, all, -⟩ := raw
  exact ⟨decoded, (agreed d).mp decoded, coerced d decoded, integers r read all⟩

end PaintScript

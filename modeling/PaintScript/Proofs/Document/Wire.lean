import Mathlib.Data.List.Forall2
import PaintScript.Document.Field
import PaintScript.Document.Wire
import PaintScript.Proofs.Document.Map
import PaintScript.Proofs.Json.ReadBack

/-!
# Documents that are read back

A document is read back from every arrangement of its wire form if each of its numbers is read back
at the depth where it stands.
-/

namespace PaintScript

open Json (InOrder Reader ReadsBack)
open Json.Read (defaulted required)

theorem Json.ReadsBack.map {α β : Type} {f : α → β} {read : Nat → Reader α} {levels : Nat}
    {j : Json} {v : α} (h : ReadsBack read levels j v) :
    ReadsBack (Json.Reader.map f read) levels j (f v) := by
  refine ⟨h.wellFormed, fun k arranged rest ends => ?_⟩
  rw [Json.Reader.map, h.reads k arranged rest ends]
  rfl

/-- The number of brackets that are opened below a group in the deepest part of a document. -/
def FieldGroup.above : FieldGroup → Nat
  | .dimensions | .finalDimensions | .instructions => 4
  | .cropOrigin | .cropSize => 2
  | .drawing _ _ => 1
  | .drawingStart _ _ | .drawingSize _ _ | .drawingStop _ _ => 0

section

variable {N : Type} {num : N → Json} {number : Nat → Reader N} {levels : Nat}

def ReadsFields (num : N → Json) (number : Nat → Reader N) (levels : Nat)
    (fields : List (NumericField × N)) : Prop :=
  ∀ q ∈ fields, ReadsBack number (levels + q.1.group.above) (num q.2) q.2

theorem ReadsFields.append {first second : List (NumericField × N)}
    (h : ReadsFields num number levels (first ++ second)) :
    ReadsFields num number levels first ∧ ReadsFields num number levels second :=
  List.forall_mem_append.mp h

/-! ### Parts of a document -/

theorem Color.readsBack (c : Color) : ReadsBack Color.read levels c.toJson c :=
  ReadsBack.map (ReadsBack.text "a string" c.name)

theorem Point.readsBack (group : FieldGroup) {p : Point N}
    (h : ReadsFields num number levels (p.fields group)) :
    ReadsBack (Point.read number) (levels + group.above + 1) (p.toJson num) p := by
  have x := h (⟨group, .x⟩, p.x) (by simp [Point.fields])
  have y := h (⟨group, .y⟩, p.y) (by simp [Point.fields])
  have entries : InOrder (levels + group.above) [required "x" number, required "y" number]
      (p.x, p.y, ()) [("x", num p.x), ("y", num p.y)] := .entry x (.entry y .nil)
  exact (entries.record (show ["x", "y"].Nodup by decide)).map

theorem Size.readsBack (group : FieldGroup) {s : Size N}
    (h : ReadsFields num number levels (s.fields group)) :
    ReadsBack (Size.read number) (levels + group.above + 1) (s.toJson num) s := by
  have width := h (⟨group, .width⟩, s.width) (by simp [Size.fields])
  have height := h (⟨group, .height⟩, s.height) (by simp [Size.fields])
  have entries : InOrder (levels + group.above)
      [required "width" number, required "height" number]
      (s.width, s.height, ()) [("width", num s.width), ("height", num s.height)] :=
    .entry width (.entry height .nil)
  exact (entries.record (show ["width", "height"].Nodup by decide)).map

theorem Crop.readsBack {c : Crop N} (h : ReadsFields num number levels c.fields) :
    ReadsBack (Crop.read number) (levels + 4) (c.toJson num) c := by
  obtain ⟨origin, size⟩ := h.append
  have entries : InOrder (levels + 3)
      [required "from" (Point.read number), required "size" (Size.read number)]
      (c.origin, c.size, ()) [("from", c.origin.toJson num), ("size", c.size.toJson num)] :=
    .entry (Point.readsBack .cropOrigin origin) (.entry (Size.readsBack .cropSize size) .nil)
  exact (entries.record (show ["from", "size"].Nodup by decide)).map

theorem Circle.readsBack {c : Circle N} {index : Nat} {shape : Shape}
    (center : ReadsFields num number levels (c.center.fields (.drawingStart index shape)))
    (radius : ReadsFields num number levels [(⟨.drawing index shape, .radius⟩, c.radius)]) :
    ReadsBack (Circle.read number) (levels + 2) (c.toJson num) c := by
  have entries : InOrder (levels + 1)
      [required "from" (Point.read number), required "radius" number, required "color" Color.read]
      (c.center, c.radius, c.color, ())
      [("from", c.center.toJson num), ("radius", num c.radius), ("color", c.color.toJson)] :=
    .entry (Point.readsBack (.drawingStart index shape) center)
      (.entry (radius _ List.mem_cons_self) (.entry (Color.readsBack c.color) .nil))
  exact (entries.record (show ["from", "radius", "color"].Nodup by decide)).map

theorem Rectangle.readsBack {r : Rectangle N} {index : Nat} {shape : Shape}
    (corner : ReadsFields num number levels (r.corner.fields (.drawingStart index shape)))
    (size : ReadsFields num number levels (r.size.fields (.drawingSize index shape))) :
    ReadsBack (Rectangle.read number) (levels + 2) (r.toJson num) r := by
  have entries : InOrder (levels + 1)
      [required "from" (Point.read number), required "size" (Size.read number),
        required "color" Color.read]
      (r.corner, r.size, r.color, ())
      [("from", r.corner.toJson num), ("size", r.size.toJson num), ("color", r.color.toJson)] :=
    .entry (Point.readsBack (.drawingStart index shape) corner)
      (.entry (Size.readsBack (.drawingSize index shape) size)
        (.entry (Color.readsBack r.color) .nil))
  exact (entries.record (show ["from", "size", "color"].Nodup by decide)).map

theorem Segment.readsBack {s : Segment N} {index : Nat} {shape : Shape}
    (start : ReadsFields num number levels (s.start.fields (.drawingStart index shape)))
    (stop : ReadsFields num number levels (s.stop.fields (.drawingStop index shape))) :
    ReadsBack (Segment.read number) (levels + 2) (s.toJson num) s := by
  have entries : InOrder (levels + 1)
      [required "from" (Point.read number), required "to" (Point.read number),
        required "color" Color.read]
      (s.start, s.stop, s.color, ())
      [("from", s.start.toJson num), ("to", s.stop.toJson num), ("color", s.color.toJson)] :=
    .entry (Point.readsBack (.drawingStart index shape) start)
      (.entry (Point.readsBack (.drawingStop index shape) stop)
        (.entry (Color.readsBack s.color) .nil))
  exact (entries.record (show ["from", "to", "color"].Nodup by decide)).map

theorem Drawing.body_readsBack {d : Drawing N} {index : Nat}
    (h : ReadsFields num number levels (d.fields index)) :
    ReadsBack (Drawing.readBody number d.shape) (levels + 2) (d.body num) d := by
  cases d with
  | circle c =>
    obtain ⟨center, radius⟩ := h.append
    exact ReadsBack.map (f := Drawing.circle) (Circle.readsBack center radius)
  | rectangle r =>
    obtain ⟨corner, size⟩ := h.append
    exact ReadsBack.map (f := Drawing.rectangle) (Rectangle.readsBack corner size)
  | line s =>
    obtain ⟨start, stop⟩ := h.append
    exact ReadsBack.map (f := Drawing.line) (Segment.readsBack start stop)
  | arrow s =>
    obtain ⟨start, stop⟩ := h.append
    exact ReadsBack.map (f := Drawing.arrow) (Segment.readsBack start stop)
  | gap s =>
    obtain ⟨start, stop⟩ := h.append
    exact ReadsBack.map (f := Drawing.gap) (Segment.readsBack start stop)

theorem Drawing.readsBack {d : Drawing N} {index : Nat}
    (h : ReadsFields num number levels (d.fields index)) :
    ReadsBack (Drawing.read number) (levels + 3) (d.toJson num) d :=
  ReadsBack.tagged (Shape.ofName?_name d.shape) (Drawing.body_readsBack h)

theorem Drawing.list_readsBack {ds : List (Drawing N)} {index : Nat}
    (h : ReadsFields num number levels (Drawing.listFields index ds)) :
    List.Forall₂ (ReadsBack (Drawing.read number) (levels + 3)) (ds.map (Drawing.toJson num))
      ds := by
  induction ds generalizing index with
  | nil => exact .nil
  | cons d ds ih =>
    obtain ⟨here, others⟩ := h.append
    exact .cons (Drawing.readsBack here) (ih others)

/-! ### Whole documents -/

/-- The document with the given stroke width. -/
def Document.withStroke (width : Option N) (d : Document N) : Document N :=
  { d with instructions := { d.instructions with strokeWidth := width } }

/-- Instructions are read back with the stroke width that is read from their entries. -/
theorem Instructions.readsBack_withStroke {i : Instructions N} {width : Option N}
    (h : ReadsFields num number levels { i with strokeWidth := none }.fields)
    (stroke : InOrder (levels + 4) [defaulted "strokeWidth" (Json.Read.optional number) none]
      (width, ()) (i.strokeWidth.map fun n => ("strokeWidth", num n)).toList) :
    ReadsBack (Instructions.read number) (levels + 5) (i.toJson num)
      { i with strokeWidth := width } := by
  obtain ⟨crop, draw, written⟩ := i
  obtain ⟨ofCrop, ofDraw⟩ := h.append.1.append
  have drawings : ReadsBack (Json.Read.list (Drawing.read number)) (levels + 4)
      (.array (draw.map (Drawing.toJson num))) draw := .list (Drawing.list_readsBack ofDraw)
  have entries : InOrder (levels + 4)
      [defaulted "crop" (Json.Read.optional (Crop.read number)) none,
        defaulted "draw" (Json.Read.list (Drawing.read number)) [],
        defaulted "strokeWidth" (Json.Read.optional number) none]
      (crop, draw, width, ())
      ((crop.map fun c => ("crop", c.toJson num)).toList ++
        [("draw", .array (draw.map fun d => d.toJson num))] ++
        (written.map fun n => ("strokeWidth", num n)).toList) := by
    cases crop with
    | none => exact .absent rfl (.entry drawings stroke)
    | some c =>
      have present : c.toJson num ≠ .null := by rintro ⟨⟩
      exact .entry ((Crop.readsBack ofCrop).optional present) (.entry drawings stroke)
  exact ReadsBack.map (entries.record (show ["crop", "draw", "strokeWidth"].Nodup by decide))

/-- A document is read back with the stroke width that is read from its entries. -/
theorem Document.readsBack_withStroke {d : Document N} {width : Option N}
    (h : ReadsFields num number levels (d.withStroke none).fields)
    (stroke : InOrder (levels + 4) [defaulted "strokeWidth" (Json.Read.optional number) none]
      (width, ()) (d.instructions.strokeWidth.map fun n => ("strokeWidth", num n)).toList) :
    ReadsBack (Document.read number) (levels + 6) (d.toJson num) (d.withStroke width) := by
  obtain ⟨first, final⟩ := h.append
  obtain ⟨instructions, dimensions⟩ := first.append
  have entries : InOrder (levels + 5)
      [required "dimensions" (Size.read number), required "finalDimensions" (Size.read number),
        required "instructions" (Instructions.read number), required "sourceFile" stringRead,
        required "destinationFile" stringRead, defaulted "format" stringRead defaultFormat]
      (d.dimensions, d.finalDimensions, { d.instructions with strokeWidth := width },
        d.sourceFile, d.destinationFile, d.format, ())
      [("dimensions", d.dimensions.toJson num), ("finalDimensions", d.finalDimensions.toJson num),
        ("instructions", d.instructions.toJson num), ("sourceFile", .string d.sourceFile),
        ("destinationFile", .string d.destinationFile), ("format", .string d.format)] :=
    .entry (Size.readsBack .dimensions dimensions) (.entry (Size.readsBack .finalDimensions final)
      (.entry (Instructions.readsBack_withStroke instructions stroke) (.entry (.text _ _)
        (.entry (.text _ _) (.entry (.text _ _) .nil)))))
  exact ReadsBack.map (entries.record
    (show ["dimensions", "finalDimensions", "instructions", "sourceFile", "destinationFile",
      "format"].Nodup by decide))

theorem Document.mem_fields_of_strokeWidth {d : Document N} {n : N}
    (h : n ∈ d.instructions.strokeWidth) : (⟨.instructions, .strokeWidth⟩, n) ∈ d.fields := by
  have width : d.instructions.strokeWidth = some n := h
  simp [Document.fields, Instructions.fields, width]

theorem Document.fields_withStroke_none_subset (d : Document N) :
    (d.withStroke none).fields ⊆ d.fields := by
  intro q member
  simp only [Document.fields, Document.withStroke, Instructions.fields, List.mem_append] at member ⊢
  rcases member with (((ofCrop | ofDraw) | ofStroke) | ofDimensions) | ofFinal
  · exact Or.inl (Or.inl (Or.inl (Or.inl ofCrop)))
  · exact Or.inl (Or.inl (Or.inl (Or.inr ofDraw)))
  · cases ofStroke
  · exact Or.inl (Or.inr ofDimensions)
  · exact Or.inr ofFinal

/-- A document is read back if its numbers are, unless its stroke width is written as `null`. -/
theorem Document.readsBack {d : Document N} (h : ReadsFields num number levels d.fields)
    (present : ∀ n ∈ d.instructions.strokeWidth, num n ≠ .null) :
    ReadsBack (Document.read number) (levels + 6) (d.toJson num) d := by
  have others : ReadsFields num number levels (d.withStroke none).fields :=
    fun q member => h q (d.fields_withStroke_none_subset member)
  have width : InOrder (levels + 4) [defaulted "strokeWidth" (Json.Read.optional number) none]
      (d.instructions.strokeWidth, ())
      (d.instructions.strokeWidth.map fun n => ("strokeWidth", num n)).toList := by
    cases written : d.instructions.strokeWidth with
    | none => exact .absent rfl .nil
    | some n =>
      have back := h _ (Document.mem_fields_of_strokeWidth written)
      exact .entry (back.optional (present n written)) .nil
  exact Document.readsBack_withStroke others width

end

/-! ### Numbers as they are written -/

namespace Numeric

/-- Whether a written number is an integer or a text. -/
def IsIntOrText : Numeric → Prop
  | .int _ => True
  | .text _ => True
  | .float _ => False
  | .other _ => False

theorem isIntOrText_ofToken (token : List Char) : (ofToken token).IsIntOrText := by
  unfold ofToken
  split <;> trivial

theorem ofJson_integer (i : Int64) : ofJson (.integer i.toInt) = .int i := by
  have bounds : -2 ^ 63 ≤ i.toInt ∧ i.toInt < 2 ^ 63 := ⟨i.le_toInt, i.toInt_lt⟩
  rw [ofJson, if_pos bounds, Int64.ofInt_toInt]

/-- A number that is written as a sorted value and stands for it is read back. -/
theorem readsBack {n : Numeric} {levels : Nat} (wellFormed : n.toJson.WellFormed levels)
    (order : n.toJson.sorted = n.toJson) (stands : ofJson n.toJson = n) :
    ReadsBack Numeric.read levels n.toJson n := by
  have value := ReadsBack.value wellFormed
  rw [order] at value
  have read : ReadsBack Numeric.read levels n.toJson (ofJson n.toJson) := value.map
  rw [stands] at read
  exact read

theorem IsIntOrText.readsBack {n : Numeric} (h : n.IsIntOrText) (levels : Nat) :
    ReadsBack Numeric.read levels n.toJson n := by
  cases n with
  | int i =>
    have least := i.le_toInt
    have greatest := i.toInt_lt
    exact Numeric.readsBack (.integer least (by omega)) rfl (ofJson_integer i)
  | text s => exact Numeric.readsBack (.string s) rfl rfl
  | float x => exact h.elim
  | other v => exact h.elim

theorem IsIntOrText.toJson_ne_null {n : Numeric} (h : n.IsIntOrText) : n.toJson ≠ .null := by
  cases n with
  | int i => rintro ⟨⟩
  | text s => rintro ⟨⟩
  | float x => exact h.elim
  | other v => exact h.elim

end Numeric

theorem Document.raw_readsBack {d : Document Numeric} (written : ∀ q ∈ d.fields, q.2.IsIntOrText) :
    ReadsBack (Document.read Numeric.read) Json.Read.levelLimit (d.toJson Numeric.toJson) d := by
  have numbers : ReadsFields Numeric.toJson Numeric.read 121 d.fields :=
    fun q member => (written q member).readsBack _
  exact Document.readsBack numbers
    fun _ there => (written _ (mem_fields_of_strokeWidth there)).toJson_ne_null

theorem Document.decodeRaw_rawText {d : Document Numeric}
    (written : ∀ q ∈ d.fields, q.2.IsIntOrText) : Document.decodeRaw d.rawText = .ok d :=
  (Document.raw_readsBack written).decode_text

/-! ### Mapped numbers -/

section

variable {N M : Type} (num : N → Json) (g : M → N)

theorem Drawing.toJson_map (d : Drawing M) :
    (d.map g).toJson num = d.toJson fun m => num (g m) := by
  cases d <;> rfl

theorem Instructions.toJson_map (i : Instructions M) :
    (i.map g).toJson num = i.toJson fun m => num (g m) := by
  obtain ⟨crop, draw, stroke⟩ := i
  have drawings : ((draw.map (Drawing.map g)).map fun d => d.toJson num) =
      draw.map fun d => d.toJson fun m => num (g m) := by
    rw [List.map_map]
    exact List.map_congr_left fun d _ => Drawing.toJson_map num g d
  simp only [Instructions.toJson, Instructions.map, drawings]
  cases crop <;> cases stroke <;> rfl

theorem Document.toJson_map (d : Document M) :
    (d.map g).toJson num = d.toJson fun m => num (g m) := by
  simp only [Document.toJson, Document.map, Instructions.toJson_map]
  rfl

end

/-! ### Integers -/

theorem integer_readsBack (n : Int64) (levels : Nat) :
    ReadsBack integerRead levels (integerJson n) n := by
  have least := n.le_toInt
  have greatest := n.toInt_lt
  refine ⟨.integer least (by omega), fun k arranged => ?_⟩
  cases arranged
  exact Json.Read.reads_int64 n

theorem Document.integers_readBack_below (d : Document Int64) (levels : Nat) :
    ReadsBack (Document.read integerRead) (levels + 6) (d.toJson integerJson) d := by
  have numbers : ReadsFields integerJson integerRead levels d.fields :=
    fun q _ => integer_readsBack q.2 _
  have present : ∀ n ∈ d.instructions.strokeWidth, integerJson n ≠ .null := by
    intro n _
    simp [integerJson]
  exact Document.readsBack numbers present

theorem Document.integers_readBack (d : Document Int64) :
    ReadsBack (Document.read integerRead) Json.Read.levelLimit (d.toJson integerJson) d :=
  d.integers_readBack_below 121

theorem Document.integers_readBack_raw (d : Document Int64) :
    ReadsBack (Document.read Numeric.read) Json.Read.levelLimit (d.toJson integerJson)
      (d.map .int) := by
  have written : ∀ q ∈ (d.map Numeric.int).fields, q.2.IsIntOrText := by
    intro q member
    rw [Document.fields_map] at member
    obtain ⟨p, -, rfl⟩ := List.mem_map.mp member
    trivial
  have back := Document.raw_readsBack written
  rw [Document.toJson_map] at back
  exact back

end PaintScript

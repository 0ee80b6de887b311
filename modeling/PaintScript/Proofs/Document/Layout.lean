import PaintScript.Proofs.Document.Agreement
import PaintScript.Proofs.Json.PrintsAs
import PaintScript.Receipt

/-!
# Layouts of a document

`Document.IsLayout` describes all texts of a document: the keys of an object may come in any order
and among unknown ones, a record may be an array, what has its default may be left out, and spaces
may stand around the tokens. All of them are decoded as the document, so they have its hash.
-/

namespace PaintScript

open Json (Form FormsInOrder IsInteger IsList IsNull IsOptional IsRecord IsSpaces IsString IsTagged Presents
  PrintsAs)
open Json.Read (Fits)

/-! ### Texts of a document -/

def Point.IsText (p : Point Int64) : List Char → Prop :=
  IsRecord [.required "x" (IsInteger p.x), .required "y" (IsInteger p.y)]

def Size.IsText (s : Size Int64) : List Char → Prop :=
  IsRecord [.required "width" (IsInteger s.width), .required "height" (IsInteger s.height)]

def Crop.IsText (c : Crop Int64) : List Char → Prop :=
  IsRecord [.required "from" c.origin.IsText, .required "size" c.size.IsText]

def Circle.IsText (c : Circle Int64) : List Char → Prop :=
  IsRecord [.required "from" c.center.IsText, .required "radius" (IsInteger c.radius),
    .required "color" (IsString c.color.name)]

def Rectangle.IsText (r : Rectangle Int64) : List Char → Prop :=
  IsRecord [.required "from" r.corner.IsText, .required "size" r.size.IsText,
    .required "color" (IsString r.color.name)]

def Segment.IsText (s : Segment Int64) : List Char → Prop :=
  IsRecord [.required "from" s.start.IsText, .required "to" s.stop.IsText,
    .required "color" (IsString s.color.name)]

/-- A text of the members of a drawing. -/
def Drawing.IsBody : Drawing Int64 → List Char → Prop
  | .circle c => c.IsText
  | .rectangle r => r.IsText
  | .line s | .arrow s | .gap s => s.IsText

def Drawing.IsText (d : Drawing Int64) : List Char → Prop :=
  IsTagged d.shape.name d.IsBody

/-- A text of instructions. An absent crop or stroke width is `null` or left out, and so are no
drawings. -/
def Instructions.IsText (i : Instructions Int64) : List Char → Prop :=
  IsRecord [⟨"crop", IsOptional Crop.IsText i.crop, i.crop = none⟩,
    ⟨"draw", IsList Drawing.IsText i.draw, i.draw = []⟩,
    ⟨"strokeWidth", IsOptional IsInteger i.strokeWidth, i.strokeWidth = none⟩]

/-- A text of a document. The default format may be left out. -/
def Document.IsText (d : Document Int64) : List Char → Prop :=
  IsRecord [.required "dimensions" d.dimensions.IsText,
    .required "finalDimensions" d.finalDimensions.IsText,
    .required "instructions" d.instructions.IsText,
    .required "sourceFile" (IsString d.sourceFile),
    .required "destinationFile" (IsString d.destinationFile),
    ⟨"format", IsString d.format, d.format = defaultFormat⟩]

/-- A text of a document with spaces around it. -/
def Document.IsLayout (d : Document Int64) (text : String) : Prop :=
  ∃ before inside after, IsSpaces before ∧ d.IsText inside ∧ IsSpaces after ∧
    text.toList = before ++ (inside ++ after)

/-! ### Reading -/

theorem Json.Presents.map {α β : Type} {IsText : List Char → Prop} {read : Nat → Json.Reader α}
    {levels : Nat} {v : α} (h : Presents IsText (read levels) v) (f : α → β) :
    Presents IsText (Json.Reader.map f read levels) (f v) :=
  ⟨h.starts, fun text given spaces left rest ends =>
    Json.Read.map_of_read f (h.reads text given spaces left rest ends)⟩

theorem Json.Read.Fits.required {levels : Nat} (key : String) {IsText : List Char → Prop}
    {α : Type} {read : Nat → Json.Reader α} {v : α} {forms : List Form}
    {fields : List Json.Read.Field} {vs : Json.Read.Values fields}
    (presents : Presents IsText (read levels) v) (others : Fits levels forms fields vs) :
    Fits levels (.required key IsText :: forms) (Json.Read.required key read :: fields) (v, vs) :=
  .cons rfl presents False.elim others

theorem Json.Read.Fits.defaulted {levels : Nat} (key : String) {IsText : List Char → Prop}
    {α : Type} {read : Nat → Json.Reader α} {v : α} (default : α) {forms : List Form}
    {fields : List Json.Read.Field} {vs : Json.Read.Values fields}
    (presents : Presents IsText (read levels) v) (others : Fits levels forms fields vs) :
    Fits levels (⟨key, IsText, v = default⟩ :: forms)
      (Json.Read.defaulted key read default :: fields) (v, vs) :=
  .cons rfl presents (fun same => congrArg some same.symm) others

theorem Json.Read.Fits.record {levels : Nat} {name : String} {σ : Type} {forms : List Form}
    {fields : List Json.Read.Field} {vs : Json.Read.Values fields}
    {build : Json.Read.Values fields → σ} (h : Fits levels forms fields vs)
    (distinct : (forms.map Form.key).Nodup) :
    Presents (IsRecord forms)
      (Json.Reader.map build (Json.Read.record name fields) (levels + 1)) (build vs) :=
  (h.presents name distinct).map build

section

variable {levels : Nat}

theorem Color.presents (c : Color) : Presents (IsString c.name) (Color.read levels) c :=
  (Json.Read.presents_string "a string" c.name).map Color.mk

theorem integer_presents (n : Int64) : Presents (IsInteger n) (integerRead levels) n :=
  Json.Read.presents_integer n

theorem Point.presents (p : Point Int64) :
    Presents p.IsText (Point.read integerRead (levels + 1)) p := by
  have fields : Fits levels _ _ _ :=
    .required "x" (integer_presents p.x) (.required "y" (integer_presents p.y) .nil)
  exact fields.record (show ["x", "y"].Nodup by decide)

theorem Size.presents (s : Size Int64) :
    Presents s.IsText (Size.read integerRead (levels + 1)) s := by
  have fields : Fits levels _ _ _ :=
    .required "width" (integer_presents s.width)
      (.required "height" (integer_presents s.height) .nil)
  exact fields.record (show ["width", "height"].Nodup by decide)

theorem Crop.presents (c : Crop Int64) :
    Presents c.IsText (Crop.read integerRead (levels + 2)) c := by
  have fields : Fits (levels + 1) _ _ _ :=
    .required "from" c.origin.presents (.required "size" c.size.presents .nil)
  exact fields.record (show ["from", "size"].Nodup by decide)

theorem Circle.presents (c : Circle Int64) :
    Presents c.IsText (Circle.read integerRead (levels + 2)) c := by
  have fields : Fits (levels + 1) _ _ _ :=
    .required "from" c.center.presents (.required "radius" (integer_presents c.radius)
      (.required "color" c.color.presents .nil))
  exact fields.record (show ["from", "radius", "color"].Nodup by decide)

theorem Rectangle.presents (r : Rectangle Int64) :
    Presents r.IsText (Rectangle.read integerRead (levels + 2)) r := by
  have fields : Fits (levels + 1) _ _ _ :=
    .required "from" r.corner.presents (.required "size" r.size.presents
      (.required "color" r.color.presents .nil))
  exact fields.record (show ["from", "size", "color"].Nodup by decide)

theorem Segment.presents (s : Segment Int64) :
    Presents s.IsText (Segment.read integerRead (levels + 2)) s := by
  have fields : Fits (levels + 1) _ _ _ :=
    .required "from" s.start.presents (.required "to" s.stop.presents
      (.required "color" s.color.presents .nil))
  exact fields.record (show ["from", "to", "color"].Nodup by decide)

theorem Drawing.body_presents (d : Drawing Int64) :
    Presents d.IsBody (Drawing.readBody integerRead d.shape (levels + 2)) d := by
  cases d with
  | circle c => exact c.presents.map Drawing.circle
  | rectangle r => exact r.presents.map Drawing.rectangle
  | line s => exact s.presents.map Drawing.line
  | arrow s => exact s.presents.map Drawing.arrow
  | gap s => exact s.presents.map Drawing.gap

theorem Drawing.presents (d : Drawing Int64) :
    Presents d.IsText (Drawing.read integerRead (levels + 3)) d :=
  Json.Read.presents_tagged (Shape.ofName?_name d.shape) d.body_presents

/-- No record is written like `null`. -/
theorem Json.IsRecord.starts_present {forms : List Form} {text : List Char}
    (h : IsRecord forms text) : Json.Read.Starts ['n'] text := by
  rcases h with ⟨_, body, _, rfl⟩ | ⟨_, _, _⟩
  · exact ⟨'[', _, rfl, by decide, by decide⟩
  · exact ⟨'\x7b', _, rfl, by decide, by decide⟩

theorem Instructions.crop_presents (crop : Option (Crop Int64)) :
    Presents (IsOptional Crop.IsText crop)
      (Json.Read.optional (Crop.read integerRead) (levels + 2)) crop := by
  cases crop with
  | none => exact Json.Read.presents_null _ _
  | some c => exact Json.Read.presents_some c.presents fun _ given => given.starts_present

theorem Instructions.stroke_presents (stroke : Option Int64) :
    Presents (IsOptional IsInteger stroke) (Json.Read.optional integerRead levels) stroke := by
  cases stroke with
  | none => exact Json.Read.presents_null _ _
  | some n =>
    refine Json.Read.presents_some (integer_presents n) ?_
    rintro _ rfl
    exact (Json.isNumeral_integer n.toInt).starts (by decide)

theorem Instructions.presents (i : Instructions Int64) :
    Presents i.IsText (Instructions.read integerRead (levels + 5)) i := by
  have draw : Presents (IsList Drawing.IsText i.draw)
      (Json.Read.list (Drawing.read integerRead) (levels + 4)) i.draw :=
    Json.Read.presents_list fun d _ => d.presents
  have fields : Fits (levels + 4) _ _ _ :=
    .defaulted "crop" none (Instructions.crop_presents i.crop)
      (.defaulted "draw" [] draw
        (.defaulted "strokeWidth" none (Instructions.stroke_presents i.strokeWidth) .nil))
  exact fields.record (show ["crop", "draw", "strokeWidth"].Nodup by decide)

theorem Document.presents (d : Document Int64) :
    Presents d.IsText (Document.read integerRead (levels + 6)) d := by
  have string (s : String) : Presents (IsString s) (stringRead (levels + 5)) s :=
    Json.Read.presents_string "a string" s
  have fields : Fits (levels + 5) _ _ _ :=
    .required "dimensions" d.dimensions.presents
      (.required "finalDimensions" d.finalDimensions.presents
        (.required "instructions" d.instructions.presents
          (.required "sourceFile" (string d.sourceFile)
            (.required "destinationFile" (string d.destinationFile)
              (.defaulted "format" defaultFormat (string d.format) .nil)))))
  exact fields.record (show ["dimensions", "finalDimensions", "instructions", "sourceFile",
    "destinationFile", "format"].Nodup by decide)

end

/-- Every layout of a document is decoded as the document. -/
theorem Document.IsLayout.decode {d : Document Int64} {text : String} (h : d.IsLayout text) :
    Document.decode text = .ok d := by
  obtain ⟨before, inside, after, left, given, right, same⟩ := h
  have ends : Json.Read.EndsNumber after := by
    have spaces := Json.Read.endsNumber_append right Json.Read.endsNumber_nil
    rw [List.append_nil] at spaces
    exact spaces
  have read : Document.read integerRead Json.Read.levelLimit (before ++ inside ++ after) =
      .ok (d, after) := d.presents.reads inside given before left after ends
  refine Json.Read.decode_eq_ok_iff.mpr ⟨after, ?_, List.dropWhile_eq_nil_iff.mpr right⟩
  rw [same, ← List.append_assoc]
  exact read

/-! ### Printed texts -/

theorem Point.printsAs (p : Point Int64) : PrintsAs p.IsText (p.toJson integerJson) :=
  FormsInOrder.record (.entry (Json.printsAs_integer p.x) (.entry (Json.printsAs_integer p.y) .nil))
    (show ["x", "y"].Nodup by decide)

theorem Size.printsAs (s : Size Int64) : PrintsAs s.IsText (s.toJson integerJson) :=
  FormsInOrder.record
    (.entry (Json.printsAs_integer s.width) (.entry (Json.printsAs_integer s.height) .nil))
    (show ["width", "height"].Nodup by decide)

theorem Crop.printsAs (c : Crop Int64) : PrintsAs c.IsText (c.toJson integerJson) :=
  FormsInOrder.record (.entry c.origin.printsAs (.entry c.size.printsAs .nil))
    (show ["from", "size"].Nodup by decide)

theorem Circle.printsAs (c : Circle Int64) : PrintsAs c.IsText (c.toJson integerJson) :=
  FormsInOrder.record (.entry c.center.printsAs (.entry (Json.printsAs_integer c.radius)
    (.entry (Json.printsAs_string c.color.name) .nil)))
    (show ["from", "radius", "color"].Nodup by decide)

theorem Rectangle.printsAs (r : Rectangle Int64) : PrintsAs r.IsText (r.toJson integerJson) :=
  FormsInOrder.record (.entry r.corner.printsAs (.entry r.size.printsAs
    (.entry (Json.printsAs_string r.color.name) .nil)))
    (show ["from", "size", "color"].Nodup by decide)

theorem Segment.printsAs (s : Segment Int64) : PrintsAs s.IsText (s.toJson integerJson) :=
  FormsInOrder.record (.entry s.start.printsAs (.entry s.stop.printsAs
    (.entry (Json.printsAs_string s.color.name) .nil)))
    (show ["from", "to", "color"].Nodup by decide)

theorem Drawing.printsAs (d : Drawing Int64) : PrintsAs d.IsText (d.toJson integerJson) := by
  refine Json.printsAs_tagged ?_
  cases d with
  | circle c => exact c.printsAs
  | rectangle r => exact r.printsAs
  | line s => exact s.printsAs
  | arrow s => exact s.printsAs
  | gap s => exact s.printsAs

theorem Instructions.printsAs (i : Instructions Int64) :
    PrintsAs i.IsText (i.toJson integerJson) := by
  obtain ⟨crop, draw, stroke⟩ := i
  have drawings : PrintsAs (IsList Drawing.IsText draw)
      (.array (draw.map fun d => d.toJson integerJson)) :=
    Json.printsAs_list (List.forall₂_map_right_iff.mpr
      (List.forall₂_same.mpr fun d _ => d.printsAs))
  have distinct : ["crop", "draw", "strokeWidth"].Nodup := by decide
  cases crop with
  | none =>
    cases stroke with
    | none => exact FormsInOrder.record (.absent rfl (.entry drawings (.absent rfl .nil))) distinct
    | some n =>
      exact FormsInOrder.record
        (.absent rfl (.entry drawings (.entry (Json.printsAs_integer n) .nil))) distinct
  | some c =>
    cases stroke with
    | none =>
      exact FormsInOrder.record (.entry c.printsAs (.entry drawings (.absent rfl .nil))) distinct
    | some n =>
      exact FormsInOrder.record
        (.entry c.printsAs (.entry drawings (.entry (Json.printsAs_integer n) .nil))) distinct

theorem Document.printsAs (d : Document Int64) : PrintsAs d.IsText (d.toJson integerJson) :=
  FormsInOrder.record (.entry d.dimensions.printsAs (.entry d.finalDimensions.printsAs
    (.entry d.instructions.printsAs (.entry (Json.printsAs_string d.sourceFile)
      (.entry (Json.printsAs_string d.destinationFile)
        (.entry (Json.printsAs_string d.format) .nil))))))
    (show ["dimensions", "finalDimensions", "instructions", "sourceFile", "destinationFile",
      "format"].Nodup by decide)

/-- The text of a document is one of its layouts, and so is the canonical one. -/
theorem Document.isLayout_of_mem_wireForms {d : Document Int64} {text : String}
    (kept : text ∈ d.wireForms) : d.IsLayout text := by
  have wellFormed := d.integers_readBack.wellFormed
  obtain ⟨j, arranged, rfl⟩ : ∃ j, (d.toJson integerJson).Arranges j ∧ text = j.text := by
    rcases List.mem_cons.mp kept with own | canonical
    · exact ⟨_, .refl _, own⟩
    · exact ⟨_, wellFormed.arranges_sorted, List.mem_singleton.mp canonical⟩
  refine ⟨[], j.print, [], Json.isSpaces_nil, d.printsAs j arranged, Json.isSpaces_nil, ?_⟩
  rw [Json.text, String.toList_ofList, List.append_nil, List.nil_append]

/-- All layouts of a document are decoded as it, so they have one canonical text and one hash. The
text that is printed is one of them, and so is the canonical one. -/
theorem decode_of_layout :
    (∀ d : Document Int64, d.IsLayout d.text ∧ d.IsLayout d.canonical) ∧
      ∀ (d : Document Int64) (text : String), d.IsLayout text →
        Document.decode text = .ok d ∧ Document.decodeRaw text = .ok (d.map .int) ∧
          (Document.decode text).map Document.canonical = .ok d.canonical ∧
          (Document.decode text).map Document.hash = .ok d.hash := by
  constructor
  · intro d
    exact ⟨Document.isLayout_of_mem_wireForms List.mem_cons_self,
      Document.isLayout_of_mem_wireForms (List.mem_cons_of_mem _ List.mem_cons_self)⟩
  · intro d text layout
    have decoded := layout.decode
    refine ⟨decoded, Document.decode_eq_ok_iff.mp decoded, ?_, ?_⟩
    · rw [decoded]
      rfl
    · rw [decoded]
      rfl

/-- A text with keys in another order, an unknown one, arrays for objects, `null` for what is absent, no
format and some spaces. -/
theorem decode_of_layout_of_rearranged_text :
    let d : Document Int64 :=
      ⟨⟨8, 6⟩, ⟨4, 5⟩, ⟨none, [.line ⟨⟨1, 2⟩, ⟨3, 0⟩, ⟨"red"⟩⟩], none⟩, "in", "out", "jpeg"⟩
    let text := "\x7b\"sourceFile\":\"in\",\"n\":[],\"finalDimensions\":[4 ,5],\n" ++
      "\"instructions\":[null,[\x7b\"line\":[[1,2],[3,0],\"red\"]\x7d],null]," ++
      "\"destinationFile\":\"out\",\"dimensions\":\x7b\"height\":6,\"width\":8\x7d\x7d"
    d.IsLayout text ∧ Document.decode text = .ok d ∧ Document.decodeRaw text = .ok (d.map .int) ∧
      (Document.decode text).map Document.canonical = .ok d.canonical ∧
      (Document.decode text).map Document.hash = .ok d.hash := by
  intro d text
  let s : Segment Int64 := ⟨⟨1, 2⟩, ⟨3, 0⟩, ⟨"red"⟩⟩
  have empty : IsSpaces [] := Json.isSpaces_nil
  have blank : IsSpaces [' '] := by decide
  have line : IsSpaces ['\n'] := by decide
  have point (p : Point Int64) : p.IsText _ :=
    .array (.cons rfl (.cons rfl .nil)) ⟨_, .cons empty empty (.cons empty empty (.nil empty)), rfl⟩
  have segment : s.IsText _ :=
    .array (.cons (point s.start) (.cons (point s.stop)
        (.cons (Json.isString_printString s.color.name) .nil)))
      ⟨_, .cons empty empty (.cons empty empty (.cons empty empty (.nil empty))), rfl⟩
  have drawing : (Drawing.line s).IsText _ :=
    ⟨_, _, _, _, empty, Json.isKey_printString "line", segment, empty, rfl⟩
  have drawings : IsList Drawing.IsText [Drawing.line s] _ :=
    ⟨_, .cons drawing .nil, _, .cons empty empty (.nil empty), rfl⟩
  have instructions : d.instructions.IsText _ :=
    .array (.cons rfl (.cons drawings (.cons rfl .nil)))
      ⟨_, .cons empty empty (.cons empty empty (.cons empty empty (.nil empty))), rfl⟩
  have final : d.finalDimensions.IsText _ :=
    .array (.cons rfl (.cons rfl .nil)) ⟨_, .cons empty empty (.cons blank empty (.nil empty)), rfl⟩
  have dimensions : d.dimensions.IsText _ :=
    .object (.cons (.known (.tail _ (.head _)) (Json.isKey_printString "height") rfl)
        (.cons (.known (.head _) (Json.isKey_printString "width") rfl) .nil))
      (List.forall_mem_cons.mpr ⟨.inl (by decide), List.forall_mem_singleton.mpr (.inl (by decide))⟩)
      (.cons empty empty (.cons empty empty (.nil empty)))
  have inside : d.IsText _ :=
    .object (.cons (.known (.tail _ (.tail _ (.tail _ (.head _))))
          (Json.isKey_printString "sourceFile") (Json.isString_printString "in"))
        (.cons (.unknown (by decide) (Json.isKey_printString "n")
            (.array (List.forall_mem_nil _) (.nil empty)))
        (.cons (.known (.tail _ (.head _)) (Json.isKey_printString "finalDimensions") final)
        (.cons (.known (.tail _ (.tail _ (.head _))) (Json.isKey_printString "instructions")
            instructions)
        (.cons (.known (.tail _ (.tail _ (.tail _ (.tail _ (.head _)))))
            (Json.isKey_printString "destinationFile") (Json.isString_printString "out"))
        (.cons (.known (.head _) (Json.isKey_printString "dimensions") dimensions) .nil))))))
      (List.forall_mem_cons.mpr ⟨.inl (by decide), List.forall_mem_cons.mpr ⟨.inl (by decide),
        List.forall_mem_cons.mpr ⟨.inl (by decide), List.forall_mem_cons.mpr ⟨.inl (by decide),
          List.forall_mem_cons.mpr ⟨.inl (by decide),
            List.forall_mem_singleton.mpr (.inr ⟨rfl, by decide⟩)⟩⟩⟩⟩⟩)
      (.cons empty empty (.cons empty empty (.cons empty empty (.cons empty line
        (.cons empty empty (.cons empty empty (.nil empty)))))))
  have layout : d.IsLayout text := ⟨_, _, _, empty, inside, empty, by decide +kernel⟩
  exact ⟨layout, decode_of_layout.2 d text layout⟩
end PaintScript

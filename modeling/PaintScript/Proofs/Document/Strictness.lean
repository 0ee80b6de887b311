import PaintScript.Proofs.Document.Damage

/-!
# Strictness

No text of a document that has been damaged is decoded, and neither is one with anything but spaces
after it. Raw documents are as strict about this as documents of integers, apart from the numbers
themselves.
-/

namespace PaintScript

open Json (IsInteger IsObject IsValue Reader Written)
open Json.Read (Refuses SkipFields Skips defaulted isSpace required)

section

variable {N : Type} {number : Nat → Reader N}

/-! ### Where the readers of parts stop -/

theorem Color.skips (levels : Nat) : Skips (Color.read levels) :=
  Skips.map (Json.Read.skips_text _) Color.mk

section

variable (h : ∀ levels, Skips (number levels)) (levels : Nat)

include h

theorem Point.skips : Skips (Point.read number levels) :=
  have fields : SkipFields [required "x" number, required "y" number] := .cons h (.cons h .nil)
  (fields.record _ levels).map _

theorem Size.skips : Skips (Size.read number levels) :=
  have fields : SkipFields [required "width" number, required "height" number] :=
    .cons h (.cons h .nil)
  (fields.record _ levels).map _

theorem Crop.skips : Skips (Crop.read number levels) :=
  have fields : SkipFields
      [required "from" (Point.read number), required "size" (Size.read number)] :=
    .cons (Point.skips h) (.cons (Size.skips h) .nil)
  (fields.record _ levels).map _

theorem Circle.skips : Skips (Circle.read number levels) :=
  have fields : SkipFields [required "from" (Point.read number), required "radius" number,
      required "color" Color.read] :=
    .cons (Point.skips h) (.cons h (.cons Color.skips .nil))
  (fields.record _ levels).map _

theorem Rectangle.skips : Skips (Rectangle.read number levels) :=
  have fields : SkipFields [required "from" (Point.read number), required "size" (Size.read number),
      required "color" Color.read] :=
    .cons (Point.skips h) (.cons (Size.skips h) (.cons Color.skips .nil))
  (fields.record _ levels).map _

theorem Segment.skips : Skips (Segment.read number levels) :=
  have fields : SkipFields [required "from" (Point.read number), required "to" (Point.read number),
      required "color" Color.read] :=
    .cons (Point.skips h) (.cons (Point.skips h) (.cons Color.skips .nil))
  (fields.record _ levels).map _

theorem Drawing.skips_body (shape : Shape) : Skips (Drawing.readBody number shape levels) := by
  cases shape with
  | circle => exact (Circle.skips h levels).map _
  | rectangle => exact (Rectangle.skips h levels).map _
  | line | arrow | gap => exact (Segment.skips h levels).map _

theorem Drawing.skips : Skips (Drawing.read number levels) :=
  Skips.tagged (fun shape levels => Drawing.skips_body h levels shape) levels

theorem Instructions.skips : Skips (Instructions.read number levels) :=
  have fields : SkipFields [defaulted "crop" (Json.Read.optional (Crop.read number)) none,
      defaulted "draw" (Json.Read.list (Drawing.read number)) [],
      defaulted "strokeWidth" (Json.Read.optional number) none] :=
    .cons (fun levels => (Crop.skips h levels).optional) (.cons (Skips.list (Drawing.skips h))
      (.cons (fun levels => (h levels).optional) .nil))
  (fields.record _ levels).map _

theorem Document.skips : Skips (Document.read number levels) :=
  have text : ∀ levels, Skips (stringRead levels) := fun _ => Json.Read.skips_text _
  have fields : SkipFields [required "dimensions" (Size.read number),
      required "finalDimensions" (Size.read number),
      required "instructions" (Instructions.read number), required "sourceFile" stringRead,
      required "destinationFile" stringRead, defaulted "format" stringRead defaultFormat] :=
    .cons (Size.skips h) (.cons (Size.skips h) (.cons (Instructions.skips h)
      (.cons text (.cons text (.cons text .nil)))))
  (fields.record _ levels).map _

end

/-! ### Damaged parts -/

section

variable {integers : Bool} (h : GuardsNumber integers number)

include h

theorem Point.guards (p : Point Int64) :
    Guards integers (Point.read number) (p.toJson integerJson) := by
  have entries : GuardsInOrder integers [required "x" number, required "y" number]
      [("x", integerJson p.x), ("y", integerJson p.y)] :=
    .entry (.number (by decide) h) (.integer _ p.x)
      (.entry (.number (by decide) h) (.integer _ p.y) .nil)
  exact (entries.record "struct Point" (show ["x", "y"].Nodup by decide)).map _

theorem Size.guards (s : Size Int64) :
    Guards integers (Size.read number) (s.toJson integerJson) := by
  have entries : GuardsInOrder integers [required "width" number, required "height" number]
      [("width", integerJson s.width), ("height", integerJson s.height)] :=
    .entry (.number (by decide) h) (.integer _ s.width)
      (.entry (.number (by decide) h) (.integer _ s.height) .nil)
  exact (entries.record "struct Size" (show ["width", "height"].Nodup by decide)).map _

theorem Crop.guards (c : Crop Int64) :
    Guards integers (Crop.read number) (c.toJson integerJson) := by
  have entries : GuardsInOrder integers
      [required "from" (Point.read number), required "size" (Size.read number)]
      [("from", c.origin.toJson integerJson), ("size", c.size.toJson integerJson)] :=
    .entry (.part (Or.inl rfl) (Point.skips h.skips) (by decide)) (Point.guards h c.origin)
      (.entry (.part (Or.inl rfl) (Size.skips h.skips) (by decide)) (Size.guards h c.size) .nil)
  exact (entries.record "struct CropInstruction" (show ["from", "size"].Nodup by decide)).map _

theorem Circle.guards (c : Circle Int64) :
    Guards integers (Circle.read number) (c.toJson integerJson) := by
  have entries : GuardsInOrder integers
      [required "from" (Point.read number), required "radius" number, required "color" Color.read]
      [("from", c.center.toJson integerJson), ("radius", integerJson c.radius),
        ("color", c.color.toJson)] :=
    .entry (.part (Or.inl rfl) (Point.skips h.skips) (by decide)) (Point.guards h c.center)
      (.entry (.number (by decide) h) (.integer _ c.radius)
        (.entry .color (.string _ c.color.name) .nil))
  exact (entries.record "struct Circle" (show ["from", "radius", "color"].Nodup by decide)).map _

theorem Rectangle.guards (r : Rectangle Int64) :
    Guards integers (Rectangle.read number) (r.toJson integerJson) := by
  have entries : GuardsInOrder integers
      [required "from" (Point.read number), required "size" (Size.read number),
        required "color" Color.read]
      [("from", r.corner.toJson integerJson), ("size", r.size.toJson integerJson),
        ("color", r.color.toJson)] :=
    .entry (.part (Or.inl rfl) (Point.skips h.skips) (by decide)) (Point.guards h r.corner)
      (.entry (.part (Or.inl rfl) (Size.skips h.skips) (by decide)) (Size.guards h r.size)
        (.entry .color (.string _ r.color.name) .nil))
  exact (entries.record "struct Rectangle" (show ["from", "size", "color"].Nodup by decide)).map _

theorem Segment.guards (s : Segment Int64) :
    Guards integers (Segment.read number) (s.toJson integerJson) := by
  have entries : GuardsInOrder integers
      [required "from" (Point.read number), required "to" (Point.read number),
        required "color" Color.read]
      [("from", s.start.toJson integerJson), ("to", s.stop.toJson integerJson),
        ("color", s.color.toJson)] :=
    .entry (.part (Or.inl rfl) (Point.skips h.skips) (by decide)) (Point.guards h s.start)
      (.entry (.part (Or.inl rfl) (Point.skips h.skips) (by decide)) (Point.guards h s.stop)
        (.entry .color (.string _ s.color.name) .nil))
  exact (entries.record "struct Segment" (show ["from", "to", "color"].Nodup by decide)).map _

theorem Drawing.body_guards (d : Drawing Int64) :
    Guards integers (Drawing.readBody number d.shape) (d.body integerJson) := by
  cases d with
  | circle c => exact (Circle.guards h c).map _
  | rectangle r => exact (Rectangle.guards h r).map _
  | line s | arrow s | gap s => exact (Segment.guards h s).map _

theorem Drawing.guards (d : Drawing Int64) :
    Guards integers (Drawing.read number) (d.toJson integerJson) :=
  (Drawing.body_guards h d).tagged fun shape levels => Drawing.skips_body h.skips levels shape

theorem Instructions.guards (i : Instructions Int64) :
    Guards integers (Instructions.read number) (i.toJson integerJson) := by
  obtain ⟨crop, draw, stroke⟩ := i
  have cropField : GuardsField integers
      (defaulted "crop" (Json.Read.optional (Crop.read number)) none) :=
    .part (Or.inr (by decide)) (fun levels => (Crop.skips h.skips levels).optional) (by decide)
  have drawField : GuardsField integers
      (defaulted "draw" (Json.Read.list (Drawing.read number)) []) :=
    .part (Or.inr (by decide)) (Skips.list (Drawing.skips h.skips)) (by decide)
  have drawings : Guards integers (Json.Read.list (Drawing.read number))
      (.array (draw.map (Drawing.toJson integerJson))) :=
    .list (Drawing.skips h.skips) (List.forall_mem_map.mpr fun d _ => Drawing.guards h d)
  have last : GuardsInOrder integers
      [defaulted "strokeWidth" (Json.Read.optional number) none]
      (stroke.map fun n => ("strokeWidth", integerJson n)).toList := by
    cases stroke with
    | none => exact .absent (.strokeWidth h) .nil
    | some n => exact .entry (.strokeWidth h) (.integer _ n) .nil
  have entries : GuardsInOrder integers
      [defaulted "crop" (Json.Read.optional (Crop.read number)) none,
        defaulted "draw" (Json.Read.list (Drawing.read number)) [],
        defaulted "strokeWidth" (Json.Read.optional number) none]
      ((crop.map fun c => ("crop", c.toJson integerJson)).toList ++
        [("draw", .array (draw.map fun d => d.toJson integerJson))] ++
        (stroke.map fun n => ("strokeWidth", integerJson n)).toList) := by
    cases crop with
    | none => exact .absent cropField (.entry drawField drawings last)
    | some c =>
      exact .entry cropField (Crop.guards h c).optional (.entry drawField drawings last)
  exact (entries.record "struct Instructions"
    (show ["crop", "draw", "strokeWidth"].Nodup by decide)).map _

theorem Document.guards (d : Document Int64) :
    Guards integers (Document.read number) (d.toJson integerJson) := by
  have text : ∀ levels, Skips (stringRead levels) := fun _ => Json.Read.skips_text _
  have refuses : ∀ (levels : Nat) ⦃value⦄, IsValue value → value.head? ≠ some '"' →
      Refuses (stringRead levels) value := fun _ _ => Json.Read.refuses_text
  have entries : GuardsInOrder integers
      [required "dimensions" (Size.read number), required "finalDimensions" (Size.read number),
        required "instructions" (Instructions.read number), required "sourceFile" stringRead,
        required "destinationFile" stringRead, defaulted "format" stringRead defaultFormat]
      [("dimensions", d.dimensions.toJson integerJson),
        ("finalDimensions", d.finalDimensions.toJson integerJson),
        ("instructions", d.instructions.toJson integerJson), ("sourceFile", .string d.sourceFile),
        ("destinationFile", .string d.destinationFile), ("format", .string d.format)] :=
    .entry (.part (Or.inl rfl) (Size.skips h.skips) (by decide)) (Size.guards h d.dimensions)
      (.entry (.part (Or.inl rfl) (Size.skips h.skips) (by decide))
        (Size.guards h d.finalDimensions)
        (.entry (.part (Or.inl rfl) (Instructions.skips h.skips) (by decide))
          (Instructions.guards h d.instructions)
          (.entry (.text (Or.inl rfl) text (by decide) refuses) (.string _ d.sourceFile)
            (.entry (.text (Or.inl rfl) text (by decide) refuses) (.string _ d.destinationFile)
              (.entry (.text (Or.inr (by decide)) text (by decide) refuses) (.string _ d.format)
                .nil)))))
  exact (entries.record "struct InstructionDocument"
    (show ["dimensions", "finalDimensions", "instructions", "sourceFile", "destinationFile",
      "format"].Nodup by decide)).map _

end

/-! ### Whole texts -/

theorem Json.Read.exists_error_of_refuses {α : Type} {read : Nat → Reader α} {t : String}
    (h : Refuses (read levelLimit) t.toList) : ∃ e, Json.decode read t = .error e := by
  cases decoded : Json.decode read t with
  | error e => exact ⟨e, rfl⟩
  | ok v =>
    obtain ⟨rest, success, -⟩ := decode_eq_ok_iff.mp decoded
    rw [← List.append_nil t.toList] at success
    exact absurd success (h Json.isSpaces_nil endsNumber_nil)

/-- Only spaces may follow an object. -/
theorem Json.Read.exists_error_of_tail {α : Type} {read : Nat → Reader α}
    (skips : ∀ levels, Skips (read levels)) {t tail : String} {text : List Char}
    (object : t.toList = '\x7b' :: text) (h : IsValue t.toList)
    (visible : ∃ c ∈ tail.toList, isSpace c = false) :
    ∃ e, Json.decode read (t ++ tail) = .error e := by
  cases decoded : Json.decode read (t ++ tail) with
  | error e => exact ⟨e, rfl⟩
  | ok v =>
    obtain ⟨rest, success, ended⟩ := decode_eq_ok_iff.mp decoded
    rw [String.toList_append, object] at success
    obtain rfl := (skips _ success).unique (passes_object_append (object ▸ h) tail.toList)
    obtain ⟨c, member, other⟩ := visible
    rw [List.dropWhile_eq_nil_iff.mp ended c member] at other
    cases other

theorem Document.exists_error_of_tail (d : Document Int64) (h : ∀ levels, Skips (number levels))
    {tail : String} (visible : ∃ c ∈ tail.toList, isSpace c = false) :
    ∃ e, Json.decode (Document.read number) (d.text ++ tail) = .error e := by
  have text : d.text.toList = (d.toJson integerJson).print := String.toList_ofList
  have isValue : IsValue d.text.toList := text ▸ d.integers_readBack.wellFormed.isValue_print
  rw [Document.toJson, Json.print] at text
  exact Json.Read.exists_error_of_tail (Document.skips h) text isValue visible

end

theorem Json.not_isInteger_negativeZero (n : Int64) : ¬ IsInteger n ['-', '0'] := by
  intro same
  have sign := Text.takeSign_integer n.toInt []
  rw [← same] at sign
  obtain ⟨negative, digits⟩ := Prod.mk.inj sign
  rw [List.append_nil] at digits
  have zero := Text.natural_inj (Text.natural_zero.trans digits)
  have below := of_decide_eq_true negative.symm
  omega

/-- No text of a document that has been damaged in one place is decoded. It is not decoded as a raw
document either, unless the damage is to a number. The same goes for the text of a document that is
followed by anything but spaces. -/
theorem decode_error_of_damaged (d : Document Int64) :
    (∀ t : String, Damaged false (d.toJson integerJson) t.toList →
      (∃ e, Document.decode t = .error e) ∧ ∃ e, Document.decodeRaw t = .error e) ∧
    (∀ t : String, Damaged true (d.toJson integerJson) t.toList →
      ∃ e, Document.decode t = .error e) ∧
    ∀ tail : String, (∃ c ∈ tail.toList, isSpace c = false) →
      (∃ e, Document.decode (d.text ++ tail) = .error e) ∧
        ∃ e, Document.decodeRaw (d.text ++ tail) = .error e := by
  have strict : ∀ integers (t : String), Damaged integers (d.toJson integerJson) t.toList →
      ∃ e, Document.decode t = .error e := fun integers t damaged =>
    Json.Read.exists_error_of_refuses
      (((d.guards (integerRead_guards integers)).refuses damaged).2 _)
  refine ⟨fun t damaged => ⟨strict false t damaged, ?_⟩, strict true, fun tail visible => ?_⟩
  · exact Json.Read.exists_error_of_refuses
      (((d.guards Numeric.read_guards).refuses damaged).2 _)
  · exact ⟨d.exists_error_of_tail (integerRead_guards true).skips visible,
      d.exists_error_of_tail Numeric.read_guards.skips visible⟩

/-- A width that is given twice, a negative zero and a second document. -/
theorem decode_error_of_damaged_dimensions :
    let edited (dimensions : String) := "\x7b\"dimensions\":" ++ (dimensions ++
      (",\"finalDimensions\":\x7b\"width\":4,\"height\":3\x7d,\"instructions\":\x7b\"draw\":[]\x7d," ++
        "\"sourceFile\":\"in\",\"destinationFile\":\"out\",\"format\":\"jpeg\"\x7d"))
    let repeated := edited "\x7b\"width\":4,\"height\":3,\"width\":[]\x7d"
    let negative := edited "\x7b\"width\":-0,\"height\":3\x7d"
    let d : Document Int64 := ⟨⟨4, 3⟩, ⟨4, 3⟩, ⟨none, [], none⟩, "in", "out", "jpeg"⟩
    ((∃ e, Document.decode repeated = .error e) ∧ ∃ e, Document.decodeRaw repeated = .error e) ∧
      (∃ e, Document.decode negative = .error e) ∧
      (∃ e, Document.decode (d.text ++ "\x7b\x7d") = .error e) ∧
      ∃ e, Document.decodeRaw (d.text ++ "\x7b\x7d") = .error e := by
  intro edited repeated negative d
  have compact : ∀ {ws text}, (∀ e ∈ ws, e.IsProper) →
      text = '\x7b' :: ([','].intercalate (ws.map Written.text) ++ ['\x7d']) → IsObject ws text :=
    fun proper same => ⟨proper, _, Json.separated_intercalate _, same⟩
  have printed : ∀ (k : String) {v : Json}, IsValue v.print → (Written.ofEntry (k, v)).IsProper :=
    fun k _ isValue => ⟨Json.isKey_printString k, isValue⟩
  have number : ∀ (k : String) (n : Int64), (Written.ofEntry (k, integerJson n)).IsProper :=
    fun k n => printed k (Guards.integer integerRead n : Guards true _ _).isValue
  let head := Json.printString "width" ++ [':']
  have width : ∀ {value}, IsValue value → Written.IsProper ⟨"width", head, value⟩ :=
    fun isValue => ⟨Json.isKey_printString "width", isValue⟩
  have twice : Damaged false (d.dimensions.toJson integerJson)
      "\x7b\"width\":4,\"height\":3,\"width\":[]\x7d".toList := by
    refine @Damaged.repeated false [_, _] [] ⟨"width", head, ['[', ']']⟩ _ (by decide)
      (compact ?_ (by decide +kernel))
    have empty := width (.array (List.forall_mem_nil _) (.nil Json.isSpaces_nil))
    exact List.forall_mem_cons.mpr ⟨number _ 4, List.forall_mem_cons.mpr ⟨number _ 3,
      List.forall_mem_singleton.mpr empty⟩⟩
  have zero : Damaged true (d.dimensions.toJson integerJson)
      "\x7b\"width\":-0,\"height\":3\x7d".toList := by
    refine @Damaged.replaced true [] [_] ⟨"width", head, ['-', '0']⟩ _ _
      (.number rfl (by decide) Json.not_isInteger_negativeZero (absurd · (by decide)))
      (compact ?_ (by decide +kernel))
    have numeral := width (.number (.negative .zero .none .none))
    exact List.forall_mem_cons.mpr ⟨numeral, List.forall_mem_singleton.mpr (number _ 3)⟩
  have below : ∀ {integers dimensions}, Damaged integers (d.dimensions.toJson integerJson)
      dimensions.toList → Damaged integers (d.toJson integerJson) (edited dimensions).toList := by
    intro integers dimensions damaged
    refine @Damaged.entry integers [] [_, _, _, _, _] "dimensions" _ _ _ damaged (compact ?_ ?_)
    · have inside := ((Size.guards (integerRead_guards integers) d.dimensions).refuses damaged).1
      have values := Json.WellFormed.isValue_print_of_mem d.integers_readBack.wellFormed
      exact List.forall_mem_cons.mpr ⟨⟨Json.isKey_printString "dimensions", inside⟩,
        List.forall_mem_map.mpr fun e member =>
          printed e.1 (values e (List.mem_cons_of_mem _ member))⟩
    · have front : "\x7b\"dimensions\":".toList =
          '\x7b' :: (Json.printString "dimensions" ++ [':']) := by decide +kernel
      rw [String.toList_append, String.toList_append, front, List.map_nil, List.nil_append,
        List.map_cons, List.map_cons, List.map_cons, List.intercalate_cons_cons, Written.text]
      simp only [Written.ofEntry, List.cons_append, List.append_assoc, List.append_cancel_left_eq,
        List.cons.injEq, true_and]
      decide +kernel
  obtain ⟨both, numbers, tails⟩ := decode_error_of_damaged d
  exact ⟨both _ (below twice), numbers _ (below zero),
    tails _ ⟨'\x7b', by decide +kernel, by decide⟩⟩

end PaintScript

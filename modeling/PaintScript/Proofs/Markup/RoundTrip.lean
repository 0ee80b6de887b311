import PaintScript.Markup.Printer
import PaintScript.Proofs.Markup.Image

/-!
# Markup read back

The markup of a document is read back as its crop and its drawings exactly if it can be at all: the
colors are plain and no number is the least integer, whose magnitude no token can hold.
-/

namespace PaintScript

/-! ### Tokens -/

theorem mem_pairToken {a b : Int64} {c : Char} (h : c ∈ pairToken a b) :
    c = 'x' ∨ c = '-' ∨ c.isDigit = true := by
  unfold pairToken at h
  rcases List.mem_append.mp h with first | later
  · exact Or.inr (Text.mem_integer first)
  · rcases List.mem_cons.mp later with mark | second
    · exact Or.inl mark
    · exact Or.inr (Text.mem_integer second)

theorem not_mem_int64 {n : Int64} {c : Char} (minus : c ≠ '-') (digit : c.isDigit = false) :
    c ∉ Text.int64 n := by
  intro member
  rcases Text.mem_integer member with same | other
  · exact minus same
  · rw [digit] at other
    exact absurd other (by decide)

theorem halves_pairToken (a b : Int64) : halves (pairToken a b) = (Text.int64 a, Text.int64 b) := by
  have first : 'x' ∉ Text.int64 a := not_mem_int64 (by decide) (by decide)
  have second : 'x' ∉ Text.int64 b := not_mem_int64 (by decide) (by decide)
  have pieces : (pairToken a b).splitOn 'x' = [Text.int64 a, Text.int64 b] := by
    rw [pairToken, List.splitOn_append_cons_self_of_not_mem first, List.splitOn_eq_singleton second]
  rw [halves, pieces]

theorem Numeric.ofToken_int64 {n : Int64} (h : n ≠ Int64.minValue) :
    Numeric.ofToken (Text.int64 n) = .int n := by
  rw [Numeric.ofToken, Text.prefixInt64?_int64 h]

theorem Point.ofToken_token {p : Point Int64} (x : p.x ≠ Int64.minValue)
    (y : p.y ≠ Int64.minValue) : Point.ofToken p.token = p.map .int := by
  rw [Point.ofToken, Point.token, halves_pairToken]
  dsimp only
  rw [Numeric.ofToken_int64 x, Numeric.ofToken_int64 y]
  rfl

theorem Size.ofToken_token {s : Size Int64} (width : s.width ≠ Int64.minValue)
    (height : s.height ≠ Int64.minValue) : Size.ofToken s.token = s.map .int := by
  rw [Size.ofToken, Size.token, halves_pairToken]
  dsimp only
  rw [Numeric.ofToken_int64 width, Numeric.ofToken_int64 height]
  rfl

/-! ### Fields -/

/-- A text that stands as it is in a field of a segment. -/
structure IsField (field : List Char) : Prop where
  trimmed : Text.trim field = field
  comma : ',' ∉ field
  semicolon : ';' ∉ field

theorem isField_of_visible {field : List Char}
    (h : ∀ c ∈ field, Text.isBlank c = false ∧ c ≠ ',' ∧ c ≠ ';') : IsField field :=
  ⟨Text.trim_of_visible fun c member => (h c member).1,
    fun member => (h ',' member).2.1 rfl, fun member => (h ';' member).2.2 rfl⟩

theorem isField_of_digits {field : List Char}
    (h : ∀ c ∈ field, c = 'x' ∨ c = '-' ∨ c.isDigit = true) : IsField field := by
  apply isField_of_visible
  intro c member
  rcases h c member with mark | minus | digit
  · rw [mark]
    decide
  · rw [minus]
    decide
  · exact ⟨Text.isBlank_of_isDigit digit, Text.ne_of_isDigit digit (by decide),
      Text.ne_of_isDigit digit (by decide)⟩

theorem isField_pairToken (a b : Int64) : IsField (pairToken a b) :=
  isField_of_digits fun _ => mem_pairToken

theorem isField_int64 (n : Int64) : IsField (Text.int64 n) :=
  isField_of_digits fun _ member => Or.inr (Text.mem_integer member)

theorem Command.visible_name (command : Command) :
    ∀ c ∈ command.name.toList, Text.isBlank c = false ∧ c ≠ ',' ∧ c ≠ ';' := by
  have checked : (command.name.toList.all fun c =>
      !Text.isBlank c && (c != ',' && c != ';')) = true := by
    cases command with
    | crop => decide
    | draw shape => cases shape <;> decide
  intro c member
  simpa using List.all_eq_true.mp checked c member

theorem Command.name_ne_nil (command : Command) : command.name.toList ≠ [] := by
  cases command with
  | crop => decide
  | draw shape => cases shape <;> decide

theorem Color.IsPlain.isField {c : Color} (h : c.IsPlain) : IsField c.name.toList :=
  ⟨h.trimmed, h.comma, h.semicolon⟩

theorem segmentFields_intercalate {fields : List (List Char)} (nonempty : fields ≠ [])
    (h : ∀ field ∈ fields, IsField field) :
    segmentFields ([','].intercalate fields) = fields := by
  rw [segmentFields, List.splitOn_intercalate ',' (fun field member => (h field member).comma)
    nonempty]
  exact (List.map_congr_left fun field member => (h field member).trimmed).trans (List.map_id _)

/-- A segment printed from a command and fields is read as that command with those fields. -/
theorem Instruction.ofSegment_intercalate {command : Command} {arguments : List (List Char)}
    (h : ∀ a ∈ arguments, IsField a) :
    Instruction.ofSegment ([','].intercalate (command.name.toList :: arguments)) =
      command.apply arguments := by
  have fields : ∀ field ∈ command.name.toList :: arguments, IsField field :=
    List.forall_mem_cons.mpr ⟨isField_of_visible command.visible_name, h⟩
  have visible :
      ([','].intercalate (command.name.toList :: arguments)).all Text.isBlank ≠ true := by
    intro blank
    obtain ⟨c, letter⟩ := List.exists_mem_of_ne_nil _ command.name_ne_nil
    have cut : command.name.toList ∈
        ([','].intercalate (command.name.toList :: arguments)).splitOn ',' := by
      rw [List.splitOn_intercalate ',' (fun field member => (fields field member).comma) (by simp)]
      exact List.mem_cons_self
    have hidden := List.all_eq_true.mp blank c (Text.mem_of_mem_splitOn cut letter)
    rw [(command.visible_name c letter).1] at hidden
    exact absurd hidden (by decide)
  rw [Instruction.ofSegment, if_neg visible, segmentFields_intercalate (by simp) fields]
  simp only [String.ofList_toList, Command.ofName?_name]

/-! ### Instructions -/

/-- A drawing that markup can hold. -/
structure Drawing.IsWritable (d : Drawing Int64) : Prop where
  color : d.color.IsPlain
  numbers : ∀ n ∈ d.numbers, n ≠ Int64.minValue

theorem Crop.markup_eq (c : Crop Int64) :
    c.markup = Command.crop.name.toList :: [c.origin.token, c.size.token] := rfl

theorem Crop.isField_of_mem_markup {c : Crop Int64} : ∀ field ∈ c.markup, IsField field := by
  rw [Crop.markup_eq]
  intro field member
  rcases List.mem_cons.mp member with name | argument
  · rw [name]
    exact isField_of_visible Command.crop.visible_name
  · rcases List.mem_pair.mp argument with origin | size
    · rw [origin]
      exact isField_pairToken _ _
    · rw [size]
      exact isField_pairToken _ _

theorem Instruction.ofSegment_crop {c : Crop Int64} (h : ∀ n ∈ c.numbers, n ≠ Int64.minValue) :
    Instruction.ofSegment ([','].intercalate c.markup) = .crop (c.map .int) 0 := by
  simp only [Crop.numbers, Crop.fields, Point.fields, Size.fields, List.cons_append,
    List.nil_append, List.map_cons, List.map_nil, List.forall_mem_cons] at h
  obtain ⟨hx, hy, hw, hh, _⟩ := h
  rw [Crop.markup_eq, Instruction.ofSegment_intercalate fun a member =>
    Crop.isField_of_mem_markup a (List.mem_cons_of_mem _ member)]
  simp only [Command.apply, Point.ofToken_token hx hy, Size.ofToken_token hw hh, List.length_nil,
    Crop.map]

def Drawing.arguments : Drawing Int64 → List (List Char)
  | .circle c => [c.center.token, Text.int64 c.radius, c.color.name.toList]
  | .rectangle r => [r.corner.token, r.size.token, r.color.name.toList]
  | .line s | .arrow s | .gap s => [s.start.token, s.stop.token, s.color.name.toList]

theorem Drawing.markup_eq (d : Drawing Int64) :
    d.markup = (Command.draw d.shape).name.toList :: d.arguments := by
  cases d <;> rfl

theorem Drawing.isField_of_mem_arguments {d : Drawing Int64} (plain : d.color.IsPlain) :
    ∀ field ∈ d.arguments, IsField field := by
  cases d
  all_goals
    simp only [Drawing.arguments, List.forall_mem_cons]
    exact ⟨isField_pairToken _ _, by first | exact isField_pairToken _ _ | exact isField_int64 _,
      plain.isField, fun _ member => absurd member List.not_mem_nil⟩

theorem Drawing.isField_of_mem_markup {d : Drawing Int64} (plain : d.color.IsPlain) :
    ∀ field ∈ d.markup, IsField field := by
  rw [Drawing.markup_eq]
  exact List.forall_mem_cons.mpr
    ⟨isField_of_visible (Command.draw d.shape).visible_name, d.isField_of_mem_arguments plain⟩

theorem Segment.isToken_eq {s : Segment Int64}
    (h : ∀ n ∈ (Drawing.line s).numbers, n ≠ Int64.minValue) :
    (⟨.ofToken s.start.token, .ofToken s.stop.token, ⟨String.ofList s.color.name.toList⟩⟩ :
      Segment Numeric) = s.map .int := by
  simp only [Drawing.numbers, Drawing.fields, Point.fields, List.cons_append, List.nil_append,
    List.map_cons, List.map_nil, List.forall_mem_cons] at h
  obtain ⟨hx, hy, hu, hv, _⟩ := h
  rw [Point.ofToken_token hx hy, Point.ofToken_token hu hv, String.ofList_toList]
  rfl

theorem Instruction.ofSegment_drawing {d : Drawing Int64} (h : d.IsWritable) :
    Instruction.ofSegment ([','].intercalate d.markup) = .draw (d.map .int) 0 := by
  obtain ⟨plain, numbers⟩ := h
  rw [Drawing.markup_eq, Instruction.ofSegment_intercalate (d.isField_of_mem_arguments plain)]
  cases d with
  | circle c =>
    simp only [Drawing.numbers, Drawing.fields, Point.fields, List.cons_append, List.nil_append,
      List.map_cons, List.map_nil, List.forall_mem_cons] at numbers
    obtain ⟨hx, hy, hr, _⟩ := numbers
    simp only [Drawing.shape, Drawing.arguments, Command.apply, Shape.drawing, List.length_nil,
      Point.ofToken_token hx hy, Numeric.ofToken_int64 hr, String.ofList_toList, Drawing.map]
  | rectangle r =>
    simp only [Drawing.numbers, Drawing.fields, Point.fields, Size.fields, List.cons_append,
      List.nil_append, List.map_cons, List.map_nil, List.forall_mem_cons] at numbers
    obtain ⟨hx, hy, hw, hh, _⟩ := numbers
    simp only [Drawing.shape, Drawing.arguments, Command.apply, Shape.drawing, List.length_nil,
      Point.ofToken_token hx hy, Size.ofToken_token hw hh, String.ofList_toList, Drawing.map]
  | line s => exact congrArg (fun t => Instruction.draw (.line t) 0) (s.isToken_eq numbers)
  | arrow s => exact congrArg (fun t => Instruction.draw (.arrow t) 0) (s.isToken_eq numbers)
  | gap s => exact congrArg (fun t => Instruction.draw (.gap t) 0) (s.isToken_eq numbers)

/-! ### Whole texts -/

namespace Markup

theorem ofSegments_drawings {draw : List (Drawing Int64)} (h : ∀ d ∈ draw, d.IsWritable)
    (index : Nat) (cropped : Bool) :
    ofSegments index cropped (draw.map fun d => [','].intercalate d.markup) =
      .ofExcept (.ok ⟨none, draw.map (Drawing.map .int), []⟩) := by
  induction draw generalizing index with
  | nil => rfl
  | cons d draw ih =>
    obtain ⟨first, others⟩ := List.forall_mem_cons.mp h
    rw [List.map_cons, ofSegments, Instruction.ofSegment_drawing first]
    dsimp only
    rw [ih others]
    rfl

theorem not_mem_segment {fields : List (List Char)} (h : ∀ field ∈ fields, IsField field) :
    ';' ∉ [','].intercalate fields := by
  intro member
  rcases Text.mem_of_mem_intercalate member with same | ⟨field, there, inside⟩
  · exact absurd same (by decide)
  · exact (h field there).semicolon inside

end Markup

/-- Instructions that markup can hold. -/
structure Instructions.IsWritable (i : Instructions Int64) : Prop where
  crop : ∀ c ∈ i.crop, ∀ n ∈ c.numbers, n ≠ Int64.minValue
  draw : ∀ d ∈ i.draw, d.IsWritable

theorem Instructions.isField_of_mem_markup {i : Instructions Int64} (h : i.IsWritable) :
    ∀ fields ∈ i.markup, ∀ field ∈ fields, IsField field := by
  intro fields member
  rcases List.mem_append.mp member with crop | draw
  · obtain ⟨c, _, rfl⟩ := Option.map_eq_some_iff.mp (Option.mem_toList.mp crop)
    exact Crop.isField_of_mem_markup
  · obtain ⟨d, drawn, rfl⟩ := List.mem_map.mp draw
    exact Drawing.isField_of_mem_markup (h.draw d drawn).color

/-- What the markup of a document is read as. Nothing is reported on the way. -/
theorem Markup.ofText_markup {d : Document Int64} (h : d.instructions.IsWritable) :
    Markup.ofText d.markup = .ofExcept (.ok ⟨d.instructions.crop.map (Crop.map .int),
      d.instructions.draw.map (Drawing.map .int), []⟩) := by
  have cut : ∀ segment ∈ d.instructions.markup.map [','].intercalate, ';' ∉ segment := by
    intro segment member
    obtain ⟨fields, there, rfl⟩ := List.mem_map.mp member
    exact Markup.not_mem_segment (Instructions.isField_of_mem_markup h fields there)
  rw [Markup.ofText, Document.markup, String.toList_ofList, Markup.segments]
  cases crop : d.instructions.crop with
  | none =>
    cases draw : d.instructions.draw with
    | nil =>
      rw [Instructions.markup, crop, draw]
      rfl
    | cons first rest =>
      rw [List.splitOn_intercalate ';' cut (by simp [Instructions.markup, draw]),
        Instructions.markup, crop, ← draw]
      simp only [Option.map_none, Option.toList_none, List.nil_append, List.map_map]
      exact Markup.ofSegments_drawings h.draw 0 false
  | some c =>
    rw [List.splitOn_intercalate ';' cut (by simp [Instructions.markup, crop]),
      Instructions.markup, crop]
    simp only [Option.map_some, Option.toList_some, List.cons_append, List.nil_append,
      List.map_cons, List.map_map]
    rw [Markup.ofSegments, Instruction.ofSegment_crop (h.crop c crop)]
    dsimp only
    rw [show ([','].intercalate ∘ Drawing.markup) = fun d => [','].intercalate d.markup from rfl,
      Markup.ofSegments_drawings h.draw]
    rfl

/-- Integers that were read from markup can be written as markup, and so can the colors. -/
theorem Markup.isWritable_of_read {text : String} {m : Markup} {i : Instructions Int64}
    (read : (Markup.ofText text).outcome = .ok m) (crop : m.crop = i.crop.map (Crop.map .int))
    (draw : m.draw = i.draw.map (Drawing.map .int)) : i.IsWritable := by
  obtain ⟨cropped, drawn⟩ := Markup.ofText_image read
  constructor
  · intro c given n member
    have copy : c.map .int ∈ m.crop := by
      rw [crop, Option.mem_def.mp given]
      rfl
    exact cropped _ copy (.int n) (c.numbers_map Numeric.int ▸ List.mem_map_of_mem member)
  · intro w member
    have copy : w.map .int ∈ m.draw := draw ▸ List.mem_map_of_mem member
    obtain ⟨plain, tokens⟩ := drawn _ copy
    rw [Drawing.color_map] at plain
    exact ⟨plain, fun n number =>
      tokens (.int n) (w.numbers_map Numeric.int ▸ List.mem_map_of_mem number)⟩

/-- A document is read back from its markup exactly if its colors are plain and its numbers lie
above the least integer. -/
theorem markup_reads_back_iff (d : Document Int64) :
    (∃ m, (Markup.ofText d.markup).outcome = .ok m ∧
      m.crop = d.instructions.crop.map (Crop.map .int) ∧
      m.draw = d.instructions.draw.map (Drawing.map .int) ∧ m.ignored = []) ↔
    (∀ w ∈ d.instructions.draw, Text.trim w.color.name.toList = w.color.name.toList ∧
      ',' ∉ w.color.name.toList ∧ ';' ∉ w.color.name.toList) ∧
    (∀ c ∈ d.instructions.crop, ∀ n ∈ c.numbers, n ≠ Int64.minValue) ∧
    ∀ w ∈ d.instructions.draw, ∀ n ∈ w.numbers, n ≠ Int64.minValue := by
  constructor
  · intro fact
    obtain ⟨m, read, crop, draw, _⟩ := fact
    obtain ⟨cropped, drawn⟩ := Markup.isWritable_of_read read crop draw
    refine ⟨fun w member => ?_, cropped, fun w member => (drawn w member).numbers⟩
    have plain := (drawn w member).color
    exact ⟨plain.trimmed, plain.comma, plain.semicolon⟩
  · intro fact
    obtain ⟨plain, crop, draw⟩ := fact
    have writable : d.instructions.IsWritable := by
      refine ⟨crop, fun w member => ⟨?_, draw w member⟩⟩
      obtain ⟨trimmed, comma, semicolon⟩ := plain w member
      exact ⟨trimmed, comma, semicolon⟩
    rw [Markup.ofText_markup writable]
    exact ⟨_, rfl, rfl, rfl, rfl⟩

end PaintScript

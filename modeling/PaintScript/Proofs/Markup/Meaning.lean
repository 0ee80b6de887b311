import PaintScript.Proofs.Pipeline.Compile

/-!
# The meaning of markup

`Markup.Acceptable` says which texts are compiled and `Markup.Describes` which document comes out,
both in terms of the statements of the text. `compile_markup_eq_ok_iff_describes` shows that the
compiler agrees.
-/

namespace PaintScript

/-! ### Lists -/

section

variable {α β γ : Type} {p : α → Bool} {f : α → Option β} {l : List α}

theorem map_filter_eq (kept : ∀ a ∈ l, p a = (f a).isSome) :
    (l.filter p).map f = (l.filterMap f).map some := by
  induction l with
  | nil => rfl
  | cons a l ih =>
    obtain ⟨first, others⟩ := List.forall_mem_cons.mp kept
    cases found : f a with
    | none =>
      rw [found] at first
      rw [List.filterMap_cons_none found, List.filter_cons_of_neg (by simp [first]), ih others]
    | some b =>
      rw [found] at first
      rw [List.filterMap_cons_some found, List.filter_cons_of_pos (by simp [first]), List.map_cons,
        List.map_cons, found, ih others]

variable {R : β → γ → Prop} {S : α → γ → Prop}

theorem forall₂_filterMap_iff (kept : ∀ a ∈ l, p a = (f a).isSome)
    (related : ∀ a c, S a c ↔ ∃ b, f a = some b ∧ R b c) {cs : List γ} :
    List.Forall₂ R (l.filterMap f) cs ↔ List.Forall₂ S (l.filter p) cs := by
  have lift : List.Forall₂ (fun x c => ∃ b, x = some b ∧ R b c) ((l.filterMap f).map some) cs ↔
      List.Forall₂ R (l.filterMap f) cs := by
    simp only [List.forall₂_map_left_iff, Option.some.injEq, exists_eq_left']
  have same : S = fun a c => ∃ b, f a = some b ∧ R b c :=
    funext fun a => funext fun c => propext (related a c)
  rw [← lift, ← map_filter_eq kept, List.forall₂_map_left_iff, same]

theorem getLast?_filterMap_rel_iff (kept : ∀ a ∈ l, p a = (f a).isSome)
    (related : ∀ a c, S a c ↔ ∃ b, f a = some b ∧ R b c) {c : Option γ} :
    Option.Rel R (l.filterMap f).getLast? c ↔ Option.Rel S (l.filter p).getLast? c := by
  have last : (l.filter p).getLast?.map f = (l.filterMap f).getLast?.map some := by
    rw [← List.getLast?_map, ← List.getLast?_map, map_filter_eq kept]
  cases x : (l.filter p).getLast? with
  | none =>
    rw [x] at last
    rw [Option.map_eq_none_iff.mp last.symm]
    constructor <;> rintro ⟨⟩ <;> exact .none
  | some a =>
    rw [x] at last
    obtain ⟨b, there, same⟩ := Option.map_eq_some_iff.mp last.symm
    rw [there]
    constructor
    · intro fact
      obtain ⟨holds⟩ := fact
      exact .some ((related _ _).mpr ⟨b, same.symm, holds⟩)
    · intro fact
      obtain ⟨holds⟩ := fact
      obtain ⟨b', found, holds⟩ := (related _ _).mp holds
      rw [← same] at found
      cases found
      exact .some holds

theorem exists_forall₂_iff {l : List α} :
    (∃ cs, List.Forall₂ S l cs) ↔ ∀ a ∈ l, ∃ c, S a c := by
  induction l with
  | nil => exact ⟨fun _ a member => absurd member List.not_mem_nil, fun _ => ⟨[], .nil⟩⟩
  | cons a l ih =>
    rw [List.forall_mem_cons, ← ih]
    constructor
    · intro fact
      obtain ⟨_, all⟩ := fact
      cases all with
      | cons head tail => exact ⟨⟨_, head⟩, ⟨_, tail⟩⟩
    · intro fact
      obtain ⟨⟨c, head⟩, ⟨cs, tail⟩⟩ := fact
      exact ⟨c :: cs, .cons head tail⟩

theorem exists_optionRel_iff {x : Option α} :
    (∃ c, Option.Rel S x c) ↔ ∀ a ∈ x, ∃ c, S a c := by
  cases x with
  | none => exact ⟨fun _ a member => absurd member (by simp), fun _ => ⟨none, .none⟩⟩
  | some a =>
    constructor
    · rintro ⟨_, ⟨holds⟩⟩ a ⟨⟩
      exact ⟨_, holds⟩
    · intro holds
      obtain ⟨c, there⟩ := holds a rfl
      exact ⟨some c, .some there⟩

end

/-! ### Numbers -/

theorem Numeric.Denotes.unique {n : Numeric} {i j : Int64} (h : n.Denotes i) (k : n.Denotes j) :
    i = j :=
  Except.ok.inj (h.symm.trans k)

theorem Size.Rel.unique {s : Size Numeric} {t u : Size Int64} (h : s.Rel Numeric.Denotes t)
    (k : s.Rel Numeric.Denotes u) : t = u := by
  obtain ⟨width, height⟩ := t
  have first : width = u.width := h.1.unique k.1
  have second : height = u.height := h.2.unique k.2
  rw [first, second]

/-! ### Tokens -/

/-- The part of a token before its first `x`. -/
def firstHalf (token : List Char) : List Char :=
  token.takeWhile (· ≠ 'x')

/-- The part of a token between its first and its second `x`. -/
def secondHalf (token : List Char) : List Char :=
  (token.dropWhile (· ≠ 'x')).tail.takeWhile (· ≠ 'x')

theorem halves_eq (token : List Char) : halves token = (firstHalf token, secondHalf token) := by
  unfold halves firstHalf secondHalf
  rw [Text.splitOn_eq_cons]
  cases token.dropWhile (· ≠ 'x') with
  | nil => rfl
  | cons _ rest => simp only [Text.splitOn_eq_cons 'x' rest, List.tail_cons]

/-- The two integers of a token. -/
def IsPair (token : List Char) (a b : Int64) : Prop :=
  Text.prefixInt64? (firstHalf token) = some a ∧ Text.prefixInt64? (secondHalf token) = some b

theorem Point.ofToken_rel_iff {token : List Char} {p : Point Int64} :
    (Point.ofToken token).Rel Numeric.Denotes p ↔ IsPair token p.x p.y := by
  unfold Point.ofToken
  rw [halves_eq]
  exact and_congr Numeric.denotes_ofToken Numeric.denotes_ofToken

theorem Size.ofToken_rel_iff {token : List Char} {s : Size Int64} :
    (Size.ofToken token).Rel Numeric.Denotes s ↔ IsPair token s.width s.height := by
  unfold Size.ofToken
  rw [halves_eq]
  exact and_congr Numeric.denotes_ofToken Numeric.denotes_ofToken

/-! ### Statements -/

namespace Statement

/-- The crop that a statement stands for. Further arguments do not count. -/
inductive IsCrop : Statement → Crop Int64 → Prop
  | intro {first second : List Char} {surplus : List (List Char)} {c : Crop Int64}
      (origin : IsPair first c.origin.x c.origin.y)
      (size : IsPair second c.size.width c.size.height) :
      IsCrop ⟨.crop, first :: second :: surplus⟩ c

structure IsSegment (first second color : List Char) (s : Segment Int64) : Prop where
  start : IsPair first s.start.x s.start.y
  stop : IsPair second s.stop.x s.stop.y
  color : s.color = ⟨String.ofList color⟩

/-- The drawing that a statement stands for. Its color is the third argument as it is written. -/
inductive IsDrawing : Statement → Drawing Int64 → Prop
  | circle {first second color : List Char} {surplus : List (List Char)} {c : Circle Int64}
      (center : IsPair first c.center.x c.center.y)
      (radius : Text.prefixInt64? second = some c.radius)
      (named : c.color = ⟨String.ofList color⟩) :
      IsDrawing ⟨.draw .circle, first :: second :: color :: surplus⟩ (.circle c)
  | rectangle {first second color : List Char} {surplus : List (List Char)} {r : Rectangle Int64}
      (corner : IsPair first r.corner.x r.corner.y)
      (size : IsPair second r.size.width r.size.height)
      (named : r.color = ⟨String.ofList color⟩) :
      IsDrawing ⟨.draw .rectangle, first :: second :: color :: surplus⟩ (.rectangle r)
  | line {first second color : List Char} {surplus : List (List Char)} {s : Segment Int64}
      (segment : IsSegment first second color s) :
      IsDrawing ⟨.draw .line, first :: second :: color :: surplus⟩ (.line s)
  | arrow {first second color : List Char} {surplus : List (List Char)} {s : Segment Int64}
      (segment : IsSegment first second color s) :
      IsDrawing ⟨.draw .arrow, first :: second :: color :: surplus⟩ (.arrow s)
  | gap {first second color : List Char} {surplus : List (List Char)} {s : Segment Int64}
      (segment : IsSegment first second color s) :
      IsDrawing ⟨.draw .gap, first :: second :: color :: surplus⟩ (.gap s)

/-- The parts of a statement that have to be integers. -/
def tokens : Statement → List (List Char)
  | ⟨.draw .circle, first :: second :: _⟩ => [firstHalf first, secondHalf first, second]
  | ⟨_, first :: second :: _⟩ =>
    [firstHalf first, secondHalf first, firstHalf second, secondHalf second]
  | _ => []

def HasIntegers (s : Statement) : Prop :=
  ∀ token ∈ s.tokens, ∃ i, Text.prefixInt64? token = some i

instance (s : Statement) : Decidable s.HasIntegers :=
  decidable_of_iff (s.tokens.all fun token => (Text.prefixInt64? token).isSome)
    (by simp [HasIntegers, Option.isSome_iff_exists])

theorem isCrop_iff {s : Statement} {e : Crop Int64} :
    s.IsCrop e ↔ ∃ c, s.crop? = some c ∧ c.Rel Numeric.Denotes e := by
  constructor
  · intro fact
    obtain ⟨origin, size⟩ := fact
    exact ⟨_, rfl, Point.ofToken_rel_iff.mpr origin, Size.ofToken_rel_iff.mpr size⟩
  · intro fact
    obtain ⟨c, found, origin, size⟩ := fact
    unfold crop? at found
    split at found
    · cases found
      exact .intro (Point.ofToken_rel_iff.mp origin) (Size.ofToken_rel_iff.mp size)
    · cases found

theorem isSegment_iff {first second color : List Char} {s : Segment Int64} :
    Segment.Rel Numeric.Denotes ⟨.ofToken first, .ofToken second, ⟨String.ofList color⟩⟩ s ↔
      IsSegment first second color s := by
  constructor
  · intro fact
    obtain ⟨start, stop, named⟩ := fact
    exact ⟨Point.ofToken_rel_iff.mp start, Point.ofToken_rel_iff.mp stop, named.symm⟩
  · intro fact
    obtain ⟨start, stop, named⟩ := fact
    exact ⟨Point.ofToken_rel_iff.mpr start, Point.ofToken_rel_iff.mpr stop, named.symm⟩

theorem isDrawing_iff {s : Statement} {e : Drawing Int64} :
    s.IsDrawing e ↔ ∃ d, s.drawing? = some d ∧ d.Rel Numeric.Denotes e := by
  constructor
  · intro meant
    cases meant with
    | circle center radius named =>
      exact ⟨_, rfl, .circle (Point.ofToken_rel_iff.mpr center) (Numeric.denotes_ofToken.mpr radius)
        named.symm⟩
    | rectangle corner size named =>
      exact ⟨_, rfl, .rectangle (Point.ofToken_rel_iff.mpr corner) (Size.ofToken_rel_iff.mpr size)
        named.symm⟩
    | line segment => exact ⟨_, rfl, .line (isSegment_iff.mpr segment)⟩
    | arrow segment => exact ⟨_, rfl, .arrow (isSegment_iff.mpr segment)⟩
    | gap segment => exact ⟨_, rfl, .gap (isSegment_iff.mpr segment)⟩
  · intro fact
    obtain ⟨d, found, related⟩ := fact
    unfold drawing? at found
    split at found
    · rename_i shape first second color surplus
      cases found
      cases shape with
      | circle =>
        cases related with
        | circle center radius named =>
          exact .circle (Point.ofToken_rel_iff.mp center) (Numeric.denotes_ofToken.mp radius)
            named.symm
      | rectangle =>
        cases related with
        | rectangle corner size named =>
          exact .rectangle (Point.ofToken_rel_iff.mp corner) (Size.ofToken_rel_iff.mp size)
            named.symm
      | line =>
        cases related with
        | line segment => exact .line (isSegment_iff.mp segment)
      | arrow =>
        cases related with
        | arrow segment => exact .arrow (isSegment_iff.mp segment)
      | gap =>
        cases related with
        | gap segment => exact .gap (isSegment_iff.mp segment)
    · cases found

/-! ### Which statements stand for something -/

theorem isCrop_eq_isSome {s : Statement} (complete : s.IsComplete) :
    decide (s.command = .crop) = s.crop?.isSome := by
  obtain ⟨command, arguments⟩ := s
  cases command with
  | crop =>
    match arguments, complete with
    | _ :: _ :: _, _ => rfl
  | draw shape => rfl

theorem isDrawing_eq_isSome {s : Statement} (complete : s.IsComplete) :
    decide (s.command ≠ .crop) = s.drawing?.isSome := by
  obtain ⟨command, arguments⟩ := s
  cases command with
  | crop => rfl
  | draw shape =>
    match arguments, complete with
    | _ :: _ :: _ :: _, _ => rfl

theorem exists_isPair_iff {token : List Char} :
    (∃ a b, IsPair token a b) ↔
      (∃ i, Text.prefixInt64? (firstHalf token) = some i) ∧
        ∃ i, Text.prefixInt64? (secondHalf token) = some i := by
  constructor
  · intro fact
    obtain ⟨a, b, first, second⟩ := fact
    exact ⟨⟨a, first⟩, ⟨b, second⟩⟩
  · intro fact
    obtain ⟨⟨a, first⟩, ⟨b, second⟩⟩ := fact
    exact ⟨a, b, first, second⟩

theorem hasIntegers_circle_iff {first second : List Char} {more : List (List Char)} :
    HasIntegers ⟨.draw .circle, first :: second :: more⟩ ↔
      (∃ a b, IsPair first a b) ∧ ∃ i, Text.prefixInt64? second = some i := by
  rw [exists_isPair_iff]
  simp [HasIntegers, tokens, and_assoc]

theorem hasIntegers_pairs_iff {command : Command} {first second : List Char}
    {more : List (List Char)} (h : command ≠ .draw .circle) :
    HasIntegers ⟨command, first :: second :: more⟩ ↔
      (∃ a b, IsPair first a b) ∧ ∃ a b, IsPair second a b := by
  have pairs : tokens ⟨command, first :: second :: more⟩ =
      [firstHalf first, secondHalf first, firstHalf second, secondHalf second] := by
    unfold tokens
    split
    · rename_i same
      cases same
      exact absurd rfl h
    · rename_i same
      cases same
      rfl
    · rename_i other
      exact absurd rfl (other command first second more)
  rw [exists_isPair_iff, exists_isPair_iff]
  simp [HasIntegers, pairs, and_assoc]

theorem exists_isCrop_iff {s : Statement} (crop : s.command = .crop) (complete : s.IsComplete) :
    (∃ e, s.IsCrop e) ↔ s.HasIntegers := by
  obtain ⟨command, arguments⟩ := s
  cases crop
  match arguments, complete with
  | first :: second :: surplus, _ =>
    rw [hasIntegers_pairs_iff (by decide)]
    constructor
    · intro fact
      obtain ⟨e, ⟨origin, size⟩⟩ := fact
      exact ⟨⟨_, _, origin⟩, ⟨_, _, size⟩⟩
    · intro fact
      obtain ⟨⟨x, y, origin⟩, ⟨width, height, size⟩⟩ := fact
      exact ⟨⟨⟨x, y⟩, ⟨width, height⟩⟩, .intro origin size⟩

theorem exists_isSegment_iff {first second color : List Char} :
    (∃ s, IsSegment first second color s) ↔
      (∃ a b, IsPair first a b) ∧ ∃ a b, IsPair second a b := by
  constructor
  · intro fact
    obtain ⟨s, start, stop, -⟩ := fact
    exact ⟨⟨_, _, start⟩, ⟨_, _, stop⟩⟩
  · intro fact
    obtain ⟨⟨a, b, start⟩, ⟨c, d, stop⟩⟩ := fact
    exact ⟨⟨⟨a, b⟩, ⟨c, d⟩, ⟨String.ofList color⟩⟩, start, stop, rfl⟩

theorem exists_isDrawing_iff {s : Statement} (drawing : s.command ≠ .crop)
    (complete : s.IsComplete) : (∃ e, s.IsDrawing e) ↔ s.HasIntegers := by
  obtain ⟨command, arguments⟩ := s
  cases command with
  | crop => exact absurd rfl drawing
  | draw shape =>
    match arguments, complete with
    | first :: second :: color :: surplus, _ =>
      cases shape with
      | circle =>
        rw [hasIntegers_circle_iff]
        constructor
        · intro fact
          obtain ⟨_, meant⟩ := fact
          cases meant with
          | circle center radius _ => exact ⟨⟨_, _, center⟩, ⟨_, radius⟩⟩
        · intro fact
          obtain ⟨⟨x, y, center⟩, ⟨r, radius⟩⟩ := fact
          exact ⟨.circle ⟨⟨x, y⟩, r, ⟨String.ofList color⟩⟩, .circle center radius rfl⟩
      | rectangle =>
        rw [hasIntegers_pairs_iff (by decide)]
        constructor
        · intro fact
          obtain ⟨_, meant⟩ := fact
          cases meant with
          | rectangle corner size _ => exact ⟨⟨_, _, corner⟩, ⟨_, _, size⟩⟩
        · intro fact
          obtain ⟨⟨x, y, corner⟩, ⟨width, height, size⟩⟩ := fact
          exact ⟨.rectangle ⟨⟨x, y⟩, ⟨width, height⟩, ⟨String.ofList color⟩⟩,
            .rectangle corner size rfl⟩
      | line =>
        rw [hasIntegers_pairs_iff (by decide), ← exists_isSegment_iff]
        constructor
        · intro fact
          obtain ⟨_, meant⟩ := fact
          cases meant with
          | line segment => exact ⟨_, segment⟩
        · intro fact
          obtain ⟨s, segment⟩ := fact
          exact ⟨.line s, .line segment⟩
      | arrow =>
        rw [hasIntegers_pairs_iff (by decide), ← exists_isSegment_iff]
        constructor
        · intro fact
          obtain ⟨_, meant⟩ := fact
          cases meant with
          | arrow segment => exact ⟨_, segment⟩
        · intro fact
          obtain ⟨s, segment⟩ := fact
          exact ⟨.arrow s, .arrow segment⟩
      | gap =>
        rw [hasIntegers_pairs_iff (by decide), ← exists_isSegment_iff]
        constructor
        · intro fact
          obtain ⟨_, meant⟩ := fact
          cases meant with
          | gap segment => exact ⟨_, segment⟩
        · intro fact
          obtain ⟨s, segment⟩ := fact
          exact ⟨.gap s, .gap segment⟩

end Statement

/-! ### Texts -/

namespace Markup

/-- The crops of a text, of which the last one counts. -/
def crops (text : String) : List Statement :=
  (statements text).filter (·.command = .crop)

def drawings (text : String) : List Statement :=
  (statements text).filter (·.command ≠ .crop)

/-- The texts that are compiled, together with a stroke width. Only the last crop has to be made of
integers. -/
structure Acceptable (text : String) (stroke : Option String) : Prop where
  complete : ∀ s ∈ statements text, s.IsComplete
  crop : ∀ s ∈ (crops text).getLast?, s.HasIntegers
  draw : ∀ s ∈ drawings text, s.HasIntegers
  stroke : ∀ w ∈ stroke, ∃ i, Text.prefixInt64? w.toList = some i

instance (text : String) (stroke : Option String) : Decidable (Acceptable text stroke) :=
  decidable_of_iff
    ((∀ s ∈ statements text, s.IsComplete) ∧ (∀ s ∈ (crops text).getLast?, s.HasIntegers) ∧
      (∀ s ∈ drawings text, s.HasIntegers) ∧
      ∀ w ∈ stroke, (Text.prefixInt64? w.toList).isSome = true)
    (by
      simp only [Option.isSome_iff_exists]
      exact ⟨fun ⟨complete, crop, draw, stroke⟩ => ⟨complete, crop, draw, stroke⟩,
        fun h => ⟨h.complete, h.crop, h.draw, h.stroke⟩⟩)

/-- The document that a text means for an image of the given size. -/
structure Describes (text : String) (size : Size Int64) (target : Target) (d : Document Int64) :
    Prop where
  dimensions : d.dimensions = size
  finalDimensions : d.finalDimensions = (d.instructions.crop.map Crop.size).getD size
  crop : Option.Rel Statement.IsCrop (crops text).getLast? d.instructions.crop
  draw : List.Forall₂ Statement.IsDrawing (drawings text) d.instructions.draw
  strokeWidth : Option.Rel (fun w i => Text.prefixInt64? w.toList = some i) target.strokeWidth
    d.instructions.strokeWidth
  sourceFile : d.sourceFile = target.sourceFile
  destinationFile : d.destinationFile = target.destinationFile
  format : d.format = target.format.getD defaultFormat

theorem crop_rel_iff {text : String} {m : Markup} (read : (ofText text).outcome = .ok m)
    {c : Option (Crop Int64)} : Option.Rel (Crop.Rel Numeric.Denotes) m.crop c ↔
      Option.Rel Statement.IsCrop (crops text).getLast? c := by
  obtain ⟨complete, last, -⟩ := ofSegments_outcome read
  rw [last]
  exact getLast?_filterMap_rel_iff (fun s member => Statement.isCrop_eq_isSome (complete s member))
    fun s e => Statement.isCrop_iff (s := s) (e := e)

theorem draw_rel_iff {text : String} {m : Markup} (read : (ofText text).outcome = .ok m)
    {ds : List (Drawing Int64)} : List.Forall₂ (Drawing.Rel Numeric.Denotes) m.draw ds ↔
      List.Forall₂ Statement.IsDrawing (drawings text) ds := by
  obtain ⟨complete, -, order⟩ := ofSegments_outcome read
  rw [order]
  exact forall₂_filterMap_iff (fun s member => Statement.isDrawing_eq_isSome (complete s member))
    fun s e => Statement.isDrawing_iff (s := s) (e := e)

theorem strokeWidth_rel_iff {stroke : Option String} {w : Option Int64} :
    Option.Rel Numeric.Denotes (stroke.map fun s => Numeric.ofToken s.toList) w ↔
      Option.Rel (fun s i => Text.prefixInt64? s.toList = some i) stroke w := by
  cases stroke with
  | none => constructor <;> rintro ⟨⟩ <;> exact .none
  | some s =>
    constructor
    · intro fact
      obtain ⟨denotes⟩ := fact
      exact .some (Numeric.denotes_ofToken.mp denotes)
    · intro fact
      obtain ⟨value⟩ := fact
      exact .some (Numeric.denotes_ofToken.mpr value)

theorem dimensions_rel_iff {size s : Size Int64} :
    Size.Rel Numeric.Denotes ⟨.int size.width, .int size.height⟩ s ↔ s = size := by
  constructor
  · intro related
    exact related.unique ⟨Numeric.denotes_int.mpr rfl, Numeric.denotes_int.mpr rfl⟩
  · rintro rfl
    exact ⟨Numeric.denotes_int.mpr rfl, Numeric.denotes_int.mpr rfl⟩

theorem finalDimensions_rel_iff {x : Option (Crop Numeric)} {y : Option (Crop Int64)}
    (crop : Option.Rel (Crop.Rel Numeric.Denotes) x y) {size s : Size Int64} :
    ((x.map Crop.size).getD ⟨.int size.width, .int size.height⟩).Rel Numeric.Denotes s ↔
      s = (y.map Crop.size).getD size := by
  cases crop with
  | none => exact dimensions_rel_iff
  | some cropped =>
    constructor
    · exact fun related => related.unique cropped.2
    · rintro rfl
      exact cropped.2

/-- What markup assembles stands for the document that the text means. -/
theorem assemble_rel_iff {text : String} {m : Markup} {size : Size Int64} {target : Target}
    {d : Document Int64} (read : (ofText text).outcome = .ok m) :
    (m.assemble size target).Rel Numeric.Denotes d ↔ Describes text size target d := by
  constructor
  · intro fact
    obtain ⟨dimensions, final, ⟨crop, draw, stroke⟩, source, destination, format⟩ := fact
    exact ⟨dimensions_rel_iff.mp dimensions, (finalDimensions_rel_iff crop).mp final,
      (crop_rel_iff read).mp crop, (draw_rel_iff read).mp draw, strokeWidth_rel_iff.mp stroke,
      source.symm, destination.symm, format.symm⟩
  · intro fact
    obtain ⟨dimensions, final, crop, draw, stroke, source, destination, format⟩ := fact
    have cropped := (crop_rel_iff read).mpr crop
    exact ⟨dimensions_rel_iff.mpr dimensions, (finalDimensions_rel_iff cropped).mpr final,
      ⟨cropped, (draw_rel_iff read).mpr draw, strokeWidth_rel_iff.mpr stroke⟩, source.symm,
      destination.symm, format.symm⟩

/-- A text with complete statements means a document if the tokens that count are integers. -/
theorem exists_describes_iff {text : String} {size : Size Int64} {target : Target}
    (complete : ∀ s ∈ statements text, s.IsComplete) :
    (∃ d, Describes text size target d) ↔ Acceptable text target.strokeWidth := by
  have ofCrop : ∀ s ∈ (crops text).getLast?, ((∃ e, s.IsCrop e) ↔ s.HasIntegers) := by
    intro s member
    obtain ⟨there, crop⟩ := List.mem_filter.mp (List.mem_of_getLast? member)
    exact Statement.exists_isCrop_iff (of_decide_eq_true crop) (complete s there)
  have ofDrawing : ∀ s ∈ drawings text, ((∃ e, s.IsDrawing e) ↔ s.HasIntegers) := by
    intro s member
    obtain ⟨there, drawing⟩ := List.mem_filter.mp member
    exact Statement.exists_isDrawing_iff (of_decide_eq_true drawing) (complete s there)
  constructor
  · intro fact
    obtain ⟨d, meant⟩ := fact
    exact ⟨complete,
      fun s member => (ofCrop s member).mp (exists_optionRel_iff.mp ⟨_, meant.crop⟩ s member),
      fun s member => (ofDrawing s member).mp (exists_forall₂_iff.mp ⟨_, meant.draw⟩ s member),
      exists_optionRel_iff.mp ⟨_, meant.strokeWidth⟩⟩
  · intro fact
    obtain ⟨-, crop, draw, stroke⟩ := fact
    obtain ⟨c, cropped⟩ := exists_optionRel_iff.mpr fun s member =>
      (ofCrop s member).mpr (crop s member)
    obtain ⟨ds, drawn⟩ := exists_forall₂_iff.mpr fun s member =>
      (ofDrawing s member).mpr (draw s member)
    obtain ⟨w, width⟩ := exists_optionRel_iff.mpr stroke
    exact ⟨⟨size, (c.map Crop.size).getD size, ⟨c, ds, w⟩, target.sourceFile,
      target.destinationFile, target.format.getD defaultFormat⟩,
      rfl, rfl, cropped, drawn, width, rfl, rfl, rfl⟩

end Markup

/-- Markup is compiled exactly if its source has a size and the text is acceptable, and what comes
out is the document that the text means. -/
theorem compile_markup_eq_ok_iff_describes {probe : Probe} {text : String} {target : Target} :
    ((∃ d, ((Request.markup text target).compile probe).outcome = .ok d) ↔
      (∃ size, probe target.sourceFile = .ok size) ∧
        Markup.Acceptable text target.strokeWidth) ∧
    ∀ d, ((Request.markup text target).compile probe).outcome = .ok d ↔
      ∃ size, probe target.sourceFile = .ok size ∧ Markup.Acceptable text target.strokeWidth ∧
        Markup.Describes text size target d := by
  have compiled : ∀ d, ((Request.markup text target).compile probe).outcome = .ok d ↔
      ∃ size, probe target.sourceFile = .ok size ∧ Markup.Acceptable text target.strokeWidth ∧
        Markup.Describes text size target d := by
    intro d
    rw [Request.compile_markup_eq_ok_iff]
    constructor
    · intro fact
      obtain ⟨size, m, answer, read, related⟩ := fact
      have meant := (Markup.assemble_rel_iff read).mp related
      obtain ⟨complete, -⟩ := Markup.ofSegments_outcome read
      exact ⟨size, answer, (Markup.exists_describes_iff complete).mp ⟨d, meant⟩, meant⟩
    · intro fact
      obtain ⟨size, answer, acceptable, meant⟩ := fact
      obtain ⟨m, read⟩ := Markup.ofSegments_succeeds acceptable.complete
      exact ⟨size, m, answer, read, (Markup.assemble_rel_iff read).mpr meant⟩
  refine ⟨?_, compiled⟩
  constructor
  · intro fact
    obtain ⟨d, done⟩ := fact
    obtain ⟨size, answer, acceptable, -⟩ := (compiled d).mp done
    exact ⟨⟨size, answer⟩, acceptable⟩
  · intro fact
    obtain ⟨⟨size, answer⟩, acceptable⟩ := fact
    obtain ⟨d, meant⟩ : ∃ d, Markup.Describes text size target d :=
      (Markup.exists_describes_iff acceptable.complete).mpr acceptable
    exact ⟨d, (compiled d).mpr ⟨size, answer, acceptable, meant⟩⟩

-- A crop that is replaced may hold anything, the last one may not.
example : Markup.Acceptable "crop,axb,1x1;crop,0x0,4x4" none := by decide +kernel

example : ¬ Markup.Acceptable "crop,0x0,4x4;crop,axb,1x1" none := by decide +kernel

end PaintScript

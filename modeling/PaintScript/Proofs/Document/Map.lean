import Mathlib.Data.List.Forall2
import PaintScript.Document.Field
import PaintScript.Proofs.Log

/-!
# Replacing the numbers of a document

`map` applies a function to every number and `Rel` relates two documents number by number.
`mapM_eq_ok_iff` says that a visit succeeds exactly with the documents that are so related, when the
result at a field depends on its number alone.
-/

namespace PaintScript

variable {N M ε : Type}

/-! ### Mapping -/

section

variable (g : N → M)

def Point.map (p : Point N) : Point M :=
  ⟨g p.x, g p.y⟩

def Size.map (s : Size N) : Size M :=
  ⟨g s.width, g s.height⟩

def Crop.map (c : Crop N) : Crop M :=
  ⟨c.origin.map g, c.size.map g⟩

def Segment.map (s : Segment N) : Segment M :=
  ⟨s.start.map g, s.stop.map g, s.color⟩

/-- The drawing with another number in every place. -/
def Drawing.map : Drawing N → Drawing M
  | .circle c => .circle ⟨c.center.map g, g c.radius, c.color⟩
  | .rectangle r => .rectangle ⟨r.corner.map g, r.size.map g, r.color⟩
  | .line s => .line (s.map g)
  | .arrow s => .arrow (s.map g)
  | .gap s => .gap (s.map g)

def Instructions.map (i : Instructions N) : Instructions M :=
  ⟨i.crop.map (Crop.map g), i.draw.map (Drawing.map g), i.strokeWidth.map g⟩

/-- The document with another number in every place. -/
def Document.map (d : Document N) : Document M :=
  ⟨d.dimensions.map g, d.finalDimensions.map g, d.instructions.map g, d.sourceFile,
    d.destinationFile, d.format⟩

theorem Drawing.listFields_map (index : Nat) (ds : List (Drawing N)) :
    Drawing.listFields index (ds.map (Drawing.map g)) =
      (Drawing.listFields index ds).map fun q => (q.1, g q.2) := by
  induction ds generalizing index with
  | nil => rfl
  | cons d ds ih =>
    have here : (d.map g).fields index = (d.fields index).map fun q => (q.1, g q.2) := by
      cases d <;> rfl
    rw [List.map_cons, Drawing.listFields, Drawing.listFields, here, ih, List.map_append]

/-- Mapping keeps the fields and maps their values. -/
theorem Document.fields_map (d : Document N) :
    (d.map g).fields = d.fields.map fun q => (q.1, g q.2) := by
  obtain ⟨_, _, ⟨crop, draw, stroke⟩, _, _, _⟩ := d
  simp only [Document.fields, Document.map, Instructions.fields, Instructions.map,
    Drawing.listFields_map, List.map_append]
  cases crop <;> cases stroke <;> rfl

end

/-- A field among those of drawings belongs to one of them, with the index of that drawing. -/
theorem Drawing.mem_listFields {ds : List (Drawing N)} {index : Nat} {q : NumericField × N}
    (h : q ∈ Drawing.listFields index ds) :
    ∃ i, ∃ d : Drawing N, ds[i]? = some d ∧ q ∈ d.fields (index + i) := by
  induction ds generalizing index with
  | nil => cases h
  | cons d ds ih =>
    rcases List.mem_append.mp h with here | later
    · exact ⟨0, d, rfl, here⟩
    · obtain ⟨i, e, found, member⟩ := ih later
      rw [show index + 1 + i = index + (i + 1) by omega] at member
      exact ⟨i + 1, e, found, member⟩

def Crop.numbers (c : Crop N) : List N :=
  c.fields.map (·.2)

def Drawing.numbers (d : Drawing N) : List N :=
  (d.fields 0).map (·.2)

theorem Crop.numbers_map (g : N → M) (c : Crop N) : (c.map g).numbers = c.numbers.map g := rfl

theorem Drawing.numbers_map (g : N → M) (d : Drawing N) :
    (d.map g).numbers = d.numbers.map g := by
  cases d <;> rfl

theorem Drawing.color_map (g : N → M) (d : Drawing N) : (d.map g).color = d.color := by
  cases d <;> rfl

/-! ### Relating -/

section

variable (R : N → M → Prop)

def Point.Rel (p : Point N) (q : Point M) : Prop :=
  R p.x q.x ∧ R p.y q.y

def Size.Rel (s : Size N) (t : Size M) : Prop :=
  R s.width t.width ∧ R s.height t.height

def Crop.Rel (c : Crop N) (e : Crop M) : Prop :=
  c.origin.Rel R e.origin ∧ c.size.Rel R e.size

def Segment.Rel (s : Segment N) (t : Segment M) : Prop :=
  s.start.Rel R t.start ∧ s.stop.Rel R t.stop ∧ s.color = t.color

/-- Drawings of one shape and color whose numbers are related. -/
inductive Drawing.Rel : Drawing N → Drawing M → Prop
  | circle {c : Circle N} {e : Circle M} (center : c.center.Rel R e.center)
      (radius : R c.radius e.radius) (color : c.color = e.color) : Rel (.circle c) (.circle e)
  | rectangle {r : Rectangle N} {e : Rectangle M} (corner : r.corner.Rel R e.corner)
      (size : r.size.Rel R e.size) (color : r.color = e.color) : Rel (.rectangle r) (.rectangle e)
  | line {s : Segment N} {e : Segment M} (segment : s.Rel R e) : Rel (.line s) (.line e)
  | arrow {s : Segment N} {e : Segment M} (segment : s.Rel R e) : Rel (.arrow s) (.arrow e)
  | gap {s : Segment N} {e : Segment M} (segment : s.Rel R e) : Rel (.gap s) (.gap e)

/-- Instructions of one form whose numbers are related. -/
structure Instructions.Rel (i : Instructions N) (j : Instructions M) : Prop where
  crop : Option.Rel (Crop.Rel R) i.crop j.crop
  draw : List.Forall₂ (Drawing.Rel R) i.draw j.draw
  strokeWidth : Option.Rel R i.strokeWidth j.strokeWidth

/-- Documents that differ in their numbers alone, and these are related. -/
structure Document.Rel (d : Document N) (e : Document M) : Prop where
  dimensions : d.dimensions.Rel R e.dimensions
  finalDimensions : d.finalDimensions.Rel R e.finalDimensions
  instructions : d.instructions.Rel R e.instructions
  sourceFile : d.sourceFile = e.sourceFile
  destinationFile : d.destinationFile = e.destinationFile
  format : d.format = e.format

end

/-! ### A mapped document and the document -/

section

variable {R : N → M → Prop} {g : M → N} (h : ∀ m, R (g m) m)

include h

theorem Drawing.rel_map (d : Drawing M) : (d.map g).Rel R d := by
  cases d with
  | circle c => exact .circle ⟨h _, h _⟩ (h _) rfl
  | rectangle r => exact .rectangle ⟨h _, h _⟩ ⟨h _, h _⟩ rfl
  | line s => exact .line ⟨⟨h _, h _⟩, ⟨h _, h _⟩, rfl⟩
  | arrow s => exact .arrow ⟨⟨h _, h _⟩, ⟨h _, h _⟩, rfl⟩
  | gap s => exact .gap ⟨⟨h _, h _⟩, ⟨h _, h _⟩, rfl⟩

theorem Instructions.rel_map (i : Instructions M) : (i.map g).Rel R i := by
  obtain ⟨crop, draw, stroke⟩ := i
  have drawings : List.Forall₂ (Drawing.Rel R) (draw.map (Drawing.map g)) draw :=
    List.forall₂_map_left_iff.mpr (List.forall₂_same.mpr fun d _ => Drawing.rel_map h d)
  refine ⟨?_, drawings, ?_⟩
  · cases crop with
    | none => exact .none
    | some c => exact .some ⟨⟨h _, h _⟩, ⟨h _, h _⟩⟩
  · cases stroke with
    | none => exact .none
    | some n => exact .some (h n)

theorem Document.rel_map (d : Document M) : (d.map g).Rel R d :=
  ⟨⟨h _, h _⟩, ⟨h _, h _⟩, Instructions.rel_map h d.instructions, rfl, rfl, rfl⟩

end

/-! ### Relations that determine the first document -/

section

variable {R : N → M → Prop} {g : M → N}

theorem Point.Rel.eq_map {p : Point N} {q : Point M} (h : p.Rel R q)
    (determined : ∀ n ∈ [p.x, p.y], ∀ m, R n m → n = g m) : p = q.map g := by
  obtain ⟨x, y⟩ := p
  have first : x = g q.x := determined x (by simp) _ h.1
  have second : y = g q.y := determined y (by simp) _ h.2
  rw [first, second]
  rfl

theorem Size.Rel.eq_map {s : Size N} {t : Size M} (h : s.Rel R t)
    (determined : ∀ n ∈ [s.width, s.height], ∀ m, R n m → n = g m) : s = t.map g := by
  obtain ⟨width, height⟩ := s
  have first : width = g t.width := determined width (by simp) _ h.1
  have second : height = g t.height := determined height (by simp) _ h.2
  rw [first, second]
  rfl

theorem Crop.Rel.eq_map {c : Crop N} {e : Crop M} (h : c.Rel R e)
    (determined : ∀ n ∈ c.numbers, ∀ m, R n m → n = g m) : c = e.map g := by
  obtain ⟨origin, size⟩ := c
  have first : origin = e.origin.map g := h.1.eq_map fun n member =>
    determined n (List.mem_append_left [size.width, size.height] member)
  have second : size = e.size.map g := h.2.eq_map fun n member =>
    determined n (List.mem_append_right [origin.x, origin.y] member)
  rw [first, second]
  rfl

theorem Segment.Rel.eq_map {s : Segment N} {t : Segment M} (h : s.Rel R t)
    (determined : ∀ n ∈ [s.start.x, s.start.y] ++ [s.stop.x, s.stop.y], ∀ m, R n m → n = g m) :
    s = t.map g := by
  obtain ⟨start, stop, color⟩ := s
  obtain ⟨first, second, same⟩ := h
  have startEq : start = t.start.map g := first.eq_map fun n member =>
    determined n (List.mem_append_left _ member)
  have stopEq : stop = t.stop.map g := second.eq_map fun n member =>
    determined n (List.mem_append_right _ member)
  dsimp only at same
  rw [startEq, stopEq, same]
  rfl

theorem Drawing.Rel.eq_map {d : Drawing N} {e : Drawing M} (h : d.Rel R e)
    (determined : ∀ n ∈ d.numbers, ∀ m, R n m → n = g m) : d = e.map g := by
  cases h with
  | @circle c e center radius color =>
    obtain ⟨start, r, name⟩ := c
    have startEq : start = e.center.map g := center.eq_map fun n member =>
      determined n (List.mem_append_left [r] member)
    have radiusEq : r = g e.radius :=
      determined r (List.mem_append_right [start.x, start.y] List.mem_cons_self) _ radius
    dsimp only at color
    rw [startEq, radiusEq, color]
    rfl
  | @rectangle r e corner size color =>
    obtain ⟨start, extent, name⟩ := r
    have startEq : start = e.corner.map g := corner.eq_map fun n member =>
      determined n (List.mem_append_left [extent.width, extent.height] member)
    have extentEq : extent = e.size.map g := size.eq_map fun n member =>
      determined n (List.mem_append_right [start.x, start.y] member)
    dsimp only at color
    rw [startEq, extentEq, color]
    rfl
  | line segment => exact congrArg Drawing.line (segment.eq_map determined)
  | arrow segment => exact congrArg Drawing.arrow (segment.eq_map determined)
  | gap segment => exact congrArg Drawing.gap (segment.eq_map determined)

end

/-! ### Visiting -/

section

variable {f : NumericField → N → Except ε M} {R : N → M → Prop}
  (visits : ∀ field n m, f field n = .ok m ↔ R n m)

include visits

theorem Point.mapM_eq_ok_iff {group : FieldGroup} {p : Point N} {q : Point M} :
    p.mapM f group = .ok q ↔ p.Rel R q := by
  obtain ⟨x, y⟩ := q
  simp only [Point.mapM, bind_eq_ok_iff, visits, pure_eq_ok_iff, Point.mk.injEq]
  constructor
  · intro fact
    obtain ⟨a, first, b, second, rfl, rfl⟩ := fact
    exact ⟨first, second⟩
  · intro fact
    obtain ⟨first, second⟩ := fact
    exact ⟨x, first, y, second, rfl, rfl⟩

theorem Size.mapM_eq_ok_iff {group : FieldGroup} {s : Size N} {t : Size M} :
    s.mapM f group = .ok t ↔ s.Rel R t := by
  obtain ⟨width, height⟩ := t
  simp only [Size.mapM, bind_eq_ok_iff, visits, pure_eq_ok_iff, Size.mk.injEq]
  constructor
  · intro fact
    obtain ⟨a, first, b, second, rfl, rfl⟩ := fact
    exact ⟨first, second⟩
  · intro fact
    obtain ⟨first, second⟩ := fact
    exact ⟨width, first, height, second, rfl, rfl⟩

theorem Crop.mapM_eq_ok_iff {c : Crop N} {e : Crop M} : c.mapM f = .ok e ↔ c.Rel R e := by
  obtain ⟨origin, size⟩ := e
  simp only [Crop.mapM, bind_eq_ok_iff, Point.mapM_eq_ok_iff visits, Size.mapM_eq_ok_iff visits,
    pure_eq_ok_iff, Crop.mk.injEq]
  constructor
  · intro fact
    obtain ⟨a, first, b, second, rfl, rfl⟩ := fact
    exact ⟨first, second⟩
  · intro fact
    obtain ⟨first, second⟩ := fact
    exact ⟨origin, first, size, second, rfl, rfl⟩

theorem Segment.mapM_eq_ok_iff {index : Nat} {shape : Shape} {s : Segment N} {t : Segment M} :
    s.mapM f index shape = .ok t ↔ s.Rel R t := by
  obtain ⟨start, stop, color⟩ := t
  simp only [Segment.mapM, bind_eq_ok_iff, Point.mapM_eq_ok_iff visits, pure_eq_ok_iff,
    Segment.mk.injEq]
  constructor
  · intro fact
    obtain ⟨a, first, b, second, rfl, rfl, same⟩ := fact
    exact ⟨first, second, same⟩
  · intro fact
    obtain ⟨first, second, same⟩ := fact
    exact ⟨start, first, stop, second, rfl, rfl, same⟩

theorem Drawing.mapM_eq_ok_iff {index : Nat} {d : Drawing N} {e : Drawing M} :
    d.mapM f index = .ok e ↔ d.Rel R e := by
  cases d with
  | circle c =>
    simp only [Drawing.mapM, bind_eq_ok_iff, Point.mapM_eq_ok_iff visits, visits, pure_eq_ok_iff]
    constructor
    · intro fact
      obtain ⟨center, first, radius, second, rfl⟩ := fact
      exact .circle first second rfl
    · intro fact
      obtain ⟨first, second, color⟩ := fact
      exact ⟨_, first, _, second, by rw [color]⟩
  | rectangle r =>
    simp only [Drawing.mapM, bind_eq_ok_iff, Point.mapM_eq_ok_iff visits,
      Size.mapM_eq_ok_iff visits, pure_eq_ok_iff]
    constructor
    · intro fact
      obtain ⟨corner, first, size, second, rfl⟩ := fact
      exact .rectangle first second rfl
    · rintro (_ | ⟨first, second, color⟩)
      exact ⟨_, first, _, second, by rw [color]⟩
  | line s =>
    simp only [Drawing.mapM, bind_eq_ok_iff, Segment.mapM_eq_ok_iff visits, pure_eq_ok_iff]
    constructor
    · intro fact
      obtain ⟨t, segment, rfl⟩ := fact
      exact .line segment
    · intro related
      cases related with
      | line segment => exact ⟨_, segment, rfl⟩
  | arrow s =>
    simp only [Drawing.mapM, bind_eq_ok_iff, Segment.mapM_eq_ok_iff visits, pure_eq_ok_iff]
    constructor
    · intro fact
      obtain ⟨t, segment, rfl⟩ := fact
      exact .arrow segment
    · intro related
      cases related with
      | arrow segment => exact ⟨_, segment, rfl⟩
  | gap s =>
    simp only [Drawing.mapM, bind_eq_ok_iff, Segment.mapM_eq_ok_iff visits, pure_eq_ok_iff]
    constructor
    · intro fact
      obtain ⟨t, segment, rfl⟩ := fact
      exact .gap segment
    · intro related
      cases related with
      | gap segment => exact ⟨_, segment, rfl⟩

theorem Drawing.listMapM_eq_ok_iff {index : Nat} {ds : List (Drawing N)} {es : List (Drawing M)} :
    Drawing.listMapM f index ds = .ok es ↔ List.Forall₂ (Drawing.Rel R) ds es := by
  induction ds generalizing index es with
  | nil =>
    rw [Drawing.listMapM, pure_eq_ok_iff, List.forall₂_nil_left_iff, eq_comm]
  | cons d ds ih =>
    simp only [Drawing.listMapM, bind_eq_ok_iff, Drawing.mapM_eq_ok_iff visits, ih, pure_eq_ok_iff]
    rw [List.forall₂_cons_left_iff]
    constructor
    · intro fact
      obtain ⟨e, head, rest, tail, rfl⟩ := fact
      exact ⟨e, rest, head, tail, rfl⟩
    · intro fact
      obtain ⟨e, rest, head, tail, rfl⟩ := fact
      exact ⟨e, head, rest, tail, rfl⟩

omit visits in
theorem optionMapM_eq_ok_iff {α β : Type} {g : α → Except ε β} {Q : α → β → Prop}
    (pointwise : ∀ a b, g a = .ok b ↔ Q a b) {x : Option α} {y : Option β} :
    optionMapM g x = .ok y ↔ Option.Rel Q x y := by
  cases x with
  | none =>
    rw [optionMapM, pure_eq_ok_iff]
    constructor
    · rintro rfl
      exact .none
    · rintro ⟨⟩
      rfl
  | some a =>
    simp only [optionMapM, bind_eq_ok_iff, pointwise, pure_eq_ok_iff]
    constructor
    · intro fact
      obtain ⟨b, related, rfl⟩ := fact
      exact .some related
    · intro fact
      obtain ⟨related⟩ := fact
      exact ⟨_, related, rfl⟩

theorem Instructions.mapM_eq_ok_iff {i : Instructions N} {j : Instructions M} :
    i.mapM f = .ok j ↔ i.Rel R j := by
  obtain ⟨crop, draw, strokeWidth⟩ := j
  simp only [Instructions.mapM, bind_eq_ok_iff, pure_eq_ok_iff,
    optionMapM_eq_ok_iff fun c e => Crop.mapM_eq_ok_iff visits (c := c) (e := e),
    Drawing.listMapM_eq_ok_iff visits, optionMapM_eq_ok_iff (visits _), Instructions.mk.injEq]
  constructor
  · intro fact
    obtain ⟨a, first, b, second, c, third, rfl, rfl, rfl⟩ := fact
    exact ⟨first, second, third⟩
  · intro fact
    obtain ⟨first, second, third⟩ := fact
    exact ⟨crop, first, draw, second, strokeWidth, third, rfl, rfl, rfl⟩

/-- A visit succeeds with the documents whose numbers are related to those visited. -/
theorem Document.mapM_eq_ok_iff {d : Document N} {e : Document M} :
    d.mapM f = .ok e ↔ d.Rel R e := by
  obtain ⟨dimensions, finalDimensions, instructions, source, destination, format⟩ := e
  simp only [Document.mapM, bind_eq_ok_iff, pure_eq_ok_iff, Instructions.mapM_eq_ok_iff visits,
    Size.mapM_eq_ok_iff visits, Document.mk.injEq]
  constructor
  · intro fact
    obtain ⟨a, first, b, second, c, third, rfl, rfl, rfl, rest⟩ := fact
    exact ⟨second, third, first, rest.1, rest.2.1, rest.2.2⟩
  · intro fact
    obtain ⟨second, third, first, source, destination, format⟩ := fact
    exact ⟨_, first, _, second, _, third, rfl, rfl, rfl, source, destination, format⟩

end
end PaintScript

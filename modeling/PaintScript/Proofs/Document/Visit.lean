import PaintScript.Document.Field
import PaintScript.Proofs.Log

/-!
# The first field that fails

A visit of a document checks its numeric fields in the order of `fields` and ends at the first one
that fails. `Document.visits` says so of the whole visit; it follows from the same fact about each
part, because a chain of visits is a visit of the fields one after the other.
-/

namespace PaintScript

variable {N M ε α β : Type} {f : NumericField → N → Except ε M}

/-- Whether a field fails, and with what error, after fields that all pass. -/
inductive FailsWith (f : NumericField → N → Except ε M) : List (NumericField × N) → ε → Prop
  | here {q : NumericField × N} {after : List (NumericField × N)} {e : ε}
      (fails : f q.1 q.2 = .error e) : FailsWith f (q :: after) e
  | later {q : NumericField × N} {after : List (NumericField × N)} {m : M} {e : ε}
      (passes : f q.1 q.2 = .ok m) (there : FailsWith f after e) : FailsWith f (q :: after) e

def Passes (f : NumericField → N → Except ε M) (fields : List (NumericField × N)) : Prop :=
  ∀ q ∈ fields, ∃ m, f q.1 q.2 = .ok m

theorem not_failsWith_of_passes {fields : List (NumericField × N)} {e : ε}
    (passes : Passes f fields) : ¬ FailsWith f fields e := by
  intro fails
  induction fails with
  | here fails =>
    obtain ⟨m, ok⟩ := passes _ List.mem_cons_self
    rw [ok] at fails
    cases fails
  | later _ _ ih => exact ih fun q member => passes q (List.mem_cons_of_mem _ member)

theorem passes_or_failsWith (fields : List (NumericField × N)) :
    Passes f fields ∨ ∃ e, FailsWith f fields e := by
  induction fields with
  | nil => exact Or.inl fun q member => absurd member List.not_mem_nil
  | cons q fields ih =>
    cases result : f q.1 q.2 with
    | error e => exact Or.inr ⟨e, .here result⟩
    | ok m =>
      rcases ih with passes | ⟨e, fails⟩
      · exact Or.inl (List.forall_mem_cons.mpr ⟨⟨m, result⟩, passes⟩)
      · exact Or.inr ⟨e, .later result fails⟩

theorem failsWith_append {first second : List (NumericField × N)} {e : ε} :
    FailsWith f (first ++ second) e ↔
      FailsWith f first e ∨ Passes f first ∧ FailsWith f second e := by
  induction first with
  | nil =>
    constructor
    · intro fails
      exact Or.inr ⟨fun q member => absurd member List.not_mem_nil, fails⟩
    · rintro (fails | ⟨-, fails⟩)
      · cases fails
      · exact fails
  | cons q first ih =>
    constructor
    · rintro (fails | ⟨passes, there⟩)
      · exact Or.inl (.here fails)
      · rcases ih.mp there with fails | ⟨others, fails⟩
        · exact Or.inl (.later passes fails)
        · exact Or.inr ⟨List.forall_mem_cons.mpr ⟨⟨_, passes⟩, others⟩, fails⟩
    · rintro (fails | ⟨passes, fails⟩)
      · cases fails with
        | here fails => exact .here fails
        | later passes there => exact .later passes (ih.mpr (Or.inl there))
      · obtain ⟨⟨m, passes⟩, others⟩ := List.forall_mem_cons.mp passes
        exact .later passes (ih.mpr (Or.inr ⟨others, fails⟩))

/-- The fields before the one that fails pass, and those after it do not matter. -/
theorem failsWith_iff {fields : List (NumericField × N)} {e : ε} :
    FailsWith f fields e ↔
      ∃ before q after, fields = before ++ q :: after ∧ Passes f before ∧ f q.1 q.2 = .error e := by
  constructor
  · intro fails
    induction fails with
    | @here q after e fails =>
      exact ⟨[], q, after, rfl, fun q member => absurd member List.not_mem_nil, fails⟩
    | @later q after m e passes _ ih =>
      obtain ⟨before, p, rest, rfl, others, fails⟩ := ih
      exact ⟨q :: before, p, rest, rfl, List.forall_mem_cons.mpr ⟨⟨m, passes⟩, others⟩, fails⟩
  · rintro ⟨before, q, after, rfl, passes, fails⟩
    exact failsWith_append.mpr (Or.inr ⟨passes, .here fails⟩)

/-! ### Visits -/

/-- Whether a computation fails exactly as the first of some fields that fails. -/
def Visits (f : NumericField → N → Except ε M) (x : Except ε α)
    (fields : List (NumericField × N)) : Prop :=
  ∀ e, x = .error e ↔ FailsWith f fields e

namespace Visits

variable {x : Except ε α} {fields : List (NumericField × N)}

theorem exists_ok_iff (h : Visits f x fields) : (∃ a, x = .ok a) ↔ Passes f fields := by
  constructor
  · rintro ⟨a, rfl⟩
    rcases passes_or_failsWith (f := f) fields with passes | ⟨e, fails⟩
    · exact passes
    · cases (h e).mpr fails
  · intro passes
    cases x with
    | ok a => exact ⟨a, rfl⟩
    | error e => exact absurd ((h e).mp rfl) (not_failsWith_of_passes passes)

theorem pure (a : α) : Visits f (.ok a) [] := by
  intro e
  constructor <;> rintro ⟨⟩

theorem field (field : NumericField) (n : N) : Visits f (f field n) [(field, n)] := by
  intro e
  constructor
  · intro fails
    exact .here (q := (field, n)) fails
  · rintro (fails | ⟨-, there⟩)
    · exact fails
    · cases there

/-- A chain visits the fields of its steps one after the other. -/
theorem bind {g : α → Except ε β} {more : List (NumericField × N)} (h : Visits f x fields)
    (next : ∀ a, Visits f (g a) more) : Visits f (x >>= g) (fields ++ more) := by
  intro e
  rw [bind_eq_error_iff, failsWith_append, h e]
  constructor
  · rintro (fails | ⟨a, ok, fails⟩)
    · exact Or.inl fails
    · exact Or.inr ⟨h.exists_ok_iff.mp ⟨a, ok⟩, (next a e).mp fails⟩
  · rintro (fails | ⟨passes, fails⟩)
    · exact Or.inl fails
    · obtain ⟨a, ok⟩ := h.exists_ok_iff.mpr passes
      exact Or.inr ⟨a, ok, (next a e).mpr fails⟩

theorem map {g : α → β} (h : Visits f x fields) :
    Visits f (x >>= fun a => Pure.pure (g a)) fields := by
  have chain := h.bind fun a => Visits.pure (f := f) (g a)
  rwa [List.append_nil] at chain

end Visits

/-! ### Documents -/

theorem Point.visits (group : FieldGroup) (p : Point N) :
    Visits f (p.mapM f group) (p.fields group) :=
  (Visits.field _ p.x).bind fun _ => (Visits.field _ p.y).map

theorem Size.visits (group : FieldGroup) (s : Size N) :
    Visits f (s.mapM f group) (s.fields group) :=
  (Visits.field _ s.width).bind fun _ => (Visits.field _ s.height).map

theorem Crop.visits (c : Crop N) : Visits f (c.mapM f) c.fields :=
  (c.origin.visits .cropOrigin).bind fun _ => (c.size.visits .cropSize).map

theorem Segment.visits (index : Nat) (shape : Shape) (s : Segment N) :
    Visits f (s.mapM f index shape)
      (s.start.fields (.drawingStart index shape) ++ s.stop.fields (.drawingStop index shape)) :=
  (s.start.visits _).bind fun _ => (s.stop.visits _).map

theorem Drawing.visits (index : Nat) (d : Drawing N) :
    Visits f (d.mapM f index) (d.fields index) := by
  cases d with
  | circle c => exact (c.center.visits _).bind fun _ => (Visits.field _ c.radius).map
  | rectangle r => exact (r.corner.visits _).bind fun _ => (r.size.visits _).map
  | line s => exact (s.visits index .line).map
  | arrow s => exact (s.visits index .arrow).map
  | gap s => exact (s.visits index .gap).map

theorem Drawing.listVisits (index : Nat) (ds : List (Drawing N)) :
    Visits f (Drawing.listMapM f index ds) (Drawing.listFields index ds) := by
  induction ds generalizing index with
  | nil => exact Visits.pure []
  | cons d ds ih => exact (d.visits index).bind fun _ => (ih (index + 1)).map

theorem Instructions.visits (i : Instructions N) : Visits f (i.mapM f) i.fields := by
  obtain ⟨crop, draw, stroke⟩ := i
  have ofCrop : Visits f (optionMapM (Crop.mapM f) crop) ((crop.map Crop.fields).getD []) := by
    cases crop with
    | none => exact Visits.pure none
    | some c => exact c.visits.map
  have ofStroke : Visits f (optionMapM (f ⟨.instructions, .strokeWidth⟩) stroke)
      (stroke.map fun n => (⟨.instructions, .strokeWidth⟩, n)).toList := by
    cases stroke with
    | none => exact Visits.pure none
    | some n => exact (Visits.field _ n).map
  rw [Instructions.fields, List.append_assoc]
  exact ofCrop.bind fun _ => (Drawing.listVisits 0 draw).bind fun _ => ofStroke.map

/-- A document is visited field by field, and the first field that fails decides. -/
theorem Document.visits (d : Document N) : Visits f (d.mapM f) d.fields := by
  rw [Document.fields, List.append_assoc]
  exact d.instructions.visits.bind fun _ => (d.dimensions.visits _).bind fun _ =>
    (d.finalDimensions.visits _).map

end PaintScript

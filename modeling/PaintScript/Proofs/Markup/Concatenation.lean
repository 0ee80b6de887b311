import PaintScript.Markup.Parser
import PaintScript.Proofs.Log

/-!
# Markup texts one after the other

Each segment adds a piece of markup by itself, and `ofSegments` puts the pieces together. So a text
that is continued after a `;` says what both parts say, with the indices of the second part moved.
-/

namespace PaintScript

def MissingArguments.shift (n : Nat) (e : MissingArguments) : MissingArguments :=
  { e with index := e.index + n }

namespace Markup

/-- What two markup texts say one after the other. A later crop replaces an earlier one. -/
def append (m k : Markup) : Markup :=
  ⟨k.crop <|> m.crop, m.draw ++ k.draw, m.ignored ++ k.ignored⟩

def shift (n : Nat) (m : Markup) : Markup :=
  { m with ignored := m.ignored.map fun i => { i with index := i.index + n } }

theorem append_assoc (m k l : Markup) : (m.append k).append l = m.append (k.append l) := by
  simp only [append, List.append_assoc, mk.injEq, and_self, and_true]
  cases l.crop <;> rfl

theorem append_of_crop_eq_none (draw : List (Drawing Numeric)) (ignored : List Ignored)
    (k : Markup) :
    (⟨none, draw, ignored⟩ : Markup).append k = ⟨k.crop, draw ++ k.draw, ignored ++ k.ignored⟩ := by
  simp only [append, mk.injEq, and_self, and_true]
  cases k.crop <;> rfl

theorem empty_append (k : Markup) : empty.append k = k :=
  append_of_crop_eq_none [] [] k

theorem shift_append (n : Nat) (m k : Markup) :
    (m.append k).shift n = (m.shift n).append (k.shift n) := by
  simp only [shift, append, List.map_append]

/-! ### Pieces -/

/-- What one segment adds to the markup around it. -/
def piece (index : Nat) (segment : List Char) : Except MissingArguments Markup :=
  match Instruction.ofSegment segment with
  | .blank => .ok empty
  | .unknown command => .ok ⟨none, [], [⟨index, command⟩]⟩
  | .incomplete command found => .error ⟨index, String.ofList segment, command, found⟩
  | .crop c _ => .ok ⟨some c, [], []⟩
  | .draw d _ => .ok ⟨none, [d], []⟩

/-- The pieces of segments put together, of which the first has the given index. -/
def pieces : Nat → List (List Char) → Except MissingArguments Markup
  | _, [] => .ok empty
  | index, segment :: rest => do
    let m ← piece index segment
    (pieces (index + 1) rest).map m.append

/-- The outcome of segments is that of their pieces, whether or not a crop came before them. -/
theorem outcome_ofSegments (index : Nat) (cropped : Bool) (segs : List (List Char)) :
    (ofSegments index cropped segs).outcome = pieces index segs := by
  induction segs generalizing index cropped with
  | nil => rfl
  | cons segment segs ih =>
    have later (c : Bool) (f : Markup → Markup) :
        ((ofSegments (index + 1) c segs).map f).outcome = (pieces (index + 1) segs).map f :=
      congrArg (Except.map f) (ih (index + 1) c)
    rw [ofSegments, pieces, piece]
    cases Instruction.ofSegment segment with
    | blank =>
      rw [ok_bind, funext empty_append]
      exact (ih (index + 1) cropped).trans (congrFun Except.map_id _).symm
    | unknown command =>
      rw [ok_bind, funext (append_of_crop_eq_none [] _)]
      exact later cropped _
    | incomplete command found => rfl
    | crop c surplus => exact later true _
    | draw d surplus =>
      rw [ok_bind, funext (append_of_crop_eq_none [d] [])]
      exact later cropped _

theorem pieces_append (index : Nat) (xs ys : List (List Char)) :
    pieces index (xs ++ ys) =
      pieces index xs >>= fun m => (pieces (index + xs.length) ys).map m.append := by
  induction xs generalizing index with
  | nil =>
    rw [pieces, ok_bind, funext empty_append]
    exact (congrFun Except.map_id _).symm
  | cons segment xs ih =>
    rw [List.cons_append, pieces, pieces, ih, List.length_cons, Nat.add_right_comm index]
    cases piece index segment with
    | error e => rfl
    | ok m =>
      cases pieces (index + 1) xs with
      | error e => rfl
      | ok k =>
        change ((pieces (index + xs.length + 1) ys).map k.append).map m.append =
          (pieces (index + xs.length + 1) ys).map (m.append k).append
        rw [funext (append_assoc m k)]
        cases pieces (index + xs.length + 1) ys <;> rfl

/-! ### Moved indices -/

def shiftOutcome (n : Nat) (x : Except MissingArguments Markup) : Except MissingArguments Markup :=
  (x.map (shift n)).mapError (MissingArguments.shift n)

theorem piece_shift (n index : Nat) (segment : List Char) :
    piece (index + n) segment = shiftOutcome n (piece index segment) := by
  unfold piece
  cases Instruction.ofSegment segment <;> rfl

theorem pieces_shift (n index : Nat) (segs : List (List Char)) :
    pieces (index + n) segs = shiftOutcome n (pieces index segs) := by
  induction segs generalizing index with
  | nil => rfl
  | cons segment segs ih =>
    rw [pieces, pieces, piece_shift, Nat.add_right_comm, ih]
    cases piece index segment with
    | error e => rfl
    | ok m =>
      cases pieces (index + 1) segs with
      | error e => rfl
      | ok k => exact congrArg Except.ok (shift_append n m k).symm

/-- Markup is read part by part. The first part that fails decides, and an index in the second part
counts the segments of the first. -/
theorem outcome_ofText_append (a b : String) :
    (ofText (a ++ ";" ++ b)).outcome =
      match (ofText a).outcome, (ofText b).outcome with
      | .error e, _ => .error e
      | .ok _, .error e => .error { e with index := e.index + (segments a.toList).length }
      | .ok m, .ok k => .ok
        { crop := k.crop <|> m.crop
          draw := m.draw ++ k.draw
          ignored := m.ignored ++
            k.ignored.map fun i => { i with index := i.index + (segments a.toList).length } } := by
  let n := (segments a.toList).length
  have parts : segments (a ++ ";" ++ b).toList = segments a.toList ++ segments b.toList := by
    rw [String.toList_append, String.toList_append, List.append_assoc]
    exact List.splitOn_append_cons_self a.toList b.toList
  have second : pieces (0 + n) (segments b.toList) = shiftOutcome n (pieces 0 (segments b.toList)) :=
    pieces_shift n 0 (segments b.toList)
  rw [ofText, ofText, ofText, outcome_ofSegments, outcome_ofSegments, outcome_ofSegments, parts,
    pieces_append, second]
  cases pieces 0 (segments a.toList) with
  | error e => rfl
  | ok m => cases pieces 0 (segments b.toList) <;> rfl

-- The unknown command of the second part has the index that it has in the whole.
example : (ofText ("blur,1;crop,0x0,4x4" ++ ";" ++ "glow")).outcome.map Markup.ignored =
    .ok [⟨0, "blur"⟩, ⟨2, "glow"⟩] := by cbv

end Markup
end PaintScript

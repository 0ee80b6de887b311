import PaintScript.Proofs.Markup.Accounting
import Mathlib.Logic.Relation

/-!
# Edits without effect

Blanks around a field, a segment without a command, unused arguments and a crop before another one
have no say in what a text draws. After any chain of such edits a text has the same crop and the
same drawings, or it is refused for the same command with the same number of arguments.
-/

namespace PaintScript

namespace Markup

/-! ### Edits -/

/-- Whether a field is another one with blanks at its ends. -/
def IsPadded (field padded : List Char) : Prop :=
  ∃ left right, (∀ c ∈ left, Text.isBlank c = true) ∧ (∀ c ∈ right, Text.isBlank c = true) ∧
    padded = left ++ field ++ right

/-- Whether segments become others when something without effect is added to them. -/
inductive Adds : List (List Char) → List (List Char) → Prop
  | blanks {before after : List (List Char)} {segment padded : List Char}
      (fields : List.Forall₂ IsPadded (segment.splitOn ',') (padded.splitOn ',')) :
      Adds (before ++ segment :: after) (before ++ padded :: after)
  | segment {before after : List (List Char)} {segment : List Char}
      (skipped : segment.all Text.isBlank = true ∨ command? segment = none) :
      Adds (before ++ after) (before ++ segment :: after)
  | argument {before after : List (List Char)} {segment : List Char} {command : Command}
      (calls : command? segment = some command) (enough : command.arity ≤ segment.count ',')
      (field : List Char) :
      Adds (before ++ segment :: after) (before ++ (segment ++ ',' :: field) :: after)
  | crop {before after : List (List Char)} {segment : List Char}
      (calls : command? segment = some .crop) (enough : 2 ≤ segment.count ',')
      (later : ∃ s ∈ after, command? s = some .crop) :
      Adds (before ++ after) (before ++ segment :: after)

/-- Whether a chain of additions and removals without effect leads from a text to another one. -/
def DiffersInNoise (text other : String) : Prop :=
  Relation.EqvGen Adds (segments text.toList) (segments other.toList)

/-! ### What counts -/

/-- What counts of an outcome: the crop with the drawings, or the command that lacks arguments with
the number of those that were found. -/
abbrev Gist :=
  Except (Command × Nat) (Option (Crop Numeric) × List (Drawing Numeric))

def gist (x : Except MissingArguments Markup) : Gist :=
  (x.map fun m => (m.crop, m.draw)).mapError fun e => (e.command, e.found)

def gistOf (segs : List (List Char)) : Gist :=
  gist (pieces 0 segs)

def Gist.append (x y : Gist) : Gist :=
  x >>= fun a => y.map fun b => (b.1 <|> a.1, a.2 ++ b.2)

def gistOfInstruction : Instruction → Gist
  | .blank => .ok (none, [])
  | .unknown _ => .ok (none, [])
  | .incomplete command found => .error (command, found)
  | .crop c _ => .ok (some c, [])
  | .draw d _ => .ok (none, [d])

theorem gist_pieces (index : Nat) (segs : List (List Char)) :
    gist (pieces index segs) = gistOf segs := by
  have moved := pieces_shift index 0 segs
  rw [Nat.zero_add] at moved
  rw [moved, gistOf]
  cases pieces 0 segs <;> rfl

theorem gistOf_append (xs ys : List (List Char)) :
    gistOf (xs ++ ys) = (gistOf xs).append (gistOf ys) := by
  rw [← gist_pieces (0 + xs.length) ys, gistOf, gistOf, pieces_append]
  cases pieces 0 xs with
  | error e => rfl
  | ok m => cases pieces (0 + xs.length) ys <;> rfl

theorem gistOf_cons (segment : List Char) (segs : List (List Char)) :
    gistOf (segment :: segs) =
      (gistOfInstruction (.ofSegment segment)).append (gistOf segs) := by
  have one : gistOf [segment] = gistOfInstruction (.ofSegment segment) := by
    rw [gistOf, pieces, piece]
    cases Instruction.ofSegment segment <;> rfl
  rw [← one, ← gistOf_append]
  rfl

/-- Nothing is added in front of a gist that has a crop, or by segments that draw nothing. -/
theorem Gist.append_of_crop {x : Gist} {crop : Option (Crop Numeric)}
    (h : crop = none ∨ ∀ g, x = .ok g → g.1.isSome = true) :
    Gist.append (.ok (crop, [])) x = x := by
  cases x with
  | error e => rfl
  | ok g =>
    obtain ⟨last, draw⟩ := g
    rcases h with rfl | cropped
    · cases last <;> rfl
    · obtain ⟨c, rfl⟩ := Option.isSome_iff_exists.mp (cropped _ rfl)
      rfl

/-! ### Single edits -/

theorem segmentFields_blank_iff {segment : List Char} :
    segment.all Text.isBlank = true ↔ segmentFields segment = [[]] := by
  have length := length_laterFields segment
  rw [segmentFields_eq, List.cons.injEq, List.all_eq_true, firstField, Text.trim_eq_nil_iff]
  constructor
  · intro blank
    have comma : ',' ∉ segment := fun member => absurd (blank _ member) (by decide)
    refine ⟨fun c member => blank c (List.takeWhile_subset _ member), ?_⟩
    rw [List.count_eq_zero.mpr comma] at length
    exact List.length_eq_zero_iff.mp length
  · rintro ⟨blank, nothing⟩
    rw [nothing] at length
    have comma : ',' ∉ segment := List.count_eq_zero.mp length.symm
    have whole : segment.takeWhile (· ≠ ',') = segment := by
      apply List.takeWhile_eq_self_iff.mpr
      intro c member
      exact decide_eq_true fun same => comma (same ▸ member)
    rwa [whole] at blank

/-- An instruction hangs on the trimmed fields alone. -/
theorem ofSegment_congr {segment other : List Char}
    (h : segmentFields segment = segmentFields other) :
    Instruction.ofSegment segment = Instruction.ofSegment other := by
  have blank : segment.all Text.isBlank = other.all Text.isBlank := by
    rw [Bool.eq_iff_iff, segmentFields_blank_iff, segmentFields_blank_iff, h]
  rw [Instruction.ofSegment, Instruction.ofSegment, h, blank]

theorem segmentFields_of_padded {segment padded : List Char}
    (fields : List.Forall₂ IsPadded (segment.splitOn ',') (padded.splitOn ',')) :
    segmentFields segment = segmentFields padded := by
  rw [segmentFields, segmentFields]
  generalize segment.splitOn ',' = pieces at fields ⊢
  generalize padded.splitOn ',' = others at fields ⊢
  induction fields with
  | nil => rfl
  | cons padded _ ih =>
    obtain ⟨left, right, before, after, rfl⟩ := padded
    rw [List.map_cons, List.map_cons, ih, Text.trim_padded _ before after]

theorem gistOfInstruction_skipped {segment : List Char} (unknown : command? segment = none) :
    gistOfInstruction (.ofSegment segment) = .ok (none, []) := by
  have made := makes_ofSegment segment
  generalize Instruction.ofSegment segment = instruction at made
  cases made with
  | blank _ => rfl
  | unknown _ _ => rfl
  | incomplete calls _ _ => simp [unknown] at calls
  | crop calls _ => simp [unknown] at calls
  | draw calls _ => simp [unknown] at calls

theorem gistOfInstruction_crop {segment : List Char} (calls : command? segment = some .crop)
    (enough : 2 ≤ segment.count ',') :
    ∃ c, gistOfInstruction (.ofSegment segment) = .ok (some c, []) := by
  have made := makes_ofSegment segment
  generalize Instruction.ofSegment segment = instruction at made
  cases made with
  | blank blank => simp [command?_of_blank blank] at calls
  | unknown _ unknown => simp [unknown] at calls
  | incomplete same count few =>
    obtain rfl := Option.some.inj (same.symm.trans calls)
    exact absurd (count ▸ few) (Nat.not_lt.mpr enough)
  | crop _ _ => exact ⟨_, rfl⟩
  | draw same _ => cases same.symm.trans calls

/-- Arguments behind those that a command needs are not used. -/
theorem gistOfInstruction_apply_append {command : Command} {arguments : List (List Char)}
    (enough : command.arity ≤ arguments.length) (more : List (List Char)) :
    gistOfInstruction (command.apply (arguments ++ more)) =
      gistOfInstruction (command.apply arguments) := by
  cases command with
  | crop =>
    match arguments, enough with
    | _ :: _ :: _, _ => rfl
  | draw shape =>
    match arguments, enough with
    | _ :: _ :: _ :: _, _ => rfl

theorem gistOfInstruction_argument {segment : List Char} {command : Command}
    (calls : command? segment = some command) (enough : command.arity ≤ segment.count ',')
    (field : List Char) :
    gistOfInstruction (.ofSegment (segment ++ ',' :: field)) =
      gistOfInstruction (.ofSegment segment) := by
  have longer : segmentFields (segment ++ ',' :: field) =
      firstField segment :: (laterFields segment ++ segmentFields field) := by
    rw [segmentFields, List.splitOn_append_cons_self, List.map_append, ← segmentFields,
      segmentFields_eq]
    rfl
  obtain ⟨first, later⟩ := List.cons.inj ((segmentFields_eq _).symm.trans longer)
  have again : command? (segment ++ ',' :: field) = some command := by
    rw [command?, first]
    exact calls
  rw [Instruction.ofSegment_of_command again, Instruction.ofSegment_of_command calls, later]
  exact gistOfInstruction_apply_append (length_laterFields segment ▸ enough) _

/-- Segments with a crop are refused, or a crop comes out. -/
theorem isSome_of_gistOf {segs : List (List Char)} (later : ∃ s ∈ segs, command? s = some .crop) :
    ∀ g, gistOf segs = .ok g → g.1.isSome = true := by
  intro g same
  obtain ⟨pair, mapped, -⟩ : ∃ pair, (pieces 0 segs).map (fun m => (m.crop, m.draw)) = .ok pair ∧
      pair = g := ⟨g, mapError_eq_ok_iff.mp same, rfl⟩
  obtain ⟨m, read, rfl⟩ := map_eq_ok_iff.mp (mapError_eq_ok_iff.mp same)
  exact (pieces_accounts read).crop.mpr later

theorem gistOf_adds {segs others : List (List Char)} (h : Adds segs others) :
    gistOf segs = gistOf others := by
  cases h with
  | blanks fields =>
    rw [gistOf_append, gistOf_cons, ofSegment_congr (segmentFields_of_padded fields),
      ← gistOf_cons, ← gistOf_append]
  | segment skipped =>
    have unknown := skipped.elim command?_of_blank id
    rw [gistOf_append, gistOf_append, gistOf_cons, gistOfInstruction_skipped unknown,
      Gist.append_of_crop (.inl rfl)]
  | argument calls enough field =>
    rw [gistOf_append, gistOf_append, gistOf_cons, gistOf_cons,
      gistOfInstruction_argument calls enough field]
  | crop calls enough later =>
    obtain ⟨c, made⟩ := gistOfInstruction_crop calls enough
    rw [gistOf_append, gistOf_append, gistOf_cons, made,
      Gist.append_of_crop (.inr (isSome_of_gistOf later))]

theorem gistOf_edits {segs others : List (List Char)} (h : Relation.EqvGen Adds segs others) :
    gistOf segs = gistOf others := by
  induction h with
  | rel _ _ adds => exact gistOf_adds adds
  | refl _ => rfl
  | symm _ _ _ ih => exact ih.symm
  | trans _ _ _ _ _ first second => exact first.trans second

/-- Texts that differ in noise are both read, and then with the same crop and the same drawings, or
both refused, and then for the same command with the same number of arguments. -/
theorem outcome_ofText_of_noise {text other : String} (h : DiffersInNoise text other) :
    match (ofText text).outcome, (ofText other).outcome with
    | .ok m, .ok k => m.crop = k.crop ∧ m.draw = k.draw
    | .error e, .error f =>
      e.command = f.command ∧ e.command.arity = f.command.arity ∧ e.found = f.found
    | _, _ => False := by
  have same : gist (pieces 0 (segments text.toList)) = gist (pieces 0 (segments other.toList)) :=
    gistOf_edits h
  rw [ofText, ofText, outcome_ofSegments, outcome_ofSegments]
  cases first : pieces 0 (segments text.toList) <;>
    cases second : pieces 0 (segments other.toList)
  all_goals rw [first, second] at same
  · obtain ⟨command, found⟩ := Prod.mk.inj (Except.error.inj same)
    exact ⟨command, congrArg _ command, found⟩
  · cases same
  · cases same
  · exact Prod.mk.inj (Except.ok.inj same)

/-- One text has an unknown command. The other one has blanks, an unused argument, a blank segment
and an earlier crop instead. -/
theorem outcome_ofText_of_padded_circle :
    let text := "circle,1x2,3,red;glow;crop,1x1,4x4"
    let other := " circle ,\t1x2,3 ,red,extra;;crop,axb,9x9;crop,1x1,4x4"
    DiffersInNoise text other ∧
      match (ofText text).outcome, (ofText other).outcome with
      | .ok m, .ok k => m.crop = k.crop ∧ m.draw = k.draw
      | .error e, .error f =>
        e.command = f.command ∧ e.command.arity = f.command.arity ∧ e.found = f.found
      | _, _ => False := by
  intro text other
  let circle := "circle,1x2,3,red".toList
  let longer := "circle,1x2,3,red,extra".toList
  let padded := " circle ,\t1x2,3 ,red,extra".toList
  let earlier := "crop,axb,9x9".toList
  let crop := "crop,1x1,4x4".toList
  have unknown : Adds ([circle] ++ [crop]) ([circle] ++ "glow".toList :: [crop]) :=
    .segment (.inr (by decide +kernel))
  have calls : command? circle = some (.draw .circle) := by decide +kernel
  have argument : Adds ([] ++ circle :: [crop]) ([] ++ longer :: [crop]) :=
    .argument calls (by decide +kernel) "extra".toList
  have blanks : Adds ([] ++ longer :: [crop]) ([] ++ padded :: [crop]) := by
    apply Adds.blanks
    rw [show longer.splitOn ',' = ["circle", "1x2", "3", "red", "extra"].map String.toList by
        decide +kernel,
      show padded.splitOn ',' = [" circle ", "\t1x2", "3 ", "red", "extra"].map String.toList by
        decide +kernel]
    have same (field : List Char) : IsPadded field field := ⟨[], [], nofun, nofun, by simp⟩
    have space : ∀ c ∈ [' '], Text.isBlank c = true := List.forall_mem_singleton.mpr rfl
    have tab : ∀ c ∈ ['\t'], Text.isBlank c = true := List.forall_mem_singleton.mpr rfl
    exact .cons ⟨[' '], [' '], space, space, rfl⟩ <| .cons ⟨['\t'], [], tab, nofun, rfl⟩ <|
      .cons ⟨[], [' '], nofun, space, rfl⟩ <| .cons (same _) <| .cons (same _) .nil
  have replaced : Adds ([padded] ++ [crop]) ([padded] ++ earlier :: [crop]) :=
    .crop (by decide +kernel) (by decide +kernel) ⟨crop, List.mem_cons_self, by decide +kernel⟩
  have blank : Adds ([padded] ++ [earlier, crop]) ([padded] ++ [] :: [earlier, crop]) :=
    .segment (.inl rfl)
  have noise : DiffersInNoise text other := by
    rw [DiffersInNoise,
      show segments text.toList = [circle, "glow".toList, crop] by decide +kernel,
      show segments other.toList = [padded, [], earlier, crop] by decide +kernel]
    exact .trans _ _ _ (.symm _ _ (.rel _ _ unknown)) <| .trans _ _ _ (.rel _ _ argument) <|
      .trans _ _ _ (.rel _ _ blanks) <| .trans _ _ _ (.rel _ _ replaced) (.rel _ _ blank)
  exact ⟨noise, outcome_ofText_of_noise noise⟩

end Markup
end PaintScript

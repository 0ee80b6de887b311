import PaintScript.Log

/-!
# Outcomes of steps

A chain of steps succeeds exactly if each step does, and the outcome of a logged chain is the chain
of the outcomes.
-/

namespace PaintScript

section

variable {ε ε' α β : Type}

theorem ok_bind (a : α) (f : α → Except ε β) : Except.ok a >>= f = f a := rfl

theorem bind_eq_ok_iff {x : Except ε α} {f : α → Except ε β} {b : β} :
    x >>= f = .ok b ↔ ∃ a, x = .ok a ∧ f a = .ok b := by
  cases x with
  | error e => simp [bind, Except.bind]
  | ok a => simp [bind, Except.bind]

theorem bind_eq_error_iff {x : Except ε α} {f : α → Except ε β} {e : ε} :
    x >>= f = .error e ↔ x = .error e ∨ ∃ a, x = .ok a ∧ f a = .error e := by
  cases x with
  | error e => simp [bind, Except.bind]
  | ok a => simp [bind, Except.bind]

theorem pure_eq_ok_iff {a b : α} : (pure a : Except ε α) = .ok b ↔ a = b := by
  simp [pure, Except.pure]

theorem map_eq_ok_iff {x : Except ε α} {f : α → β} {b : β} :
    x.map f = .ok b ↔ ∃ a, x = .ok a ∧ f a = b := by
  cases x with
  | error e => simp [Except.map]
  | ok a => simp [Except.map]

theorem map_eq_error_iff {x : Except ε α} {f : α → β} {e : ε} :
    x.map f = .error e ↔ x = .error e := by
  cases x with
  | error e => simp [Except.map]
  | ok a => simp [Except.map]

theorem mapError_eq_ok_iff {x : Except ε α} {f : ε → ε'} {a : α} :
    x.mapError f = .ok a ↔ x = .ok a := by
  cases x with
  | error e =>
    change Except.error (f e) = Except.ok a ↔ Except.error e = Except.ok a
    constructor <;> rintro ⟨⟩
  | ok b =>
    change Except.ok b = Except.ok a ↔ Except.ok b = Except.ok a
    rw [Except.ok.injEq, Except.ok.injEq]

theorem mapError_eq_error_iff {x : Except ε α} {f : ε → ε'} {e : ε'} :
    x.mapError f = .error e ↔ ∃ cause, x = .error cause ∧ f cause = e := by
  cases x with
  | error cause =>
    change Except.error (f cause) = Except.error e ↔ _
    simp only [Except.error.injEq, exists_eq_left']
  | ok a =>
    change Except.ok a = Except.error e ↔ _
    simp only [reduceCtorEq, false_and, exists_false]

theorem toOption_mapError (f : ε → ε') (x : Except ε α) :
    (x.mapError f).toOption = x.toOption := by
  cases x <;> rfl

end

namespace Logged

variable {σ ε ε' α β γ : Type}

@[simp] theorem outcome_bind (step : Logged ε α) (next : α → Logged ε β) :
    (step >>= next).outcome = step.outcome >>= fun a => (next a).outcome := by
  obtain ⟨log, outcome⟩ := step
  cases outcome with
  | error e => rfl
  | ok a => rfl

@[simp] theorem outcome_pure (a : α) : (pure a : Logged ε α).outcome = .ok a := rfl

@[simp] theorem outcome_tell (event : Event) :
    (tell event : Logged ε Unit).outcome = .ok () := rfl

@[simp] theorem outcome_ofExcept (x : Except ε α) : (ofExcept x).outcome = x := rfl

@[simp] theorem outcome_map (f : α → β) (step : Logged ε α) :
    (step.map f).outcome = step.outcome.map f := rfl

@[simp] theorem outcome_mapError (f : ε → ε') (step : Logged ε α) :
    (step.mapError f).outcome = step.outcome.mapError f := rfl

theorem ofExcept_ok_bind (a : α) (next : α → Logged ε β) :
    ofExcept (.ok a) >>= next = next a := rfl

theorem ok_bind (log : List Event) (a : α) (next : α → Logged ε β) :
    (⟨log, .ok a⟩ : Logged ε α) >>= next = (next a).after log := rfl

theorem error_bind (log : List Event) (e : ε) (next : α → Logged ε β) :
    (⟨log, .error e⟩ : Logged ε α) >>= next = ⟨log, .error e⟩ := rfl

theorem after_pure (log : List Event) (a : α) :
    (pure a : Logged ε α).after log = ⟨log, .ok a⟩ := by
  change (⟨log ++ [], .ok a⟩ : Logged ε α) = _
  rw [List.append_nil]

theorem after_bind (log : List Event) (step : Logged ε α) (next : α → Logged ε β) :
    step.after log >>= next = (step >>= next).after log := by
  obtain ⟨later, outcome⟩ := step
  cases outcome with
  | error e => rfl
  | ok a =>
    rw [ok_bind]
    change (next a).after (log ++ later) = ((next a).after later).after log
    simp only [after, List.append_assoc]

theorem bind_assoc (step : Logged ε α) (next : α → Logged ε β) (last : β → Logged ε γ) :
    step >>= next >>= last = step >>= fun a => next a >>= last := by
  obtain ⟨log, outcome⟩ := step
  cases outcome with
  | error e => rfl
  | ok a => rw [ok_bind, ok_bind, after_bind]

theorem pure_bind (a : α) (next : α → Logged ε β) : pure a >>= next = next a := rfl

theorem map_eq_bind (f : α → β) (step : Logged ε α) :
    step.map f = step >>= fun a => pure (f a) := by
  obtain ⟨log, outcome⟩ := step
  cases outcome with
  | error e => rfl
  | ok a =>
    rw [ok_bind, after_pure]
    rfl

/-! ### Steps with a state -/

theorem fst_bindWith (step : Logged ε α) (state : σ) (next : α → Logged ε β × σ) :
    (step.bindWith state next).1 = step >>= fun a => (next a).1 := by
  obtain ⟨log, outcome⟩ := step
  cases outcome <;> rfl

theorem ok_bindWith (log : List Event) (a : α) (state : σ) (next : α → Logged ε β × σ) :
    (⟨log, .ok a⟩ : Logged ε α).bindWith state next = ((next a).1.after log, (next a).2) := rfl

theorem error_bindWith (log : List Event) (e : ε) (state : σ) (next : α → Logged ε β × σ) :
    (⟨log, .error e⟩ : Logged ε α).bindWith state next = (⟨log, .error e⟩, state) := rfl

theorem ofExcept_ok_bindWith (a : α) (state : σ) (next : α → Logged ε β × σ) :
    (ofExcept (.ok a)).bindWith state next = next a := rfl

theorem ofExcept_error_bindWith (e : ε) (state : σ) (next : α → Logged ε β × σ) :
    (ofExcept (.error e)).bindWith state next = (ofExcept (.error e), state) := rfl

end Logged
end PaintScript

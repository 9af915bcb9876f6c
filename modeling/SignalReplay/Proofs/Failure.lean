/-!
Steps that may fail. A chain of steps succeeds exactly if each step does, also where the steps
change a state on their way.
-/

namespace SignalReplay

theorem bind_eq_ok_iff {step : Except ε α} {next : α → Except ε β} {result : β} :
    (step >>= next) = .ok result ↔ ∃ value, step = .ok value ∧ next value = .ok result := by
  cases step <;> simp [bind, Except.bind]

theorem bind_eq_error_iff {step : Except ε α} {next : α → Except ε β} {error : ε} :
    (step >>= next) = .error error ↔
      step = .error error ∨ ∃ value, step = .ok value ∧ next value = .error error := by
  cases step <;> simp [bind, Except.bind]

@[simp]
theorem map_eq_ok_iff {step : Except ε α} {change : α → β} {result : β} :
    step.map change = .ok result ↔ ∃ value, step = .ok value ∧ change value = result := by
  cases step <;> simp [Except.map]

@[simp]
theorem map_eq_error_iff {step : Except ε α} {change : α → β} {error : ε} :
    step.map change = .error error ↔ step = .error error := by
  cases step <;> simp [Except.map]

@[simp]
theorem mapError_eq_error_iff {step : Except ε α} {change : ε → η} {error : η} :
    step.mapError change = .error error ↔ ∃ cause, step = .error cause ∧ change cause = error := by
  constructor
  · intro failed
    cases step with
    | error cause => exact ⟨cause, rfl, Except.error.inj failed⟩
    | ok value => cases failed
  · rintro ⟨cause, rfl, rfl⟩
    rfl

@[simp]
theorem mapError_eq_ok_iff {step : Except ε α} {change : ε → η} {value : α} :
    step.mapError change = .ok value ↔ step = .ok value := by
  cases step with
  | error error =>
      constructor
      all_goals
        intro equal
        cases equal
  | ok found =>
      change (Except.ok found : Except η α) = .ok value ↔ (Except.ok found : Except ε α) = .ok value
      simp

theorem exists_eq_ok {step : Except ε α} (succeeds : step.isOk = true) :
    ∃ value, step = .ok value := by
  cases step with
  | error error => cases succeeds
  | ok value => exact ⟨value, rfl⟩

@[simp]
theorem toOption_eq_some_iff {step : Except ε α} {value : α} :
    step.toOption = some value ↔ step = .ok value := by
  cases step <;> simp [Except.toOption]

inductive EndAlike (Alike : ε → ε → Prop) : Except ε α → Except ε α → Prop
  | ok (value : α) : EndAlike Alike (.ok value) (.ok value)
  | error {left right : ε} (alike : Alike left right) : EndAlike Alike (.error left) (.error right)

theorem EndAlike.imp {Alike Other : ε → ε → Prop} {left right : Except ε α}
    (ends : EndAlike Alike left right)
    (weaker : ∀ left right, Alike left right → Other left right) : EndAlike Other left right := by
  cases ends with
  | ok value => exact .ok value
  | error alike => exact .error (weaker _ _ alike)

theorem EndAlike.eq_ok {Alike : ε → ε → Prop} {left right : Except ε α} {value : α}
    (ends : EndAlike Alike left right) (succeeds : left = .ok value) : right = .ok value := by
  cases ends with
  | ok other => exact succeeds
  | error alike => cases succeeds

theorem EndAlike.bind {Alike : ε → ε → Prop} {left right : Except ε α}
    {leftNext rightNext : α → Except ε β} (first : EndAlike Alike left right)
    (next : ∀ value, EndAlike Alike (leftNext value) (rightNext value)) :
    EndAlike Alike (left >>= leftNext) (right >>= rightNext) := by
  cases first with
  | ok value => exact next value
  | error alike => exact .error alike

/-- What a session leaves behind: its result and the state after it. -/
abbrev finish (session : ExceptT ε (StateM σ) α) (state : σ) : Except ε α × σ :=
  session.run.run state

theorem finish_bind (first : ExceptT ε (StateM σ) α) (next : α → ExceptT ε (StateM σ) β)
    (state : σ) :
    finish (first >>= next) state =
      match finish first state with
      | (.ok value, between) => finish (next value) between
      | (.error error, between) => (.error error, between) := by
  unfold finish
  rw [ExceptT.run_bind, StateT.run_bind]
  rcases first.run.run state with ⟨ended, between⟩
  cases ended <;> rfl

theorem finish_bind_eq_ok_iff {first : ExceptT ε (StateM σ) α}
    {next : α → ExceptT ε (StateM σ) β} {state last : σ} {result : β} :
    finish (first >>= next) state = (.ok result, last) ↔
      ∃ value between, finish first state = (.ok value, between) ∧
        finish (next value) between = (.ok result, last) := by
  rw [finish_bind]
  rcases finish first state with ⟨ended, between⟩
  cases ended with
  | error error => simp
  | ok value =>
      constructor
      · exact fun later => ⟨value, between, rfl, later⟩
      · rintro ⟨_, _, equal, later⟩
        cases equal
        exact later

theorem finish_bind_eq_error_iff {first : ExceptT ε (StateM σ) α}
    {next : α → ExceptT ε (StateM σ) β} {state last : σ} {error : ε} :
    finish (first >>= next) state = (.error error, last) ↔
      finish first state = (.error error, last) ∨
        ∃ value between, finish first state = (.ok value, between) ∧
          finish (next value) between = (.error error, last) := by
  rw [finish_bind]
  rcases finish first state with ⟨ended, between⟩
  cases ended with
  | error error => simp
  | ok value =>
      constructor
      · exact fun later => .inr ⟨value, between, rfl, later⟩
      · rintro (ended | ⟨_, _, equal, later⟩)
        · cases ended
        · cases equal
          exact later

@[simp]
theorem finish_liftExcept (result : Except ε α) (state : σ) :
    finish (liftExcept result : ExceptT ε (StateM σ) α) state = (result, state) := by
  cases result <;> rfl

@[simp]
theorem finish_adapt (session : ExceptT ε (StateM σ) α) (change : ε → η) (state : σ) :
    finish (session.adapt change) state =
      ((finish session state).1.mapError change, (finish session state).2) := rfl

end SignalReplay

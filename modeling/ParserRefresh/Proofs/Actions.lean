import ParserRefresh.Refresh.Basic

/-! # Laws of actions

Actions put after each other are one action, however they are grouped. What an action ends in says
what its parts ended in, one after the other. -/

namespace ParserRefresh.Action

variable {σ α β γ : Type} {action : Action σ α} {before after : Workspace σ} {fault : Fault}

theorem bind_apply (action : Action σ α) (next : α → Action σ β) (before : Workspace σ) :
    (action >>= next) before =
      match action before with
      | (.ok value, after) => next value after
      | (.error fault, after) => (.error fault, after) := rfl

theorem map_apply (f : α → β) (action : Action σ α) (before : Workspace σ) :
    (f <$> action) before =
      match action before with
      | (.ok value, after) => (.ok (f value), after)
      | (.error fault, after) => (.error fault, after) := rfl

instance : LawfulMonad (Action σ) := by
  refine LawfulMonad.mk' (Action σ) ?_ ?_ ?_
  · intro α action
    funext before
    rw [map_apply]
    rcases action before with ⟨_ | _, _⟩ <;> rfl
  · intro α β value next
    rfl
  · intro α β γ action next last
    funext before
    rw [bind_apply, bind_apply, bind_apply]
    rcases action before with ⟨_ | _, _⟩ <;> rfl

theorem bind_eq_ok_iff {next : α → Action σ β} {value : β} :
    (action >>= next) before = (.ok value, after) ↔
      ∃ inner between, action before = (.ok inner, between) ∧
        next inner between = (.ok value, after) := by
  rw [bind_apply]
  rcases action before with ⟨_ | _, _⟩ <;> simp [and_assoc]

theorem bind_eq_error_iff {next : α → Action σ β} :
    (action >>= next) before = (.error fault, after) ↔
      action before = (.error fault, after) ∨
        ∃ inner between, action before = (.ok inner, between) ∧
          next inner between = (.error fault, after) := by
  rw [bind_apply]
  rcases action before with ⟨_ | _, _⟩ <;> simp [and_assoc]

theorem map_eq_ok_iff {f : α → β} {value : β} :
    (f <$> action) before = (.ok value, after) ↔
      ∃ inner, action before = (.ok inner, after) ∧ f inner = value := by
  rw [map_apply]
  rcases action before with ⟨_ | _, _⟩
  · simp
  · simpa [and_assoc] using and_comm

theorem map_eq_error_iff {f : α → β} :
    (f <$> action) before = (.error fault, after) ↔ action before = (.error fault, after) := by
  rw [map_apply]
  rcases action before with ⟨_ | _, _⟩ <;> simp

theorem fst_map_eq_error_iff {f : α → β} :
    ((f <$> action) before).1 = .error fault ↔ (action before).1 = .error fault := by
  rw [map_apply]
  rcases action before with ⟨_ | _, _⟩ <;> simp

theorem exists_of_map {f : α → β} {outcome : Except Fault β}
    (ended : (f <$> action) before = (outcome, after)) : ∃ inner, action before = (inner, after) := by
  rw [map_apply] at ended
  generalize action before = ending at ended ⊢
  obtain ⟨_ | _, _⟩ := ending
  · cases ended
    exact ⟨_, rfl⟩
  · cases ended
    exact ⟨_, rfl⟩

theorem pure_eq_ok_iff {value result : α} :
    (pure value : Action σ α) before = (.ok result, after) ↔ value = result ∧ before = after := by
  have whole : (pure value : Action σ α) before = (.ok value, before) := rfl
  rw [whole, Prod.mk.injEq, Except.ok.injEq]

theorem ofExcept_eq_iff {outcome result : Except Fault α} :
    ofExcept outcome before = (result, after) ↔ outcome = result ∧ before = after := by
  rw [ofExcept, Prod.mk.injEq]

theorem ofAttempt_eq_ok_iff {attempt : Attempt α} {value : α} :
    ofAttempt attempt before = (.ok value, after) ↔
      attempt.result = .ok value ∧
        after = { before with
          journal := before.journal ++ attempt.warnings.map Event.warned } := by
  have whole : ofAttempt attempt before = (attempt.result, { before with
      journal := before.journal ++ attempt.warnings.map Event.warned }) := rfl
  rw [whole, Prod.mk.injEq, eq_comm (a := after)]

theorem load_eq_iff {path : Path} {result : Except Fault SourceUnit} :
    load path before = (result, after) ↔
      SourceUnit.load before.files path = result ∧ before = after := by
  have whole : load path before = (SourceUnit.load before.files path, before) := rfl
  rw [whole, Prod.mk.injEq]

theorem blame_ok (step : Step) (value : α) : blame step (.ok value) = .ok value := rfl

theorem blame_error (step : Step) (fault : Fault) :
    blame step (.error fault : Except Fault α) = .error (fault.inStep step) := rfl

theorem during_apply (step : Step) (action : Action σ α) (before : Workspace σ) :
    action.during step before = (blame step (action before).1, (action before).2) := rfl

theorem during_map (step : Step) (f : α → β) (action : Action σ α) :
    during step (f <$> action) = f <$> during step action := by
  funext before
  rw [map_apply, during_apply, during_apply, map_apply]
  rcases action before with ⟨_ | _, _⟩ <;> rfl

theorem during_eq_ok_iff {step : Step} {value : α} :
    action.during step before = (.ok value, after) ↔ action before = (.ok value, after) := by
  rw [during_apply]
  rcases action before with ⟨_ | _, _⟩
  · simp [blame_error]
  · rw [blame_ok]

theorem during_eq_error_iff {step : Step} :
    action.during step before = (.error fault, after) ↔
      ∃ inner, action before = (.error inner, after) ∧ inner.inStep step = fault := by
  rw [during_apply]
  rcases action before with ⟨_ | _, _⟩
  · simp [blame_error, and_assoc, and_comm]
  · simp [blame_ok]

end ParserRefresh.Action

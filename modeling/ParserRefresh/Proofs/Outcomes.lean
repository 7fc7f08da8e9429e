import ParserRefresh.Flatten

/-! # Outcomes of passes

A pass that is made of two succeeds through a text between them. Two outcomes agree up to a
relation of values when both are values and these are related, or both are the same fault; passes
that agree up to a relation of texts can be put together. -/

namespace ParserRefresh

theorem map_eq_ok_iff {ε α β : Type} {outcome : Except ε α} {f : α → β} {value : β} :
    outcome.map f = .ok value ↔ ∃ inner, outcome = .ok inner ∧ f inner = value := by
  cases outcome <;> simp [Except.map]

theorem map_eq_error_iff {ε α β : Type} {outcome : Except ε α} {f : α → β} {fault : ε} :
    outcome.map f = .error fault ↔ outcome = .error fault := by
  cases outcome <;> simp [Except.map]

theorem bind_eq_ok_iff {ε α β : Type} {outcome : Except ε α} {next : α → Except ε β} {value : β} :
    outcome >>= next = .ok value ↔ ∃ inner, outcome = .ok inner ∧ next inner = .ok value := by
  cases outcome with
  | ok inner => exact ⟨fun done => ⟨inner, rfl, done⟩, fun ⟨_, rfl, done⟩ => done⟩
  | error fault => exact ⟨nofun, fun ⟨_, same, _⟩ => nomatch same⟩

/-- What the second of two passes ends with starts from what the first one ends with. -/
theorem Pass.result_and_eq_ok_iff {first second : Pass} {text out : Text} :
    ((first.and second) text).result = .ok out ↔
      ∃ between, (first text).result = .ok between ∧ (second between).result = .ok out := by
  unfold Pass.and Attempt.andThen
  cases (first text).result <;> simp

inductive SameOutcome {ε α β : Type} (related : α → β → Prop) : Except ε α → Except ε β → Prop where
  | ok {left : α} {right : β} (values : related left right) :
    SameOutcome related (.ok left) (.ok right)
  | error (fault : ε) : SameOutcome related (.error fault) (.error fault)

namespace SameOutcome

variable {ε α β γ δ : Type} {related : α → β → Prop} {left : Except ε α} {right : Except ε β}

theorem map {onto : γ → δ → Prop} {f : α → γ} {g : β → δ} (same : SameOutcome related left right)
    (maps : ∀ a b, related a b → onto (f a) (g b)) :
    SameOutcome onto (left.map f) (right.map g) := by
  cases same with
  | ok values => exact .ok (maps _ _ values)
  | error fault => exact .error fault

theorem eq {left right : Except ε α} (same : SameOutcome Eq left right) : left = right := by
  cases same with
  | ok values => rw [values]
  | error fault => rfl

end SameOutcome

/-- Two attempts that give the same warnings and agree in their outcome. -/
structure SameAttempt {α β : Type} (related : α → β → Prop) (left : Attempt α) (right : Attempt β) :
    Prop where
  result : SameOutcome related left.result right.result
  warnings : left.warnings = right.warnings

theorem SameAttempt.andThen {α β γ δ : Type} {related : α → β → Prop} {onto : γ → δ → Prop}
    {left : Attempt α} {right : Attempt β} {next : α → Attempt γ} {other : β → Attempt δ}
    (same : SameAttempt related left right)
    (goesOn : ∀ a b, related a b → SameAttempt onto (next a) (other b)) :
    SameAttempt onto (left.andThen next) (right.andThen other) := by
  obtain ⟨result, warnings⟩ := same
  unfold Attempt.andThen
  generalize left.result = before at result
  generalize right.result = after at result
  cases result with
  | ok values =>
    obtain ⟨later, more⟩ := goesOn _ _ values
    refine ⟨later, ?_⟩
    simp only [warnings, more]
  | error fault => exact ⟨.error fault, warnings⟩

theorem SameAttempt.eq {α : Type} {left right : Attempt α} (same : SameAttempt Eq left right) :
    left = right := by
  obtain ⟨result, warnings⟩ := same
  have values := result.eq
  cases left
  cases right
  cases values
  cases warnings
  rfl

end ParserRefresh

/-!
# Outcomes

When a step that may fail succeeds, in terms of the steps that it is made of.
-/

namespace Superstep

/-- Describing an error anew does not touch a success. -/
theorem mapError_ok_iff {ε δ α : Type} (outcome : Except ε α) (describe : ε → δ) (value : α) :
    outcome.mapError describe = .ok value ↔ outcome = .ok value := by
  cases outcome with
  | ok held =>
    constructor
    · intro same
      cases same
      rfl
    · intro same
      cases same
      rfl
  | error error =>
    constructor
    · intro impossible
      cases impossible
    · intro impossible
      cases impossible

theorem except_bind_ok_iff {ε α β : Type} (step : Except ε α) (next : α → Except ε β) (value : β) :
    (step >>= next) = .ok value ↔ ∃ result, step = .ok result ∧ next result = .ok value := by
  cases step with
  | error error => simp [bind, Except.bind]
  | ok held => simp [bind, Except.bind]

theorem mapError_congr {ε δ α : Type} (outcome : Except ε α) (describe other : ε → δ)
    (same : ∀ error, outcome = .error error → describe error = other error) :
    outcome.mapError describe = outcome.mapError other := by
  cases outcome with
  | ok held => rfl
  | error error => exact congrArg Except.error (same error rfl)

theorem map_mapError {ε δ α β : Type} (outcome : Except ε α) (describe : ε → δ)
    (change : α → β) :
    (outcome.mapError describe).map change = (outcome.map change).mapError describe := by
  cases outcome <;> rfl

/-- A changed value comes from a value. -/
theorem except_map_ok_iff {ε α β : Type} (outcome : Except ε α) (change : α → β) (value : β) :
    outcome.map change = .ok value ↔ ∃ held, outcome = .ok held ∧ change held = value := by
  cases outcome with
  | error error =>
    constructor
    · intro impossible
      cases impossible
    · rintro ⟨held, impossible, _⟩
      cases impossible
  | ok held =>
    constructor
    · intro same
      exact ⟨held, rfl, Except.ok.inj same⟩
    · rintro ⟨other, same, rfl⟩
      cases same
      rfl

theorem ok_of_toOption {ε α : Type} (outcome : Except ε α) (value : α)
    (held : outcome.toOption = some value) : outcome = .ok value := by
  cases outcome with
  | error error => cases held
  | ok other => rw [Option.some.inj held]

end Superstep

import Mathlib.Tactic.Common

/-!
# Computations that throw

A sequence of computations succeeds if all of them do, and throws what the first
one throws that fails.
-/

namespace Mysql2.Script

variable {ε α β : Type} {first : Except ε α}

theorem ok_bind (value : α) (next : α → Except ε β) : (.ok value : Except ε α) >>= next = next value :=
  rfl

theorem bind_eq_ok_iff {next : α → Except ε β} {result : β} :
    first >>= next = .ok result ↔ ∃ value, first = .ok value ∧ next value = .ok result := by
  cases first with
  | error error => simp [bind, Except.bind]
  | ok value => simp [bind, Except.bind]

theorem bind_eq_error_iff {next : α → Except ε β} {error : ε} :
    first >>= next = .error error ↔
      first = .error error ∨ ∃ value, first = .ok value ∧ next value = .error error := by
  cases first with
  | error error => simp [bind, Except.bind]
  | ok value => simp [bind, Except.bind]

theorem map_eq_ok_iff {next : α → β} {result : β} :
    first.map next = .ok result ↔ ∃ value, first = .ok value ∧ next value = result := by
  cases first with
  | error error => simp [Except.map]
  | ok value => simp [Except.map]

theorem pure_eq_ok_iff {value result : α} :
    (pure value : Except ε α) = .ok result ↔ value = result := by
  constructor
  · rintro ⟨⟩
    rfl
  · rintro rfl
    rfl

/-- A computation with a state that returns, followed by another. -/
theorem run_bind_of_returns {σ γ : Type} {computation : StateT σ (Except ε) α}
    {next : α → StateT σ (Except ε) γ} {before after : σ} {value : α}
    (returns : computation.run before = .ok (value, after)) :
    (computation >>= next).run before = (next value).run after := by
  rw [StateT.run_bind, returns]
  rfl

/-- A computation that looks at its state first. -/
theorem run_get_then {σ γ : Type} (next : σ → StateT σ (Except ε) γ) (state : σ) :
    (get >>= next).run state = (next state).run state :=
  rfl

end Mysql2.Script

import Mathlib.Tactic.Common

/-!
# Pre- and postconditions of computations that throw

The effects of a computation stay when it throws, so what holds then is a postcondition of its
own.
-/

namespace Mysql2.Script

variable {ε σ α β : Type}

/-- What a computation comes to from a state. -/
def outcome (computation : ExceptT ε (StateM σ) α) (state : σ) : Except ε α × σ :=
  computation.run state

theorem outcome_bind (computation : ExceptT ε (StateM σ) α) (next : α → ExceptT ε (StateM σ) β)
    (state : σ) : outcome (computation >>= next) state =
      match outcome computation state with
      | (.ok value, after) => outcome (next value) after
      | (.error error, after) => (.error error, after) := by
  show (match (computation.run state) with
    | (result, after) => (ExceptT.bindCont next result).run after) = _
  rw [outcome]
  rcases computation.run state with ⟨result, after⟩
  cases result with
  | ok value => rfl
  | error error => rfl

/-- From every state with `before`, the computation returns with `after`, or throws with
`thrown`. -/
def Triple (before : σ → Prop) (computation : ExceptT ε (StateM σ) α) (after : α → σ → Prop)
    (thrown : ε → σ → Prop) : Prop :=
  ∀ state, before state →
    (∀ value final, outcome computation state = (.ok value, final) → after value final) ∧
      ∀ error final, outcome computation state = (.error error, final) → thrown error final

namespace Triple

variable {before : σ → Prop} {computation : ExceptT ε (StateM σ) α} {after : α → σ → Prop}
  {thrown : ε → σ → Prop} {next : α → ExceptT ε (StateM σ) β} {final : β → σ → Prop}

theorem weaken {after' : α → σ → Prop} {thrown' : ε → σ → Prop}
    (triple : Triple before computation after thrown)
    (returns : ∀ value state, after value state → after' value state)
    (throws : ∀ error state, thrown error state → thrown' error state) :
    Triple before computation after' thrown' := by
  intro state holds
  obtain ⟨ok, failed⟩ := triple state holds
  exact ⟨fun value final run => returns _ _ (ok value final run),
    fun error final run => throws _ _ (failed error final run)⟩

theorem strengthen {before' : σ → Prop} (triple : Triple before computation after thrown)
    (implies : ∀ state, before' state → before state) :
    Triple before' computation after thrown :=
  fun state holds => triple state (implies state holds)

theorem pure (value : α) :
    Triple (after value) (pure value : ExceptT ε (StateM σ) α) after thrown := by
  intro state holds
  constructor
  · rintro _ _ ⟨⟩
    exact holds
  · rintro _ _ ⟨⟩

theorem throw (error : ε) :
    Triple (thrown error) (throw error : ExceptT ε (StateM σ) α) after thrown := by
  intro state holds
  constructor
  · rintro _ _ ⟨⟩
  · rintro _ _ ⟨⟩
    exact holds

theorem modify (update : σ → σ) {after : PUnit → σ → Prop} :
    Triple (fun state => after ⟨⟩ (update state))
      (modify update : ExceptT ε (StateM σ) PUnit) after thrown := by
  intro state holds
  constructor
  · rintro _ _ ⟨⟩
    exact holds
  · rintro _ _ ⟨⟩

theorem bind (first : Triple before computation after thrown)
    (second : ∀ value, Triple (after value) (next value) final thrown) :
    Triple before (computation >>= next) final thrown := by
  intro state holds
  obtain ⟨ok, failed⟩ := first state holds
  rw [outcome_bind]
  cases run : outcome computation state with
  | mk result between =>
      cases result with
      | ok value => exact second value between (ok value between run)
      | error error =>
          constructor
          · rintro _ _ ⟨⟩
          · rintro _ _ ⟨⟩
            exact failed error between run

/-- A computation that looks at its state first. -/
theorem get {next : σ → ExceptT ε (StateM σ) β}
    (later : ∀ state, before state → Triple (· = state) (next state) final thrown) :
    Triple before (get >>= next) final thrown := by
  intro state holds
  rw [outcome_bind]
  exact later state holds state rfl

end Triple

end Mysql2.Script

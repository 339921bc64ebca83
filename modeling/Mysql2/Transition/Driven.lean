import Mysql2.Transition.Mealy

/-!
# Driven machines

A driver chooses the next input of a machine by its state and a count of its own, or
stops.  A driven run that ends is a derivation.
-/

namespace Mysql2.Transition

universe u v w x

variable {σ : Type u} {ε : Type v} {ο : Type w} {κ : Type x}

/-- The next input, with the count behind it. -/
abbrev Driver (σ : Type u) (ε : Type v) (κ : Type x) :=
  κ → σ → Option (ε × κ)

/-- The driver stops behind a run with these outputs. -/
inductive Drives (step : Step σ ε ο) (next : Driver σ ε κ) : κ → σ → List ο → Prop
  | stop {count : κ} {state : σ} : next count state = none → Drives step next count state []
  | step {count later : κ} {state : σ} {input : ε} {outputs : List ο} :
      next count state = some (input, later) →
      Drives step next later (step state input).1 outputs →
      Drives step next count state ((step state input).2 ++ outputs)

namespace Drives

variable {step : Step σ ε ο} {next : Driver σ ε κ} {count later : κ} {state : σ} {input : ε}
  {outputs : List ο}

theorem stop_iff (stops : next count state = none) :
    Drives step next count state outputs ↔ outputs = [] := by
  constructor
  · intro drives
    cases drives with
    | stop _ => rfl
    | step chosen _ =>
        rw [stops] at chosen
        cases chosen
  · rintro rfl
    exact .stop stops

theorem step_iff (chosen : next count state = some (input, later)) :
    Drives step next count state outputs ↔
      ∃ rest, Drives step next later (step state input).1 rest ∧
        outputs = (step state input).2 ++ rest := by
  constructor
  · intro drives
    cases drives with
    | stop stops =>
        rw [stops] at chosen
        cases chosen
    | step other drives =>
        rw [chosen] at other
        cases other
        exact ⟨_, drives, rfl⟩
  · rintro ⟨rest, drives, rfl⟩
    exact .step chosen drives

/-- There is one run. -/
theorem unique {other : List ο} (drives : Drives step next count state outputs)
    (drivesOther : Drives step next count state other) : outputs = other := by
  induction drives generalizing other with
  | stop stops => exact ((stop_iff stops).mp drivesOther).symm
  | step chosen _ ih =>
      obtain ⟨rest, drives, rfl⟩ := (step_iff chosen).mp drivesOther
      rw [ih drives]

end Drives

end Mysql2.Transition

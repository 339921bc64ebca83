import Mysql2.Transition.Mealy

/-!
# Conditions on the past of a run

A condition on each step of a run may speak about the outputs produced before the
step, besides the state and the input.
-/

namespace Mysql2.Transition

universe u v w

variable {σ : Type u} {ε : Type v} {ο : Type w}

/-- Every step of the run from `state` over the inputs, behind some outputs, meets
`condition`, a condition on the outputs before the step, the state and the input. -/
def Throughout (step : Step σ ε ο) (condition : List ο → σ → ε → Prop) :
    List ο → σ → List ε → Prop
  | _, _, [] => True
  | outputs, state, input :: inputs =>
      condition outputs state input ∧
        Throughout step condition (outputs ++ (step state input).2) (step state input).1 inputs

instance Throughout.decidable (step : Step σ ε ο) (condition : List ο → σ → ε → Prop)
    [∀ outputs state input, Decidable (condition outputs state input)] :
    ∀ outputs state inputs, Decidable (Throughout step condition outputs state inputs)
  | _, _, [] => isTrue trivial
  | outputs, state, input :: inputs =>
      let _later := Throughout.decidable step condition (outputs ++ (step state input).2)
        (step state input).1 inputs
      inferInstanceAs (Decidable (condition outputs state input ∧ Throughout step condition
        (outputs ++ (step state input).2) (step state input).1 inputs))

namespace Throughout

variable {step : Step σ ε ο} {condition other : List ο → σ → ε → Prop} {outputs : List ο}
  {state : σ} {inputs : List ε}

/-- An invariant of the outputs and the state that every step meeting the condition
preserves holds behind the run. -/
theorem invariant (holds : List ο → σ → Prop)
    (preserved : ∀ outputs state input, holds outputs state → condition outputs state input →
      holds (outputs ++ (step state input).2) (step state input).1)
    (met : Throughout step condition outputs state inputs) (before : holds outputs state) :
    holds (outputs ++ (run step state inputs).2) (run step state inputs).1 := by
  induction inputs generalizing outputs state with
  | nil => simpa using before
  | cons input inputs ih =>
      have after := ih met.2 (preserved outputs state input before met.1)
      simpa [List.append_assoc] using after

/-- What follows from the condition where an invariant of the states holds. -/
theorem imp (holds : σ → Prop)
    (preserved : ∀ state input, holds state → holds (step state input).1)
    (implied : ∀ outputs state input, holds state → condition outputs state input →
      other outputs state input)
    (met : Throughout step condition outputs state inputs) (before : holds state) :
    Throughout step other outputs state inputs := by
  induction inputs generalizing outputs state with
  | nil => trivial
  | cons input inputs ih =>
      exact ⟨implied outputs state input before met.1,
        ih met.2 (preserved state input before)⟩

end Throughout

end Mysql2.Transition

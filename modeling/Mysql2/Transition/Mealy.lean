import Mathlib.Tactic.Common

/-!
# Runs of machines with output

A step function turns a state and an input into the next state and a list of
outputs.  A run feeds a list of inputs and collects the outputs.  Invariants
may speak about the outputs produced so far, and may rely on a condition that
every step of the run meets.
-/

namespace Mysql2.Transition

universe u v w

variable {σ : Type u} {ε : Type v} {ο : Type w}

/-- Next state and outputs of one input. -/
abbrev Step (σ : Type u) (ε : Type v) (ο : Type w) :=
  σ → ε → σ × List ο

/-- Feed a list of inputs, collecting the outputs in order. -/
def run (step : Step σ ε ο) : σ → List ε → σ × List ο
  | state, [] => (state, [])
  | state, input :: inputs =>
      ((run step (step state input).1 inputs).1,
        (step state input).2 ++ (run step (step state input).1 inputs).2)

@[simp]
theorem run_nil (step : Step σ ε ο) (state : σ) : run step state [] = (state, []) :=
  rfl

@[simp]
theorem run_cons (step : Step σ ε ο) (state : σ) (input : ε) (inputs : List ε) :
    run step state (input :: inputs) =
      ((run step (step state input).1 inputs).1,
        (step state input).2 ++ (run step (step state input).1 inputs).2) :=
  rfl

theorem run_append (step : Step σ ε ο) (state : σ) (inputs more : List ε) :
    run step state (inputs ++ more) =
      ((run step (run step state inputs).1 more).1,
        (run step state inputs).2 ++ (run step (run step state inputs).1 more).2) := by
  induction inputs generalizing state with
  | nil => rfl
  | cons input inputs ih => simp [ih]

/-- A state that no input leaves or gets an output from is the end of all its runs. -/
theorem run_of_stays {step : Step σ ε ο} {state : σ}
    (stays : ∀ input, step state input = (state, [])) (inputs : List ε) :
    run step state inputs = (state, []) := by
  induction inputs with
  | nil => rfl
  | cons input inputs ih =>
      rw [run_cons, stays, ih]
      rfl

/-- Every step of the run from `state` over the inputs meets `condition`, a
condition on the state before the step and the input. -/
def Meets (step : Step σ ε ο) (condition : σ → ε → Prop) : σ → List ε → Prop
  | _, [] => True
  | state, input :: inputs =>
      condition state input ∧ Meets step condition (step state input).1 inputs

@[simp]
theorem meets_nil (step : Step σ ε ο) (condition : σ → ε → Prop) (state : σ) :
    Meets step condition state [] :=
  trivial

@[simp]
theorem meets_cons (step : Step σ ε ο) (condition : σ → ε → Prop) (state : σ)
    (input : ε) (inputs : List ε) :
    Meets step condition state (input :: inputs) ↔
      condition state input ∧ Meets step condition (step state input).1 inputs :=
  Iff.rfl

instance Meets.decidable (step : Step σ ε ο) (condition : σ → ε → Prop)
    [∀ state input, Decidable (condition state input)] :
    ∀ state inputs, Decidable (Meets step condition state inputs)
  | _, [] => isTrue trivial
  | state, input :: inputs =>
      let _later := Meets.decidable step condition (step state input).1 inputs
      inferInstanceAs
        (Decidable (condition state input ∧ Meets step condition (step state input).1 inputs))

/-- A condition that the inputs meet in every state. -/
theorem Meets.of_forall {step : Step σ ε ο} {condition : σ → ε → Prop} {inputs : List ε}
    (always : ∀ input ∈ inputs, ∀ state, condition state input) (state : σ) :
    Meets step condition state inputs := by
  induction inputs generalizing state with
  | nil => trivial
  | cons input inputs ih =>
      have ⟨first, later⟩ := List.forall_mem_cons.mp always
      exact ⟨first state, ih later (step state input).1⟩

theorem Meets.append {step : Step σ ε ο} {condition : σ → ε → Prop} {state : σ}
    {inputs more : List ε} (first : Meets step condition state inputs)
    (later : Meets step condition (run step state inputs).1 more) :
    Meets step condition state (inputs ++ more) := by
  induction inputs generalizing state with
  | nil => exact later
  | cons input inputs ih =>
      rw [run_cons] at later
      exact ⟨first.1, ih first.2 later⟩

/-- The first steps of a run meet what all its steps meet. -/
theorem Meets.of_append {step : Step σ ε ο} {condition : σ → ε → Prop} {state : σ}
    {inputs more : List ε} (meets : Meets step condition state (inputs ++ more)) :
    Meets step condition state inputs := by
  induction inputs generalizing state with
  | nil => trivial
  | cons input inputs ih => exact ⟨meets.1, ih meets.2⟩

/-- A condition on the inputs alone can be added. -/
theorem Meets.and_forall {step : Step σ ε ο} {condition : σ → ε → Prop} {allowed : ε → Prop}
    {state : σ} {inputs : List ε} (meets : Meets step condition state inputs)
    (allAllowed : ∀ input ∈ inputs, allowed input) :
    Meets step (fun state input => allowed input ∧ condition state input) state inputs := by
  induction inputs generalizing state with
  | nil => trivial
  | cons input inputs ih =>
      have ⟨first, later⟩ := List.forall_mem_cons.mp allAllowed
      exact ⟨⟨first, meets.1⟩, ih meets.2 later⟩

/-- An invariant of the outputs so far and the state that every step meeting
the condition preserves holds after every run of such steps. -/
theorem Meets.invariant {step : Step σ ε ο} {condition : σ → ε → Prop}
    (invariant : List ο → σ → Prop)
    (preserved : ∀ outputs state input, invariant outputs state → condition state input →
      invariant (outputs ++ (step state input).2) (step state input).1)
    {state : σ} {inputs : List ε} (meets : Meets step condition state inputs)
    {outputs : List ο} (holds : invariant outputs state) :
    invariant (outputs ++ (run step state inputs).2) (run step state inputs).1 := by
  induction inputs generalizing state outputs with
  | nil => simpa using holds
  | cons input inputs ih =>
      have afterStep := preserved outputs state input holds meets.1
      simpa [List.append_assoc] using ih meets.2 afterStep

/-- A property of the state that every step meeting the condition preserves. -/
theorem Meets.preserves {step : Step σ ε ο} {condition : σ → ε → Prop}
    (holds : σ → Prop)
    (preserved : ∀ state input, holds state → condition state input →
      holds (step state input).1)
    {state : σ} {inputs : List ε} (meets : Meets step condition state inputs)
    (before : holds state) :
    holds (run step state inputs).1 := by
  induction inputs generalizing state with
  | nil => exact before
  | cons input inputs ih =>
      exact ih meets.2 (preserved state input before meets.1)

/-- A property of the state that every step preserves. -/
theorem run_preserves {step : Step σ ε ο} (holds : σ → Prop)
    (preserved : ∀ state input, holds state → holds (step state input).1)
    {state : σ} (inputs : List ε) (before : holds state) :
    holds (run step state inputs).1 := by
  induction inputs generalizing state with
  | nil => exact before
  | cons input inputs ih => exact ih (preserved state input before)

/-- An invariant of the outputs so far and the state that every step preserves. -/
theorem run_invariant {step : Step σ ε ο} (holds : List ο → σ → Prop)
    (preserved : ∀ outputs state input, holds outputs state →
      holds (outputs ++ (step state input).2) (step state input).1)
    {outputs : List ο} {state : σ} (inputs : List ε) (before : holds outputs state) :
    holds (outputs ++ (run step state inputs).2) (run step state inputs).1 := by
  induction inputs generalizing outputs state with
  | nil => simpa using before
  | cons input inputs ih =>
      simpa [List.append_assoc] using ih (preserved outputs state input before)

/-- Inputs that states with an invariant ignore can be left out of a run. -/
theorem run_filter {step : Step σ ε ο} (invariant : σ → Prop) (heeded : ε → Bool)
    (preserved : ∀ state input, invariant state → invariant (step state input).1)
    (ignored : ∀ state input, invariant state → heeded input = false →
      step state input = (state, []))
    {state : σ} (inputs : List ε) (before : invariant state) :
    run step state (inputs.filter heeded) = run step state inputs := by
  induction inputs generalizing state with
  | nil => rfl
  | cons input inputs ih =>
      by_cases isHeeded : heeded input = true
      · rw [List.filter_cons_of_pos isHeeded, run_cons, run_cons,
          ih (preserved state input before)]
      · rw [List.filter_cons_of_neg isHeeded, run_cons, ih before,
          ignored state input before (Bool.eq_false_iff.mpr isHeeded)]
        rfl

section Observing

variable {γ : Type*}

/-- A machine that also keeps a record of its inputs and outputs, which it does not
read. -/
def observing (step : Step σ ε ο) (observe : γ → ε → List ο → γ) : Step (σ × γ) ε ο :=
  fun state input =>
    (((step state.1 input).1, observe state.2 input (step state.1 input).2),
      (step state.1 input).2)

/-- The record does not change what the machine does. -/
theorem run_observing_fst (step : Step σ ε ο) (observe : γ → ε → List ο → γ)
    (state : σ) (record : γ) (inputs : List ε) :
    (run (observing step observe) (state, record) inputs).1.1 = (run step state inputs).1 := by
  induction inputs generalizing state record with
  | nil => rfl
  | cons input inputs ih => exact ih (step state input).1 _

end Observing

end Mysql2.Transition

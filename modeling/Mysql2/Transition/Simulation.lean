import Mysql2.Transition.Mealy

/-!
# Simulation with stuttering

One machine simulates another along a projection of states when each of the
other's steps corresponds to a list of its own, which can be empty.  What an
observer records of a step carries over from single steps to runs.
-/

namespace Mysql2.Transition

universe u v w

variable {σ : Type u} {ε : Type v} {ο : Type w} {γ : Type*}

/-- What an observer records of a run: of each step, what depends on its outputs
and on the state behind it. -/
def trace (step : Step σ ε ο) (observe : σ → List ο → List γ) : σ → List ε → List γ
  | _, [] => []
  | state, input :: inputs =>
      observe (step state input).1 (step state input).2 ++
        trace step observe (step state input).1 inputs

@[simp]
theorem trace_nil (step : Step σ ε ο) (observe : σ → List ο → List γ) (state : σ) :
    trace step observe state [] = [] :=
  rfl

theorem trace_cons (step : Step σ ε ο) (observe : σ → List ο → List γ) (state : σ)
    (input : ε) (inputs : List ε) :
    trace step observe state (input :: inputs) =
      observe (step state input).1 (step state input).2 ++
        trace step observe (step state input).1 inputs :=
  rfl

theorem trace_append (step : Step σ ε ο) (observe : σ → List ο → List γ) (state : σ)
    (inputs more : List ε) :
    trace step observe state (inputs ++ more) =
      trace step observe state inputs ++
        trace step observe (run step state inputs).1 more := by
  induction inputs generalizing state with
  | nil => rfl
  | cons input inputs ih =>
      rw [List.cons_append, trace_cons, ih, trace_cons, List.append_assoc]
      rfl

/-- What every step records that meets a condition, from a state with an
invariant that such steps preserve, a run of such steps records. -/
theorem Meets.trace_forall {step : Step σ ε ο} {condition : σ → ε → Prop}
    {observe : σ → List ο → List γ} (invariant : σ → Prop) (recorded : γ → Prop)
    (preserved : ∀ state input, invariant state → condition state input →
      invariant (step state input).1 ∧
        ∀ entry ∈ observe (step state input).1 (step state input).2, recorded entry)
    {state : σ} {inputs : List ε} (meets : Meets step condition state inputs)
    (before : invariant state) : ∀ entry ∈ trace step observe state inputs, recorded entry := by
  induction inputs generalizing state with
  | nil => exact List.forall_mem_nil _
  | cons input inputs ih =>
      obtain ⟨after, first⟩ := preserved state input before meets.1
      intro entry entryMem
      rcases List.mem_append.mp entryMem with inFirst | inLater
      · exact first entry inFirst
      · exact ih meets.2 after entry inLater

section Simulation

variable {τ δ ρ : Type*}

/-- The inputs of the simulating run. -/
def translated (step : Step σ ε ο) (translate : σ → ε → List δ) : σ → List ε → List δ
  | _, [] => []
  | state, input :: inputs =>
      translate state input ++ translated step translate (step state input).1 inputs

/-- From a state with the invariant, a step that meets the condition keeps the
invariant, and is matched by the steps it is translated to: they end in the
projected state and show the observer the same. -/
structure Simulates (step : Step σ ε ο) (other : Step τ δ ρ) (invariant : σ → Prop)
    (condition : σ → ε → Prop) (project : σ → τ) (translate : σ → ε → List δ)
    (observe : σ → List ο → List γ) (observeOther : τ → List ρ → List γ) : Prop where
  preserved : ∀ state input, invariant state → condition state input →
    invariant (step state input).1
  projected : ∀ state input, invariant state → condition state input →
    (run other (project state) (translate state input)).1 = project (step state input).1
  observed : ∀ state input, invariant state → condition state input →
    trace other observeOther (project state) (translate state input) =
      observe (step state input).1 (step state input).2

/-- A run is matched by the run over the translated inputs. -/
theorem Simulates.run {step : Step σ ε ο} {other : Step τ δ ρ} {invariant : σ → Prop}
    {condition : σ → ε → Prop} {project : σ → τ} {translate : σ → ε → List δ}
    {observe : σ → List ο → List γ} {observeOther : τ → List ρ → List γ}
    (simulates : Simulates step other invariant condition project translate observe observeOther)
    {state : σ} {inputs : List ε} (meets : Meets step condition state inputs)
    (before : invariant state) :
    invariant (Transition.run step state inputs).1 ∧
      (Transition.run other (project state) (translated step translate state inputs)).1 =
        project (Transition.run step state inputs).1 ∧
      trace other observeOther (project state) (translated step translate state inputs) =
        trace step observe state inputs := by
  induction inputs generalizing state with
  | nil => exact ⟨before, rfl, rfl⟩
  | cons input inputs ih =>
      have projected := simulates.projected state input before meets.1
      obtain ⟨after, laterProjected, laterObserved⟩ :=
        ih meets.2 (simulates.preserved state input before meets.1)
      refine ⟨after, ?_, ?_⟩
      · rw [translated, run_append, projected]
        exact laterProjected
      · rw [translated, trace_append, projected, laterObserved,
          simulates.observed state input before meets.1]
        rfl

end Simulation

end Mysql2.Transition

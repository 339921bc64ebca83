import Mysql2.Transition.Mealy

/-!
# What a machine comes to

A machine comes to a goal if every choice of allowed inputs leads it there.  The
number of steps can depend on the choice, so a proof follows the machine step by
step and never counts.

Which inputs are allowed can depend on the state.  Along any sequence of inputs
the machine then comes to its goal or to a state in which the next input is not
allowed, and it is on its way in all states before.
-/

namespace Mysql2.Transition

universe u v w

variable {σ : Type u} {ε : Type v} {ο : Type w}

/-- A run over the first `count` inputs of an infinite sequence. -/
def runTo (step : Step σ ε ο) (state : σ) (inputs : Nat → ε) (count : Nat) : σ × List ο :=
  run step state ((List.range count).map inputs)

@[simp]
theorem runTo_zero (step : Step σ ε ο) (state : σ) (inputs : Nat → ε) :
    runTo step state inputs 0 = (state, []) :=
  rfl

/-- One more step at the end. -/
theorem runTo_succ (step : Step σ ε ο) (state : σ) (inputs : Nat → ε) (count : Nat) :
    runTo step state inputs (count + 1) =
      ((step (runTo step state inputs count).1 (inputs count)).1,
        (runTo step state inputs count).2 ++
          (step (runTo step state inputs count).1 (inputs count)).2) := by
  rw [runTo, List.range_succ, List.map_append, run_append]
  simp [runTo]

/-- One more step in front. -/
theorem runTo_succ_front (step : Step σ ε ο) (state : σ) (inputs : Nat → ε) (count : Nat) :
    runTo step state inputs (count + 1) =
      ((runTo step (step state (inputs 0)).1 (fun index => inputs (index + 1)) count).1,
        (step state (inputs 0)).2 ++
          (runTo step (step state (inputs 0)).1 (fun index => inputs (index + 1)) count).2) := by
  rw [runTo, List.range_succ_eq_map, List.map_cons, List.map_map, run_cons]
  rfl

/-- The steps of a run meet a condition exactly if each input meets it in the state
that the inputs before it lead to. -/
theorem meets_runTo_iff {step : Step σ ε ο} {condition : σ → ε → Prop} {state : σ}
    {inputs : Nat → ε} {count : Nat} :
    Meets step condition state ((List.range count).map inputs) ↔
      ∀ index < count, condition (runTo step state inputs index).1 (inputs index) := by
  induction count generalizing state inputs with
  | zero => simp
  | succ count ih =>
      rw [List.range_succ_eq_map, List.map_cons, List.map_map, meets_cons]
      refine (and_congr_right fun _ => ih).trans ?_
      constructor
      · rintro ⟨first, later⟩ index indexLt
        cases index with
        | zero => exact first
        | succ index =>
            rw [runTo_succ_front]
            exact later index (Nat.lt_of_succ_lt_succ indexLt)
      · intro all
        refine ⟨all 0 (Nat.succ_pos count), fun index indexLt => ?_⟩
        have next := all (index + 1) (Nat.succ_lt_succ indexLt)
        rwa [runTo_succ_front] at next

/-- Behind `outputs` and in `state`, every choice of allowed inputs leads to
outputs and a state that meet the goal, through states that are `during`. -/
inductive ComesTo (step : Step σ ε ο) (allowed : σ → ε → Prop) (during : σ → Prop)
    (goal : List ο → σ → Prop) : List ο → σ → Prop
  | here {outputs : List ο} {state : σ} :
      goal outputs state → ComesTo step allowed during goal outputs state
  | step {outputs : List ο} {state : σ} :
      during state →
      (∀ input, allowed state input →
        ComesTo step allowed during goal (outputs ++ (step state input).2)
          (step state input).1) →
      ComesTo step allowed during goal outputs state

namespace ComesTo

variable {step : Step σ ε ο} {allowed : σ → ε → Prop} {during : σ → Prop}
  {goal later : List ο → σ → Prop} {outputs : List ο} {state : σ}

/-- A machine comes to what it comes to from its goal. -/
theorem trans (first : ComesTo step allowed during goal outputs state)
    (second : ∀ outputs state, goal outputs state →
      ComesTo step allowed during later outputs state) :
    ComesTo step allowed during later outputs state := by
  induction first with
  | here reached => exact second _ _ reached
  | step isDuring _ ih => exact .step isDuring ih

/-- Along every sequence of inputs the machine comes to the goal, or to a state in
which the next input is not allowed. -/
theorem exists_runTo (comes : ComesTo step allowed during goal outputs state)
    (inputs : Nat → ε) :
    ∃ count,
      (∀ index < count, during (runTo step state inputs index).1 ∧
        allowed (runTo step state inputs index).1 (inputs index)) ∧
      (goal (outputs ++ (runTo step state inputs count).2) (runTo step state inputs count).1 ∨
        during (runTo step state inputs count).1 ∧
          ¬ allowed (runTo step state inputs count).1 (inputs count)) := by
  induction comes generalizing inputs with
  | @here outputs state reached =>
      refine ⟨0, fun index indexLt => absurd indexLt (Nat.not_lt_zero index), Or.inl ?_⟩
      simpa using reached
  | @step outputs state isDuring _ ih =>
      by_cases isAllowed : allowed state (inputs 0)
      · obtain ⟨count, before, reached⟩ := ih (inputs 0) isAllowed fun index => inputs (index + 1)
        refine ⟨count + 1, ?_, ?_⟩
        · intro index indexLt
          cases index with
          | zero => exact ⟨isDuring, isAllowed⟩
          | succ index =>
              rw [runTo_succ_front]
              exact before index (Nat.lt_of_succ_lt_succ indexLt)
        · rw [runTo_succ_front, ← List.append_assoc]
          exact reached
      · exact ⟨0, fun index indexLt => absurd indexLt (Nat.not_lt_zero index),
          Or.inr ⟨isDuring, isAllowed⟩⟩

/-- Where the machine first is at an end, it has come to its goal through allowed
inputs, unless an input before was not allowed. -/
theorem at_end (comes : ComesTo step allowed during goal outputs state) (ended : σ → Prop)
    (goes : ∀ state, during state → ¬ ended state)
    (ends : ∀ outputs state, goal outputs state → ended state) {inputs : Nat → ε} {count : Nat}
    (first : ∀ index < count, ¬ ended (runTo step state inputs index).1)
    (isEnded : ended (runTo step state inputs count).1) :
    (goal (outputs ++ (runTo step state inputs count).2) (runTo step state inputs count).1 ∧
        ∀ index < count, allowed (runTo step state inputs index).1 (inputs index)) ∨
      ∃ index < count, during (runTo step state inputs index).1 ∧
        ¬ allowed (runTo step state inputs index).1 (inputs index) := by
  obtain ⟨reached, before, atReached⟩ := comes.exists_runTo inputs
  have notBefore : reached ≤ count := by
    by_contra later
    exact goes _ (before count (Nat.lt_of_not_le later)).1 isEnded
  rcases atReached with isGoal | ⟨isDuring, notAllowed⟩
  · left
    have same : reached = count := by
      apply Nat.le_antisymm notBefore
      by_contra later
      exact first reached (Nat.lt_of_not_le later) (ends _ _ isGoal)
    subst same
    exact ⟨isGoal, fun index indexLt => (before index indexLt).2⟩
  · right
    refine ⟨reached, Nat.lt_of_le_of_ne notBefore ?_, isDuring, notAllowed⟩
    rintro rfl
    exact goes _ isDuring isEnded

end ComesTo

end Mysql2.Transition

import Mathlib.Data.List.Induction
import Mathlib.Tactic.Common

/-!
# Outputs since an output

What holds of an output of the past and of none behind it.
-/

namespace Mysql2.Transition

universe u

variable {ο : Type u} {made other spoilt : ο → Prop} {outputs more : List ο}

/-- One of the outputs is such, and none behind it spoils it. -/
def Since (made spoilt : ο → Prop) (outputs : List ο) : Prop :=
  ∃ before output after, outputs = before ++ output :: after ∧ made output ∧
    ∀ later ∈ after, ¬ spoilt later

namespace Since

/-- An output just made. -/
theorem last {output : ο} (isMade : made output) : Since made spoilt (outputs ++ [output]) :=
  ⟨outputs, output, [], rfl, isMade, List.forall_mem_nil _⟩

/-- Outputs that do not spoil it. -/
theorem append (since : Since made spoilt outputs) (harmless : ∀ later ∈ more, ¬ spoilt later) :
    Since made spoilt (outputs ++ more) := by
  obtain ⟨before, output, after, rfl, isMade, unspoilt⟩ := since
  refine ⟨before, output, after ++ more, by simp, isMade, fun later member => ?_⟩
  rcases List.mem_append.mp member with inAfter | inMore
  · exact unspoilt later inAfter
  · exact harmless later inMore

theorem imp {weaker : ο → Prop} (since : Since made spoilt outputs)
    (madeOther : ∀ output, made output → other output)
    (spoiltOther : ∀ output, weaker output → spoilt output) : Since other weaker outputs := by
  obtain ⟨before, output, after, split, isMade, unspoilt⟩ := since
  exact ⟨before, output, after, split, madeOther output isMade,
    fun later member spoils => unspoilt later member (spoiltOther later spoils)⟩

end Since

/-- Each output meets a condition on the outputs before it. -/
def Preceded (condition : List ο → ο → Prop) (outputs : List ο) : Prop :=
  ∀ before output after, outputs = before ++ output :: after → condition before output

namespace Preceded

variable {condition : List ο → ο → Prop}

theorem nil : Preceded condition [] := by
  intro before output after split
  cases before <;> cases split

/-- One more output. -/
theorem concat (preceded : Preceded condition outputs) {output : ο}
    (met : condition outputs output) : Preceded condition (outputs ++ [output]) := by
  intro before other after split
  cases after using List.reverseRecOn with
  | nil =>
      obtain ⟨rfl, same⟩ := List.append_inj' split rfl
      cases same
      exact met
  | append_singleton after last =>
      rw [← List.cons_append, ← List.append_assoc] at split
      obtain ⟨rfl, -⟩ := List.append_inj' split rfl
      exact preceded before other after rfl

end Preceded

end Mysql2.Transition

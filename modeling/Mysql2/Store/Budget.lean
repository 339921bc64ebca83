import Mathlib.Algebra.BigOperators.Group.List.Basic
import Mathlib.Algebra.Ring.Nat
import Mathlib.Logic.Function.Basic

/-!
# Budgets

Elements with budgets are drawn one after another, and each draw takes one from the
budget of its element, until one is spent.
-/

namespace Mysql2.Store

universe u

variable {α : Type u} [DecidableEq α]

/-- Every element drawn until a budget is spent has a property. -/
def UntilSpent (budget : α → Nat) (draw : Nat → α) (holds : α → Prop) : Prop :=
  ∀ count, (∀ element, ((List.range count).map draw).count element < budget element) →
    holds (draw count)

/-- A draw takes one from the budget of its element. -/
theorem untilSpent_iff {budget : α → Nat} {draw : Nat → α} {holds : α → Prop}
    (positive : ∀ element, 0 < budget element) :
    UntilSpent budget draw holds ↔
      holds (draw 0) ∧
        (1 < budget (draw 0) →
          UntilSpent (Function.update budget (draw 0) (budget (draw 0) - 1))
            (fun count => draw (count + 1)) holds) := by
  have drawn : ∀ count element, ((List.range (count + 1)).map draw).count element =
      ((List.range count).map fun count => draw (count + 1)).count element +
        if draw 0 = element then 1 else 0 := by
    intro count element
    rw [List.range_succ_eq_map, List.map_cons, List.map_map, List.count_cons]
    simp [Function.comp_def]
  constructor
  · intro until_
    constructor
    · exact until_ 0 (by simpa using positive)
    · intro more count within
      apply until_ (count + 1)
      intro element
      rw [drawn]
      have before := within element
      by_cases first : draw 0 = element
      · subst first
        rw [Function.update_self] at before
        rw [if_pos rfl]
        omega
      · rw [Function.update_of_ne (Ne.symm first)] at before
        rw [if_neg first]
        exact before
  · rintro ⟨first, later⟩ count within
    cases count with
    | zero => exact first
    | succ count =>
        have firstWithin := within (draw 0)
        rw [drawn, if_pos rfl] at firstWithin
        apply later (by omega) count
        intro element
        have before := within element
        rw [drawn] at before
        by_cases isFirst : draw 0 = element
        · subst isFirst
          rw [Function.update_self]
          rw [if_pos rfl] at before
          omega
        · rw [Function.update_of_ne (Ne.symm isFirst)]
          rw [if_neg isFirst] at before
          exact before

/-- What some elements have in all, if they count by a weight. -/
def total (elements : List α) (weight : α → Nat) : Nat :=
  (elements.map weight).sum

omit [DecidableEq α] in
theorem total_congr {elements : List α} {weight other : α → Nat}
    (same : ∀ element ∈ elements, weight element = other element) :
    total elements weight = total elements other := by
  rw [total, List.map_congr_left same]
  rfl

/-- An element goes. -/
theorem total_erase {elements : List α} {element : α} (member : element ∈ elements)
    (weight : α → Nat) :
    total (elements.erase element) weight + weight element = total elements weight := by
  have perm := (List.perm_cons_erase member).map weight
  rw [total, total, perm.sum_eq, List.map_cons, List.sum_cons, Nat.add_comm]

/-- The weight of one element changes. -/
theorem total_update {elements : List α} (nodup : elements.Nodup) {element : α}
    (member : element ∈ elements) (weight : α → Nat) (value : Nat) :
    total elements (Function.update weight element value) + weight element =
      total elements weight + value := by
  have others : total (elements.erase element) (Function.update weight element value) =
      total (elements.erase element) weight := by
    apply total_congr
    intro other isOther
    have different : other ≠ element := (nodup.mem_erase_iff.mp isOther).1
    rw [Function.update_of_ne different]
  have before := total_erase member weight
  have after := total_erase member (Function.update weight element value)
  rw [others, Function.update_self] at after
  omega

end Mysql2.Store

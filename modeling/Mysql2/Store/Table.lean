import Mathlib.Data.List.Basic

/-!
# Tables of results

A table keeps what a function has returned, and is cleared when it is full.  As long as its
entries are results of the function, it answers as the function does.
-/

namespace Mysql2.Store

/-- The entries of a `Map`. -/
abbrev Table (κ β : Type) :=
  List (κ × β)

namespace Table

variable {κ β : Type} [DecidableEq κ] {f : κ → β} {table : Table κ β}

/-- Every entry is a result of the function. -/
def Of (f : κ → β) (table : Table κ β) : Prop :=
  ∀ key value, table.lookup key = some value → value = f key

/-- A result of the table, or of the function, which the table keeps then. -/
def fetch (f : κ → β) (capacity : Nat) (key : κ) : StateM (Table κ β) β := do
  match (← get).lookup key with
  | some value => return value
  | none =>
      modify fun table => if capacity ≤ table.length then [] else table
      let value := f key
      modify fun table => (key, value) :: table
      return value

theorem of_nil (f : κ → β) : Of f [] := by
  intro key value found
  exact nomatch found

theorem Of.cons (sound : Of f table) (key : κ) : Of f ((key, f key) :: table) := by
  intro other value found
  rw [List.lookup_cons] at found
  by_cases same : other = key
  · subst same
    rw [beq_self_eq_true] at found
    exact (Option.some.inj found).symm
  · rw [beq_false_of_ne same] at found
    exact sound other value found

theorem Of.run_fetch (sound : Of f table) (capacity : Nat) (key : κ) :
    ((fetch f capacity key).run table).1 = f key ∧
      Of f ((fetch f capacity key).run table).2 := by
  cases found : table.lookup key with
  | some value =>
      have run : (fetch f capacity key).run table = (value, table) := by
        show StateT.run (match table.lookup key with | some _ => _ | none => _) table = _
        rw [found]
        rfl
      rw [run]
      exact ⟨sound key value found, sound⟩
  | none =>
      have run : (fetch f capacity key).run table =
          (f key, (key, f key) :: if capacity ≤ table.length then [] else table) := by
        show StateT.run (match table.lookup key with | some _ => _ | none => _) table = _
        rw [found]
        rfl
      have kept : Of f (if capacity ≤ table.length then [] else table) := by
        split
        · exact of_nil f
        · exact sound
      rw [run]
      exact ⟨rfl, kept.cons key⟩

end Table

end Mysql2.Store

import Mathlib.Tactic.Common

/-!
# Grammars

A grammar takes a value from the front of a stream, or rejects the stream.  A
word spells a value if the grammar takes exactly the word from any stream that
begins with it; words of a sequence spell the sequence of values.
-/

namespace Mysql2.Stream

variable {σ α β : Type}

/-- A grammar of streams. -/
abbrev Grammar (σ α : Type) :=
  StateT (List σ) Option α

/-- The word spells the value. -/
def Spells (grammar : Grammar σ α) (word : List σ) (value : α) : Prop :=
  ∀ rest, grammar.run (word ++ rest) = some (value, rest)

namespace Grammar

/-- A number of symbols. -/
def take (count : Nat) : Grammar σ (List σ) := fun stream =>
  if count ≤ stream.length then some (stream.take count, stream.drop count) else none

/-- One symbol. -/
def symbol : Grammar σ σ
  | [] => none
  | first :: rest => some (first, rest)

/-- The symbols that a grammar takes. -/
def consumed (grammar : Grammar σ α) : Grammar σ (List σ) := fun stream =>
  (grammar.run stream).map fun (_, rest) => (stream.take (stream.length - rest.length), rest)

/-- A number of values. -/
def times (grammar : Grammar σ α) : Nat → Grammar σ (List α)
  | 0 => return []
  | count + 1 => do
      let value ← grammar
      return value :: (← times grammar count)

/-- A value for each item. -/
def each (grammar : β → Grammar σ α) : List β → Grammar σ (List α)
  | [] => return []
  | item :: items => do
      let value ← grammar item
      return value :: (← each grammar items)

end Grammar

namespace Spells

/-- A stream that is the word leaves nothing. -/
theorem run_eq {grammar : Grammar σ α} {word : List σ} {value : α}
    (spells : Spells grammar word value) : grammar.run word = some (value, []) := by
  have whole := spells []
  rwa [List.append_nil] at whole

/-- What follows a word is left to the next grammar. -/
theorem run_bind {first : Grammar σ α} {next : α → Grammar σ β} {word : List σ} {value : α}
    (spells : Spells first word value) (rest : List σ) :
    (first >>= next).run (word ++ rest) = (next value).run rest := by
  rw [StateT.run_bind, spells]
  rfl

theorem pure (value : α) : Spells (Pure.pure value : Grammar σ α) [] value := by
  intro rest
  rfl

theorem bind {first : Grammar σ α} {next : α → Grammar σ β} {word wordNext : List σ} {value : α}
    {result : β} (spellsFirst : Spells first word value)
    (spellsNext : Spells (next value) wordNext result) :
    Spells (first >>= next) (word ++ wordNext) result := by
  intro rest
  rw [List.append_assoc, spellsFirst.run_bind]
  exact spellsNext rest

/-- A last step that takes nothing. -/
theorem map {first : Grammar σ α} {next : α → β} {word : List σ} {value : α}
    (spells : Spells first word value) :
    Spells (do return next (← first)) word (next value) := by
  have bound : Spells (first >>= fun value => Pure.pure (next value)) (word ++ []) (next value) :=
    spells.bind (pure (next value))
  rwa [List.append_nil] at bound

theorem take {word : List σ} {count : Nat} (lengthEq : word.length = count) :
    Spells (Grammar.take count) word word := by
  intro rest
  show (if count ≤ (word ++ rest).length then _ else _) = _
  rw [if_pos (by simp [← lengthEq]), ← lengthEq, List.take_left, List.drop_left]

theorem symbol (first : σ) : Spells Grammar.symbol [first] first := by
  intro rest
  rfl

theorem consumed {grammar : Grammar σ α} {word : List σ} {value : α}
    (spells : Spells grammar word value) : Spells grammar.consumed word word := by
  intro rest
  show (grammar.run (word ++ rest)).map _ = _
  rw [spells rest, Option.map_some]
  dsimp only
  rw [List.length_append, Nat.add_sub_cancel, List.take_left]

theorem times_cons {grammar : Grammar σ α} {word words : List σ} {value : α} {values : List α}
    {count : Nat} (spells : Spells grammar word value)
    (others : Spells (grammar.times count) words values) :
    Spells (grammar.times (count + 1)) (word ++ words) (value :: values) :=
  spells.bind others.map

theorem each_cons {grammar : β → Grammar σ α} {word words : List σ} {value : α}
    {values : List α} {item : β} {items : List β} (spells : Spells (grammar item) word value)
    (others : Spells (Grammar.each grammar items) words values) :
    Spells (Grammar.each grammar (item :: items)) (word ++ words) (value :: values) :=
  spells.bind others.map

end Spells

end Mysql2.Stream

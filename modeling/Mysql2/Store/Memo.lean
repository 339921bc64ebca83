import Mathlib.Logic.Function.Basic
import Mysql2.Transition.Mealy

/-!
# Memo tables

A memo table keeps what was made of earlier inputs, in buckets by a hash, and
serves an input with a kept entry that fits it.  Buckets may be dropped at any
time.
-/

namespace Mysql2.Store

universe u v w

/-- How a memo table works on inputs `ι` with hashes `η`: what it makes of an
input, the entry `κ` that it keeps of that, and which entries serve an input. -/
structure Memo (ι : Type u) (η : Type v) (κ ρ ε : Type w) where
  hash : ι → η
  make : ι → Except ε ρ
  entry : ι → ρ → κ
  result : κ → ρ
  serves : κ → ι → Bool
  result_entry (input : ι) (made : ρ) : result (entry input made) = made

/-- The buckets of a table. -/
abbrev Buckets (η : Type v) (κ : Type w) :=
  η → Option (List κ)

/-- What happens to a table: an input is looked up, or a bucket is dropped. -/
inductive Event (ι : Type u) (η : Type v)
  | get (input : ι)
  | drop (hash : η)
  deriving DecidableEq, Repr

/-- The inputs among some events. -/
def Event.inputs {ι : Type u} {η : Type v} : List (Event ι η) → List ι
  | [] => []
  | .get input :: events => input :: inputs events
  | .drop _ :: events => inputs events

namespace Memo

variable {ι : Type u} {η : Type v} {κ ρ ε : Type w} (memo : Memo ι η κ ρ ε)

/-- An input leaves an entry that serves another one. -/
def Serves (earlier later : ι) : Prop :=
  ∃ made, memo.make earlier = .ok made ∧ memo.serves (memo.entry earlier made) later = true

/-- All entries were made of inputs of the past. -/
def MadeOf (past : List ι) (buckets : Buckets η κ) : Prop :=
  ∀ hash entries entry, buckets hash = some entries → entry ∈ entries →
    ∃ earlier ∈ past, ∃ made, memo.make earlier = .ok made ∧ entry = memo.entry earlier made

variable {memo} in
theorem madeOf_nil : memo.MadeOf [] fun _ => none := by
  rintro hash entries entry ⟨⟩

variable {memo} in
theorem MadeOf.append {past : List ι} {buckets : Buckets η κ} (madeOf : memo.MadeOf past buckets)
    (input : ι) : memo.MadeOf (past ++ [input]) buckets := by
  intro hash entries entry found member
  obtain ⟨earlier, isPast, made⟩ := madeOf hash entries entry found member
  exact ⟨earlier, List.mem_append_left _ isPast, made⟩

variable [DecidableEq η]

/-- The kept entry that serves an input. -/
def kept (buckets : Buckets η κ) (input : ι) : Option κ :=
  (buckets (memo.hash input)).bind fun entries => entries.find? (memo.serves · input)

/-- The table with one more entry. -/
def keep (buckets : Buckets η κ) (input : ι) (made : ρ) : Buckets η κ :=
  let entries := (buckets (memo.hash input)).getD []
  Function.update buckets (memo.hash input) (some (entries ++ [memo.entry input made]))

/-- The result for an input, and the table after that. -/
def get (buckets : Buckets η κ) (input : ι) : Buckets η κ × Except ε ρ :=
  match memo.kept buckets input with
  | some entry => (buckets, .ok (memo.result entry))
  | none =>
      match memo.make input with
      | .error error => (buckets, .error error)
      | .ok made => (memo.keep buckets input made, .ok made)

/-- One event, with its input and the result for it as output. -/
def step : Transition.Step (Buckets η κ) (Event ι η) (ι × Except ε ρ)
  | buckets, .get input => ((memo.get buckets input).1, [(input, (memo.get buckets input).2)])
  | buckets, .drop hash => (Function.update buckets hash none, [])

variable {memo}

theorem MadeOf.drop {past : List ι} {buckets : Buckets η κ} (madeOf : memo.MadeOf past buckets)
    (hash : η) : memo.MadeOf past (Function.update buckets hash none) := by
  intro other entries entry found member
  by_cases same : other = hash
  · subst same
    simp at found
  · rw [Function.update_of_ne same] at found
    exact madeOf other entries entry found member

theorem MadeOf.keep {past : List ι} {buckets : Buckets η κ} (madeOf : memo.MadeOf past buckets)
    {input : ι} {made : ρ} (isMade : memo.make input = .ok made) :
    memo.MadeOf (past ++ [input]) (memo.keep buckets input made) := by
  intro hash entries entry found member
  by_cases same : hash = memo.hash input
  · subst same
    rw [Memo.keep, Function.update_self, Option.some.injEq] at found
    subst found
    rcases List.mem_append.mp member with old | new
    · cases bucket : buckets (memo.hash input) with
      | none => simp [bucket] at old
      | some kept =>
          rw [bucket, Option.getD_some] at old
          exact madeOf.append input _ kept entry bucket old
    · rw [List.mem_singleton] at new
      exact ⟨input, by simp, made, isMade, new⟩
  · rw [Memo.keep, Function.update_of_ne same] at found
    exact madeOf.append input hash entries entry found member

/-- A lookup keeps the table made of the past, and is answered by what is made
of the input or of an input of the past that serves it. -/
theorem MadeOf.get {past : List ι} {buckets : Buckets η κ} (madeOf : memo.MadeOf past buckets)
    (input : ι) :
    memo.MadeOf (past ++ [input]) (memo.get buckets input).1 ∧
      ((memo.get buckets input).2 = memo.make input ∨
        ∃ earlier ∈ past, memo.Serves earlier input ∧
          (memo.get buckets input).2 = memo.make earlier) := by
  rw [Memo.get]
  cases keptEq : memo.kept buckets input with
  | some entry =>
      obtain ⟨entries, bucket, found⟩ := Option.bind_eq_some_iff.mp keptEq
      obtain ⟨earlier, isPast, made, isMade, rfl⟩ :=
        madeOf _ entries entry bucket (List.mem_of_find?_eq_some found)
      have serves := List.find?_some found
      refine ⟨madeOf.append input, .inr ⟨earlier, isPast, ⟨made, isMade, serves⟩, ?_⟩⟩
      rw [isMade]
      exact congrArg Except.ok (memo.result_entry earlier made)
  | none =>
      cases isMade : memo.make input with
      | error error => exact ⟨madeOf.append input, .inl rfl⟩
      | ok made => exact ⟨madeOf.keep isMade, .inl rfl⟩

/-- If inputs that serve each other agree, and agreeing inputs are as good as each
other, then every result of a run is good. -/
theorem MadeOf.run {good : ι → Except ε ρ → Prop} {agrees : ι → ι → Prop}
    (made : ∀ input, good input (memo.make input))
    (served : ∀ earlier later, memo.Serves earlier later → agrees earlier later →
      good later (memo.make earlier))
    {past : List ι} {buckets : Buckets η κ} (madeOf : memo.MadeOf past buckets)
    {events : List (Event ι η)}
    (before : ∀ earlier ∈ past, ∀ later ∈ Event.inputs events, memo.Serves earlier later →
      agrees earlier later)
    (pairwise : (Event.inputs events).Pairwise fun earlier later =>
      memo.Serves earlier later → agrees earlier later) :
    ∀ output ∈ (Transition.run memo.step buckets events).2, good output.1 output.2 := by
  induction events generalizing past buckets with
  | nil => simp
  | cons event events ih =>
      cases event with
      | drop hash => exact ih (madeOf.drop hash) before pairwise
      | get input =>
          obtain ⟨later, pairwise⟩ := List.pairwise_cons.mp pairwise
          obtain ⟨stillMade, answer⟩ := madeOf.get input
          have answered : good input (memo.get buckets input).2 := by
            rcases answer with own | ⟨earlier, isPast, serves, answerEq⟩
            · rw [own]
              exact made input
            · rw [answerEq]
              exact served earlier input serves
                (before earlier isPast input (List.mem_cons_self ..) serves)
          have stillBefore : ∀ earlier ∈ past ++ [input], ∀ other ∈ Event.inputs events,
              memo.Serves earlier other → agrees earlier other := by
            intro earlier isPast other isLater
            rcases List.mem_append.mp isPast with older | new
            · exact before earlier older other (List.mem_cons_of_mem _ isLater)
            · obtain rfl := List.mem_singleton.mp new
              exact later other isLater
          intro output member
          rcases List.mem_cons.mp member with rfl | member
          · exact answered
          · exact ih stillMade stillBefore pairwise output member

end Memo

end Mysql2.Store

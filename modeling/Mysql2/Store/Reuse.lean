import Mathlib.Data.List.Forall2
import Mathlib.Data.Set.Card
import Mysql2.Store.Memo

/-!
# Reuse of memo entries

What is made of an input serves the input again, if the entry that is left by it does: the
later lookup finds the same entry and leaves the table as it is.  A bucket then holds at most
one entry for each input.
-/

namespace Mysql2.Store

open Transition

universe u v w

theorem mem_inputs_iff {ι : Type u} {η : Type v} {input : ι} {events : List (Event ι η)} :
    input ∈ Event.inputs events ↔ .get input ∈ events := by
  induction events with
  | nil => simp [Event.inputs]
  | cons event events ih =>
      cases event with
      | drop hash => simp [Event.inputs, ih]
      | get other => simp [Event.inputs, ih]

namespace Memo

variable {ι : Type u} {η : Type v} {κ ρ ε : Type w} (memo : Memo ι η κ ρ ε)

/-- The entry of an input serves it. -/
def SelfServing (input : ι) : Prop :=
  ∀ made, memo.make input = .ok made → memo.serves (memo.entry input made) input = true

/-- An entry that is left by an input. -/
def LeftBy (input : ι) (entry : κ) : Prop :=
  ∃ made, memo.make input = .ok made ∧ entry = memo.entry input made

/-- The entries of each bucket were left by different inputs of the past. -/
def DistinctlyMade (past : List ι) (buckets : Buckets η κ) : Prop :=
  ∀ hash, ∃ inputs : List ι, inputs.Nodup ∧
    (∀ input ∈ inputs, input ∈ past ∧ memo.hash input = hash) ∧
      List.Forall₂ memo.LeftBy inputs ((buckets hash).getD [])

/-- The entries of a bucket. -/
def bucket (buckets : Buckets η κ) (input : ι) : List κ :=
  (buckets (memo.hash input)).getD []

/-- The place in its bucket of the entry that serves an input, or that is kept for it. -/
def place (buckets : Buckets η κ) (input : ι) : Nat :=
  (memo.bucket buckets input).findIdx (memo.serves · input)

/-- The entry that serves an input, with its place in the bucket. -/
def ServedAt (buckets : Buckets η κ) (input : ι) (place : Nat) (made : ρ) : Prop :=
  ∃ front entry back, memo.bucket buckets input = front ++ entry :: back ∧
    front.length = place ∧ (∀ other ∈ front, memo.serves other input = false) ∧
      memo.serves entry input = true ∧ memo.result entry = made

variable {memo}

/-- The place of the first entry that serves an input. -/
theorem findIdx_front {front back : List κ} {entry : κ} {serves : κ → Bool}
    (fails : ∀ other ∈ front, serves other = false) (found : serves entry = true) :
    (front ++ entry :: back).findIdx serves = front.length := by
  rw [List.findIdx_append, List.findIdx_eq_length_of_false fails, if_neg (Nat.lt_irrefl _),
    List.findIdx_cons, found, cond_true, Nat.zero_add]

variable {buckets : Buckets η κ} {input : ι} {made : ρ}

theorem ServedAt.place_eq {place : Nat} (served : memo.ServedAt buckets input place made) :
    memo.place buckets input = place := by
  obtain ⟨front, entry, back, bucketEq, length, fails, serves, -⟩ := served
  rw [Memo.place, bucketEq, findIdx_front fails serves, length]

/-- Entries behind the bucket do not change what serves an input. -/
theorem ServedAt.append {place : Nat} (served : memo.ServedAt buckets input place made)
    {after : Buckets η κ} {more : List κ}
    (bucketEq : memo.bucket after input = memo.bucket buckets input ++ more) :
    memo.ServedAt after input place made := by
  obtain ⟨front, entry, back, splitEq, rest⟩ := served
  refine ⟨front, entry, back ++ more, ?_, rest⟩
  rw [bucketEq, splitEq, List.append_assoc, List.cons_append]

theorem DistinctlyMade.append {past : List ι} (distinct : memo.DistinctlyMade past buckets)
    (more : List ι) : memo.DistinctlyMade (past ++ more) buckets := by
  intro hash
  obtain ⟨inputs, nodup, ofPast, leftBy⟩ := distinct hash
  exact ⟨inputs, nodup, fun input member =>
    ⟨List.mem_append_left _ (ofPast input member).1, (ofPast input member).2⟩, leftBy⟩

theorem distinctlyMade_nil : memo.DistinctlyMade [] fun _ => none :=
  fun _ => ⟨[], List.nodup_nil, by simp, .nil⟩

/-- An input that is among those of the entries is served by one of them. -/
theorem exists_serves (self : memo.SelfServing input) {inputs : List ι} {entries : List κ}
    (leftBy : List.Forall₂ memo.LeftBy inputs entries) (member : input ∈ inputs) :
    ∃ entry ∈ entries, memo.serves entry input = true := by
  induction leftBy with
  | nil => cases member
  | cons first _ ih =>
      rcases List.mem_cons.mp member with rfl | later
      · obtain ⟨made, isMade, rfl⟩ := first
        exact ⟨_, List.mem_cons_self, self made isMade⟩
      · obtain ⟨entry, isEntry, serves⟩ := ih later
        exact ⟨entry, List.mem_cons_of_mem _ isEntry, serves⟩


/-- There are no more entries in a bucket than inputs of the past with its hash. -/
theorem DistinctlyMade.length_le {past : List ι} (distinct : memo.DistinctlyMade past buckets)
    (hash : η) : ((buckets hash).getD []).length ≤
      Set.ncard {input | input ∈ past ∧ memo.hash input = hash} := by
  classical
  obtain ⟨inputs, nodup, ofPast, leftBy⟩ := distinct hash
  have finite : Set.Finite {input | input ∈ past ∧ memo.hash input = hash} :=
    (List.finite_toSet past).subset fun input member => member.1
  calc ((buckets hash).getD []).length
      = inputs.length := leftBy.length_eq.symm
    _ = inputs.toFinset.card := (List.toFinset_card_of_nodup nodup).symm
    _ = (inputs.toFinset : Set ι).ncard := (Set.ncard_coe_finset _).symm
    _ ≤ Set.ncard {input | input ∈ past ∧ memo.hash input = hash} := by
        apply Set.ncard_le_ncard _ finite
        intro input member
        exact ofPast input (List.mem_toFinset.mp member)

theorem kept_eq_find? : memo.kept buckets input =
    (memo.bucket buckets input).find? (memo.serves · input) := by
  rw [kept, bucket]
  cases buckets (memo.hash input) with
  | none => rfl
  | some entries => rfl

/-- A found entry has its place. -/
theorem servedAt_of_kept {entry : κ} (found : memo.kept buckets input = some entry) :
    memo.ServedAt buckets input (memo.place buckets input) (memo.result entry) := by
  rw [kept_eq_find?, List.find?_eq_some_iff_append] at found
  obtain ⟨serves, front, back, bucketEq, frontFails⟩ := found
  have fails : ∀ other ∈ front, memo.serves other input = false := by
    simpa using frontFails
  refine ⟨front, entry, back, bucketEq, ?_, fails, serves, rfl⟩
  rw [place, bucketEq, findIdx_front fails serves]

/-- Nothing in the bucket serves an input that is not found. -/
theorem not_serves_of_not_kept (notFound : memo.kept buckets input = none) :
    ∀ other ∈ memo.bucket buckets input, memo.serves other input = false := by
  rw [kept_eq_find?, List.find?_eq_none] at notFound
  simpa using notFound

variable [DecidableEq η]

theorem bucket_keep (other : ι) (made : ρ) : memo.bucket (memo.keep buckets other made) input =
    if memo.hash input = memo.hash other then
      memo.bucket buckets other ++ [memo.entry other made]
    else memo.bucket buckets input := by
  rw [bucket, keep]
  split
  case isTrue same =>
    rw [same, Function.update_self]
    rfl
  case isFalse differs =>
    rw [Function.update_of_ne differs]
    rfl

/-! ## One input -/

theorem get_of_kept {entry : κ} (found : memo.kept buckets input = some entry) :
    memo.get buckets input = (buckets, .ok (memo.result entry)) := by
  rw [get, found]

theorem get_of_error {error : ε} (failed : memo.make input = .error error)
    (notFound : memo.kept buckets input = none) :
    memo.get buckets input = (buckets, .error error) := by
  rw [get, notFound, failed]

theorem get_of_ok (isMade : memo.make input = .ok made)
    (notFound : memo.kept buckets input = none) :
    memo.get buckets input = (memo.keep buckets input made, .ok made) := by
  rw [get, notFound, isMade]

/-- A table is left as it is if nothing is made of the input. -/
theorem get_fst_of_error {error : ε} (failed : memo.make input = .error error)
    (buckets : Buckets η κ) : (memo.get buckets input).1 = buckets := by
  cases found : memo.kept buckets input with
  | some entry => rw [get_of_kept found]
  | none => rw [get_of_error failed found]

/-- After a lookup the input is served at its place. -/
theorem servedAt_get (self : memo.SelfServing input)
    (ok : (memo.get buckets input).2 = .ok made) :
    memo.ServedAt (memo.get buckets input).1 input (memo.place buckets input) made := by
  cases found : memo.kept buckets input with
  | some entry =>
      rw [get_of_kept found] at ok ⊢
      cases ok
      exact servedAt_of_kept found
  | none =>
      cases isMade : memo.make input with
      | error error =>
          rw [get_of_error isMade found] at ok
          cases ok
      | ok own =>
          rw [get_of_ok isMade found] at ok ⊢
          cases ok
          have fails := not_serves_of_not_kept found
          refine ⟨memo.bucket buckets input, memo.entry input made, [], ?_, ?_, fails,
            self made isMade, memo.result_entry input made⟩
          · rw [bucket_keep, if_pos rfl]
          · rw [place, List.findIdx_eq_length_of_false fails]

theorem ServedAt.get_eq {place : Nat} (served : memo.ServedAt buckets input place made) :
    memo.get buckets input = (buckets, .ok made) := by
  obtain ⟨front, entry, back, bucketEq, length, fails, serves, rfl⟩ := served
  apply get_of_kept
  rw [kept_eq_find?, bucketEq, List.find?_eq_some_iff_append]
  exact ⟨serves, front, back, rfl, by simpa using fails⟩

/-- A bucket that is not dropped only grows. -/
theorem exists_bucket_step (buckets : Buckets η κ) {event : Event ι η}
    (stays : event ≠ .drop (memo.hash input)) :
    ∃ more, memo.bucket (memo.step buckets event).1 input = memo.bucket buckets input ++ more := by
  cases event with
  | drop hash =>
      have differs : memo.hash input ≠ hash := by
        rintro rfl
        exact stays rfl
      refine ⟨[], ?_⟩
      rw [List.append_nil, bucket, bucket]
      show (Function.update buckets hash none (memo.hash input)).getD [] = _
      rw [Function.update_of_ne differs]
  | get other =>
      show ∃ more, memo.bucket (memo.get buckets other).1 input = _
      cases found : memo.kept buckets other with
      | some entry =>
          rw [get_of_kept found]
          exact ⟨[], (List.append_nil _).symm⟩
      | none =>
          cases isMade : memo.make other with
          | error error =>
              rw [get_of_error isMade found]
              exact ⟨[], (List.append_nil _).symm⟩
          | ok made =>
              rw [get_of_ok isMade found, bucket_keep]
              split
              case isTrue same =>
                refine ⟨[memo.entry other made], ?_⟩
                rw [bucket, bucket, same]
              case isFalse => exact ⟨[], (List.append_nil _).symm⟩

theorem exists_bucket_run (buckets : Buckets η κ) {events : List (Event ι η)}
    (stays : .drop (memo.hash input) ∉ events) :
    ∃ more, memo.bucket (Transition.run memo.step buckets events).1 input =
      memo.bucket buckets input ++ more := by
  induction events generalizing buckets with
  | nil => exact ⟨[], (List.append_nil _).symm⟩
  | cons event events ih =>
      rw [List.mem_cons, not_or] at stays
      obtain ⟨first, firstEq⟩ := exists_bucket_step buckets (Ne.symm stays.1)
      obtain ⟨more, moreEq⟩ := ih (memo.step buckets event).1 stays.2
      refine ⟨first ++ more, ?_⟩
      rw [← List.append_assoc, ← firstEq]
      exact moreEq

/-- A later lookup of an input that serves itself leaves the table as it is.  It finds what the
earlier one has returned, at the same place of a bucket that has only grown. -/
theorem get_again (buckets : Buckets η κ) (self : memo.SelfServing input) {events : List (Event ι η)}
    (stays : .drop (memo.hash input) ∉ events) :
    let later := (Transition.run memo.step (memo.get buckets input).1 events).1
    (memo.get later input).1 = later ∧
      ∀ made, (memo.get buckets input).2 = .ok made →
        (memo.get later input).2 = .ok made ∧ memo.place later input = memo.place buckets input ∧
          ∃ more, memo.bucket later input =
            memo.bucket (memo.get buckets input).1 input ++ more := by
  intro later
  obtain ⟨more, grown⟩ := exists_bucket_run (memo.get buckets input).1 stays
  have again (made : ρ) (ok : (memo.get buckets input).2 = .ok made) :
      memo.ServedAt later input (memo.place buckets input) made :=
    (servedAt_get self ok).append grown
  constructor
  · cases isMade : memo.make input with
    | error error => exact get_fst_of_error isMade later
    | ok own =>
        cases result : (memo.get buckets input).2 with
        | error error =>
            cases found : memo.kept buckets input with
            | some entry =>
                rw [get_of_kept found] at result
                cases result
            | none =>
                rw [get_of_ok isMade found] at result
                cases result
        | ok made => rw [(again made result).get_eq]
  · intro made ok
    exact ⟨by rw [(again made ok).get_eq], (again made ok).place_eq, more, grown⟩

/-! ## One entry for each input -/

theorem DistinctlyMade.drop {past : List ι} (distinct : memo.DistinctlyMade past buckets)
    (hash : η) : memo.DistinctlyMade past (Function.update buckets hash none) := by
  intro other
  by_cases same : other = hash
  · rw [same, Function.update_self]
    exact ⟨[], List.nodup_nil, by simp, .nil⟩
  · rw [Function.update_of_ne same]
    exact distinct other

/-- Something made of an input that is not found is made of a new input. -/
theorem DistinctlyMade.keep {past : List ι} (distinct : memo.DistinctlyMade past buckets)
    (self : memo.SelfServing input) (isMade : memo.make input = .ok made)
    (notFound : memo.kept buckets input = none) :
    memo.DistinctlyMade (past ++ [input]) (memo.keep buckets input made) := by
  intro hash
  by_cases same : hash = memo.hash input
  · obtain ⟨inputs, nodup, ofPast, leftBy⟩ := distinct.append [input] (memo.hash input)
    have isNew : input ∉ inputs := by
      intro member
      obtain ⟨entry, isEntry, serves⟩ := exists_serves self leftBy member
      rw [not_serves_of_not_kept notFound entry isEntry] at serves
      cases serves
    rw [same, Memo.keep, Function.update_self]
    refine ⟨inputs ++ [input], ?_, ?_, ?_⟩
    · rw [← List.concat_eq_append]
      exact nodup.concat isNew
    · intro earlier member
      rcases List.mem_append.mp member with old | new
      · exact ofPast earlier old
      · rw [List.mem_singleton.mp new]
        exact ⟨List.mem_append_right _ List.mem_cons_self, rfl⟩
    · exact List.rel_append leftBy (.cons ⟨made, isMade, rfl⟩ .nil)
  · rw [Memo.keep, Function.update_of_ne same]
    exact distinct.append [input] hash

/-- A lookup of an input that serves itself adds no second entry for it. -/
theorem DistinctlyMade.get {past : List ι} (distinct : memo.DistinctlyMade past buckets)
    (self : memo.SelfServing input) :
    memo.DistinctlyMade (past ++ [input]) (memo.get buckets input).1 := by
  cases found : memo.kept buckets input with
  | some entry =>
      rw [get_of_kept found]
      exact distinct.append [input]
  | none =>
      cases isMade : memo.make input with
      | error error =>
          rw [get_of_error isMade found]
          exact distinct.append [input]
      | ok made =>
          rw [get_of_ok isMade found]
          exact distinct.keep self isMade found

/-- In runs over inputs that serve themselves, each entry is of an input of its own. -/
theorem DistinctlyMade.run {past : List ι} (distinct : memo.DistinctlyMade past buckets)
    {events : List (Event ι η)} (self : ∀ input ∈ Event.inputs events, memo.SelfServing input) :
    memo.DistinctlyMade (past ++ Event.inputs events)
      (Transition.run memo.step buckets events).1 := by
  induction events generalizing past buckets with
  | nil => simpa [Event.inputs] using distinct
  | cons event events ih =>
      cases event with
      | drop hash => exact ih (distinct.drop hash) self
      | get input =>
          obtain ⟨first, others⟩ := List.forall_mem_cons.mp self
          have later := ih (distinct.get first) others
          rw [List.append_assoc] at later
          exact later

end Memo

end Mysql2.Store

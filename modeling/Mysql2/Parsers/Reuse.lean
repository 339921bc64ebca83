import Mysql2.Parsers.Caching
import Mysql2.Store.Reuse

/-!
# Reuse of parsers

Calls of `getParser` with the same arguments get the same parser, unless compiling replaces the
option `typeCast`: the entry is then recorded for other options than it is looked up with, and
no call finds it.
-/

namespace Mysql2.Parsers

open Mysql2.Packets Mysql2.Script

variable {φ : Type}

/-- A call whose options have a function as `typeCast` if its configuration has one. -/
def Call.CastsItself (call : Call φ) : Prop :=
  call.config.typeCast.isFunction = true → call.options.typeCast.isFunction = true

theorem isFunction_iff_typeCastKind {typeCast : TypeCast φ} :
    typeCast.isFunction = true ↔ typeCastKind typeCast = 2 := by
  cases typeCast with
  | function => exact iff_of_true rfl rfl
  | absent => exact iff_of_false Bool.false_ne_true (by simp [typeCastKind])
  | false => exact iff_of_false Bool.false_ne_true (by simp [typeCastKind])
  | true => exact iff_of_false Bool.false_ne_true (by simp [typeCastKind])

theorem matches_new_self (parser : RowProgram) (type : Protocol) (fields : List Field)
    (options : Options φ) (config : Config φ) :
    (Entry.new parser type fields options config).matches type fields options config = true := by
  have tables : (Entry.new parser type fields options config).tables.all
      (fun tables => tables = fields.map Field.table) = true := by
    show Option.all _ (if _ then none else _) = true
    split
    · rfl
    · exact decide_eq_true rfl
  rw [Entry.matches, tables]
  simp [Entry.new]

/-- The entry that a call leaves matches its arguments if compiling has not replaced them. -/
theorem matchedBy_entry_iff (call : Call φ) (parser : RowProgram) :
    call.matchedBy (call.entry parser) = true ↔ call.CastsItself := by
  constructor
  · intro matched isFunction
    by_contra notFunction
    have replaced : withConfigTypeCast call.options call.config =
        { call.options with typeCast := call.config.typeCast } := if_pos ⟨isFunction, notFunction⟩
    have bits := (matches_new matched).1
    have kinds := (eq_of_optionBits_eq bits).2.2.2.2.1
    rw [replaced, isFunction_iff_typeCastKind.mp isFunction] at kinds
    exact notFunction (isFunction_iff_typeCastKind.mpr kinds.symm)
  · intro own
    rw [Call.matchedBy, Call.entry, withConfigTypeCast_eq_self own]
    exact matches_new_self parser call.type call.fields call.options call.config

theorem Call.CastsItself.selfServing {call : Call φ} (own : call.CastsItself) :
    (parserMemo φ).SelfServing call :=
  fun parser _ => (matchedBy_entry_iff call parser).mpr own

/-- The cache after some events. -/
def cacheAfter (events : List (Store.Event (Call φ) UInt32)) : Cache :=
  (Transition.run (parserMemo φ).step (fun _ => none) events).1

/-- The entries of the bucket with a hash. -/
def Cache.entries (parserCache : Cache) (hash : UInt32) : List Entry :=
  (parserCache hash).getD []

/-- The hash of the arguments. -/
def Call.hashKey (call : Call φ) : UInt32 :=
  Parsers.hashKey call.type call.fields call.options call.config

/-- The place in its bucket of the entry whose parser `getParser` returns. -/
def Cache.place (parserCache : Cache) (call : Call φ) : Nat :=
  (parserCache.entries call.hashKey).findIdx (call.matchedBy ·)

/-- In a run, a call with the arguments of an earlier one gets the parser of the same entry and
leaves the cache as it is, if the bucket has not gone in between. -/
def ReusesParsers (events : List (Store.Event (Call φ) UInt32)) : Prop :=
  ∀ before call between after, events = before ++ .get call :: (between ++ .get call :: after) →
    .drop call.hashKey ∉ between →
      let earlier := cacheAfter before
      let later := cacheAfter (before ++ .get call :: between)
      (getParser later call).1 = later ∧
        ∀ parser, (getParser earlier call).2 = .ok parser →
          (getParser later call).2 = .ok parser ∧ later.place call = earlier.place call ∧
            ∃ more, later.entries call.hashKey =
              (getParser earlier call).1.entries call.hashKey ++ more

/-- In a run, the buckets hold no more entries than there were different arguments with their
hashes. -/
def KeepsFewEntries (events : List (Store.Event (Call φ) UInt32)) : Prop :=
  ∀ before after, events = before ++ after → ∀ hash,
    ((cacheAfter before).entries hash).length ≤
      Set.ncard {call : Call φ | call ∈ Store.Event.inputs before ∧ call.hashKey = hash}

/-- Runs of calls whose options have a function as `typeCast` wherever the configuration has one
reuse parsers and keep one entry for each of the arguments. -/
theorem runCache_reuses {events : List (Store.Event (Call φ) UInt32)}
    (own : ∀ call ∈ Store.Event.inputs events, call.CastsItself) :
    ReusesParsers events ∧ KeepsFewEntries events := by
  constructor
  · intro before call between after split stays earlier later
    have casts : call.CastsItself := by
      apply own call
      rw [Store.mem_inputs_iff, split]
      exact List.mem_append_right _ List.mem_cons_self
    have laterEq : later = (Transition.run (parserMemo φ).step
        ((parserMemo φ).get earlier call).1 between).1 := by
      show (Transition.run _ _ _).1 = _
      rw [Transition.run_append]
      rfl
    have again := Store.Memo.get_again earlier casts.selfServing stays
    rw [← laterEq] at again
    rw [← parserMemo_get, ← parserMemo_get]
    exact again
  · intro before after split hash
    subst split
    have self : ∀ call ∈ Store.Event.inputs before, (parserMemo φ).SelfServing call := by
      intro call member
      apply Call.CastsItself.selfServing
      apply own call
      rw [Store.mem_inputs_iff] at member ⊢
      exact List.mem_append_left _ member
    have distinct := Store.Memo.distinctlyMade_nil.run self
    exact distinct.length_le hash

/-- A query on a connection with a function as `typeCast`. -/
def castCall (typeCast : TypeCast Unit) : Call Unit where
  type := .text
  fields := [dateField]
  options := { (noOptions : Options Unit) with typeCast := typeCast }
  config := { (noConfig : Config Unit) with typeCast := .function () }

theorem runCache_reuses_castCall :
    ReusesParsers [.get (castCall (.function ())), .get (castCall (.function ()))] ∧
      KeepsFewEntries [.get (castCall (.function ())), .get (castCall (.function ()))] :=
  runCache_reuses (by
    intro call member _
    rcases List.mem_pair.mp member with rfl | rfl
    · rfl
    · rfl)

/-- A query with `typeCast: false` on such a connection is compiled each time. -/
theorem not_forall_reuses :
    ¬ ∀ events : List (Store.Event (Call Unit) UInt32), ReusesParsers events ∧
      KeepsFewEntries events := by
  intro always
  have reuses := (always [.get (castCall .false), .get (castCall .false)]).1
  have again := (reuses [] (castCall .false) [] [] rfl List.not_mem_nil).1
  have one : ((cacheAfter [.get (castCall .false)]).entries (castCall .false).hashKey).length =
      1 := by
    decide +kernel
  have two : ((getParser (cacheAfter [.get (castCall .false)]) (castCall .false)).1.entries
      (castCall .false).hashKey).length = 2 := by
    decide +kernel
  rw [List.nil_append] at again
  rw [again, one] at two
  exact absurd two (by decide)

end Mysql2.Parsers

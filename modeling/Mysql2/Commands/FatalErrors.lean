import Mysql2.Commands.Defaults
import Mysql2.Commands.Frame
import Mysql2.Connection.Notifying

/-!
# Who hears of a fatal error

A fatal error calls the callback of every command that waits.  The prepare
command of `connection.execute` has a callback of its own, which calls the
callback of the execute command behind it, so that this one is called twice: by
the prepare command, and again when the queue reaches the execute command.
Without a callback the prepare command throws the error if nobody listens, and
the rest of the queue does not hear of it.

The error is set as fatal only when everybody has heard of it.  A callback that
calls `resume` before has the parked packets handled as if nothing had happened,
by the command that is still current.
-/

namespace Mysql2.Commands

open Mysql2.Connection
open Mysql2.Connection.BaseConnection
open Mysql2.Packets
open Mysql2.Transition

variable {V ρ γ : Type}

/-- The callbacks that are called, with their arguments. -/
def callbackCalls (outputs : List (CommandOutput ρ)) : List (Nat × Reply ρ) :=
  outputs.filterMap fun
    | .callback id reply => some (id, reply)
    | _ => none

theorem callbackCalls_append (outputs more : List (CommandOutput ρ)) :
    callbackCalls (outputs ++ more) = callbackCalls outputs ++ callbackCalls more :=
  List.filterMap_append

theorem callbackCalls_flatMap {α : Type} (shows : α → List (CommandOutput ρ)) (items : List α) :
    callbackCalls (items.flatMap shows) = items.flatMap fun item => callbackCalls (shows item) := by
  induction items with
  | nil => rfl
  | cons item items ih => rw [List.flatMap_cons, callbackCalls_append, ih, List.flatMap_cons]

namespace Command

/-- The callback of the command calls the callback of an execute command. -/
def relays : Command V ρ → Bool
  | .prepare command =>
      match command.onResult with
      | .execute _ onResult _ => onResult
      | _ => false
  | _ => false

/-- The callback of the command throws the error: there is an execute command
behind it that has neither a callback nor a listener. -/
def throws : Command V ρ → Bool
  | .prepare command =>
      match command.onResult with
      | .execute _ onResult errorListener => !onResult && !errorListener
      | _ => false
  | _ => false

/-- The callback that a caller has handed over with the command. -/
def callback : Command V ρ → Option Nat
  | .resultSet command => if command.onResult then some command.id else none
  | .prepare command => if command.onResult = .caller then some command.id else none
  | .closeStatement command _ => if command.onResult then some command.id else none
  | .resetConnection command => if command.onResult then some command.id else none
  | .changeUser command => some command.id
  | .other command isHandshake =>
      if command.onResult && !isHandshake then some command.id else none

/-- What an observer sees of the call of the command's callback with an error. -/
def report (command : Command V ρ) (err : JsError) : List (CommandOutput ρ) :=
  match command with
  | .resultSet command => [.callback command.id (.error err)]
  | .prepare command =>
      match command.onResult with
      | .none => []
      | .caller => [.callback command.id (.error err)]
      | .execute execute true _ => [.callback execute (.error err), .event execute .finished]
      | .execute execute false true => [.event execute (.error err), .event execute .finished]
      | .execute _ false false => []
  | .closeStatement command _ => [.callback command.id (.error err)]
  | .resetConnection command => [.callback command.id (.error err)]
  | .changeUser command => [.callback command.id (.error err)]
  | .other command _ => [.callback command.id (.error err)]

/-- What the callback of a prepare command shows, and whether it throws. -/
theorem callWithError_spec (world : World Prepare V ρ γ) (err : JsError)
    (callback : world.command.onResult ≠ .none) :
    (Prepare.callWithError world err).1.outputs =
        world.outputs ++ report (.prepare world.command : Command V ρ) err ∧
      ((Prepare.callWithError world err).2 = .ok () ↔
        throws (.prepare world.command : Command V ρ) = false) := by
  rcases world with ⟨⟨id, query, key, onResult, errorListener, next, statementId, fieldCount,
    parameterCount, fields, parameterDefinitions⟩, store, wire, outputs, added, userCode⟩
  cases onResult with
  | none => exact absurd rfl callback
  | caller => simp [Prepare.callWithError, World.emit, report, throws]
  | execute execute onResult errorListener =>
      cases onResult with
      | true => simp [Prepare.callWithError, Prepare.setLink, World.emit, report, throws]
      | false =>
          cases errorListener <;>
            simp [Prepare.callWithError, Prepare.setLink, World.emit, World.emitError, report,
              throws]

theorem queryTimeout_callWithError (world : World Prepare V ρ γ) (err : JsError) :
    (Prepare.callWithError world err).1.store.queryTimeout = world.store.queryTimeout := by
  rcases world with ⟨⟨id, query, key, onResult, errorListener, next, statementId, fieldCount,
    parameterCount, fields, parameterDefinitions⟩, store, wire, outputs, added, userCode⟩
  cases onResult with
  | none => cases errorListener <;> rfl
  | caller => rfl
  | execute execute onResult errorListener =>
      cases onResult <;> cases errorListener <;> rfl

theorem outputs_onResult (behaviour : Behaviour V ρ) (store : Store γ) (wire : Wire)
    {command : Command V ρ} (err : JsError) (callback : command.hasCallback = true) :
    (command.onResult behaviour store wire err).outputs = command.report err := by
  cases command with
  | prepare command =>
      have spec := callWithError_spec (.new command store wire : World Prepare V ρ γ) err
        (of_decide_eq_true callback)
      exact spec.1
  | _ => rfl

theorem uncaught_onResult (behaviour : Behaviour V ρ) (store : Store γ) (wire : Wire)
    {command : Command V ρ} (err : JsError) (callback : command.hasCallback = true) :
    (command.onResult behaviour store wire err).uncaught = command.throws := by
  cases command with
  | prepare command =>
      have spec := (callWithError_spec (.new command store wire : World Prepare V ρ γ) err
        (of_decide_eq_true callback)).2
      rw [onResult]
      dsimp only
      change _ = throws (.prepare (World.new command store wire : World Prepare V ρ γ).command)
      cases thrown : (Prepare.callWithError (.new command store wire : World Prepare V ρ γ) err).2
      with
      | ok _ => exact (spec.mp thrown).symm
      | error err =>
          rw [thrown] at spec
          symm
          apply (Bool.not_eq_false _).mp
          intro notThrows
          cases spec.mpr notThrows
  | _ => rfl

theorem queryTimeout_onResult (behaviour : Behaviour V ρ) (store : Store γ) (wire : Wire)
    (command : Command V ρ) (err : JsError) :
    (command.onResult behaviour store wire err).store.queryTimeout = store.queryTimeout := by
  cases command with
  | prepare command => exact queryTimeout_callWithError _ err
  | _ => rfl

/-- No timer is armed. -/
def Untimed (store : Store γ) : Prop :=
  ∀ id, store.queryTimeout id = none

/-- Without timers no function outside the commands shows anything. -/
theorem outputs_runInterrupt (cache : StatementCache γ) (function : Interrupt V ρ)
    (store : Store γ) (wire : Wire) (untimed : Untimed store) :
    (runInterrupt cache function store wire).outputs = [] ∧
      (runInterrupt cache function store wire).store.queryTimeout = store.queryTimeout := by
  cases function with
  | timeout id calls =>
      rw [runInterrupt, handleTimeoutError, untimed id]
      exact ⟨rfl, rfl⟩
  | localStream id event => cases event <;> exact ⟨rfl, rfl⟩
  | execute call => exact ⟨rfl, rfl⟩
  | unprepare key =>
      rw [runInterrupt, unprepare]
      dsimp only
      split <;> exact ⟨rfl, rfl⟩

/-- What the callbacks of the driver's commands show. -/
def reporting (config : CommandConfig V γ) : Reporting (family config : CommandFamily
    (Behaviour V ρ) (Interrupt V ρ) (Store γ) (Command V ρ) (CommandOutput ρ)) where
  report := report
  throws := throws
  still := Untimed
  outputs_onResult := fun behaviour store wire _ err callback =>
    outputs_onResult behaviour store wire err callback
  uncaught_onResult := fun behaviour store wire _ err callback =>
    uncaught_onResult behaviour store wire err callback
  still_onResult := by
    intro behaviour store wire command err untimed id
    exact (congrFun (queryTimeout_onResult behaviour store wire command err) id).trans (untimed id)
  outputs_interrupt := fun function store wire untimed =>
    (outputs_runInterrupt config.cache function store wire untimed).1
  still_interrupt := by
    intro function store wire untimed id
    exact (congrFun (outputs_runInterrupt config.cache function store wire untimed).2 id).trans
      (untimed id)

/-- The callbacks that are called with an error on behalf of the command. -/
def called (command : Command V ρ) : List Nat :=
  match command with
  | .prepare command =>
      match command.onResult with
      | .caller => [command.id]
      | .execute execute true _ => [execute]
      | _ => []
  | command => command.callback.toList

/-- What the replies of a command call. -/
theorem callbackCalls_replies (config : CommandConfig V γ) (command : Command V ρ)
    (err : JsError) :
    callbackCalls ((reporting config).replies err command) =
      command.called.map fun id => (id, .error err) := by
  rw [Reporting.replies]
  cases command with
  | prepare command =>
      rcases command with ⟨id, query, key, onResult, errorListener, next, statementId, fieldCount,
        parameterCount, fields, parameterDefinitions⟩
      cases onResult with
      | none => rfl
      | caller => rfl
      | execute execute onResult errorListener =>
          cases onResult <;> cases errorListener <;> rfl
  | changeUser command => rfl
  | resultSet command => 
      cases onResult : command.onResult <;>
        simp [family, hasCallback, called, callback, reporting, report, callbackCalls, onResult]
  | closeStatement command statementId =>
      cases onResult : command.onResult <;>
        simp [family, hasCallback, called, callback, reporting, report, callbackCalls, onResult]
  | resetConnection command =>
      cases onResult : command.onResult <;>
        simp [family, hasCallback, called, callback, reporting, report, callbackCalls, onResult]
  | other command isHandshake =>
      cases onResult : command.onResult <;> cases isHandshake <;>
        simp [family, hasCallback, called, callback, reporting, report, callbackCalls, onResult]

/-- Only the prepare command of `connection.execute` calls a callback that is not
its own. -/
theorem called_of_not_relays {command : Command V ρ} (notRelays : command.relays = false) :
    command.called = command.callback.toList := by
  cases command with
  | prepare command =>
      rcases command with ⟨id, query, key, onResult, errorListener, next, statementId, fieldCount,
        parameterCount, fields, parameterDefinitions⟩
      cases onResult with
      | none => rfl
      | caller => rfl
      | execute execute onResult errorListener =>
          cases onResult with
          | true => contradiction
          | false => rfl
  | _ => rfl

theorem called_of_relays {command : Command V ρ} (relays : command.relays = true) :
    command.callback = none ∧ ∃ execute, command.called = [execute] := by
  cases command with
  | prepare command =>
      rcases command with ⟨id, query, key, onResult, errorListener, next, statementId, fieldCount,
        parameterCount, fields, parameterDefinitions⟩
      cases onResult with
      | none => contradiction
      | caller => contradiction
      | execute execute onResult errorListener =>
          cases onResult with
          | true => exact ⟨rfl, execute, rfl⟩
          | false => contradiction
  | _ => contradiction

/-- The calls of the callbacks of a queue, each once and in its order. -/
def ownCalls (err : JsError) (commands : List (Command V ρ)) : List (Nat × Reply ρ) :=
  commands.flatMap fun command => command.callback.toList.map fun id => (id, .error err)

/-- The calls made on behalf of a queue. -/
def allCalls (err : JsError) (commands : List (Command V ρ)) : List (Nat × Reply ρ) :=
  commands.flatMap fun command => command.called.map fun id => (id, .error err)

theorem length_ownCalls_le (err : JsError) (commands : List (Command V ρ)) :
    (ownCalls err commands).length ≤ (allCalls err commands).length := by
  induction commands with
  | nil => exact Nat.le_refl 0
  | cons command commands ih =>
      rw [ownCalls, allCalls, List.flatMap_cons, List.flatMap_cons, List.length_append,
        List.length_append, List.length_map, List.length_map]
      refine Nat.add_le_add ?_ ih
      cases relays : command.relays with
      | true =>
          rw [(called_of_relays relays).1]
          exact Nat.zero_le _
      | false => rw [called_of_not_relays relays]

/-- Each callback is called once, and in the order of the queue, exactly if no
command calls another one's. -/
theorem allCalls_eq_ownCalls_iff (err : JsError) (commands : List (Command V ρ)) :
    allCalls err commands = ownCalls err commands ↔
      ∀ command ∈ commands, command.relays = false := by
  induction commands with
  | nil => simp [allCalls, ownCalls]
  | cons command commands ih =>
      rw [List.forall_mem_cons, ← ih, allCalls, ownCalls, List.flatMap_cons, List.flatMap_cons]
      cases relays : command.relays with
      | true =>
          obtain ⟨noCallback, execute, calledEq⟩ := called_of_relays relays
          constructor
          · intro same
            rw [noCallback, calledEq] at same
            change (execute, .error err) :: allCalls err commands = ownCalls err commands at same
            have atMost := length_ownCalls_le err commands
            rw [← same, List.length_cons] at atMost
            omega
          · rintro ⟨notRelays, _⟩
            contradiction
      | false =>
          rw [called_of_not_relays relays, List.append_cancel_left_eq]
          simp [allCalls, ownCalls]

/-! ## The call of `_handleFatalError` and what happens behind it -/

/-- Every command that waits, and every command that is added later, has its
callback called once, in order, and nothing is executed.  `handled` is what a
call of `_handleFatalError` has shown and left behind, and `later` is what
happens behind it. -/
structure NotifiesOnce (config : CommandConfig V γ) (settings : Config)
    (conn : BaseConnection (Store γ) (Command V ρ)) (err : JsError)
    (handled : BaseConnection (Store γ) (Command V ρ) ×
      List (Output (Command V ρ) (CommandOutput ρ)))
    (later : List (Event (Behaviour V ρ) (Interrupt V ρ) (Command V ρ))) : Prop where
  called : callbackCalls (shown handled.2) =
    ownCalls { err with fatal := true } (conn.command.toList ++ conn.commands)
  emptied : handled.1.commands = []
  notExecuted : executions handled.2 = []
  neverExecuted : executions (run (step (family config) settings) handled.1 later).2 = []
  refused : callbackCalls (shown (run (step (family config) settings) handled.1 later).2) =
    ownCalls closedStateError (added (family config) settings handled.1 later)

theorem fails_eq (config : CommandConfig V γ) (command : Command V ρ) :
    (reporting config).fails command = command.throws := by
  change (command.hasCallback && command.throws) = command.throws
  cases command with
  | prepare command =>
      cases onResult : command.onResult <;> simp [hasCallback, throws, onResult]
  | _ => exact Bool.and_false _

/-- Every callback is called once: there is no command among those that wait or are
added that relays, and none that throws in front of another command, and behind a
fatal error the current command has no callback. -/
structure Hears (config : CommandConfig V γ) (settings : Config)
    (conn handled : BaseConnection (Store γ) (Command V ρ))
    (later : List (Event (Behaviour V ρ) (Interrupt V ρ) (Command V ρ))) : Prop where
  noneRelays : conn.fatalError = none → ∀ command ∈ conn.command.toList ++ conn.commands,
    command.relays = false
  noneThrows : conn.fatalError = none →
    ∀ command ∈ (conn.command.toList ++ conn.commands).dropLast, command.throws = false
  silent : conn.fatalError.isSome = true → ∀ command ∈ conn.command, command.callback = none
  noneAdded : ∀ command ∈ added (family config) settings handled later, command.relays = false

/-- What has been handled notifies once exactly if every callback is called once. -/
theorem Handled.notifiesOnce_iff {config : CommandConfig V γ} {settings : Config}
    {conn : BaseConnection (Store γ) (Command V ρ)} (closed : FailsClosed conn) {err : JsError}
    {rest : List (Connection.Task (Command V ρ))}
    {handled : BaseConnection (Store γ) (Command V ρ) ×
      List (Output (Command V ρ) (CommandOutput ρ))}
    (isHandled : Handled (reporting config) { err with fatal := true } rest []
      conn.notifies handled.2 handled.1)
    (later : List (Event (Behaviour V ρ) (Interrupt V ρ) (Command V ρ))) :
    NotifiesOnce config settings conn err handled later ↔
      Hears config settings conn handled.1 later := by
  obtain ⟨noneLater, shownLater⟩ :=
    isHandled.stopped.run (reporting config) settings isHandled.still later
  have calledEq : callbackCalls (shown handled.2) = allCalls { err with fatal := true }
      ((reporting config).notified conn.notifies) := by
    rw [isHandled.shown, shown_nil, List.nil_append, callbackCalls_flatMap]
    simp only [callbackCalls_replies]
    rfl
  have refusedEq : callbackCalls (shown (run (step (family config) settings) handled.1 later).2) =
      allCalls closedStateError (added (family config) settings handled.1 later) := by
    rw [shownLater, callbackCalls_flatMap]
    simp only [callbackCalls_replies]
    rfl
  have emptiedIff := (reporting config).forgotten_eq_nil_iff conn.notifies
  simp only [fails_eq] at emptiedIff
  rw [← isHandled.left] at emptiedIff
  by_cases isFailed : conn.fatalError.isSome = true
  · -- nobody is notified a second time
    have noneNotified : conn.notifies = [] := if_pos isFailed
    have notUnfailed : conn.fatalError ≠ none := Option.isSome_iff_ne_none.mp isFailed
    have waiting : conn.command.toList ++ conn.commands = conn.command.toList := by
      rw [(closed.failed isFailed).1, List.append_nil]
    rw [noneNotified] at calledEq emptiedIff
    have silentIff : ownCalls { err with fatal := true } conn.command.toList = [] ↔
        ∀ command ∈ conn.command, command.callback = none := by
      cases conn.command with
      | none => simp [ownCalls]
      | some command => cases callback : command.callback <;> simp [ownCalls, callback]
    constructor
    · intro notifies
      refine ⟨fun unfailed => absurd unfailed notUnfailed,
        fun unfailed => absurd unfailed notUnfailed, fun _ => ?_, ?_⟩
      · apply silentIff.mp
        rw [← waiting, ← notifies.called, calledEq]
        rfl
      · apply (allCalls_eq_ownCalls_iff _ _).mp
        rw [← refusedEq, notifies.refused]
    · intro hears
      refine ⟨?_, emptiedIff.mpr (by simp), isHandled.executions, noneLater, ?_⟩
      · rw [calledEq, waiting, silentIff.mpr (hears.silent isFailed)]
        rfl
      · rw [refusedEq]
        exact (allCalls_eq_ownCalls_iff _ _).mpr hears.noneAdded
  · have unfailed : conn.fatalError = none := Option.not_isSome_iff_eq_none.mp isFailed
    have allNotified : conn.notifies = conn.command.toList ++ conn.commands := if_neg isFailed
    have left := isHandled.left
    rw [allNotified] at calledEq emptiedIff left
    constructor
    · intro notifies
      have wholeQueue := (reporting config).notified_eq_self (left.symm.trans notifies.emptied)
      refine ⟨fun _ => ?_, fun _ => emptiedIff.mp notifies.emptied,
        fun failed => absurd failed isFailed, ?_⟩
      · apply (allCalls_eq_ownCalls_iff _ _).mp
        rw [← notifies.called, calledEq, wholeQueue]
      · apply (allCalls_eq_ownCalls_iff _ _).mp
        rw [← refusedEq, notifies.refused]
    · intro hears
      have emptied := emptiedIff.mpr (hears.noneThrows unfailed)
      have wholeQueue := (reporting config).notified_eq_self (left.symm.trans emptied)
      refine ⟨?_, emptied, isHandled.executions, noneLater, ?_⟩
      · rw [calledEq, wholeQueue]
        exact (allCalls_eq_ownCalls_iff _ _).mpr (hears.noneRelays unfailed)
      · rw [refusedEq]
        exact (allCalls_eq_ownCalls_iff _ _).mpr hears.noneAdded

/-- The steps that perform tasks, with what the code outside does in each. -/
def proceeding (behaviours : Nat → Behaviour V ρ) (count : Nat) :
    List (Event (Behaviour V ρ) (Interrupt V ρ) (Command V ρ)) :=
  (List.range count).map fun index => .proceed (behaviours index)

/-- A call over the tasks `rest` is over, or an exception has ended the program. -/
def Over (rest : List (Connection.Task (Command V ρ)))
    (conn : BaseConnection (Store γ) (Command V ρ)) : Prop :=
  conn.crashed = true ∨ conn.todo = rest

theorem not_over_of_during {rest : List (Connection.Task (Command V ρ))}
    {conn : BaseConnection (Store γ) (Command V ρ)} (isDuring : During rest.length conn) :
    ¬ Over rest conn := by
  rintro (crashed | todoEq)
  · exact absurd (crashed.symm.trans isDuring.1) (Bool.noConfusion ·)
  · have longer := isDuring.2
    rw [todoEq] at longer
    exact Nat.lt_irrefl _ longer

/-- The call over the tasks `rest` ends behind `count` steps. -/
structure EndsAt (config : CommandConfig V γ) (settings : Config)
    (conn : BaseConnection (Store γ) (Command V ρ)) (rest : List (Connection.Task (Command V ρ)))
    (behaviours : Nat → Behaviour V ρ) (count : Nat) : Prop where
  goesOn : ∀ earlier < count,
    ¬ Over rest (run (step (family config) settings) conn (proceeding behaviours earlier)).1
  ended : Over rest (run (step (family config) settings) conn (proceeding behaviours count)).1

/-- A run in which nothing has been executed executes nothing in any of its steps. -/
theorem executions_of_runTo {config : CommandConfig V γ} {settings : Config}
    {conn : BaseConnection (Store γ) (Command V ρ)}
    {events : Nat → Event (Behaviour V ρ) (Interrupt V ρ) (Command V ρ)} {count : Nat}
    (none : executions (runTo (step (family config) settings) conn events count).2 = [])
    {index : Nat} (indexLt : index < count) :
    executions (step (family config) settings
      (runTo (step (family config) settings) conn events index).1 (events index)).2 = [] := by
  induction count with
  | zero => exact absurd indexLt (Nat.not_lt_zero index)
  | succ count ih =>
      rw [runTo_succ, executions_append] at none
      obtain ⟨before, last⟩ := List.append_eq_nil_iff.mp none
      rcases Nat.lt_succ_iff_lt_or_eq.mp indexLt with earlier | rfl
      · exact ih before earlier
      · exact last

section Runs

variable {config : CommandConfig V γ} {settings : Config} {store : Store γ}
  {before : List (Event (Behaviour V ρ) (Interrupt V ρ) (Command V ρ))}
  {conn : BaseConnection (Store γ) (Command V ρ)} {err : JsError}
  {rest : List (Connection.Task (Command V ρ))} {behaviours : Nat → Behaviour V ρ}

theorem addsNone_proceed (addNone : ∀ index, ∀ call ∈ (behaviours index).calls, call.adds = false)
    (index : Nat) : AddsNone (family config)
      (.proceed (behaviours index) : Event (Behaviour V ρ) (Interrupt V ρ) (Command V ρ)) := by
  intro store wire command err call callMem
  apply addNone index call
  cases command <;> exact callMem

/-- A parked packet that a command executes or that ends the program in front of
waiting commands spoils the call. -/
theorem EndsAt.not_notifiesOnce {count : Nat}
    (ends : EndsAt config settings conn rest behaviours count) {index : Nat}
    (indexLt : index < count)
    (isDuring : During rest.length
      (run (step (family config) settings) conn (proceeding behaviours index)).1)
    (loud : ¬ ResumesQuietly settings
      (run (step (family config) settings) conn (proceeding behaviours index)).1
      (.proceed (behaviours index) : Event (Behaviour V ρ) (Interrupt V ρ) (Command V ρ)))
    (later : List (Event (Behaviour V ρ) (Interrupt V ρ) (Command V ρ))) :
    ¬ NotifiesOnce config settings conn err
      (run (step (family config) settings) conn (proceeding behaviours count)) later := by
  intro notifies
  obtain ⟨takenRunning, longer, spoils⟩ :=
    @executes_or_crashes _ _ _ _ _ (family config) _ _ _ isDuring.1 loud (behaviours (index + 1))
  -- the packet is taken out in one step and handled in the next
  have succ : ∀ index,
      (run (step (family config) settings) conn (proceeding behaviours (index + 1))).1 =
        (step (family config) settings
          (run (step (family config) settings) conn (proceeding behaviours index)).1
          (.proceed (behaviours index))).1 := by
    intro index
    have stepEq := runTo_succ (step (family config) settings) conn
      (fun index => .proceed (behaviours index)) index
    have sameState := congrArg Prod.fst stepEq
    exact sameState
  have nextLt : index + 1 < count := by
    apply Nat.lt_of_le_of_ne indexLt
    rintro rfl
    have ended := ends.ended
    rw [succ] at ended
    exact not_over_of_during ⟨takenRunning, isDuring.2.trans longer⟩ ended
  rw [← succ] at spoils
  rcases spoils with executed | ⟨crashed, queued⟩
  · exact executed (executions_of_runTo notifies.notExecuted nextLt)
  · rw [← succ] at crashed queued
    have isLast : index + 1 + 1 = count := by
      apply Nat.le_antisymm nextLt
      by_contra before
      exact ends.goesOn _ (Nat.lt_of_not_le before) (Or.inl crashed)
    subst isLast
    exact queued notifies.emptied

end Runs

/-- Wherever `_handleFatalError` is called, with callbacks that add no commands and
no timers, it comes to its end, unless `resume` has a parked packet handled by the
current command or with an uncaught error in front of the rest of the queue.
Whatever happens behind its end, every callback has been called once and no
command is executed, exactly if no packet was handled so and every callback is
called once on behalf of its own command. -/
theorem handleFatalError_notifiesOnce_iff (config : CommandConfig V γ) (settings : Config)
    (store : Store γ) (before : List (Event (Behaviour V ρ) (Interrupt V ρ) (Command V ρ)))
    {conn : BaseConnection (Store γ) (Command V ρ)}
    (reached : (run (step (family config) settings) (new store) before).1 = conn)
    (running : conn.crashed = false) (untimed : Untimed conn.store) {err : JsError}
    {rest : List (Connection.Task (Command V ρ))}
    (todoEq : conn.todo = .handleFatalError err :: rest)
    (behaviours : Nat → Behaviour V ρ)
    (addNone : ∀ index, ∀ call ∈ (behaviours index).calls, call.adds = false) :
    ((∀ count, Meets (step (family config) settings) (ResumesQuietly settings) conn
        (proceeding behaviours count)) →
      ∃ count, EndsAt config settings conn rest behaviours count) ∧
    ∀ count, EndsAt config settings conn rest behaviours count →
      let handled := run (step (family config) settings) conn (proceeding behaviours count)
      ∀ later, NotifiesOnce config settings conn err handled later ↔
        Meets (step (family config) settings) (ResumesQuietly settings) conn
            (proceeding behaviours count) ∧
          Hears config settings conn handled.1 later := by
  have closed : FailsClosed conn := reached ▸ failsClosed_run (family config) settings store before
  have comes := closed.reaches_handleFatalError settings (reporting config) err rest running todoEq
    untimed
  have addsNone := @addsNone_proceed _ _ _ config _ addNone
  constructor
  · intro quiet
    obtain ⟨count, onTheWay, atCount⟩ := comes.exists_runTo fun index => .proceed (behaviours index)
    refine ⟨count, fun earlier isEarlier => not_over_of_during (onTheWay earlier isEarlier).1, ?_⟩
    rcases atCount with isHandled | ⟨_, notAllowed⟩
    · exact isHandled.ended
    · have isQuiet := meets_runTo_iff.mp (quiet (count + 1)) count (Nat.lt_succ_self count)
      exact absurd ⟨addsNone count, isQuiet⟩ notAllowed
  · intro count ends handled later
    have atEnd := comes.at_end (Over rest) (fun _ isDuring => not_over_of_during isDuring)
      (fun _ _ isHandled => isHandled.ended) ends.goesOn ends.ended
    rcases atEnd with ⟨isHandled, allAllowed⟩ | ⟨index, indexLt, isDuring, notAllowed⟩
    · have quiet : Meets (step (family config) settings) (ResumesQuietly settings) conn
          (proceeding behaviours count) :=
        meets_runTo_iff.mpr fun index indexLt => (allAllowed index indexLt).2
      rw [List.nil_append] at isHandled
      exact (Handled.notifiesOnce_iff closed isHandled later).trans (and_iff_right quiet).symm
    · constructor
      · intro notifies
        refine absurd notifies (ends.not_notifiesOnce indexLt isDuring ?_ later)
        exact fun quiet => notAllowed ⟨addsNone index, quiet⟩
      · rintro ⟨quiet, _⟩
        exact absurd ⟨addsNone index, meets_runTo_iff.mp quiet index indexLt⟩ notAllowed

/-- The error of a stream that is reset. -/
def resetError : JsError :=
  { JsError.new "read ECONNRESET" with code := some (.name "ECONNRESET") }

/-- A command has been started, and the stream is reset. -/
def resetRun : List DriverEvent :=
  [.input (.call (.addCommand (.other ⟨1, true, false, none⟩ false))),
    .proceed quiet, .proceed quiet, .proceed quiet, .input (.networkError resetError)]

/-- The callback of the command is called once. -/
theorem handleFatalError_notifiesOnce_iff_reset :
    let conn := (run (step (family (defaultConfig false)) listening) (new (.empty [])) resetRun).1
    ((∀ count, Meets (step (family (defaultConfig false)) listening) (ResumesQuietly listening) conn
        (proceeding (fun _ => quiet) count)) →
      ∃ count, EndsAt (defaultConfig false) listening conn [] (fun _ => quiet) count) ∧
    ∀ count, EndsAt (defaultConfig false) listening conn [] (fun _ => quiet) count →
      let handled := run (step (family (defaultConfig false)) listening) conn
        (proceeding (fun _ => quiet) count)
      ∀ later, NotifiesOnce (defaultConfig false) listening conn resetError handled later ↔
        Meets (step (family (defaultConfig false)) listening) (ResumesQuietly listening) conn
            (proceeding (fun _ => quiet) count) ∧
          Hears (defaultConfig false) listening conn handled.1 later :=
  handleFatalError_notifiesOnce_iff (defaultConfig false) listening (.empty []) resetRun rfl rfl
    (fun _ => rfl) rfl (fun _ => quiet) (by simp [quiet])

/-- `connection.execute` with a callback waits behind the command. -/
def executeResetRun : List DriverEvent :=
  [.input (.call (.addCommand (.other ⟨1, true, false, none⟩ false))),
    .proceed quiet, .proceed quiet, .proceed quiet,
    .input (.interrupt (.execute
      { id := 2
        sql := "SELECT 1"
        key := "SELECT 1"
        values := []
        attributes := []
        onResult := true
        errorListener := false
        timeout := 0
        streamFactory := false })),
    .proceed quiet, .proceed quiet, .input (.networkError resetError)]

/-- `_handleFatalError` comes to its end, and has called the callback of
`connection.execute` twice. -/
theorem executeReset_not_notifiesOnce :
    let conn := (run (step (family (defaultConfig false)) listening) (new (.empty []))
      executeResetRun).1
    let handled := run (step (family (defaultConfig false)) listening) conn
      (proceeding (fun _ => quiet) 6)
    conn.todo = [.handleFatalError resetError] ∧ handled.1.todo = [] ∧
      ¬ NotifiesOnce (defaultConfig false) listening conn resetError handled [] := by
  intro conn handled
  have firstTodo : conn.todo = [.handleFatalError resetError] := rfl
  have lastTodo : handled.1.todo = [] := List.isEmpty_iff.mp (by decide +kernel)
  have calls : (callbackCalls (shown handled.2)).length = 3 := by decide +kernel
  have own : (ownCalls { resetError with fatal := true }
      (conn.command.toList ++ conn.commands)).length = 2 := by decide +kernel
  clear_value handled conn
  refine ⟨firstTodo, lastTodo, fun notifies => ?_⟩
  rw [notifies.called, own] at calls
  contradiction

end Command

end Mysql2.Commands

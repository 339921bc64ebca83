import Mysql2.Connection.FailsClosed

/-!
# Fatal errors

`_handleFatalError` replaces `addCommand` and `write`, and calls the callbacks of
the current command and of the queue with the error.  A connection with a fatal
error executes nothing: packets are skipped, and commands that are added fail at
once.

What a callback shows depends on its command and the error alone, so what is
shown in all is known from the queue at the start.
-/

namespace Mysql2.Connection

open Mysql2.Packets
open Mysql2.Transition

variable {ω ι σ κ ο : Type}

/-! ## What is seen -/

/-- The commands whose `execute` was called. -/
def executions (outputs : List (Output κ ο)) : List κ :=
  outputs.filterMap fun
    | .executed command _ => some command
    | _ => none

/-- What the commands have shown. -/
def shown (outputs : List (Output κ ο)) : List ο :=
  outputs.filterMap fun
    | .command output => some output
    | _ => none

@[simp]
theorem executions_nil : executions ([] : List (Output κ ο)) = [] :=
  rfl

@[simp]
theorem shown_nil : shown ([] : List (Output κ ο)) = [] :=
  rfl

@[simp]
theorem executions_append (outputs more : List (Output κ ο)) :
    executions (outputs ++ more) = executions outputs ++ executions more :=
  List.filterMap_append

@[simp]
theorem shown_append (outputs more : List (Output κ ο)) :
    shown (outputs ++ more) = shown outputs ++ shown more :=
  List.filterMap_append

@[simp]
theorem executions_command (outputs : List ο) :
    executions (outputs.map .command : List (Output κ ο)) = [] := by
  induction outputs with
  | nil => rfl
  | cons output outputs ih => exact ih

@[simp]
theorem shown_command (outputs : List ο) :
    shown (outputs.map .command : List (Output κ ο)) = outputs := by
  induction outputs with
  | nil => rfl
  | cons output outputs ih => exact congrArg (output :: ·) ih

/-- No command has been executed or has shown anything. -/
structure Unseen (outputs : List (Output κ ο)) : Prop where
  executions : executions outputs = []
  shown : shown outputs = []

theorem unseen_nil : Unseen ([] : List (Output κ ο)) :=
  ⟨rfl, rfl⟩

theorem Unseen.append {outputs more : List (Output κ ο)} (left : Unseen outputs)
    (right : Unseen more) : Unseen (outputs ++ more) := by
  constructor
  · rw [executions_append, left.executions, right.executions, List.nil_append]
  · rw [shown_append, left.shown, right.shown, List.nil_append]

theorem BaseConnection.OnlyErrors.unseen {outputs : List (Output κ ο)}
    (onlyErrors : OnlyErrors outputs) : Unseen outputs := by
  induction outputs with
  | nil => exact unseen_nil
  | cons output outputs ih =>
      obtain ⟨⟨err, rfl⟩, later⟩ := List.forall_mem_cons.mp onlyErrors
      exact ⟨(ih later).executions, (ih later).shown⟩

/-- A family in which what the callback of a command shows, and whether it
throws, depends on the command and the error.  `still` holds of shared states in
which the functions outside the commands show nothing. -/
structure Reporting (family : CommandFamily ω ι σ κ ο) where
  report : κ → JsError → List ο
  throws : κ → Bool
  still : σ → Prop
  outputs_onResult : ∀ behaviour store wire command err, family.hasCallback command = true →
    (family.onResult behaviour store wire command err).outputs = report command err
  uncaught_onResult : ∀ behaviour store wire command err, family.hasCallback command = true →
    (family.onResult behaviour store wire command err).uncaught = throws command
  still_onResult : ∀ behaviour store wire command err, still store →
    still (family.onResult behaviour store wire command err).store
  outputs_interrupt : ∀ function store wire, still store →
    (family.interrupt function store wire).outputs = []
  still_interrupt : ∀ function store wire, still store →
    still (family.interrupt function store wire).store

namespace Reporting

variable {family : CommandFamily ω ι σ κ ο}

/-- What a command shows of an error: nothing without a callback. -/
def replies (reporting : Reporting family) (err : JsError) (command : κ) : List ο :=
  if family.hasCallback command then reporting.report command err else []

/-- The callback of the command throws. -/
def fails (reporting : Reporting family) (command : κ) : Bool :=
  family.hasCallback command && reporting.throws command

/-- The commands up to the first whose callback throws. -/
def notified (reporting : Reporting family) : List κ → List κ
  | [] => []
  | command :: commands =>
      command :: if reporting.fails command then [] else reporting.notified commands

/-- The commands behind the first whose callback throws. -/
def forgotten (reporting : Reporting family) : List κ → List κ
  | [] => []
  | command :: commands =>
      if reporting.fails command then commands else reporting.forgotten commands

end Reporting

namespace BaseConnection

variable {family : CommandFamily ω ι σ κ ο} {config : Config} {behaviour : ω}
  {conn after : BaseConnection σ κ}

/-! ## Behind a fatal error -/

/-- A fatal error has been handled. -/
structure Failed (conn : BaseConnection σ κ) : Prop where
  fatal : conn.fatalError.isSome = true
  closed : conn.closedState = true
  empty : conn.commands = []

theorem FailsClosed.failed_of_isSome (closed : FailsClosed conn)
    (fatal : conn.fatalError.isSome = true) : Failed conn :=
  ⟨fatal, (closed.failed fatal).2, (closed.failed fatal).1⟩

theorem Failed.keep (failed : Failed conn) (commands : after.commands = conn.commands)
    (fatalError : after.fatalError = conn.fatalError)
    (closed : conn.closedState = true → after.closedState = true) : Failed after :=
  ⟨fatalError ▸ failed.fatal, closed failed.closed, commands.trans failed.empty⟩

theorem Failed.setFatalError (failed : Failed conn) (err : JsError) (fatal : Bool) :
    Failed (conn.setFatalError err fatal) := by
  cases fatal with
  | false => exact failed
  | true => exact ⟨rfl, failed.closed, failed.empty⟩

theorem Failed.closes (failed : Failed conn) (closes : Closes conn after) : Failed after :=
  failed.keep closes.commands closes.fatalError closes.closedState

theorem setFatalError_store (conn : BaseConnection σ κ) (err : JsError) (fatal : Bool) :
    (conn.setFatalError err fatal).store = conn.store := by
  cases fatal <;> rfl

/-- The command that a task adds. -/
def addedBy : Task κ → List κ
  | .call (.addCommand command) => [command]
  | _ => []

/-- What a task does behind a fatal error: the connection stays as it is, nothing
is executed, and a command that is added fails. -/
structure Refuses (family : CommandFamily ω ι σ κ ο) (conn : BaseConnection σ κ) (task : Task κ)
    (outputs : List (Output κ ο)) (after : BaseConnection σ κ) : Prop where
  failed : Failed after
  executions : executions outputs = []
  shown : ∀ reporting : Reporting family,
    shown outputs = (addedBy task).flatMap (reporting.replies closedStateError)
  still : ∀ reporting : Reporting family,
    reporting.still conn.store → reporting.still after.store

theorem Refuses.of_unseen {task : Task κ} {outputs : List (Output κ ο)}
    (failed : Failed after) (store : after.store = conn.store) (unseen : Unseen outputs)
    (addsNone : addedBy task = []) : Refuses family conn task outputs after where
  failed := failed
  executions := unseen.executions
  shown := fun reporting => by rw [unseen.shown, addsNone, List.flatMap_nil]
  still := fun reporting still => store ▸ still

/-- One case for each way a task can be performed. -/
theorem Failed.perform (failed : Failed conn) {task : Task κ}
    {outputs : List (Output κ ο)}
    (performed : Performed family config behaviour conn task after outputs) :
    Refuses family conn task outputs after := by
  have notUnfailed : conn.fatalError ≠ none := by
    intro unfailed
    have fatal := failed.fatal
    rw [unfailed] at fatal
    contradiction
  have notOpen : conn.closedState ≠ false := by
    rw [failed.closed]
    decide
  cases performed with
  | parked packet paused => exact .of_unseen (failed.keep rfl rfl id) rfl unseen_nil rfl
  | unexpected packet unpaused idle closes onlyErrors =>
      refine .of_unseen (failed.closes closes) closes.store ?_ rfl
      exact ⟨onlyErrors.unseen.executions, onlyErrors.unseen.shown⟩
  | skipped packet unpaused active fatal =>
      cases packet with
      | none => exact .of_unseen (failed.keep rfl rfl id) rfl ⟨rfl, rfl⟩ rfl
      | some packet =>
          refine .of_unseen (failed.keep rfl rfl id) rfl ?_ rfl
          unfold receiveSequenceId
          dsimp only
          split <;> exact ⟨rfl, rfl⟩
  | executed packet unpaused active unfailed => exact absurd unfailed notUnfailed
  | pause => exact .of_unseen (failed.keep rfl rfl id) rfl unseen_nil rfl
  | resumeCall => exact .of_unseen (failed.keep rfl rfl id) rfl unseen_nil rfl
  | close => exact .of_unseen (failed.closes (closes_close conn)) rfl unseen_nil rfl
  | addClosed command closed callback =>
      refine ⟨failed.keep rfl rfl id, executions_command _, ?_, ?_⟩
      · intro reporting
        rw [callOnResult, apply, shown_command,
          reporting.outputs_onResult _ _ _ _ _ callback, addedBy, List.flatMap_singleton,
          Reporting.replies, if_pos callback]
      · intro reporting still
        exact reporting.still_onResult _ _ _ _ _ still
  | addClosedSilent command closed silent onlyErrors =>
      refine ⟨failed, onlyErrors.unseen.executions, fun reporting => ?_, fun _ still => still⟩
      rw [onlyErrors.unseen.shown, addedBy, List.flatMap_singleton, Reporting.replies,
        if_neg (ne_true_of_eq_false silent)]
  | addIdle command unclosed idle => exact absurd unclosed notOpen
  | addQueued command unclosed busy => exact absurd unclosed notOpen
  | handshakeError err => exact .of_unseen (failed.keep rfl rfl id) rfl unseen_nil rfl
  | continued => exact .of_unseen failed rfl unseen_nil rfl
  | finishedLast last => exact .of_unseen (failed.keep rfl rfl id) rfl ⟨rfl, rfl⟩ rfl
  | finishedNext queue =>
      rw [failed.empty] at queue
      contradiction
  | resumeStopped stopped => exact .of_unseen failed rfl unseen_nil rfl
  | resumeStart unpaused queue => exact .of_unseen (failed.keep rfl rfl id) rfl unseen_nil rfl
  | resumePacket unpaused queue =>
      exact .of_unseen (failed.keep rfl rfl id) rfl unseen_nil rfl
  | handleFatalError err =>
      exact .of_unseen (failed.keep rfl rfl fun _ => rfl) rfl unseen_nil rfl
  | notifyIgnored err fatal isFailed =>
      exact .of_unseen (failed.setFatalError err fatal) (setFatalError_store conn err fatal)
        unseen_nil rfl
  | notifyCallback err fatal unfailed => exact absurd unfailed notUnfailed
  | notifySilent err fatal unfailed => exact absurd unfailed notUnfailed
  | dropCommand => exact .of_unseen (failed.keep rfl rfl id) rfl unseen_nil rfl
  | drainCallback err bubble fatal queue =>
      rw [failed.empty] at queue
      contradiction
  | drainSilent err bubble fatal queue =>
      rw [failed.empty] at queue
      contradiction
  | drained err bubble fatal empty closes onlyErrors marks =>
      exact .of_unseen ((failed.closes closes).setFatalError err marks)
        ((setFatalError_store _ err marks).trans closes.store) onlyErrors.unseen rfl

/-- While the functions outside the commands show nothing, an input shows
nothing. -/
theorem unseen_accept (reporting : Reporting family) (config : Config)
    (still : reporting.still conn.store) (input : Input ι κ) :
    Unseen (conn.accept family config input).2 ∧
      reporting.still (conn.accept family config input).1.store := by
  cases input with
  | packet packet => exact ⟨⟨rfl, rfl⟩, still⟩
  | call call => exact ⟨unseen_nil, still⟩
  | resume => exact ⟨unseen_nil, still⟩
  | interrupt function =>
      have silent := reporting.outputs_interrupt function conn.store conn.wire still
      have stillNext := reporting.still_interrupt function conn.store conn.wire still
      rw [accept, runInterrupt]
      dsimp only
      split
      · have emitted := closes_emitError (ο := ο) config (conn.apply (ο := ο)
          { family.interrupt function conn.store conn.wire with wire := conn.wire }).1
          (.new "Can't write in closed state")
        constructor
        · rw [apply, silent]
          exact emitted.2.unseen
        · rw [emitted.1.store]
          exact stillNext
      · rw [apply, silent]
        exact ⟨unseen_nil, stillNext⟩
  | networkError err =>
      rw [accept, handleNetworkError]
      split <;> exact ⟨unseen_nil, still⟩
  | streamClose =>
      rw [accept, streamClose]
      split <;> exact ⟨unseen_nil, still⟩

/-! ## Runs behind a fatal error -/

/-- An exception has ended the program, or a fatal error has been handled. -/
def Stopped (conn : BaseConnection σ κ) : Prop :=
  conn.crashed = true ∨ Failed conn

/-- The commands that a step adds. -/
def adding (conn : BaseConnection σ κ) : Event ω ι κ → List κ
  | .input _ => []
  | .proceed _ => if conn.crashed then [] else (conn.todo.head?.toList).flatMap addedBy

/-- The commands that a run adds, in their order. -/
def added (family : CommandFamily ω ι σ κ ο) (config : Config) :
    BaseConnection σ κ → List (Event ω ι κ) → List κ
  | _, [] => []
  | conn, event :: events =>
      conn.adding event ++ added family config (step family config conn event).1 events

theorem Stopped.step (stopped : Stopped conn) (reporting : Reporting family)
    (config : Config) (still : reporting.still conn.store) (event : Event ω ι κ) :
    Stopped (step family config conn event).1 ∧
      reporting.still (step family config conn event).1.store ∧
      executions (step family config conn event).2 = [] ∧
      shown (step family config conn event).2 =
        (conn.adding event).flatMap (reporting.replies closedStateError) := by
  cases crashed : conn.crashed with
  | true =>
      rw [step_crashed crashed]
      refine ⟨stopped, still, rfl, ?_⟩
      cases event with
      | input input => rfl
      | proceed behaviour =>
          rw [adding, if_pos crashed]
          rfl
  | false =>
      have failed : Failed conn := by
        rcases stopped with isCrashed | failed
        · rw [crashed] at isCrashed
          contradiction
        · exact failed
      cases event with
      | input input =>
          by_cases busy : conn.todo ≠ []
          · rw [step_input_busy busy]
            exact ⟨stopped, still, rfl, rfl⟩
          · have stepEq : BaseConnection.step family config conn (.input input) =
                conn.accept family config input := if_pos ⟨crashed, not_not.mp busy⟩
            have accepts := accepts_accept family config conn input
            obtain ⟨unseen, stillNext⟩ := unseen_accept reporting config still input
            rw [stepEq]
            refine ⟨Or.inr ?_, stillNext, unseen.executions, unseen.shown⟩
            exact failed.keep accepts.commands accepts.fatalError accepts.closedState
      | proceed behaviour =>
          cases todoEq : conn.todo with
          | nil =>
              rw [step_proceed_idle todoEq]
              refine ⟨stopped, still, rfl, ?_⟩
              rw [adding, todoEq]
              simp
          | cons task rest =>
              rw [step_proceed crashed todoEq]
              have popped : Failed { conn with todo := rest } :=
                failed.keep rfl rfl id
              have refuses := popped.perform
                (performTask_performed family config behaviour _ task)
              refine ⟨Or.inr refuses.failed, refuses.still reporting still,
                refuses.executions, ?_⟩
              rw [refuses.shown reporting, adding, todoEq, if_neg (ne_true_of_eq_false crashed)]
              simp

/-- Whatever happens, nothing is executed, and every command that is added shows
an error and nothing else does. -/
theorem Stopped.run (stopped : Stopped conn) (reporting : Reporting family)
    (config : Config) (still : reporting.still conn.store) (events : List (Event ω ι κ)) :
    executions (run (BaseConnection.step family config) conn events).2 = [] ∧
      shown (run (BaseConnection.step family config) conn events).2 =
        (added family config conn events).flatMap (reporting.replies closedStateError) := by
  induction events generalizing conn with
  | nil => exact ⟨rfl, rfl⟩
  | cons event events ih =>
      obtain ⟨stoppedNext, stillNext, noExecution, shows⟩ :=
        stopped.step reporting config still event
      obtain ⟨noneLater, showsLater⟩ := ih stoppedNext stillNext
      constructor
      · rw [run_cons, executions_append, noExecution, noneLater, List.nil_append]
      · rw [run_cons, shown_append, shows, showsLater, added, List.flatMap_append]

end BaseConnection

end Mysql2.Connection

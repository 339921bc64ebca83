import Mysql2.Connection.Steps

/-!
# A failed connection is closed

Only `_handleFatalError` sets `_fatalError`.  It closes the connection before it
reports anything, and has worked the queue off when it sets it.  Nothing opens the
connection again, so in every state a connection with a fatal error is closed and
its queue is empty.
-/

namespace Mysql2.Connection

open Mysql2.Packets
open Mysql2.Transition

variable {ω ι σ κ ο : Type}

namespace BaseConnection

/-- With a fatal error, or with a task on the stack that will set one, the
connection is closed; with a fatal error its queue is empty. -/
structure FailsClosed (conn : BaseConnection σ κ) : Prop where
  failed : conn.fatalError.isSome = true → conn.commands = [] ∧ conn.closedState = true
  failing : ∀ task ∈ conn.todo, setsFatal task = true → conn.closedState = true

variable {family : CommandFamily ω ι σ κ ο} {config : Config} {behaviour : ω}
  {conn after : BaseConnection σ κ}

/-- No task marks the error it reports as fatal. -/
def Unmarked (tasks : List (Task κ)) : Prop :=
  ∀ task ∈ tasks, setsFatal task = false

theorem unmarked_calls (calls : List (Call κ)) : Unmarked (calls.map Task.call) := by
  intro task taskMem
  rcases List.mem_map.mp taskMem with ⟨call, _, rfl⟩
  rfl

namespace FailsClosed

theorem new (store : σ) : FailsClosed (new store : BaseConnection σ κ) where
  failed := fun failed => absurd failed Bool.false_ne_true
  failing := fun _ taskMem => absurd taskMem List.not_mem_nil

theorem unfailed_of_queue (closed : FailsClosed conn) (queued : conn.commands ≠ []) :
    conn.fatalError = none :=
  Option.not_isSome_iff_eq_none.mp fun failed => queued (closed.failed failed).1

theorem unfailed_of_open (closed : FailsClosed conn) (unclosed : conn.closedState = false) :
    conn.fatalError = none :=
  Option.not_isSome_iff_eq_none.mp fun failed =>
    absurd (closed.failed failed).2 (ne_true_of_eq_false unclosed)

theorem pop {task : Task κ} (closed : FailsClosed (conn.push [task])) : FailsClosed conn where
  failed := closed.failed
  failing := fun other otherMem => closed.failing other (List.mem_cons_of_mem task otherMem)

/-- More tasks go on the stack, and the connection stays closed. -/
theorem extend (closed : FailsClosed conn) (tasks : List (Task κ))
    (todoEq : after.todo = tasks ++ conn.todo)
    (failing : ∀ task ∈ tasks, setsFatal task = true → after.closedState = true)
    (failed : after.fatalError.isSome = true → after.commands = [] ∧ after.closedState = true)
    (stays : conn.closedState = true → after.closedState = true) : FailsClosed after where
  failed := failed
  failing := by
    intro task taskMem fatal
    rw [todoEq] at taskMem
    rcases List.mem_append.mp taskMem with inTasks | inTodo
    · exact failing task inTasks fatal
    · exact stays (closed.failing task inTodo fatal)

/-- Tasks that mark nothing as fatal go on the stack. -/
theorem keep (closed : FailsClosed conn) {tasks : List (Task κ)} (unmarked : Unmarked tasks)
    (todoEq : after.todo = tasks ++ conn.todo) (fatalError : after.fatalError = conn.fatalError)
    (commands : after.commands = conn.commands)
    (stays : conn.closedState = true → after.closedState = true) : FailsClosed after := by
  refine closed.extend tasks todoEq ?_ ?_ stays
  · intro task taskMem fatal
    rw [unmarked task taskMem] at fatal
    contradiction
  · rw [fatalError, commands]
    exact fun failed => ⟨(closed.failed failed).1, stays (closed.failed failed).2⟩

theorem closes (closed : FailsClosed conn) (closes : Closes conn after) : FailsClosed after :=
  closed.keep (List.forall_mem_nil _) closes.todo closes.fatalError closes.commands
    closes.closedState

/-- As long as nothing has failed, the queue does not matter. -/
theorem unfailed (closed : FailsClosed conn) (unfailed : conn.fatalError = none)
    (commands : List κ) : FailsClosed { conn with commands := commands } where
  failed := fun failed => absurd failed (Option.not_isSome_iff_eq_none.mpr unfailed)
  failing := closed.failing

theorem callOnResult (closed : FailsClosed conn) (family : CommandFamily ω ι σ κ ο)
    (behaviour : ω) {tasks : List (Task κ)}
    (failing : ∀ task ∈ tasks, setsFatal task = true → conn.closedState = true) (command : κ)
    (err : JsError) :
    FailsClosed ((conn.push tasks).callOnResult family behaviour command err).1 := by
  have pushed : FailsClosed (conn.push tasks) :=
    closed.extend tasks rfl failing closed.failed id
  exact pushed.keep (unmarked_calls _) rfl rfl rfl id

/-- One case for each way a task can be performed. -/
theorem perform {task : Task κ} {outputs : List (Output κ ο)}
    (closed : FailsClosed (conn.push [task]))
    (performed : Performed family config behaviour conn task after outputs) :
    FailsClosed after := by
  have popped := closed.pop
  have nothing : Unmarked ([] : List (Task κ)) := List.forall_mem_nil _
  have one : ∀ task : Task κ, setsFatal task = false → Unmarked [task] := by
    simp [Unmarked]
  have closing : setsFatal task = true → conn.closedState = true :=
    closed.failing task List.mem_cons_self
  cases performed with
  | parked packet paused => exact popped.keep nothing rfl rfl rfl id
  | unexpected packet unpaused idle closes onlyErrors => exact popped.closes closes
  | skipped packet unpaused active fatal =>
      cases packet <;> exact popped.keep nothing rfl rfl rfl id
  | @executed packet unpaused command active unfailed counted warnings countedEq outcome
      outcomeEq =>
      obtain ⟨wire, sameEq⟩ := receiveSequenceId_eq (ο := ο) conn packet
      rw [countedEq] at sameEq
      cases sameEq
      refine @keep _ _ conn _ popped (outcome.calls.map .call ++
        (outcome.handshakeError.toList.map .handshakeError ++ [afterExecute outcome.result]))
        ?_ (by simp [executed]) rfl rfl id
      intro task taskMem
      rcases List.mem_append.mp taskMem with inCalls | inRest
      · exact unmarked_calls outcome.calls task inCalls
      · rcases List.mem_append.mp inRest with inErrors | isLast
        · rcases List.mem_map.mp inErrors with ⟨err, _, rfl⟩
          rfl
        · cases List.mem_singleton.mp isLast
          cases outcome.result <;> rfl
  | pause => exact popped.keep nothing rfl rfl rfl id
  | resumeCall => exact popped.keep (one .resume rfl) rfl rfl rfl id
  | close => exact popped.closes (closes_close conn)
  | addClosed command isClosed callback =>
      exact popped.keep (unmarked_calls _) rfl rfl rfl id
  | addClosedSilent command isClosed silent onlyErrors => exact popped
  | addIdle command unclosed idle =>
      exact popped.keep (one (.handlePacket none) rfl) rfl rfl rfl id
  | addQueued command unclosed busy =>
      exact popped.unfailed (popped.unfailed_of_open unclosed) _
  | handshakeError err => exact popped.keep (one (.notifyError err false) rfl) rfl rfl rfl id
  | continued => exact popped
  | finishedLast last => exact popped.keep nothing rfl rfl rfl id
  | @finishedNext next commands queue =>
      have shifted := popped.unfailed (popped.unfailed_of_queue (by rw [queue]; simp)) commands
      exact shifted.keep (one (.handlePacket none) rfl) rfl rfl rfl id
  | resumeStopped stopped => exact popped
  | resumeStart unpaused queue => exact popped.keep nothing rfl rfl rfl id
  | @resumePacket packet parked unpaused queue =>
      have unmarked : Unmarked ([.handlePacket (some packet), .resume] : List (Task κ)) := by
        simp [Unmarked, setsFatal]
      exact popped.keep unmarked rfl rfl rfl id
  | handleFatalError err =>
      refine popped.extend [.notifyError { err with fatal := true } true] rfl ?_ ?_ ?_
      · exact fun _ _ _ => rfl
      · exact fun failed => ⟨(popped.failed failed).1, rfl⟩
      · exact fun _ => rfl
  | notifyIgnored err fatal failed =>
      cases fatal with
      | false => exact popped
      | true => exact ⟨fun _ => popped.failed failed, popped.failing⟩
  | notifyCallback err fatal unfailed active callback =>
      apply popped.callOnResult
      simpa [setsFatal] using closing
  | notifySilent err fatal unfailed silent bubble =>
      refine popped.extend [.drain err bubble fatal] rfl ?_ popped.failed id
      simpa [setsFatal, push] using closing
  | dropCommand => exact popped.keep nothing rfl rfl rfl id
  | @drainCallback err bubble fatal command commands queue callback =>
      have shifted := popped.unfailed (popped.unfailed_of_queue (by rw [queue]; simp)) commands
      apply shifted.callOnResult
      simpa [setsFatal] using closing
  | @drainSilent err bubble fatal command commands queue silent =>
      have shifted := popped.unfailed (popped.unfailed_of_queue (by rw [queue]; simp)) commands
      refine shifted.extend [.drain err true fatal] rfl ?_ shifted.failed id
      simpa [setsFatal, push] using closing
  | drained err bubble fatal empty closes onlyErrors marks marksOnly =>
      have later := popped.closes closes
      cases marks with
      | false => exact later
      | true =>
          refine ⟨fun _ => ⟨closes.commands.trans empty, ?_⟩, later.failing⟩
          exact closes.closedState (closing (marksOnly rfl))

end FailsClosed

/-- What an input leaves in place. -/
structure Accepts (before after : BaseConnection σ κ) : Prop where
  command : after.command = before.command
  commands : after.commands = before.commands
  fatalError : after.fatalError = before.fatalError
  closedState : before.closedState = true → after.closedState = true
  todo : ∃ tasks, after.todo = tasks ++ before.todo ∧ Unmarked tasks

theorem accepts_push {task : Task κ} (unmarked : setsFatal task = false) :
    Accepts conn (conn.push [task]) :=
  ⟨rfl, rfl, rfl, id, [task], rfl, List.forall_mem_singleton.mpr unmarked⟩

theorem Accepts.closes {closed : BaseConnection σ κ} (accepts : Accepts conn after)
    (closes : Closes after closed) : Accepts conn closed :=
  ⟨closes.command.trans accepts.command, closes.commands.trans accepts.commands,
    closes.fatalError.trans accepts.fatalError, closes.closedState ∘ accepts.closedState,
    closes.todo ▸ accepts.todo⟩

theorem accepts_accept (family : CommandFamily ω ι σ κ ο) (config : Config)
    (conn : BaseConnection σ κ) (input : Input ι κ) :
    Accepts conn (conn.accept family config input).1 := by
  have refl : Accepts conn conn := ⟨rfl, rfl, rfl, id, [], rfl, List.forall_mem_nil _⟩
  cases input with
  | packet packet => exact accepts_push rfl
  | call call => exact accepts_push rfl
  | resume => exact ⟨rfl, rfl, rfl, id, [.resume], rfl, List.forall_mem_singleton.mpr rfl⟩
  | interrupt function =>
      have applied : ∀ effect : Effect σ κ ο, Accepts conn (conn.apply effect).1 :=
        fun effect => ⟨rfl, rfl, rfl, id, _, rfl, unmarked_calls effect.calls⟩
      rw [accept, runInterrupt]
      dsimp only
      split
      · exact (applied _).closes (closes_emitError (ο := ο) config _ _).1
      · exact applied _
  | networkError err =>
      rw [accept, handleNetworkError]
      split
      · exact refl
      · exact accepts_push rfl
  | streamClose =>
      rw [accept, streamClose]
      split
      · exact refl
      · exact ⟨rfl, rfl, rfl, id, [_], rfl, List.forall_mem_singleton.mpr rfl⟩

theorem FailsClosed.accepts (closed : FailsClosed conn) (accepts : Accepts conn after) :
    FailsClosed after := by
  obtain ⟨tasks, todoEq, unmarked⟩ := accepts.todo
  exact closed.keep unmarked todoEq accepts.fatalError accepts.commands accepts.closedState

theorem FailsClosed.step (closed : FailsClosed conn) (event : Event ω ι κ) :
    FailsClosed (step family config conn event).1 := by
  cases crashed : conn.crashed with
  | true => rwa [step_crashed crashed]
  | false =>
      cases event with
      | input input =>
          by_cases busy : conn.todo ≠ []
          · rwa [step_input_busy busy]
          · have stepEq : BaseConnection.step family config conn (.input input) =
                conn.accept family config input := if_pos ⟨crashed, not_not.mp busy⟩
            rw [stepEq]
            exact closed.accepts (accepts_accept family config conn input)
      | proceed behaviour =>
          cases todoEq : conn.todo with
          | nil => rwa [step_proceed_idle todoEq]
          | cons task rest =>
              rw [step_proceed crashed todoEq]
              have whole : FailsClosed
                  (({ conn with todo := rest } : BaseConnection σ κ).push [task]) := by
                refine ⟨closed.failed, ?_⟩
                rw [push_todo, ← show conn.todo = [task] ++ rest from todoEq]
                exact closed.failing
              exact whole.perform (performTask_performed family config behaviour _ task)

/-- Every connection fails closed. -/
theorem failsClosed_run (family : CommandFamily ω ι σ κ ο) (config : Config) (store : σ)
    (events : List (Event ω ι κ)) :
    FailsClosed (run (step family config) (BaseConnection.new store) events).1 :=
  run_preserves FailsClosed (fun _ event closed => closed.step event) events (.new store)

end BaseConnection

end Mysql2.Connection

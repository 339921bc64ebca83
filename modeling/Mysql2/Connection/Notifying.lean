import Mysql2.Connection.Failing
import Mysql2.Transition.ComesTo

/-!
# The end of `_handleFatalError`

A call of `_handleFatalError` comes to its end, whatever the callbacks do other
than adding commands and having parked packets handled.  It has then shown what
the callbacks of the current command and of the queue show, in their order, up to
the first one that throws.

A callback that calls `resume` has the parked packets handled before the fatal
error is set.  With a current command that command is executed.  Without one the
packet is unexpected, and if nobody listens for that error it ends the program in
the middle of the queue.
-/

namespace Mysql2.Connection

open Mysql2.Packets
open Mysql2.Transition

variable {ω ι σ κ ο : Type}

/-- The call adds a command. -/
def Call.adds : Call κ → Bool
  | .addCommand _ => true
  | _ => false

namespace Reporting

variable {family : CommandFamily ω ι σ κ ο} (reporting : Reporting family)

theorem fails_of_silent {command : κ} (silent : family.hasCallback command = false) :
    reporting.fails command = false := by
  rw [fails, silent, Bool.false_and]

theorem replies_of_silent {command : κ} (silent : family.hasCallback command = false)
    (err : JsError) : reporting.replies err command = [] :=
  if_neg (ne_true_of_eq_false silent)

/-- A callback that throws is the last one. -/
theorem notified_of_fails {command : κ} (fails : reporting.fails command = true)
    (commands : List κ) :
    reporting.notified (command :: commands) = [command] ∧
      reporting.forgotten (command :: commands) = commands := by
  simp [notified, forgotten, fails]

theorem notified_of_not_fails {command : κ} (fails : reporting.fails command = false)
    (commands : List κ) :
    reporting.notified (command :: commands) = command :: reporting.notified commands ∧
      reporting.forgotten (command :: commands) = reporting.forgotten commands := by
  simp [notified, forgotten, fails]

/-- The whole queue hears of the error exactly if only its last callback throws. -/
theorem forgotten_eq_nil_iff (queue : List κ) :
    reporting.forgotten queue = [] ↔
      ∀ command ∈ queue.dropLast, reporting.fails command = false := by
  induction queue with
  | nil => simp [forgotten]
  | cons command queue ih =>
      cases queue with
      | nil => cases fails : reporting.fails command <;> simp [forgotten, fails]
      | cons next queue =>
          rw [List.dropLast_cons_cons, List.forall_mem_cons, ← ih]
          cases fails : reporting.fails command with
          | true => simp [(reporting.notified_of_fails fails _).2]
          | false => simp [(reporting.notified_of_not_fails fails _).2]

theorem notified_eq_self {queue : List κ} (noneForgotten : reporting.forgotten queue = []) :
    reporting.notified queue = queue := by
  induction queue with
  | nil => rfl
  | cons command queue ih =>
      cases fails : reporting.fails command with
      | true =>
          rw [(reporting.notified_of_fails fails _).2] at noneForgotten
          rw [(reporting.notified_of_fails fails _).1, noneForgotten]
      | false =>
          rw [(reporting.notified_of_not_fails fails _).2] at noneForgotten
          rw [(reporting.notified_of_not_fails fails _).1, ih noneForgotten]

end Reporting

namespace BaseConnection

variable {family : CommandFamily ω ι σ κ ο} {config : Config} {behaviour : ω}
  {conn after : BaseConnection σ κ}

/-- The next task is performed, and the callbacks that it calls add no command. -/
def AddsNone (family : CommandFamily ω ι σ κ ο) : Event ω ι κ → Prop
  | .input _ => False
  | .proceed behaviour => ∀ store wire command err,
      ∀ call ∈ (family.onResult behaviour store wire command err).calls, call.adds = false

/-! ## Packets handled inside a callback -/

/-- The error for a packet that no command waits for is uncaught: its ERR packet
cannot be read, or nobody listens for the error. -/
def unexpectedThrows (config : Config) (conn : BaseConnection σ κ) (packet : Packet) : Bool :=
  (decide (packet.peekByte = some 0xff) &&
      !(errorFromPacket config.decoding packet).isOk) ||
    (!conn.closing && !config.errorListener)

theorem crashed_unexpectedPacket (config : Config) (conn : BaseConnection σ κ) (packet : Packet) :
    (conn.unexpectedPacket config packet : _ × List (Output κ ο)).1.crashed =
      (conn.crashed || conn.unexpectedThrows config packet) := by
  have raised : ∀ err : JsError,
      (if conn.closing then (conn.close, ([] : List (Output κ ο))) else
        let emitted := conn.emitError config err
        (if emitted.1.crashed then emitted.1 else emitted.1.close, emitted.2)).1.crashed =
        (conn.crashed || (!conn.closing && !config.errorListener)) := by
    intro err
    cases closing : conn.closing with
    | true => simp [close]
    | false =>
        unfold emitError
        cases config.errorListener <;> cases crashed : conn.crashed <;> simp [close, crashed]
  unfold unexpectedPacket unexpectedThrows
  by_cases marker : packet.peekByte = some 0xff
  · rw [if_pos marker]
    cases errorFromPacket config.decoding packet with
    | error err => simp [Except.map, Except.isOk, Except.toBool, marker]
    | ok error =>
        simp only [Except.map]
        rw [raised]
        simp [Except.isOk, Except.toBool]
  · rw [if_neg marker]
    dsimp only
    rw [raised]
    simp [marker]

/-- The parked packet that the next step takes out of the queue. -/
def takenNext (conn : BaseConnection σ κ) : Option Packet :=
  match conn.todo, conn.paused, conn.pausedPackets with
  | .resume :: _, false, some packet :: _ => some packet
  | _, _, _ => none

/-- As long as no fatal error is set, a parked packet is taken out only while there
is no current command, and its error is caught or the queue is empty. -/
def ResumesQuietly (config : Config) (conn : BaseConnection σ κ) : Event ω ι κ → Prop
  | .input _ => True
  | .proceed _ => conn.fatalError = none → ∀ packet ∈ conn.takenNext,
      conn.command = none ∧ (conn.unexpectedThrows config packet = true → conn.commands = [])

theorem takenNext_eq_some {packet : Packet} (taken : conn.takenNext = some packet) :
    ∃ rest parked, conn.todo = .resume :: rest ∧ conn.paused = false ∧
      conn.pausedPackets = some packet :: parked := by
  unfold takenNext at taken
  split at taken
  · next rest _ parked todoEq unpaused parkedEq =>
      cases taken
      exact ⟨rest, parked, todoEq, unpaused, parkedEq⟩
  · contradiction

theorem takenNext_of_resume {packet : Packet} {rest : List (Task κ)}
    {parked : List (Option Packet)} (todoEq : conn.todo = .resume :: rest)
    (unpaused : conn.paused = false) (parkedEq : conn.pausedPackets = some packet :: parked) :
    conn.takenNext = some packet := by
  rw [takenNext, todoEq, unpaused, parkedEq]

/-- The loop of `resume` takes a parked packet out. -/
theorem step_taken {packet : Packet} {rest : List (Task κ)} {parked : List (Option Packet)}
    (running : conn.crashed = false) (todoEq : conn.todo = .resume :: rest)
    (unpaused : conn.paused = false) (parkedEq : conn.pausedPackets = some packet :: parked) :
    step family config conn (.proceed behaviour) =
      ({ conn with
        pausedPackets := parked
        todo := .handlePacket (some packet) :: .resume :: rest }, []) := by
  rw [step_proceed running todoEq, performTask, resume, if_neg (ne_true_of_eq_false unpaused)]
  dsimp only
  rw [parkedEq]
  rfl

/-- A packet that no command waits for is handled. -/
theorem step_unexpected {packet : Packet} {rest : List (Task κ)}
    (running : conn.crashed = false) (todoEq : conn.todo = .handlePacket (some packet) :: rest)
    (unpaused : conn.paused = false) (idle : conn.command = none) :
    step family config conn (.proceed behaviour) =
      ((({ conn with todo := rest } : BaseConnection σ κ).unexpectedPacket config packet :
          _ × List (Output κ ο)).1,
        .processed (some packet) ::
          (({ conn with todo := rest } : BaseConnection σ κ).unexpectedPacket config
            packet).2) := by
  rw [step_proceed running todoEq, performTask, handlePacket,
    if_neg (ne_true_of_eq_false unpaused)]
  dsimp only
  rw [idle]

/-- A packet that is taken out otherwise is executed, or ends the program in front
of commands that wait. -/
theorem executes_or_crashes (running : conn.crashed = false)
    (loud : ¬ ResumesQuietly config conn (.proceed behaviour : Event ω ι κ)) (next : ω) :
    let taken := (step family config conn (.proceed behaviour)).1
    let handled := step family config taken (.proceed next)
    taken.crashed = false ∧ conn.todo.length < taken.todo.length ∧
      (executions handled.2 ≠ [] ∨ (handled.1.crashed = true ∧ handled.1.commands ≠ [])) := by
  unfold ResumesQuietly at loud
  push Not at loud
  obtain ⟨unfailed, packet, taken, disturbs⟩ := loud
  obtain ⟨rest, parked, todoEq, unpaused, parkedEq⟩ := takenNext_eq_some taken
  intro taken handled
  have takenEq : taken =
      { conn with
        pausedPackets := parked
        todo := .handlePacket (some packet) :: .resume :: rest } :=
    congrArg Prod.fst (step_taken running todoEq unpaused parkedEq)
  have takenRunning : taken.crashed = false := by
    rw [takenEq]
    exact running
  have takenTodo : taken.todo = .handlePacket (some packet) :: .resume :: rest := by
    rw [takenEq]
  have takenUnpaused : taken.paused = false := by
    rw [takenEq]
    exact unpaused
  refine ⟨takenRunning, ?_, ?_⟩
  · rw [takenTodo, todoEq]
    exact Nat.lt_succ_self _
  · cases active : conn.command with
    | some command =>
        left
        have notFailed : ¬ taken.fatalError.isSome = true := by
          rw [takenEq, unfailed]
          exact Bool.false_ne_true
        have takenActive : taken.command = some command := by
          rw [takenEq]
          exact active
        change executions (step family config taken (.proceed next)).2 ≠ []
        rw [step_proceed takenRunning takenTodo, performTask, handlePacket,
          if_neg (ne_true_of_eq_false takenUnpaused)]
        dsimp only
        rw [takenActive]
        dsimp only
        rw [if_neg notFailed]
        simp [executeCommand, executions]
    | none =>
        right
        obtain ⟨throws, queued⟩ := disturbs active
        have takenIdle : taken.command = none := by
          rw [takenEq]
          exact active
        have handledEq : handled = _ :=
          step_unexpected takenRunning takenTodo takenUnpaused takenIdle
        have closes := (closes_unexpectedPacket (ο := ο) config
          { taken with todo := .resume :: rest } packet).1
        rw [handledEq]
        constructor
        · rw [crashed_unexpectedPacket]
          apply Bool.or_eq_true_iff.mpr
          right
          rw [takenEq]
          exact throws
        · rw [closes.commands, takenEq]
          exact queued

/-! ## The calls of a callback -/

/-- An allowed step on the way to the end. -/
def Allowed (family : CommandFamily ω ι σ κ ο) (config : Config) (conn : BaseConnection σ κ)
    (event : Event ω ι κ) : Prop :=
  AddsNone family event ∧ ResumesQuietly config conn event

/-- More tasks are on the stack than below the call, and no exception has ended the
program. -/
def During (depth : Nat) (conn : BaseConnection σ κ) : Prop :=
  conn.crashed = false ∧ depth < conn.todo.length

/-- What all the steps of a call of `_handleFatalError` come to. -/
abbrev Reaches (family : CommandFamily ω ι σ κ ο) (config : Config) (depth : Nat)
    (goal : List (Output κ ο) → BaseConnection σ κ → Prop) (outputs : List (Output κ ο))
    (conn : BaseConnection σ κ) : Prop :=
  ComesTo (step family config) (Allowed family config) (During depth) goal outputs conn

/-- One more step, which performs the next task. -/
theorem reaches_proceed {depth : Nat} {goal : List (Output κ ο) → BaseConnection σ κ → Prop}
    {outputs : List (Output κ ο)} {task : Task κ} {rest : List (Task κ)}
    (running : conn.crashed = false) (todoEq : conn.todo = task :: rest)
    (depth_le : depth ≤ rest.length)
    (later : ∀ behaviour, AddsNone family (.proceed behaviour : Event ω ι κ) →
      ResumesQuietly config conn (.proceed behaviour : Event ω ι κ) →
      Reaches family config depth goal
        (outputs ++ (performTask family config behaviour { conn with todo := rest } task).2)
        (performTask family config behaviour { conn with todo := rest } task).1) :
    Reaches family config depth goal outputs conn := by
  refine ComesTo.step ⟨running, ?_⟩ ?_
  · rw [todoEq]
    exact Nat.lt_succ_of_le depth_le
  · rintro (input | behaviour) ⟨addsNone, quiet⟩
    · exact addsNone.elim
    · rw [step_proceed running todoEq]
      exact later behaviour addsNone quiet

/-- What a callback that adds no command leaves in place. -/
structure Passes (before after : BaseConnection σ κ) : Prop where
  command : after.command = before.command
  commands : after.commands = before.commands
  fatalError : after.fatalError = before.fatalError
  store : after.store = before.store
  running : after.crashed = false
  closed : after.closedState = true

theorem Passes.trans {first second third : BaseConnection σ κ} (left : Passes first second)
    (right : Passes second third) : Passes first third :=
  ⟨right.command.trans left.command, right.commands.trans left.commands,
    right.fatalError.trans left.fatalError, right.store.trans left.store, right.running,
    right.closed⟩

/-- A parked packet has ended the program, behind the last command of the queue. -/
structure Ends (before after : BaseConnection σ κ) : Prop where
  crashed : after.crashed = true
  commands : before.commands = [] ∧ after.commands = []
  store : after.store = before.store

theorem Passes.ends {first second third : BaseConnection σ κ} (passes : Passes first second)
    (ends : Ends second third) : Ends first third :=
  ⟨ends.crashed, ⟨passes.commands.symm.trans ends.commands.1, ends.commands.2⟩,
    ends.store.trans passes.store⟩

/-- A goal that a parked packet meets by ending the program. -/
def MetAtEnd (goal : List (Output κ ο) → BaseConnection σ κ → Prop)
    (outputs : List (Output κ ο)) (conn : BaseConnection σ κ) : Prop :=
  ∀ more after, Unseen more → Ends conn after → goal (outputs ++ more) after

/-- The goal is reached behind the calls of a callback, with `rest` on the stack. -/
def ReachedBehind (family : CommandFamily ω ι σ κ ο) (config : Config) (depth : Nat)
    (goal : List (Output κ ο) → BaseConnection σ κ → Prop) (rest : List (Task κ))
    (outputs : List (Output κ ο)) (conn : BaseConnection σ κ) : Prop :=
  ∀ more after, Unseen more → Passes conn after → after.todo = rest →
    Reaches family config depth goal (outputs ++ more) after

section Calls

variable {depth : Nat} {goal : List (Output κ ο) → BaseConnection σ κ → Prop}
  {outputs more : List (Output κ ο)} {rest : List (Task κ)}

theorem MetAtEnd.pass (met : MetAtEnd goal outputs conn) (unseen : Unseen more)
    (passes : Passes conn after) : MetAtEnd goal (outputs ++ more) after := by
  intro next last unseenNext ends
  rw [List.append_assoc]
  exact met _ last (unseen.append unseenNext) (passes.ends ends)

theorem ReachedBehind.pass (reached : ReachedBehind family config depth goal rest outputs conn)
    (unseen : Unseen more) (passes : Passes conn after) :
    ReachedBehind family config depth goal rest (outputs ++ more) after := by
  intro next last unseenNext passesNext lastTodo
  rw [List.append_assoc]
  exact reached _ last (unseen.append unseenNext) (passes.trans passesNext) lastTodo

/-- The loop of `resume` in a callback works off the parked packets, none of which a
command waits for. -/
theorem reaches_resume {parked : List (Option Packet)} (running : conn.crashed = false)
    (closed : conn.closedState = true) (unfailed : conn.fatalError = none)
    (todoEq : conn.todo = .resume :: rest) (depth_le : depth ≤ rest.length)
    (unpaused : conn.paused = false) (parkedEq : conn.pausedPackets = parked)
    (met : MetAtEnd goal outputs conn)
    (later : ReachedBehind family config depth goal rest outputs conn) :
    Reaches family config depth goal outputs conn := by
  induction parked generalizing conn outputs with
  | nil =>
      refine reaches_proceed running todoEq depth_le fun behaviour _ _ => ?_
      have stays : ({ conn with todo := rest } : BaseConnection σ κ).resume =
          { conn with todo := rest } := by
        rw [resume, if_neg (ne_true_of_eq_false unpaused)]
        dsimp only
        rw [parkedEq]
      rw [performTask, stays]
      exact later [] _ unseen_nil ⟨rfl, rfl, rfl, rfl, running, closed⟩ rfl
  | cons head parked ih =>
      refine reaches_proceed running todoEq depth_le fun behaviour _ quiet => ?_
      rw [← step_proceed running todoEq]
      cases head with
      | none =>
          have stepEq : step family config conn (.proceed behaviour) =
              ({ conn with
                pausedPackets := parked
                todo := rest }, []) := by
            rw [step_proceed running todoEq, performTask, resume,
              if_neg (ne_true_of_eq_false unpaused)]
            dsimp only
            rw [parkedEq]
          rw [stepEq]
          exact later [] _ unseen_nil ⟨rfl, rfl, rfl, rfl, running, closed⟩ rfl
      | some packet =>
          obtain ⟨idle, caught⟩ :=
            quiet unfailed packet (takenNext_of_resume todoEq unpaused parkedEq)
          rw [step_taken running todoEq unpaused parkedEq, List.append_nil]
          refine ComesTo.step ⟨running, ?_⟩ ?_
          · exact Nat.lt_succ_of_le (Nat.le_succ_of_le depth_le)
          · rintro (input | next) ⟨addsNone, _⟩
            · exact addsNone.elim
            · have unexpected : step family config
                  { conn with
                    pausedPackets := parked
                    todo := .handlePacket (some packet) :: .resume :: rest }
                  (.proceed next : Event ω ι κ) = _ :=
                step_unexpected running rfl unpaused idle
              rw [unexpected]
              dsimp only
              obtain ⟨closes, onlyErrors⟩ := closes_unexpectedPacket (ο := ο) config
                { conn with
                  pausedPackets := parked
                  todo := .resume :: rest } packet
              have crashedEq := crashed_unexpectedPacket (ο := ο) config
                { conn with
                  pausedPackets := parked
                  todo := .resume :: rest } packet
              generalize ({ conn with
                pausedPackets := parked
                todo := .resume :: rest } : BaseConnection σ κ).unexpectedPacket config packet =
                  handled at closes onlyErrors crashedEq ⊢
              have unseen : Unseen (.processed (some packet) :: handled.2) :=
                ⟨onlyErrors.unseen.executions, onlyErrors.unseen.shown⟩
              cases crashed : handled.1.crashed with
              | true =>
                  rw [crashed, show conn.crashed = false from running, Bool.false_or] at crashedEq
                  have empty := caught crashedEq.symm
                  exact .here (met _ _ unseen
                    ⟨crashed, ⟨empty, closes.commands.trans empty⟩, closes.store⟩)
              | false =>
                  have passes : Passes conn handled.1 :=
                    ⟨closes.command, closes.commands, closes.fatalError, closes.store, crashed,
                      closes.closedState closed⟩
                  exact ih crashed passes.closed (passes.fatalError.trans unfailed) closes.todo
                    (closes.paused.trans unpaused) closes.pausedPackets (met.pass unseen passes)
                    (later.pass unseen passes)

/-- The calls of a callback are performed. -/
theorem reaches_calls {calls : List (Call κ)} (addsNone : ∀ call ∈ calls, call.adds = false)
    (running : conn.crashed = false) (closed : conn.closedState = true)
    (unfailed : conn.fatalError = none) (todoEq : conn.todo = calls.map .call ++ rest)
    (depth_le : depth ≤ rest.length) (met : MetAtEnd goal outputs conn)
    (later : ReachedBehind family config depth goal rest outputs conn) :
    Reaches family config depth goal outputs conn := by
  induction calls generalizing conn outputs with
  | nil =>
      have reached := later [] conn unseen_nil ⟨rfl, rfl, rfl, rfl, running, closed⟩ todoEq
      rwa [List.append_nil] at reached
  | cons call calls ih =>
      obtain ⟨addsNothing, laterAddNone⟩ := List.forall_mem_cons.mp addsNone
      have depth_le_calls : depth ≤ (calls.map Task.call ++ rest).length := by
        rw [List.length_append]
        omega
      have goOn : ∀ next : BaseConnection σ κ, Passes conn next →
          next.todo = calls.map .call ++ rest →
          Reaches family config depth goal (outputs ++ []) next := fun next passes nextTodo =>
        ih laterAddNone passes.running passes.closed (passes.fatalError.trans unfailed) nextTodo
          (met.pass unseen_nil passes) (later.pass unseen_nil passes)
      refine reaches_proceed running todoEq depth_le_calls fun behaviour _ _ => ?_
      cases call with
      | pause => exact goOn _ ⟨rfl, rfl, rfl, rfl, running, closed⟩ rfl
      | close => exact goOn _ ⟨rfl, rfl, rfl, rfl, running, rfl⟩ rfl
      | resume =>
          rw [performTask, perform, List.append_nil]
          have passes : Passes conn
              (({ conn with
                todo := calls.map .call ++ rest
                paused := false } : BaseConnection σ κ).push [.resume]) :=
            ⟨rfl, rfl, rfl, rfl, running, closed⟩
          have metNow := met.pass unseen_nil passes
          have laterNow := later.pass unseen_nil passes
          rw [List.append_nil] at metNow laterNow
          refine reaches_resume passes.running passes.closed
            (passes.fatalError.trans unfailed) rfl depth_le_calls rfl rfl metNow ?_
          intro more next unseen passesNext nextTodo
          exact ih laterAddNone passesNext.running passesNext.closed
            ((passes.trans passesNext).fatalError.trans unfailed) nextTodo
            (metNow.pass unseen passesNext) (laterNow.pass unseen passesNext)
      | addCommand command => exact absurd addsNothing (by simp [Call.adds])

end Calls

/-! ## The call -/

/-- A callback is called: it throws, or its calls are performed. -/
theorem reaches_callback {depth : Nat} {goal : List (Output κ ο) → BaseConnection σ κ → Prop}
    (reporting : Reporting family) {outputs : List (Output κ ο)} {rest : List (Task κ)}
    (addsNone : AddsNone family (.proceed behaviour : Event ω ι κ)) (running : conn.crashed = false)
    (closed : conn.closedState = true) (unfailed : conn.fatalError = none)
    (todoEq : conn.todo = rest) (depth_le : depth ≤ rest.length) {command : κ}
    (callback : family.hasCallback command = true) (err : JsError)
    (still : reporting.still conn.store)
    (thrown : reporting.fails command = true → ∀ after, after.crashed = true →
      after.commands = conn.commands → reporting.still after.store →
      goal (outputs ++ (reporting.replies err command).map .command) after)
    (ended : reporting.fails command = false → ∀ more after, Unseen more →
      after.crashed = true → conn.commands = [] → after.commands = [] →
      reporting.still after.store →
      goal (outputs ++ (reporting.replies err command).map .command ++ more) after)
    (later : reporting.fails command = false → ∀ more after, Unseen more → after.todo = rest →
      after.commands = conn.commands → after.fatalError = none → after.crashed = false →
      after.closedState = true → reporting.still after.store →
      Reaches family config depth goal
        (outputs ++ (reporting.replies err command).map .command ++ more) after) :
    Reaches family config depth goal
      (outputs ++ (conn.callOnResult family behaviour command err).2)
      (conn.callOnResult family behaviour command err).1 := by
  have repliesEq : reporting.replies err command = reporting.report command err :=
    if_pos callback
  have failsEq : reporting.fails command = reporting.throws command := by
    rw [Reporting.fails, callback, Bool.true_and]
  have shownEq := reporting.outputs_onResult behaviour conn.store conn.wire command err callback
  have uncaughtEq := reporting.uncaught_onResult behaviour conn.store conn.wire command err callback
  have stillCalled := reporting.still_onResult behaviour conn.store conn.wire command err still
  have calledOutputs : (conn.callOnResult family behaviour command err).2 =
      (reporting.replies err command).map .command := by
    rw [callOnResult, apply, shownEq, repliesEq]
  have calledCrashed : (conn.callOnResult family behaviour command err).1.crashed =
      reporting.fails command := by
    rw [callOnResult, apply, failsEq, ← uncaughtEq, running]
    exact Bool.false_or _
  rw [calledOutputs]
  cases fails : reporting.fails command with
  | true => exact .here (thrown fails _ (calledCrashed.trans fails) rfl stillCalled)
  | false =>
      refine reaches_calls (addsNone conn.store conn.wire command err)
        (calledCrashed.trans fails) closed unfailed (congrArg _ todoEq) depth_le ?_ ?_
      · intro more after unseen ends
        refine ended fails more after unseen ends.crashed ends.commands.1 ends.commands.2 ?_
        rw [ends.store]
        exact stillCalled
      · intro more after unseen passes afterTodo
        refine later fails more after unseen afterTodo passes.commands
          (passes.fatalError.trans unfailed) passes.running passes.closed ?_
        rw [passes.store]
        exact stillCalled

/-- A call of `_handleFatalError` over the tasks `rest` is over, and has shown
what the callbacks of `queue` show. -/
structure Handled (reporting : Reporting family) (err : JsError) (rest : List (Task κ))
    (before : List (Output κ ο)) (queue : List κ) (outputs : List (Output κ ο))
    (after : BaseConnection σ κ) : Prop where
  ended : after.crashed = true ∨ after.todo = rest
  stopped : Stopped after
  still : reporting.still after.store
  executions : executions outputs = executions before
  shown : shown outputs =
    shown before ++ (reporting.notified queue).flatMap (reporting.replies err)
  left : after.commands = reporting.forgotten queue

section Handled

variable {reporting : Reporting family} {err : JsError} {rest : List (Task κ)}
  {before more outputs : List (Output κ ο)} {command : κ} {queue : List κ}

/-- A command in front of the queue that does not throw. -/
theorem Handled.cons (fails : reporting.fails command = false)
    (handled : Handled reporting err rest
      (before ++ (reporting.replies err command).map .command) queue outputs after) :
    Handled reporting err rest before (command :: queue) outputs after := by
  obtain ⟨notifiedEq, forgottenEq⟩ := reporting.notified_of_not_fails fails queue
  refine ⟨handled.ended, handled.stopped, handled.still, ?_, ?_, ?_⟩
  · rw [handled.executions, executions_append, executions_command, List.append_nil]
  · rw [handled.shown, shown_append, shown_command, notifiedEq, List.flatMap_cons,
      List.append_assoc]
  · rw [handled.left, forgottenEq]

/-- A command in front of the queue that throws. -/
theorem Handled.of_fails (err : JsError) (rest : List (Task κ)) (before : List (Output κ ο))
    (fails : reporting.fails command = true) (crashed : after.crashed = true)
    (left : after.commands = queue) (still : reporting.still after.store) :
    Handled reporting err rest before (command :: queue)
      (before ++ (reporting.replies err command).map .command) after := by
  obtain ⟨notifiedEq, forgottenEq⟩ := reporting.notified_of_fails fails queue
  refine ⟨Or.inl crashed, Or.inl crashed, still, ?_, ?_, ?_⟩
  · rw [executions_append, executions_command, List.append_nil]
  · rw [shown_append, shown_command, notifiedEq, List.flatMap_singleton]
  · rw [left, forgottenEq]

/-- A command without a callback in front of the queue. -/
theorem Handled.of_silent (noCallback : family.hasCallback command = false)
    (handled : Handled reporting err rest before queue outputs after) :
    Handled reporting err rest before (command :: queue) outputs after := by
  apply Handled.cons (reporting.fails_of_silent noCallback)
  rw [reporting.replies_of_silent noCallback, List.map_nil, List.append_nil]
  exact handled

/-- What is not seen does not count. -/
theorem Handled.skip (unseen : Unseen more)
    (handled : Handled reporting err rest (before ++ more) queue outputs after) :
    Handled reporting err rest before queue outputs after := by
  refine ⟨handled.ended, handled.stopped, handled.still, ?_, ?_, handled.left⟩
  · rw [handled.executions, executions_append, unseen.executions, List.append_nil]
  · rw [handled.shown, shown_append, unseen.shown, List.append_nil]

/-- Nothing is left to be notified when the program ends. -/
theorem Handled.of_end (reporting : Reporting family) (err : JsError) (rest : List (Task κ))
    (before : List (Output κ ο)) (unseen : Unseen more) (crashed : after.crashed = true)
    (empty : after.commands = []) (still : reporting.still after.store) :
    Handled reporting err rest before [] (before ++ more) after := by
  refine ⟨Or.inl crashed, Or.inl crashed, still, ?_, ?_, empty⟩
  · rw [executions_append, unseen.executions, List.append_nil]
  · rw [shown_append, unseen.shown]
    rfl

end Handled

/-- What follows the loop of `_notifyError`. -/
theorem drain_nil (config : Config) (behaviour : ω) (closed : conn.closedState = true)
    (empty : conn.commands = []) (err : JsError) (bubble : Bool) :
    let drained := conn.drain family config behaviour err bubble true
    drained.1.todo = conn.todo ∧ drained.1.store = conn.store ∧ drained.1.commands = [] ∧
      Stopped drained.1 ∧ Unseen drained.2 := by
  have emits : Closes conn (if bubble = true ∨ config.pool = true then
        conn.emitError config err else (conn, ([] : List (Output κ ο)))).1 ∧
      OnlyErrors (if bubble = true ∨ config.pool = true then
        conn.emitError config err else (conn, ([] : List (Output κ ο)))).2 := by
    split
    · exact closes_emitError config conn err
    · exact ⟨.refl conn, onlyErrors_nil⟩
  unfold drain
  rw [empty]
  dsimp only
  generalize (if bubble = true ∨ config.pool = true then conn.emitError config err else
    (conn, ([] : List (Output κ ο)))) = emitted at emits ⊢
  obtain ⟨closes, onlyErrors⟩ := emits
  by_cases crashed : emitted.1.crashed = true
  · rw [if_pos crashed]
    exact ⟨closes.todo, closes.store, closes.commands.trans empty, Or.inl crashed,
      onlyErrors.unseen⟩
  · rw [if_neg crashed]
    have closesMore : Closes conn (if err.fatal = true then emitted.1.close else emitted.1) := by
      split
      · exact closes.trans (closes_close _)
      · exact closes
    refine ⟨closesMore.todo, closesMore.store, closesMore.commands.trans empty, Or.inr ?_,
      onlyErrors.unseen⟩
    exact ⟨rfl, closesMore.closedState closed, closesMore.commands.trans empty⟩

/-- The loop of `_notifyError` comes to its end. -/
theorem reaches_drain (reporting : Reporting family) (err : JsError) (rest : List (Task κ))
    {queue : List κ} {outputs : List (Output κ ο)} {bubble : Bool}
    (running : conn.crashed = false) (todoEq : conn.todo = .drain err bubble true :: rest)
    (queueEq : conn.commands = queue) (closed : conn.closedState = true)
    (unfailed : conn.fatalError = none) (still : reporting.still conn.store) :
    Reaches family config rest.length (Handled reporting err rest outputs queue) outputs conn := by
  induction queue generalizing conn outputs bubble with
  | nil =>
      refine reaches_proceed running todoEq (Nat.le_refl _) fun behaviour _ _ => ?_
      rw [performTask]
      have popped : ({ conn with todo := rest } : BaseConnection σ κ).closedState = true := closed
      obtain ⟨todo, store, commands, stopped, unseen⟩ :=
        drain_nil config behaviour popped queueEq err bubble
      apply ComesTo.here
      refine ⟨Or.inr todo, stopped, ?_, ?_, ?_, commands⟩
      · rw [store]
        exact still
      · rw [executions_append, unseen.executions, List.append_nil]
      · rw [shown_append, unseen.shown]
        rfl
  | cons command queue ih =>
      refine reaches_proceed running todoEq (Nat.le_refl _) fun behaviour addsNone _ => ?_
      rw [performTask, drain]
      simp only [queueEq]
      by_cases callback : family.hasCallback command = true
      · rw [if_pos callback]
        refine reaches_callback reporting addsNone ?_ ?_ ?_ rfl (Nat.le_succ _) callback err ?_
          ?_ ?_ ?_
        · exact running
        · exact closed
        · exact unfailed
        · exact still
        · intro fails after crashed commands stillAfter
          exact .of_fails err rest outputs fails crashed commands stillAfter
        · intro fails more after unseen crashed queueEmpty empty stillAfter
          rw [show queue = [] from queueEmpty]
          exact .cons fails (.of_end reporting err rest _ unseen crashed empty stillAfter)
        · intro fails more after unseen afterTodo commands afterUnfailed afterRunning afterClosed
            stillAfter
          refine (ih afterRunning afterTodo commands afterClosed afterUnfailed stillAfter).trans ?_
          intro laterOutputs last handled
          exact .here (.cons fails (handled.skip unseen))
      · rw [if_neg callback, List.append_nil]
        have noCallback : family.hasCallback command = false := Bool.eq_false_iff.mpr callback
        refine ComesTo.trans (@ih _ _ true ?_ rfl rfl ?_ ?_ ?_) ?_
        · exact running
        · exact closed
        · exact unfailed
        · exact still
        · exact fun _ _ handled => .here (handled.of_silent noCallback)

/-- `_notifyError`, called by `_handleFatalError` for the first time, comes to its
end. -/
theorem reaches_notifyError (unfailed : conn.fatalError = none) (reporting : Reporting family)
    (err : JsError) (rest : List (Task κ)) (running : conn.crashed = false)
    (todoEq : conn.todo = .notifyError err true :: rest) (closed : conn.closedState = true)
    (still : reporting.still conn.store) :
    Reaches family config rest.length
      (Handled reporting err rest [] (conn.command.toList ++ conn.commands)) [] conn := by
  have notFailed : ¬ conn.fatalError.isSome = true := by
    rw [unfailed]
    exact Bool.false_ne_true
  refine reaches_proceed running todoEq (Nat.le_refl _) fun behaviour addsNone _ => ?_
  rw [performTask, notifyError, if_neg notFailed]
  cases active : conn.command with
  | none =>
      simp only
      refine reaches_drain reporting err rest ?_ rfl rfl ?_ ?_ ?_
      · exact running
      · exact closed
      · exact unfailed
      · exact still
  | some command =>
      simp only
      by_cases callback : family.hasCallback command = true
      · rw [if_pos callback]
        refine reaches_callback reporting addsNone ?_ ?_ ?_ rfl ?_ callback err ?_ ?_ ?_ ?_
        · exact running
        · exact closed
        · exact unfailed
        · exact Nat.le_succ_of_le (Nat.le_succ _)
        · exact still
        · intro fails after crashed commands stillAfter
          exact .of_fails err rest [] fails crashed commands stillAfter
        · intro fails more after unseen crashed queueEmpty empty stillAfter
          rw [show conn.commands = [] from queueEmpty]
          exact .cons fails (.of_end reporting err rest _ unseen crashed empty stillAfter)
        · intro fails more after unseen afterTodo commands afterUnfailed afterRunning afterClosed
            stillAfter
          -- the command is dropped behind its callback
          refine reaches_proceed afterRunning afterTodo (Nat.le_succ _) fun dropping _ _ => ?_
          rw [performTask, List.append_nil]
          refine ComesTo.trans (reaches_drain reporting err rest ?_ rfl commands ?_ ?_ ?_) ?_
          · exact afterRunning
          · exact afterClosed
          · exact afterUnfailed
          · exact stillAfter
          · exact fun _ _ handled => .here (.cons fails (handled.skip unseen))
      · have noCallback : family.hasCallback command = false := Bool.eq_false_iff.mpr callback
        have drains : ∀ bubble, Reaches family config rest.length
            (Handled reporting err rest [] (command :: conn.commands)) ([] ++ [])
            (({ conn with
              command := some command
              todo := rest } : BaseConnection σ κ).push [.drain err bubble true]) := by
          intro bubble
          refine ComesTo.trans (reaches_drain reporting err rest ?_ rfl rfl ?_ ?_ ?_) ?_
          · exact running
          · exact closed
          · exact unfailed
          · exact still
          · exact fun _ _ handled => .here (handled.of_silent noCallback)
        rw [if_neg callback]
        split
        · exact drains false
        · exact drains true

/-- The commands that a call of `_handleFatalError` notifies.  Behind a fatal error
it notifies none. -/
def notifies (conn : BaseConnection σ κ) : List κ :=
  if conn.fatalError.isSome then [] else conn.command.toList ++ conn.commands

/-- `_notifyError` behind a fatal error calls no callback. -/
theorem Failed.reaches_notifyError (failed : Failed conn) (reporting : Reporting family)
    (err : JsError) (rest : List (Task κ)) (running : conn.crashed = false)
    (todoEq : conn.todo = .notifyError err true :: rest) (still : reporting.still conn.store) :
    Reaches family config rest.length (Handled reporting err rest [] []) [] conn := by
  refine reaches_proceed running todoEq (Nat.le_refl _) fun behaviour _ _ => ?_
  rw [performTask, notifyError, if_pos failed.fatal]
  have stopped : Failed ({ conn with todo := rest }.setFatalError err true) :=
    ⟨rfl, failed.closed, failed.empty⟩
  exact .here ⟨Or.inr rfl, Or.inr stopped, still, rfl, rfl, failed.empty⟩

/-- A call of `_handleFatalError` comes to its end. -/
theorem FailsClosed.reaches_handleFatalError (closed : FailsClosed conn) (config : Config)
    (reporting : Reporting family) (err : JsError) (rest : List (Task κ))
    (running : conn.crashed = false) (todoEq : conn.todo = .handleFatalError err :: rest)
    (still : reporting.still conn.store) :
    Reaches family config rest.length
      (Handled reporting { err with fatal := true } rest [] conn.notifies) [] conn := by
  refine reaches_proceed running todoEq (Nat.le_refl _) fun behaviour _ _ => ?_
  rw [performTask, List.append_nil, notifies]
  let begun : BaseConnection σ κ := { conn with todo := rest }.handleFatalError err
  by_cases isFailed : conn.fatalError.isSome = true
  · have failedBegun : Failed begun :=
      (closed.failed_of_isSome isFailed).keep rfl rfl fun _ => rfl
    rw [if_pos isFailed]
    exact failedBegun.reaches_notifyError reporting _ rest running rfl still
  · have notFailed : begun.fatalError = none := Option.not_isSome_iff_eq_none.mp isFailed
    rw [if_neg isFailed]
    exact BaseConnection.reaches_notifyError notFailed reporting _ rest running rfl rfl still

end BaseConnection

end Mysql2.Connection

import Mysql2.Commands.Defaults
import Mysql2.Connection.Parking
import Mysql2.Parser.PacketParser
import Mysql2.Transition.Simulation

/-!
# Sequence ids with and without pauses

A connection that is never paused processes a packet as soon as it arrives.  A
paused one parks copies and processes them later.  As long as every packet that
is parked equals its copy, no command start is parked and no parked packet is
taken out while a handler is running, the run with pauses is a run without them
in which packets arrive later, so the sequence ids and the warnings are the same.

A packet that was assembled from several frames does not equal its copy: the
copy counts as one frame.  A handler that calls `resume` while packets are
parked has them processed in front of the rest of itself.
-/

namespace Mysql2.Connection

open Mysql2.Packets
open Mysql2.Transition

variable {ω ι σ κ ο : Type}

/-! ## Without pauses -/

/-- Every call but `pause` and `resume`. -/
def Call.active : Call κ → Bool
  | .pause => false
  | .resume => false
  | _ => true

/-- The same commands, which call neither `pause` nor `resume`. -/
def CommandFamily.unpausing (family : CommandFamily ω ι σ κ ο) : CommandFamily ω ι σ κ ο :=
  { family with
    execute := fun behaviour view store wire command packet =>
      let outcome := family.execute behaviour view store wire command packet
      { outcome with calls := outcome.calls.filter Call.active }
    onResult := fun behaviour store wire command err =>
      let effect := family.onResult behaviour store wire command err
      { effect with calls := effect.calls.filter Call.active }
    interrupt := fun function store wire =>
      let effect := family.interrupt function store wire
      { effect with calls := effect.calls.filter Call.active }
    handshakeError_execute := family.handshakeError_execute
    started_execute := family.started_execute }

namespace BaseConnection

/-- The tasks of a connection that is never paused.  A packet that is in hand
while the connection is paused has not arrived there. -/
def kept (paused : Bool) : Task κ → Bool
  | .handlePacket (some _) => !paused
  | .call call => call.active
  | .resume => false
  | _ => true

/-- The connection as it would be if it had never been paused and the parked
packets had not arrived. -/
def unpaused (conn : BaseConnection σ κ) : BaseConnection σ κ :=
  { conn with
    paused := false
    pausedPackets := []
    todo := conn.todo.filter (kept conn.paused) }

theorem filter_kept_calls (paused : Bool) (calls : List (Call κ)) :
    (calls.map Task.call).filter (kept paused) = (calls.filter Call.active).map Task.call := by
  rw [List.filter_map]
  rfl

theorem unpaused_push (conn : BaseConnection σ κ) (tasks : List (Task κ)) :
    (conn.push tasks).unpaused = conn.unpaused.push (tasks.filter (kept conn.paused)) := by
  simp [unpaused, push, List.filter_append]

/-- A task that is left out of the run without pauses. -/
theorem unpaused_push_dropped {conn : BaseConnection σ κ} {task : Task κ}
    (dropped : kept conn.paused task = false) : (conn.push [task]).unpaused = conn.unpaused := by
  rw [unpaused_push, List.filter_cons_of_neg (ne_true_of_eq_false dropped)]
  rfl

variable (family : CommandFamily ω ι σ κ ο) (config : Config) (behaviour : ω)

theorem unpaused_apply (conn : BaseConnection σ κ) (effect : Effect σ κ ο) :
    conn.unpaused.apply { effect with calls := effect.calls.filter Call.active } =
      ((conn.apply effect).1.unpaused, (conn.apply effect).2) := by
  simp only [apply, unpaused_push, filter_kept_calls]
  rfl

theorem unpaused_callOnResult (conn : BaseConnection σ κ) (command : κ) (err : JsError) :
    conn.unpaused.callOnResult family.unpausing behaviour command err =
      ((conn.callOnResult family behaviour command err).1.unpaused,
        (conn.callOnResult family behaviour command err).2) :=
  unpaused_apply conn (family.onResult behaviour conn.store conn.wire command err)

theorem unpaused_emitError (conn : BaseConnection σ κ) (err : JsError) :
    (conn.unpaused.emitError config err : BaseConnection σ κ × List (Output κ ο)) =
      ((conn.emitError config err : BaseConnection σ κ × List (Output κ ο)).1.unpaused,
        (conn.emitError config err).2) := by
  unfold emitError
  split <;> rfl

theorem unpaused_unexpectedPacket (conn : BaseConnection σ κ) (packet : Packet) :
    (conn.unpaused.unexpectedPacket config packet : BaseConnection σ κ × List (Output κ ο)) =
      ((conn.unexpectedPacket config packet : BaseConnection σ κ × List (Output κ ο)).1.unpaused,
        (conn.unexpectedPacket config packet).2) := by
  unfold unexpectedPacket
  generalize (if packet.peekByte = some 0xff then
      (errorFromPacket config.decoding packet).map fun error =>
        protocolErrorOf error.1.message error.1.code
    else
      .ok (protocolErrorOf "Unexpected packet while no commands in the queue"
        (some (.name "PROTOCOL_UNEXPECTED_PACKET"))) : Except JsError JsError) = raised
  cases raised with
  | error err => rfl
  | ok err =>
      dsimp only
      rw [unpaused_emitError, show conn.unpaused.closing = conn.closing from rfl]
      by_cases closing : conn.closing = true
      · rw [if_pos closing, if_pos closing]
        rfl
      · rw [if_neg closing, if_neg closing]
        generalize (conn.emitError config err : BaseConnection σ κ × List (Output κ ο)) = emitted
        rw [show emitted.1.unpaused.crashed = emitted.1.crashed from rfl]
        by_cases crashed : emitted.1.crashed = true
        · rw [if_pos crashed, if_pos crashed]
        · rw [if_neg crashed, if_neg crashed]
          rfl

theorem unpaused_executeCommand (conn : BaseConnection σ κ) (command : κ)
    (packet : Option Packet) :
    conn.unpaused.executeCommand family.unpausing config behaviour command packet =
      ((conn.executeCommand family config behaviour command packet).1.unpaused,
        (conn.executeCommand family config behaviour command packet).2) := by
  have errorsKept : ∀ errors : List JsError,
      (errors.map (Task.handshakeError (κ := κ))).filter (kept conn.paused) =
        errors.map Task.handshakeError := by
    intro errors
    rw [List.filter_map]
    exact congrArg (List.map Task.handshakeError) (List.filter_eq_self.mpr fun _ _ => rfl)
  have sameOutcome : family.execute behaviour (conn.unpaused.view config) conn.unpaused.store
      conn.unpaused.wire command packet =
      family.execute behaviour (conn.view config) conn.store conn.wire command packet := rfl
  unfold executeCommand
  dsimp only [CommandFamily.unpausing]
  rw [unpaused_push, List.filter_append, List.filter_append, filter_kept_calls, errorsKept,
    sameOutcome]
  cases (family.execute behaviour (conn.view config) conn.store conn.wire command packet).result
  · rfl
  · rfl

/-- A packet or a command start that is handled at once. -/
theorem unpaused_handlePacket (conn : BaseConnection σ κ) (handled : conn.paused = false)
    (packet : Option Packet) :
    conn.unpaused.handlePacket family.unpausing config behaviour packet =
      ((conn.handlePacket family config behaviour packet).1.unpaused,
        (conn.handlePacket family config behaviour packet).2) := by
  unfold handlePacket
  rw [if_neg (show ¬conn.unpaused.paused = true from Bool.false_ne_true),
    if_neg (show ¬conn.paused = true from ne_true_of_eq_false handled),
    show conn.unpaused.command = conn.command from rfl]
  cases conn.command with
  | none =>
      cases packet with
      | none => rfl
      | some packet =>
          dsimp only
          rw [unpaused_unexpectedPacket]
  | some command =>
      have counted : (conn.unpaused.receiveSequenceId packet : _ × List (Output κ ο)) =
          ((conn.receiveSequenceId packet : _ × List (Output κ ο)).1.unpaused,
            (conn.receiveSequenceId packet).2) := by
        cases packet <;> rfl
      dsimp only
      rw [counted]
      generalize (conn.receiveSequenceId packet : _ × List (Output κ ο)) = after
      rw [show conn.unpaused.fatalError = conn.fatalError from rfl]
      by_cases failed : conn.fatalError.isSome = true
      · rw [if_pos failed, if_pos failed]
      · rw [if_neg failed, if_neg failed]
        dsimp only
        rw [unpaused_executeCommand]

theorem unpaused_addCommand (conn : BaseConnection σ κ) (command : κ) :
    conn.unpaused.addCommand family.unpausing config behaviour command =
      ((conn.addCommand family config behaviour command).1.unpaused,
        (conn.addCommand family config behaviour command).2) := by
  unfold addCommand addCommandClosedState
  rw [unpaused_callOnResult, show conn.unpaused.closedState = conn.closedState from rfl,
    show conn.unpaused.command = conn.command from rfl,
    show family.unpausing.hasCallback = family.hasCallback from rfl]
  split
  · split <;> rfl
  · split
    · rw [unpaused_push]
      rfl
    · rfl

theorem unpaused_finish (conn : BaseConnection σ κ) (done : Bool) :
    (conn.unpaused.finish done : BaseConnection σ κ × List (Output κ ο)) =
      ((conn.finish done : BaseConnection σ κ × List (Output κ ο)).1.unpaused,
        (conn.finish done).2) := by
  unfold finish
  rw [show conn.unpaused.commands = conn.commands from rfl]
  cases done with
  | false => rfl
  | true =>
      cases conn.commands with
      | nil => rfl
      | cons next commands =>
          rw [if_pos rfl, if_pos rfl]
          dsimp only
          rw [unpaused_push]
          rfl

theorem unpaused_setFatalError (conn : BaseConnection σ κ) (err : JsError) (fatal : Bool) :
    conn.unpaused.setFatalError err fatal = (conn.setFatalError err fatal).unpaused := by
  cases fatal <;> rfl

theorem unpaused_notifyError (conn : BaseConnection σ κ) (err : JsError) (fatal : Bool) :
    conn.unpaused.notifyError family.unpausing behaviour err fatal =
      ((conn.notifyError family behaviour err fatal).1.unpaused,
        (conn.notifyError family behaviour err fatal).2) := by
  have pushed : ∀ tasks : List (Task κ), tasks.filter (kept conn.paused) = tasks →
      conn.unpaused.push tasks = (conn.push tasks).unpaused := by
    intro tasks allKept
    rw [unpaused_push, allKept]
  unfold notifyError
  rw [show conn.unpaused.fatalError = conn.fatalError from rfl,
    show conn.unpaused.command = conn.command from rfl,
    show conn.unpaused.commands = conn.commands from rfl,
    show family.unpausing.hasCallback = family.hasCallback from rfl,
    show family.unpausing.isHandshake = family.isHandshake from rfl]
  split
  · rw [unpaused_setFatalError]
  · split
    · rw [pushed _ rfl]
    · split
      · rw [pushed _ rfl, unpaused_callOnResult]
      · split
        · rw [pushed _ rfl]
        · rw [pushed _ rfl]

theorem unpaused_drain (conn : BaseConnection σ κ) (err : JsError) (bubble fatal : Bool) :
    conn.unpaused.drain family.unpausing config behaviour err bubble fatal =
      ((conn.drain family config behaviour err bubble fatal).1.unpaused,
        (conn.drain family config behaviour err bubble fatal).2) := by
  unfold drain
  rw [show conn.unpaused.commands = conn.commands from rfl,
    show family.unpausing.hasCallback = family.hasCallback from rfl]
  cases conn.commands with
  | cons command commands =>
      have pushed : ∀ bubble, ({ conn.unpaused with commands := commands } :
          BaseConnection σ κ).push [.drain err bubble fatal] =
          (({ conn with commands := commands } : BaseConnection σ κ).push
            [.drain err bubble fatal]).unpaused := by
        intro bubble
        rw [unpaused_push]
        rfl
      dsimp only
      split
      · rw [pushed, unpaused_callOnResult]
      · rw [pushed]
  | nil =>
      dsimp only
      have emitted : (if bubble = true ∨ config.pool = true then
            (conn.unpaused.emitError config err : BaseConnection σ κ × List (Output κ ο))
          else (conn.unpaused, [])) =
          ((if bubble = true ∨ config.pool = true then
            (conn.emitError config err : BaseConnection σ κ × List (Output κ ο))
          else (conn, [])).1.unpaused,
          (if bubble = true ∨ config.pool = true then
            (conn.emitError config err : BaseConnection σ κ × List (Output κ ο))
          else (conn, [])).2) := by
        split
        · exact unpaused_emitError config conn err
        · rfl
      rw [emitted]
      generalize (if bubble = true ∨ config.pool = true then
            (conn.emitError config err : BaseConnection σ κ × List (Output κ ο))
          else (conn, [])) = after
      rw [show after.1.unpaused.crashed = after.1.crashed from rfl]
      split
      · rfl
      · split
        · exact congrArg (·, after.2) (unpaused_setFatalError after.1.close err fatal)
        · exact congrArg (·, after.2) (unpaused_setFatalError after.1 err fatal)

/-- A task that is performed in both runs. -/
theorem unpaused_performTask (conn : BaseConnection σ κ) {task : Task κ}
    (isKept : kept conn.paused task = true)
    (handled : ∀ packet, task = .handlePacket packet → conn.paused = false) :
    conn.unpaused.performTask family.unpausing config behaviour task =
      ((conn.performTask family config behaviour task).1.unpaused,
        (conn.performTask family config behaviour task).2) := by
  cases task with
  | handlePacket packet =>
      exact unpaused_handlePacket family config behaviour conn (handled packet rfl) packet
  | call call =>
      cases call with
      | pause => exact absurd isKept Bool.false_ne_true
      | resume => exact absurd isKept Bool.false_ne_true
      | addCommand command => exact unpaused_addCommand family config behaviour conn command
      | close => rfl
  | handshakeError err =>
      simp only [performTask, unpaused_push]
      rfl
  | finish done => exact unpaused_finish conn done
  | resume => exact absurd isKept Bool.false_ne_true
  | handleFatalError err =>
      simp only [performTask, handleFatalError, unpaused_push]
      rfl
  | notifyError err fatal => exact unpaused_notifyError family behaviour conn err fatal
  | dropCommand => rfl
  | drain err bubble fatal => exact unpaused_drain family config behaviour conn err bubble fatal

/-! ## The stack of a connection that pauses -/

/-- Neither a packet nor a command start. -/
def Calm (tasks : List (Task κ)) : Prop :=
  ∀ task ∈ tasks, ∀ packet, task ≠ .handlePacket packet

/-- Packets and command starts are on top only. -/
def Tidy (tasks : List (Task κ)) : Prop :=
  Calm tasks.tail

theorem Tidy.push {tasks rest : List (Task κ)} (calm : Calm tasks) (calmRest : Calm rest) :
    Tidy (tasks ++ rest) := by
  intro task taskMem
  rcases List.mem_append.mp (List.mem_of_mem_tail taskMem) with inTasks | inRest
  · exact calm task inTasks
  · exact calmRest task inRest

theorem calm_calls (calls : List (Call κ)) : Calm (calls.map Task.call) := by
  intro task taskMem
  obtain ⟨call, _, rfl⟩ := List.mem_map.mp taskMem
  simp

theorem calm_nil : Calm ([] : List (Task κ)) := by
  intro task taskMem
  contradiction

theorem calm_append {tasks more : List (Task κ)} (calm : Calm tasks) (calmMore : Calm more) :
    Calm (tasks ++ more) := by
  intro task taskMem
  rcases List.mem_append.mp taskMem with inTasks | inMore
  · exact calm task inTasks
  · exact calmMore task inMore

/-- The packets that arrive. -/
def arrivals (outputs : List (Output κ ο)) : List Packet :=
  outputs.filterMap fun
    | .received packet => some packet
    | _ => none

@[simp]
theorem arrivals_append (outputs more : List (Output κ ο)) :
    arrivals (outputs ++ more) = arrivals outputs ++ arrivals more :=
  List.filterMap_append

theorem Unrelated.arrivals {outputs : List (Output κ ο)} (unrelated : Unrelated outputs) :
    arrivals outputs = [] := by
  apply List.filterMap_eq_nil_iff.mpr
  intro output outputMem
  have notReceived := List.filterMap_eq_nil_iff.mp unrelated.1 output outputMem
  cases output with
  | received packet => contradiction
  | _ => rfl

/-- What performing a task does to the stack and to the parked packets. -/
structure Grows (conn after : BaseConnection σ κ) (outputs : List (Output κ ο)) : Prop where
  todo : ∃ tasks, after.todo = tasks ++ conn.todo ∧
    (Calm tasks ∨ tasks = [.handlePacket none])
  pausedPackets : after.pausedPackets = conn.pausedPackets
  arrivals : arrivals outputs = []

section Grows

variable {family config behaviour} {conn after : BaseConnection σ κ}

theorem grows_calm {outputs : List (Output κ ο)} (tasks : List (Task κ))
    (todoEq : after.todo = tasks ++ conn.todo) (calm : Calm tasks)
    (pausedPackets : after.pausedPackets = conn.pausedPackets)
    (arrivals : arrivals outputs = []) : Grows conn after outputs :=
  ⟨⟨tasks, todoEq, Or.inl calm⟩, pausedPackets, arrivals⟩

theorem arrivals_command (outputs : List ο) :
    arrivals (outputs.map (Output.command (κ := κ))) = [] :=
  (unrelated_command outputs).arrivals

theorem grows_callOnResult {tasks : List (Task κ)} (calm : Calm tasks) (command : κ)
    (err : JsError) :
    Grows conn ((conn.push tasks).callOnResult family behaviour command err).1
      ((conn.push tasks).callOnResult family behaviour command err).2 := by
  let calls := (family.onResult behaviour conn.store conn.wire command err).calls
  refine grows_calm (calls.map Task.call ++ tasks) ?_ (calm_append (calm_calls calls) calm) rfl
    (arrivals_command _)
  rw [List.append_assoc]
  rfl

theorem Closes.grows {outputs : List (Output κ ο)} (closes : Closes conn after)
    (onlyErrors : OnlyErrors outputs) : Grows conn after outputs :=
  grows_calm [] closes.todo calm_nil closes.pausedPackets onlyErrors.unrelated.arrivals

/-- A task that is neither parked nor the loop of `resume`. -/
theorem Performed.grows {task : Task κ} {outputs : List (Output κ ο)}
    (performed : Performed family config behaviour conn task after outputs)
    (notResume : task ≠ .resume)
    (handled : ∀ packet, task = .handlePacket packet → conn.paused = false) :
    Grows conn after outputs := by
  have calmOne : ∀ task : Task κ, (∀ packet, task ≠ .handlePacket packet) → Calm [task] := by
    intro task notPacket other otherMem
    cases List.mem_singleton.mp otherMem
    exact notPacket
  cases performed with
  | parked packet paused =>
      exact absurd paused (ne_true_of_eq_false (handled packet rfl))
  | unexpected packet unpaused idle closes onlyErrors =>
      have grows := closes.grows onlyErrors
      exact ⟨grows.todo, grows.pausedPackets, grows.arrivals⟩
  | skipped packet unpaused active fatal =>
      refine grows_calm [] ?_ calm_nil ?_ (unrelated_warnings conn packet).arrivals
      · cases packet <;> rfl
      · cases packet <;> rfl
  | @executed packet unpaused command active unfailed counted warnings countedEq outcome
      outcomeEq =>
      have warningsQuiet := (unrelated_warnings (ο := ο) conn packet).arrivals
      rw [countedEq] at warningsQuiet
      obtain ⟨wire, countedIs⟩ := receiveSequenceId_eq (ο := ο) conn packet
      rw [countedEq] at countedIs
      subst countedIs
      refine grows_calm (outcome.calls.map .call ++
        (outcome.handshakeError.toList.map .handshakeError ++ [afterExecute outcome.result]))
        (by simp [BaseConnection.executed]) ?_ rfl ?_
      · apply calm_append (calm_calls _)
        apply calm_append
        · intro task taskMem
          obtain ⟨err, _, rfl⟩ := List.mem_map.mp taskMem
          simp
        · unfold afterExecute
          split
          · exact calmOne _ (by simp)
          · exact calmOne _ (by simp)
      · change arrivals (warnings ++ ([.executed command packet] ++ _)) = []
        rw [arrivals_append, warningsQuiet, arrivals_append, arrivals_command]
        rfl
  | pause => exact grows_calm [] rfl calm_nil rfl rfl
  | resumeCall => exact grows_calm _ rfl (calmOne _ (by simp)) rfl rfl
  | close => exact grows_calm [] rfl calm_nil rfl rfl
  | addClosed command closed callback =>
      exact grows_calm _ rfl (calm_calls _) rfl (arrivals_command _)
  | addClosedSilent command closed silent onlyErrors =>
      exact grows_calm [] rfl calm_nil rfl onlyErrors.unrelated.arrivals
  | addIdle command unclosed idle => exact ⟨⟨_, rfl, Or.inr rfl⟩, rfl, rfl⟩
  | addQueued command unclosed busy => exact grows_calm [] rfl calm_nil rfl rfl
  | handshakeError err => exact grows_calm _ rfl (calmOne _ (by simp)) rfl rfl
  | continued => exact grows_calm [] rfl calm_nil rfl rfl
  | finishedLast last => exact grows_calm [] rfl calm_nil rfl rfl
  | finishedNext queue => exact ⟨⟨_, rfl, Or.inr rfl⟩, rfl, rfl⟩
  | resumeStopped => exact absurd rfl notResume
  | resumeStart => exact absurd rfl notResume
  | resumePacket => exact absurd rfl notResume
  | handleFatalError err => exact grows_calm _ rfl (calmOne _ (by simp)) rfl rfl
  | notifyIgnored err fatal failed =>
      cases fatal
      · exact grows_calm [] rfl calm_nil rfl rfl
      · exact grows_calm [] rfl calm_nil rfl rfl
  | notifyCallback err fatal unfailed active callback =>
      apply grows_callOnResult
      have dropped : Calm ([.dropCommand] : List (Task κ)) := calmOne _ (by simp)
      exact calm_append dropped (calmOne (.drain err false fatal) (by simp))
  | notifySilent err fatal unfailed silent bubble =>
      exact grows_calm _ rfl (calmOne _ (by simp)) rfl rfl
  | dropCommand => exact grows_calm [] rfl calm_nil rfl rfl
  | @drainCallback err bubble fatal command commands queue callback =>
      let shifted : BaseConnection σ κ := { conn with commands := commands }
      have called : Grows shifted
          ((shifted.push [.drain err bubble fatal]).callOnResult family behaviour command err).1
          ((shifted.push [.drain err bubble fatal]).callOnResult family behaviour command err).2 :=
        grows_callOnResult (calmOne _ (by simp)) command err
      exact ⟨called.todo, called.pausedPackets, called.arrivals⟩
  | drainSilent err bubble fatal queue silent =>
      exact grows_calm _ rfl (calmOne _ (by simp)) rfl rfl
  | drained err bubble fatal empty closes onlyErrors setsFatal setsFatalOnly =>
      have grows := closes.grows onlyErrors
      cases setsFatal
      · exact ⟨grows.todo, grows.pausedPackets, grows.arrivals⟩
      · exact ⟨grows.todo, grows.pausedPackets, grows.arrivals⟩

/-- Only calls of `pause` and `resume` change whether a connection is paused. -/
theorem Performed.paused_eq {task : Task κ} {outputs : List (Output κ ο)}
    (performed : Performed family config behaviour conn task after outputs)
    (notPause : task ≠ .call .pause) (notResume : task ≠ .call .resume) :
    after.paused = conn.paused := by
  cases performed with
  | pause => exact absurd rfl notPause
  | resumeCall => exact absurd rfl notResume
  | unexpected packet unpaused idle closes onlyErrors => exact closes.paused
  | skipped packet unpaused active fatal => cases packet <;> rfl
  | @executed packet unpaused command active unfailed counted warnings countedEq outcome
      outcomeEq =>
      obtain ⟨wire, countedIs⟩ := receiveSequenceId_eq (ο := ο) conn packet
      rw [countedEq] at countedIs
      subst countedIs
      rfl
  | notifyIgnored err fatal failed => cases fatal <;> rfl
  | drained err bubble fatal empty closes onlyErrors setsFatal setsFatalOnly =>
      cases setsFatal <;> exact closes.paused
  | _ => rfl

end Grows

/-! ## The simulation -/

/-- A task that can be performed while the connection is paused without losing
anything: not a command start, and a packet only if it equals its copy. -/
def Parkable : Task κ → Prop
  | .handlePacket none => False
  | .handlePacket (some packet) => packet.clone = packet
  | _ => True

instance : ∀ task : Task κ, Decidable (Parkable task)
  | .handlePacket none => isFalse id
  | .handlePacket (some packet) => inferInstanceAs (Decidable (packet.clone = packet))
  | .call _ => isTrue trivial
  | .handshakeError _ => isTrue trivial
  | .finish _ => isTrue trivial
  | .resume => isTrue trivial
  | .handleFatalError _ => isTrue trivial
  | .notifyError _ _ => isTrue trivial
  | .dropCommand => isTrue trivial
  | .drain _ _ _ => isTrue trivial

/-- A packet equals its copy when it was sent in one frame and has not been read
from. -/
theorem clone_eq_iff (packet : Packet) :
    packet.clone = packet ↔ packet.numPackets = 1 ∧ packet.offset = packet.start + 4 := by
  obtain ⟨sequenceId, numPackets, buffer, start, offset, endOffset⟩ := packet
  simp only [Packet.clone, Packet.new, Packet.mk.injEq, true_and, and_true]
  exact ⟨fun ⟨count, position⟩ => ⟨count.symm, position.symm⟩,
    fun ⟨count, position⟩ => ⟨count.symm, position.symm⟩⟩

/-- A step does not park anything that does not equal its copy. -/
def ParksCopies (conn : BaseConnection σ κ) : Event ω ι κ → Prop
  | .input _ => True
  | .proceed _ => conn.paused = true → ∀ task ∈ conn.todo.head?, Parkable task

instance (conn : BaseConnection σ κ) : ∀ event : Event ω ι κ, Decidable (ParksCopies conn event)
  | .input _ => isTrue trivial
  | .proceed _ =>
      inferInstanceAs
        (Decidable (conn.paused = true → ∀ task ∈ conn.todo.head?, Parkable task))

/-- The loop of `resume` that is on top of the stack takes a parked packet out only
if no handler is running: below it are other such loops and calls of `pause` and
`resume`. -/
def resumesIdle (conn : BaseConnection σ κ) : Bool :=
  match conn.todo with
  | .resume :: rest =>
      conn.paused || conn.pausedPackets.isEmpty || rest.all fun task => !kept false task
  | _ => true

/-- A step takes no parked packet out while a handler is running. -/
def ResumesIdle (conn : BaseConnection σ κ) : Event ω ι κ → Prop
  | .input _ => True
  | .proceed _ => conn.resumesIdle = true

instance (conn : BaseConnection σ κ) : ∀ event : Event ω ι κ, Decidable (ResumesIdle conn event)
  | .input _ => isTrue trivial
  | .proceed _ => inferInstanceAs (Decidable (conn.resumesIdle = true))

/-- A step that the pauses cannot be told from. -/
def PausesUnseen (conn : BaseConnection σ κ) (event : Event ω ι κ) : Prop :=
  ParksCopies conn event ∧ ResumesIdle conn event

instance (conn : BaseConnection σ κ) (event : Event ω ι κ) :
    Decidable (PausesUnseen conn event) :=
  inferInstanceAs (Decidable (ParksCopies conn event ∧ ResumesIdle conn event))

/-- Packets arrive, and tasks are performed. -/
def Undisturbed (behaviour : ω) : Event ω ι κ → Prop
  | .input (.packet _) => True
  | .proceed other => other = behaviour
  | _ => False

/-- Packets arrive, `pause` and `resume` are called, and tasks are performed. -/
def Pausing (behaviour : ω) : Event ω ι κ → Prop
  | .input (.packet _) => True
  | .input (.call .pause) => True
  | .input (.call .resume) => True
  | .input .resume => True
  | .proceed other => other = behaviour
  | _ => False

/-- The events of the run without pauses.  A packet arrives there when it is
handled here, and tasks that have to do with pausing are left out. -/
def withoutPauses (conn : BaseConnection σ κ) : Event ω ι κ → List (Event ω ι κ)
  | .input (.packet packet) =>
      if conn.crashed = false ∧ conn.todo = [] ∧ conn.paused = false then
        [.input (.packet packet)]
      else
        []
  | .input _ => []
  | .proceed behaviour =>
      if conn.crashed then
        []
      else
        match conn.todo with
        | [] => []
        | task :: _ =>
            if kept conn.paused task then
              [.proceed behaviour]
            else
              match task, conn.paused, conn.pausedPackets with
              | .resume, false, some packet :: _ => [.input (.packet packet)]
              | _, _, _ => []

/-- What an observer records: the sequence id behind each processed packet, and
the warnings. -/
inductive SequenceEntry
  | processed (sequenceId : Nat)
  | warning (expected received : Nat)
  deriving DecidableEq, Repr

/-- The records of a step. -/
def sequenceEntries (after : BaseConnection σ κ) (outputs : List (Output κ ο)) :
    List SequenceEntry :=
  outputs.filterMap fun
    | .processed (some _) => some (.processed after.wire.sequenceId)
    | .warn expected received => some (.warning expected received)
    | _ => none

/-- What holds while packets are parked: the shape of the stack, and that every
parked packet equals its copy. -/
structure Tame (conn : BaseConnection σ κ) : Prop where
  tidy : Tidy conn.todo
  resumes : conn.paused = false → conn.pausedPackets ≠ [] → Task.resume ∈ conn.todo
  copies : ∀ parked ∈ conn.pausedPackets, ∃ packet : Packet,
    parked = some packet ∧ packet.clone = packet

/-- The packet that is about to be parked. -/
def toPark : Bool → List (Task κ) → List Packet
  | true, .handlePacket (some packet) :: _ => [packet]
  | _, _ => []

/-- The packets that have arrived here and not in the run without pauses. -/
def behind (conn : BaseConnection σ κ) : List Packet :=
  conn.pausedPackets.filterMap id ++ toPark conn.paused conn.todo

@[simp]
theorem toPark_packet (packet : Packet) (rest : List (Task κ)) :
    toPark true (.handlePacket (some packet) :: rest) = [packet] :=
  rfl

@[simp]
theorem toPark_false (tasks : List (Task κ)) : toPark false tasks = [] :=
  rfl

theorem toPark_eq_nil {paused : Bool} {task : Task κ} (rest : List (Task κ))
    (handled : ∀ packet, task = .handlePacket packet → paused = false) :
    toPark paused (task :: rest) = [] := by
  unfold toPark
  split
  · next packet later isTask =>
      injection isTask with isPacket
      exact absurd (handled _ isPacket) Bool.noConfusion
  · rfl

theorem Calm.toPark_eq_nil {tasks : List (Task κ)} (calm : Calm tasks) (paused : Bool) :
    toPark paused tasks = [] := by
  cases tasks with
  | nil => cases paused <;> rfl
  | cons task rest =>
      apply BaseConnection.toPark_eq_nil rest
      intro packet isPacket
      exact absurd isPacket (calm task List.mem_cons_self packet)

theorem Tame.calm_rest {conn : BaseConnection σ κ} (tame : Tame conn) {task : Task κ}
    {rest : List (Task κ)} (todoEq : conn.todo = task :: rest) : Calm rest := by
  have tidy := tame.tidy
  rwa [todoEq] at tidy

/-- The tasks that do not handle packets are the same in both runs, paused or
not. -/
theorem Calm.filter_kept {tasks : List (Task κ)} (calm : Calm tasks) (paused other : Bool) :
    tasks.filter (kept paused) = tasks.filter (kept other) := by
  apply List.filter_congr
  intro task taskMem
  cases task with
  | handlePacket packet => exact absurd rfl (calm _ taskMem packet)
  | _ => rfl

/-- What a step that meets the conditions does, next to the run without
pauses. -/
structure Follows (family : CommandFamily ω ι σ κ ο) (config : Config)
    (conn : BaseConnection σ κ) (event : Event ω ι κ) : Prop where
  tame : Tame (step family config conn event).1
  projected : (run (step family.unpausing config) conn.unpaused (conn.withoutPauses event)).1 =
    (step family config conn event).1.unpaused
  observed : trace (step family.unpausing config) sequenceEntries conn.unpaused
      (conn.withoutPauses event) =
    sequenceEntries (step family config conn event).1 (step family config conn event).2
  arrived : conn.behind ++ arrivals (step family config conn event).2 =
    arrivals (run (step family.unpausing config) conn.unpaused (conn.withoutPauses event)).2 ++
      (step family config conn event).1.behind

section Follows

variable {family config} {conn : BaseConnection σ κ}

/-- The loop of `resume` takes the next parked packet. -/
theorem resume_packet {packet : Packet} {parked : List (Option Packet)}
    (unpausedNow : conn.paused = false) (parkedEq : conn.pausedPackets = some packet :: parked) :
    conn.resume =
      ({ conn with pausedPackets := parked } : BaseConnection σ κ).push
        [.handlePacket (some packet), .resume] := by
  unfold resume
  rw [if_neg (ne_true_of_eq_false unpausedNow)]
  split
  · next nothing =>
      rw [parkedEq] at nothing
      contradiction
  · next rest startEq =>
      rw [parkedEq] at startEq
      cases startEq
  · next other rest otherEq =>
      rw [parkedEq] at otherEq
      cases otherEq
      rfl

/-- The loop of `resume` ends. -/
theorem resume_end (ended : conn.paused = true ∨ conn.pausedPackets = []) :
    conn.resume = conn := by
  unfold resume
  split
  · rfl
  · next notPaused =>
      have nothing : conn.pausedPackets = [] := ended.resolve_left notPaused
      split
      · rfl
      · next rest startEq =>
          rw [nothing] at startEq
          contradiction
      · next packet rest packetEq =>
          rw [nothing] at packetEq
          contradiction

/-- A step that the run without pauses leaves out. -/
theorem follows_silent {event : Event ω ι κ} {after : BaseConnection σ κ}
    {outputs : List (Output κ ο)} (stepEq : step family config conn event = (after, outputs))
    (nothing : conn.withoutPauses event = []) (tame : Tame after)
    (same : after.unpaused = conn.unpaused) (unseen : sequenceEntries after outputs = [])
    (arrived : conn.behind ++ arrivals outputs = after.behind) :
    Follows family config conn event := by
  constructor
  · rw [stepEq]
    exact tame
  · rw [nothing, stepEq]
    exact same.symm
  · rw [nothing, stepEq]
    exact unseen.symm
  · rw [nothing, stepEq]
    exact arrived

/-- A step that does nothing. -/
theorem Tame.follows_idle (tame : Tame conn) {event : Event ω ι κ}
    (stepEq : step family config conn event = (conn, []))
    (nothing : conn.withoutPauses event = []) : Follows family config conn event :=
  follows_silent stepEq nothing tame rfl rfl (List.append_nil _)

theorem Tame.pausedPackets_eq_nil (tame : Tame conn) (idle : conn.todo = [])
    (unpausedNow : conn.paused = false) : conn.pausedPackets = [] := by
  by_contra nonempty
  have resumeMem := tame.resumes unpausedNow nonempty
  rw [idle] at resumeMem
  contradiction

theorem tidy_one (task : Task κ) : Tidy [task] :=
  calm_nil

theorem Calm.tidy {tasks : List (Task κ)} (calm : Calm tasks) : Tidy tasks :=
  fun task taskMem => calm task (List.mem_of_mem_tail taskMem)

/-- A packet arrives. -/
theorem Tame.follows_packet (tame : Tame conn) (packet : Packet) :
    Follows family config conn (.input (.packet packet)) := by
  by_cases accepted : conn.crashed = false ∧ conn.todo = []
  · obtain ⟨running, idle⟩ := accepted
    have stepEq : step family config conn (.input (.packet packet)) =
        (conn.push [.handlePacket (some packet)], [.received packet]) :=
      if_pos ⟨running, idle⟩
    have pushed : (conn.push [.handlePacket (some packet)]).todo =
        [.handlePacket (some packet)] := by
      rw [push_todo, idle, List.append_nil]
    cases pausedEq : conn.paused with
    | true =>
        have isPaused : (conn.push [.handlePacket (some packet)]).paused = true := pausedEq
        apply follows_silent stepEq
        · simp [withoutPauses, pausedEq]
        · refine ⟨by rw [pushed]; exact tidy_one _, ?_, tame.copies⟩
          intro unpausedNow
          exact absurd (isPaused.symm.trans unpausedNow) (Bool.noConfusion ·)
        · apply unpaused_push_dropped
          rw [pausedEq]
          rfl
        · rfl
        · simp [behind, idle, pausedEq, arrivals, push, calm_nil.toPark_eq_nil]
    | false =>
        have noneParked := tame.pausedPackets_eq_nil idle pausedEq
        have translatedEq : conn.withoutPauses (.input (.packet packet) : Event ω ι κ) =
            [.input (.packet packet)] :=
          if_pos ⟨running, idle, pausedEq⟩
        have otherIdle : conn.unpaused.crashed = false ∧ conn.unpaused.todo = [] := by
          refine ⟨running, ?_⟩
          rw [unpaused, idle]
          rfl
        have otherStep : step family.unpausing config conn.unpaused (.input (.packet packet)) =
            (conn.unpaused.push [.handlePacket (some packet)], [.received packet]) :=
          if_pos otherIdle
        have projectedEq : (conn.push [.handlePacket (some packet)]).unpaused =
            conn.unpaused.push [.handlePacket (some packet)] := by
          rw [unpaused_push, pausedEq]
          rfl
        constructor
        · rw [stepEq]
          refine ⟨by rw [pushed]; exact tidy_one _, ?_, tame.copies⟩
          intro _ nonempty
          exact absurd noneParked nonempty
        · rw [translatedEq, run_cons, otherStep, stepEq]
          exact projectedEq.symm
        · rw [translatedEq, trace_cons, otherStep, stepEq]
          rfl
        · rw [translatedEq, run_cons, otherStep, stepEq]
          simp [behind, pausedEq, noneParked, push, arrivals]
  · apply tame.follows_idle
    · exact if_neg accepted
    · exact if_neg fun all => accepted ⟨all.1, all.2.1⟩

/-- `pause` or `resume` is called. -/
theorem Tame.follows_call (tame : Tame conn) {input : Input ι κ}
    {after : BaseConnection σ κ} {task : Task κ}
    (acceptEq : accept family config conn input = (after.push [task], []))
    (sameFields : ∃ paused, after = { conn with paused := paused })
    (notKept : ∀ paused, kept paused task = false)
    (notPacket : ∀ packet, task ≠ .handlePacket packet)
    (resumes : conn.todo = [] → after.paused = false → conn.pausedPackets ≠ [] →
      task = .resume)
    (nothing : conn.withoutPauses (.input input : Event ω ι κ) = []) :
    Follows family config conn (.input input : Event ω ι κ) := by
  by_cases accepted : conn.crashed = false ∧ conn.todo = []
  · obtain ⟨paused, rfl⟩ := sameFields
    have stepEq : step family config conn (.input input) =
        (({ conn with paused := paused } : BaseConnection σ κ).push [task], []) :=
      (if_pos accepted).trans acceptEq
    apply follows_silent stepEq nothing
    · refine ⟨?_, ?_, tame.copies⟩
      · rw [push_todo, accepted.2]
        exact tidy_one task
      · intro unpausedNow nonempty
        rw [resumes accepted.2 unpausedNow nonempty]
        exact List.mem_cons_self
    · rw [unpaused_push_dropped (notKept _)]
      simp [unpaused, accepted.2]
    · rfl
    · have nothingToPark := fun paused rest =>
        toPark_eq_nil rest fun packet isPacket =>
          (absurd isPacket (notPacket packet) : paused = false)
      simp [behind, push, accepted.2, nothingToPark, calm_nil.toPark_eq_nil, arrivals]
  · exact tame.follows_idle (if_neg accepted) nothing

/-- The paused connection parks the packet in hand. -/
theorem Tame.follows_parked (tame : Tame conn) {behaviour : ω} (running : conn.crashed = false)
    {packet : Packet} {rest : List (Task κ)}
    (todoEq : conn.todo = .handlePacket (some packet) :: rest) (isPaused : conn.paused = true)
    (copy : packet.clone = packet) :
    Follows family config conn (.proceed behaviour : Event ω ι κ) := by
  have calm : Calm rest := tame.calm_rest todoEq
  have stepEq : step family config conn (.proceed behaviour) =
      ({ conn with
        todo := rest
        pausedPackets := conn.pausedPackets ++ [some packet] }, []) := by
    rw [step_proceed running todoEq]
    change handlePacket family config behaviour { conn with todo := rest } (some packet) = _
    rw [handlePacket, if_pos isPaused, Option.map_some, copy]
  apply follows_silent stepEq
  · simp [withoutPauses, running, todoEq, kept, isPaused]
  · refine ⟨calm.tidy, ?_, ?_⟩
    · intro unpausedNow
      exact absurd (isPaused.symm.trans unpausedNow) (Bool.noConfusion ·)
    · intro parked parkedMem
      rcases List.mem_append.mp parkedMem with earlier | last
      · exact tame.copies parked earlier
      · exact ⟨packet, List.mem_singleton.mp last, copy⟩
  · simp [unpaused, todoEq, kept, isPaused]
  · rfl
  · simp [behind, todoEq, isPaused, calm.toPark_eq_nil, arrivals]

/-- An iteration of the loop of `resume`. -/
theorem Tame.follows_resume (tame : Tame conn) {behaviour : ω} (running : conn.crashed = false)
    {rest : List (Task κ)} (todoEq : conn.todo = .resume :: rest)
    (resumesIdle : conn.resumesIdle = true) :
    Follows family config conn (.proceed behaviour : Event ω ι κ) := by
  have calm : Calm rest := tame.calm_rest todoEq
  have stepEq : step family config conn (.proceed behaviour) =
      ({ conn with todo := rest }.resume, []) :=
    step_proceed running todoEq
  have nothingToPark : toPark conn.paused (.resume :: rest) = [] := toPark_eq_nil rest (by simp)
  by_cases ended : conn.paused = true ∨ conn.pausedPackets = []
  · have resumed : ({ conn with todo := rest } : BaseConnection σ κ).resume =
        { conn with todo := rest } := resume_end ended
    rw [resumed] at stepEq
    apply follows_silent stepEq
    · rcases ended with pausedEq | parkedEq
      · simp [withoutPauses, running, todoEq, kept, pausedEq]
      · cases pausedEq : conn.paused <;>
          simp [withoutPauses, running, todoEq, kept, pausedEq, parkedEq]
    · refine ⟨calm.tidy, ?_, tame.copies⟩
      intro unpausedNow nonempty
      rcases ended with pausedEq | parkedEq
      · exact absurd (pausedEq.symm.trans unpausedNow) (Bool.noConfusion ·)
      · exact absurd parkedEq nonempty
    · simp [unpaused, todoEq, kept]
    · rfl
    · simp [behind, todoEq, calm.toPark_eq_nil, nothingToPark, arrivals]
  · have pausedEq : conn.paused = false := Bool.eq_false_iff.mpr fun isPaused =>
      ended (Or.inl isPaused)
    obtain ⟨head, parked, parkedEq⟩ :=
      List.exists_cons_of_ne_nil fun nothing => ended (Or.inr nothing)
    obtain ⟨packet, rfl, copy⟩ := tame.copies head (parkedEq ▸ List.mem_cons_self)
    -- no handler is running, so nothing of the other run is in front of the packet
    have noneKept : rest.filter (kept false) = [] := by
      apply List.filter_eq_nil_iff.mpr
      simpa [BaseConnection.resumesIdle, todoEq, pausedEq, parkedEq] using resumesIdle
    have resumed : ({ conn with todo := rest } : BaseConnection σ κ).resume = _ :=
      resume_packet pausedEq parkedEq
    rw [resumed] at stepEq
    have translatedEq : conn.withoutPauses (.proceed behaviour : Event ω ι κ) =
        [.input (.packet packet)] := by
      simp [withoutPauses, running, todoEq, kept, pausedEq, parkedEq]
    have otherIdle : conn.unpaused.crashed = false ∧ conn.unpaused.todo = [] := by
      refine ⟨running, ?_⟩
      rw [unpaused, todoEq, pausedEq]
      exact noneKept
    have otherStep : step family.unpausing config conn.unpaused (.input (.packet packet)) =
        (conn.unpaused.push [.handlePacket (some packet)], [.received packet]) :=
      if_pos otherIdle
    constructor
    · rw [stepEq]
      refine ⟨?_, ?_, ?_⟩
      · intro task taskMem
        rcases List.mem_cons.mp taskMem with rfl | inRest
        · simp
        · exact calm task inRest
      · intro _ _
        exact List.mem_cons_of_mem _ List.mem_cons_self
      · intro other otherMem
        exact tame.copies other (parkedEq ▸ List.mem_cons_of_mem _ otherMem)
    · rw [translatedEq, run_cons, otherStep, stepEq]
      simp [unpaused, push, todoEq, kept, pausedEq, noneKept]
    · rw [translatedEq, trace_cons, otherStep, stepEq]
      rfl
    · rw [translatedEq, run_cons, otherStep, stepEq]
      simp [behind, pausedEq, parkedEq, push, arrivals]

/-- The call of `pause` is performed. -/
theorem Tame.follows_pause (tame : Tame conn) {behaviour : ω} (running : conn.crashed = false)
    {rest : List (Task κ)} (todoEq : conn.todo = .call .pause :: rest) :
    Follows family config conn (.proceed behaviour : Event ω ι κ) := by
  have calm : Calm rest := tame.calm_rest todoEq
  have stepEq : step family config conn (.proceed behaviour) =
      ({ conn with
        todo := rest
        paused := true }, []) :=
    step_proceed running todoEq
  apply follows_silent stepEq
  · simp [withoutPauses, running, todoEq, kept, Call.active]
  · exact ⟨calm.tidy, fun unpausedNow => absurd unpausedNow (Bool.noConfusion ·), tame.copies⟩
  · simp [unpaused, todoEq, kept, Call.active, calm.filter_kept true conn.paused]
  · rfl
  · have nothingToPark : toPark conn.paused (.call .pause :: rest) = [] :=
      toPark_eq_nil rest (by simp)
    simp [behind, todoEq, arrivals, calm.toPark_eq_nil, nothingToPark]

/-- The call of `resume` is performed. -/
theorem Tame.follows_resumeCall (tame : Tame conn) {behaviour : ω}
    (running : conn.crashed = false) {rest : List (Task κ)}
    (todoEq : conn.todo = .call .resume :: rest) :
    Follows family config conn (.proceed behaviour : Event ω ι κ) := by
  have calm : Calm rest := tame.calm_rest todoEq
  have stepEq : step family config conn (.proceed behaviour) =
      ({ conn with
        todo := .resume :: rest
        paused := false }, []) :=
    step_proceed running todoEq
  apply follows_silent stepEq
  · simp [withoutPauses, running, todoEq, kept, Call.active]
  · exact ⟨calm, fun _ _ => List.mem_cons_self, tame.copies⟩
  · simp [unpaused, todoEq, kept, Call.active, calm.filter_kept false conn.paused]
  · rfl
  · have nothingToPark : toPark conn.paused (.call .resume :: rest) = [] :=
      toPark_eq_nil rest (by simp)
    simp [behind, todoEq, arrivals, nothingToPark]

/-- A task that both runs perform. -/
theorem Tame.follows_task (tame : Tame conn) {behaviour : ω} (running : conn.crashed = false)
    {task : Task κ} {rest : List (Task κ)} (todoEq : conn.todo = task :: rest)
    (isKept : kept conn.paused task = true)
    (handled : ∀ packet, task = .handlePacket packet → conn.paused = false) :
    Follows family config conn (.proceed behaviour : Event ω ι κ) := by
  have calm : Calm rest := tame.calm_rest todoEq
  have notResume : task ≠ .resume := by
    rintro rfl
    exact absurd isKept Bool.false_ne_true
  have notPause : task ≠ .call .pause := by
    rintro rfl
    exact absurd isKept Bool.false_ne_true
  have notResumeCall : task ≠ .call .resume := by
    rintro rfl
    exact absurd isKept Bool.false_ne_true
  have stepEq : step family config conn (.proceed behaviour) = _ := step_proceed running todoEq
  have otherTodo : conn.unpaused.todo = task :: rest.filter (kept conn.paused) := by
    rw [unpaused, todoEq]
    exact List.filter_cons_of_pos isKept
  have otherStep : step family.unpausing config conn.unpaused (.proceed behaviour) =
      performTask family.unpausing config behaviour
        ({ conn with todo := rest } : BaseConnection σ κ).unpaused task :=
    step_proceed (show conn.unpaused.crashed = false from running) otherTodo
  rw [unpaused_performTask family config behaviour { conn with todo := rest } isKept handled]
    at otherStep
  have grows := (performTask_performed family config behaviour { conn with todo := rest }
    task).grows notResume handled
  have samePaused := (performTask_performed family config behaviour { conn with todo := rest }
    task).paused_eq notPause notResumeCall
  generalize performTask family config behaviour { conn with todo := rest } task = result
    at stepEq otherStep grows samePaused
  obtain ⟨tasks, grownEq, shape⟩ := grows.todo
  have translatedEq : conn.withoutPauses (.proceed behaviour : Event ω ι κ) =
      [.proceed behaviour] := by
    simp [withoutPauses, running, todoEq, isKept]
  constructor
  · rw [stepEq]
    refine ⟨?_, ?_, ?_⟩
    · rw [grownEq]
      rcases shape with calmTasks | rfl
      · exact Tidy.push calmTasks calm
      · exact calm
    · rw [samePaused, grows.pausedPackets, grownEq]
      intro unpausedNow nonempty
      have resumeMem := tame.resumes unpausedNow nonempty
      rw [todoEq] at resumeMem
      rcases List.mem_cons.mp resumeMem with isResume | laterMem
      · exact absurd isResume.symm notResume
      · exact List.mem_append_right _ laterMem
    · rw [grows.pausedPackets]
      exact tame.copies
  · rw [translatedEq, run_cons, otherStep, stepEq]
    rfl
  · rw [translatedEq, trace_cons, otherStep, stepEq, trace_nil, List.append_nil]
    rfl
  · have before := toPark_eq_nil rest handled
    have after : toPark conn.paused (tasks ++ rest) = [] := by
      rcases shape with calmTasks | rfl
      · apply Calm.toPark_eq_nil
        intro other otherMem
        rcases List.mem_append.mp otherMem with inTasks | inRest
        · exact calmTasks other inTasks
        · exact calm other inRest
      · cases conn.paused <;> rfl
    rw [translatedEq, run_cons, otherStep, stepEq, behind, behind, grows.arrivals, todoEq,
      before, samePaused, grows.pausedPackets, grownEq, after]
    simp [grows.arrivals]

/-- Every step that meets the conditions. -/
theorem Tame.follows (tame : Tame conn) {behaviour : ω} {event : Event ω ι κ}
    (pausing : Pausing behaviour event) (unseen : PausesUnseen conn event) :
    Follows family config conn event := by
  obtain ⟨parksCopies, resumesIdle⟩ := unseen
  cases event with
  | input input =>
      cases input with
      | packet packet => exact tame.follows_packet packet
      | call call =>
          cases call with
          | pause =>
              apply tame.follows_call
                (show accept family config conn (.call .pause) =
                  (conn.push [.call .pause], []) from rfl) ⟨conn.paused, rfl⟩ (fun _ => rfl)
                (fun _ => by simp) _ rfl
              intro idle unpausedNow nonempty
              exact absurd (tame.pausedPackets_eq_nil idle unpausedNow) nonempty
          | resume =>
              apply tame.follows_call
                (show accept family config conn (.call .resume) =
                  (conn.push [.call .resume], []) from rfl) ⟨conn.paused, rfl⟩ (fun _ => rfl)
                (fun _ => by simp) _ rfl
              intro idle unpausedNow nonempty
              exact absurd (tame.pausedPackets_eq_nil idle unpausedNow) nonempty
          | addCommand command => exact absurd pausing id
          | close => exact absurd pausing id
      | resume =>
          exact tame.follows_call
            (show accept family config conn .resume =
              (({ conn with paused := false } : BaseConnection σ κ).push [.resume], []) from rfl)
            ⟨false, rfl⟩
            (fun _ => rfl) (fun _ => by simp) (fun _ _ _ => rfl) rfl
      | interrupt function => exact absurd pausing id
      | networkError err => exact absurd pausing id
      | streamClose => exact absurd pausing id
  | proceed other =>
      cases runningEq : conn.crashed with
      | true =>
          apply tame.follows_idle
          · exact if_pos runningEq
          · exact if_pos runningEq
      | false =>
          cases todoEq : conn.todo with
          | nil =>
              apply tame.follows_idle
              · simp [step, runningEq, todoEq]
              · simp [withoutPauses, runningEq, todoEq]
          | cons task rest =>
              have parkable : conn.paused = true → Parkable task := fun isPaused =>
                parksCopies isPaused task (by rw [todoEq]; rfl)
              cases keptEq : kept conn.paused task with
              | true =>
                  apply tame.follows_task runningEq todoEq keptEq
                  rintro packet rfl
                  cases pausedEq : conn.paused with
                  | false => rfl
                  | true =>
                      cases packet with
                      | none => exact absurd (parkable pausedEq) id
                      | some packet =>
                          rw [pausedEq] at keptEq
                          exact absurd keptEq Bool.false_ne_true
              | false =>
                  cases task with
                  | handlePacket packet =>
                      cases packet with
                      | none => exact absurd keptEq.symm Bool.false_ne_true
                      | some packet =>
                          have isPaused : conn.paused = true := by
                            simpa [kept] using keptEq
                          exact tame.follows_parked runningEq todoEq isPaused
                            (parkable isPaused)
                  | call call =>
                      cases call with
                      | pause => exact tame.follows_pause runningEq todoEq
                      | resume => exact tame.follows_resumeCall runningEq todoEq
                      | addCommand command => exact absurd keptEq.symm Bool.false_ne_true
                      | close => exact absurd keptEq.symm Bool.false_ne_true
                  | resume => exact tame.follows_resume runningEq todoEq resumesIdle
                  | handshakeError err => exact absurd keptEq.symm Bool.false_ne_true
                  | finish done => exact absurd keptEq.symm Bool.false_ne_true
                  | handleFatalError err => exact absurd keptEq.symm Bool.false_ne_true
                  | notifyError err fatal => exact absurd keptEq.symm Bool.false_ne_true
                  | dropCommand => exact absurd keptEq.symm Bool.false_ne_true
                  | drain err bubble fatal => exact absurd keptEq.symm Bool.false_ne_true

end Follows

/-- The connection without pauses simulates the one with pauses. -/
theorem simulates_unpaused (family : CommandFamily ω ι σ κ ο) (config : Config)
    (behaviour : ω) :
    Simulates (step family config) (step family.unpausing config) Tame
      (fun conn event => Pausing behaviour event ∧ PausesUnseen conn event) unpaused
      withoutPauses sequenceEntries sequenceEntries where
  preserved := fun _ _ tame meets => (tame.follows meets.1 meets.2).tame
  projected := fun _ _ tame meets => (tame.follows meets.1 meets.2).projected
  observed := fun _ _ tame meets => (tame.follows meets.1 meets.2).observed

section Runs

variable {family : CommandFamily ω ι σ κ ο} {config : Config} {behaviour : ω}
  {conn : BaseConnection σ κ}

/-- What has arrived here and not there is parked or about to be. -/
theorem run_arrived {events : List (Event ω ι κ)}
    (meets : Meets (step family config)
      (fun conn event => Pausing behaviour event ∧ PausesUnseen conn event) conn events)
    (tame : Tame conn) :
    conn.behind ++ arrivals (run (step family config) conn events).2 =
      arrivals (run (step family.unpausing config) conn.unpaused
          (translated (step family config) withoutPauses conn events)).2 ++
        (run (step family config) conn events).1.behind := by
  induction events generalizing conn with
  | nil => simp [translated, arrivals]
  | cons event events ih =>
      have follows : Follows family config conn event := tame.follows meets.1.1 meets.1.2
      have later := ih meets.2 follows.tame
      rw [run_cons, arrivals_append, ← List.append_assoc, follows.arrived, List.append_assoc,
        later, translated, run_append, arrivals_append, follows.projected, List.append_assoc]

theorem undisturbed_withoutPauses {event : Event ω ι κ} (pausing : Pausing behaviour event) :
    ∀ other ∈ conn.withoutPauses event, Undisturbed behaviour other := by
  intro other otherMem
  cases event with
  | input input =>
      cases input with
      | packet packet =>
          dsimp only [withoutPauses] at otherMem
          split at otherMem
          · rw [List.mem_singleton.mp otherMem]
            trivial
          · contradiction
      | _ => contradiction
  | proceed performed =>
      dsimp only [withoutPauses] at otherMem
      split at otherMem
      · contradiction
      · split at otherMem
        · contradiction
        · split at otherMem
          · rw [List.mem_singleton.mp otherMem]
            exact pausing
          · split at otherMem
            · rw [List.mem_singleton.mp otherMem]
              trivial
            · contradiction

theorem undisturbed_translated {events : List (Event ω ι κ)}
    (pausing : ∀ event ∈ events, Pausing behaviour event) :
    ∀ other ∈ translated (step family config) withoutPauses conn events,
      Undisturbed behaviour other := by
  induction events generalizing conn with
  | nil => exact List.forall_mem_nil _
  | cons event events ih =>
      intro other otherMem
      rcases List.mem_append.mp otherMem with first | later
      · exact undisturbed_withoutPauses (pausing event List.mem_cons_self) other first
      · exact ih (fun next nextMem => pausing next (List.mem_cons_of_mem event nextMem)) other
          later

/-! ## Runs without pauses are determined by their packets -/

/-- No handler is running any more. -/
def Settled (conn : BaseConnection σ κ) : Prop :=
  conn.todo = [] ∨ conn.crashed = true

instance (conn : BaseConnection σ κ) [Decidable (conn.todo = [])] : Decidable conn.Settled :=
  inferInstanceAs (Decidable (_ ∨ _))

/-- A run continues with a step and the rest of it. -/
structure Continues (family : CommandFamily ω ι σ κ ο) (config : Config) (behaviour : ω)
    (conn : BaseConnection σ κ) (event : Event ω ι κ) (events rest : List (Event ω ι κ)) :
    Prop where
  undisturbed : ∀ other ∈ rest, Undisturbed behaviour other
  last : (run (step family config) conn events).1 =
    (run (step family config) (step family config conn event).1 rest).1
  arrived : arrivals (run (step family config) conn events).2 =
    arrivals (step family config conn event).2 ++
      arrivals (run (step family config) (step family config conn event).1 rest).2
  observed : trace (step family config) sequenceEntries conn events =
    trace (step family config) sequenceEntries conn (event :: rest)

/-- Steps in front that do nothing can be left out. -/
theorem Continues.idle {event skipped : Event ω ι κ} {events rest : List (Event ω ι κ)}
    (continues : Continues family config behaviour conn event events rest)
    (nothing : step family config conn skipped = (conn, [])) :
    Continues family config behaviour conn event (skipped :: events) rest where
  undisturbed := continues.undisturbed
  last := by
    rw [run_cons, nothing]
    exact continues.last
  arrived := by
    rw [run_cons, nothing]
    exact continues.arrived
  observed := by
    rw [trace_cons, nothing]
    exact continues.observed

theorem continues_self {event : Event ω ι κ} {rest : List (Event ω ι κ)}
    (undisturbed : ∀ other ∈ rest, Undisturbed behaviour other) :
    Continues family config behaviour conn event (event :: rest) rest where
  undisturbed := undisturbed
  last := rfl
  arrived := arrivals_append _ _
  observed := rfl

/-- While a handler is running, a run that settles performs the next task. -/
theorem exists_continues_proceed {events : List (Event ω ι κ)}
    (undisturbed : ∀ event ∈ events, Undisturbed behaviour event)
    (running : conn.crashed = false) (busy : conn.todo ≠ [])
    (settled : Settled (run (step family config) conn events).1) :
    ∃ rest, Continues family config behaviour conn (.proceed behaviour) events rest := by
  induction events with
  | nil =>
      rcases settled with idle | crashed
      · exact absurd idle busy
      · exact absurd (crashed.symm.trans running) (Bool.noConfusion ·)
  | cons event events ih =>
      have later : ∀ other ∈ events, Undisturbed behaviour other := fun other otherMem =>
        undisturbed other (List.mem_cons_of_mem event otherMem)
      cases event with
      | input input =>
          have nothing : step family config conn (.input input : Event ω ι κ) = (conn, []) :=
            step_input_busy busy input
          rw [run_cons, nothing] at settled
          obtain ⟨rest, continues⟩ := ih later settled
          exact ⟨rest, continues.idle nothing⟩
      | proceed performed =>
          have performedEq : performed = behaviour := undisturbed _ List.mem_cons_self
          subst performedEq
          exact ⟨events, continues_self later⟩

/-- While no handler is running, a run in which a packet arrives accepts it. -/
theorem exists_continues_packet {events : List (Event ω ι κ)}
    (undisturbed : ∀ event ∈ events, Undisturbed behaviour event)
    (running : conn.crashed = false) (idle : conn.todo = []) {packet : Packet}
    {more : List Packet}
    (arrived : packet :: more <+: arrivals (run (step family config) conn events).2) :
    ∃ rest, Continues family config behaviour conn (.input (.packet packet)) events rest := by
  induction events with
  | nil => simp [arrivals] at arrived
  | cons event events ih =>
      have later : ∀ other ∈ events, Undisturbed behaviour other := fun other otherMem =>
        undisturbed other (List.mem_cons_of_mem event otherMem)
      cases event with
      | input input =>
          cases input with
          | packet other =>
              have accepted : step family config conn (.input (.packet other)) =
                  (conn.push [.handlePacket (some other)], [.received other]) :=
                if_pos ⟨running, idle⟩
              rw [run_cons, accepted, arrivals_append] at arrived
              have sameHead : packet = other := (List.cons_prefix_cons.mp arrived).1
              subst sameHead
              exact ⟨events, continues_self later⟩
          | _ => exact absurd (undisturbed _ List.mem_cons_self) id
      | proceed performed =>
          have nothing : step family config conn (.proceed performed : Event ω ι κ) = (conn, []) :=
            step_proceed_idle idle performed
          rw [run_cons, nothing] at arrived
          obtain ⟨rest, continues⟩ := ih later arrived
          exact ⟨rest, continues.idle nothing⟩

/-- Of two runs without pauses, one of which receives what the other one does or
more and settles, that one records what the other one does or more. -/
theorem trace_isPrefix {first second : List (Event ω ι κ)}
    (firstUndisturbed : ∀ event ∈ first, Undisturbed behaviour event)
    (secondUndisturbed : ∀ event ∈ second, Undisturbed behaviour event)
    (arrived : arrivals (run (step family config) conn first).2 <+:
      arrivals (run (step family config) conn second).2)
    (settled : Settled (run (step family config) conn second).1) :
    trace (step family config) sequenceEntries conn first <+:
      trace (step family config) sequenceEntries conn second := by
  induction first generalizing conn second with
  | nil => exact List.nil_prefix
  | cons event first ih =>
      have laterUndisturbed : ∀ other ∈ first, Undisturbed behaviour other :=
        fun other otherMem => firstUndisturbed other (List.mem_cons_of_mem event otherMem)
      have skip : step family config conn event = (conn, []) →
          trace (step family config) sequenceEntries conn (event :: first) <+:
            trace (step family config) sequenceEntries conn second := by
        intro nothing
        rw [run_cons, nothing] at arrived
        rw [trace_cons, nothing]
        exact ih laterUndisturbed secondUndisturbed arrived settled
      have advance : (∃ rest, Continues family config behaviour conn event second rest) →
          trace (step family config) sequenceEntries conn (event :: first) <+:
            trace (step family config) sequenceEntries conn second := by
        rintro ⟨rest, continues⟩
        rw [run_cons, arrivals_append, continues.arrived] at arrived
        rw [continues.last] at settled
        rw [continues.observed, trace_cons, trace_cons]
        exact (List.prefix_append_right_inj _).mpr
          (ih laterUndisturbed continues.undisturbed
            ((List.prefix_append_right_inj _).mp arrived) settled)
      cases runningEq : conn.crashed with
      | true => exact skip (step_crashed runningEq event)
      | false =>
          cases event with
          | input input =>
              by_cases idle : conn.todo = []
              · cases input with
                | packet packet =>
                    have accepted : step family config conn (.input (.packet packet)) =
                        (conn.push [.handlePacket (some packet)], [.received packet]) :=
                      if_pos ⟨runningEq, idle⟩
                    apply advance
                    rw [run_cons, accepted, arrivals_append] at arrived
                    exact exists_continues_packet secondUndisturbed runningEq idle arrived
                | _ => exact absurd (firstUndisturbed _ List.mem_cons_self) id
              · exact skip (step_input_busy idle input)
          | proceed performed =>
              by_cases idle : conn.todo = []
              · exact skip (step_proceed_idle idle performed)
              · have performedEq : performed = behaviour :=
                  firstUndisturbed _ List.mem_cons_self
                subst performedEq
                exact advance (exists_continues_proceed secondUndisturbed runningEq idle settled)

/-- Where nothing is paused, parked or running, the run without pauses starts in
the same state. -/
theorem unpaused_eq_self (idle : conn.todo = []) (notPaused : conn.paused = false)
    (noneParked : conn.pausedPackets = []) : conn.unpaused = conn := by
  rw [unpaused, idle, ← notPaused, ← noneParked, List.filter_nil, ← idle]

theorem tame_of_idle (idle : conn.todo = []) (noneParked : conn.pausedPackets = []) :
    Tame conn where
  tidy := by
    rw [idle]
    exact calm_nil
  resumes := fun _ parked => absurd noneParked parked
  copies := by
    intro parked parkedMem
    rw [noneParked] at parkedMem
    contradiction

theorem behind_eq_nil (settled : conn.todo = []) (noneParked : conn.pausedPackets = []) :
    conn.behind = [] := by
  rw [behind, settled, noneParked, calm_nil.toPark_eq_nil]
  rfl

/-- A run with pauses, all of whose parked packets equal their copies and which
parks no command start and takes no parked packet out while a handler is running,
against a run without pauses in which the same packets
arrive and all are handled: the sequence ids behind the processed packets and the
warnings are the same, as far as the packets have been processed, and all of them
when nothing is parked and no handler is running any more.  What the commands do
depends on the store, which can hold any memory of outside code. -/
theorem sequenceEntries_unpaused (family : CommandFamily ω ι σ κ ο) (config : Config)
    (behaviour : ω) (conn : BaseConnection σ κ) (idle : conn.todo = [])
    (notPaused : conn.paused = false) (noneParked : conn.pausedPackets = [])
    (pausing plain : List (Event ω ι κ))
    (pauses : ∀ event ∈ pausing, Pausing behaviour event)
    (unseen : Meets (step family config) PausesUnseen conn pausing)
    (undisturbed : ∀ event ∈ plain, Undisturbed behaviour event)
    (arrived : arrivals (run (step family.unpausing config) conn plain).2 =
      arrivals (run (step family config) conn pausing).2)
    (settled : Settled (run (step family.unpausing config) conn plain).1) :
    trace (step family config) sequenceEntries conn pausing <+:
        trace (step family.unpausing config) sequenceEntries conn plain ∧
      ((run (step family config) conn pausing).1.todo = [] →
        (run (step family config) conn pausing).1.pausedPackets = [] →
        trace (step family config) sequenceEntries conn pausing =
          trace (step family.unpausing config) sequenceEntries conn plain) := by
  have same := unpaused_eq_self idle notPaused noneParked
  have tame := tame_of_idle idle noneParked
  let translation := translated (step family config) withoutPauses conn pausing
  have meets := unseen.and_forall pauses
  obtain ⟨-, projected, observed⟩ :=
    (simulates_unpaused family config behaviour).run meets tame
  have received := run_arrived meets tame
  rw [same] at projected observed received
  rw [behind_eq_nil idle noneParked, List.nil_append, ← arrived] at received
  have translatedUndisturbed : ∀ event ∈ translation, Undisturbed behaviour event :=
    undisturbed_translated pauses
  have firstPrefix : trace (step family config) sequenceEntries conn pausing <+:
      trace (step family.unpausing config) sequenceEntries conn plain := by
    rw [← observed]
    exact trace_isPrefix translatedUndisturbed undisturbed ⟨_, received.symm⟩ settled
  refine ⟨firstPrefix, ?_⟩
  intro finished nothingParked
  -- everything has arrived in the translated run too, so it does not lag behind
  rw [behind_eq_nil finished nothingParked, List.append_nil] at received
  have translatedSettled : Settled (run (step family.unpausing config) conn translation).1 := by
    left
    rw [projected, unpaused, finished]
    rfl
  have secondPrefix : trace (step family.unpausing config) sequenceEntries conn plain <+:
      trace (step family config) sequenceEntries conn pausing := by
    rw [← observed]
    exact trace_isPrefix undisturbed translatedUndisturbed ⟨[], by rw [List.append_nil, received]⟩
      translatedSettled
  exact firstPrefix.eq_of_length (Nat.le_antisymm firstPrefix.length_le secondPrefix.length_le)

end Runs

end BaseConnection

/-! ## A packet of two frames -/

section Copies

open Mysql2.Commands
open Mysql2.Parser
open BaseConnection

/-- The driver's commands, and the same ones without pauses. -/
abbrev driver : CommandFamily (Behaviour JsValue Unit) (Interrupt JsValue Unit) (Store Entries)
    (Command JsValue Unit) (CommandOutput Unit) :=
  Command.family (defaultConfig false)

/-- A command has been started. -/
def awaiting : BaseConnection (Store Entries) (Command JsValue Unit) :=
  (run (step driver listening) (new (.empty []))
    [.input (.call (.addCommand waiting)), .proceed quiet, .proceed quiet, .proceed quiet]).1

/-- Two packets arrive, in turn, with `pause` in front and `resume` behind. -/
def pausedRun (first second : Packet) : List DriverEvent :=
  [.input (.call .pause), .proceed quiet,
    .input (.packet first), .proceed quiet, .input (.packet second), .proceed quiet,
    .input .resume, .proceed quiet, .proceed quiet, .proceed quiet, .proceed quiet,
    .proceed quiet, .proceed quiet, .proceed quiet, .proceed quiet]

/-- The same packets arrive. -/
def plainRun (first second : Packet) : List DriverEvent :=
  [.input (.packet first), .proceed quiet, .proceed quiet,
    .input (.packet second), .proceed quiet, .proceed quiet]

/-- A packet with the contents zero, and more behind it. -/
def zeroPacket (sequenceId numPackets : Nat) (rest : Bytes) : Packet :=
  { sequenceId := sequenceId
    numPackets := numPackets
    buffer := [0, 0, 0, 0, 0] ++ rest
    start := 0
    offset := 4
    endOffset := rest.length + 5 }

/-- Packets of one frame are parked without harm. -/
theorem sequenceEntries_unpaused_pausedRun :
    trace (step driver listening) sequenceEntries awaiting
        (pausedRun (zeroPacket 0 1 []) (zeroPacket 1 1 [])) =
      trace (step driver.unpausing listening) sequenceEntries awaiting
        (plainRun (zeroPacket 0 1 []) (zeroPacket 1 1 [])) := by
  refine (sequenceEntries_unpaused driver listening quiet awaiting rfl rfl rfl
    (pausedRun (zeroPacket 0 1 []) (zeroPacket 1 1 []))
    (plainRun (zeroPacket 0 1 []) (zeroPacket 1 1 []))
    ?_ (by decide) ?_ rfl (Or.inl rfl)).2 rfl rfl
  · simp [pausedRun, Pausing]
  · simp [plainRun, Undisturbed]

/-- `awaiting`, further on. -/
def awaitingAt (sequenceId : Nat) (paused : Bool) (pausedPackets : List (Option Packet))
    (todo : List (Task (Command JsValue Unit))) :
    BaseConnection (Store Entries) (Command JsValue Unit) :=
  { awaiting with
    wire := ⟨sequenceId, 0, []⟩
    paused := paused
    pausedPackets := pausedPackets
    todo := todo }

/-- What happens when a packet is handled. -/
def handledOutputs (sequenceId : Nat) (packet : Packet) :
    List (Output (Command JsValue Unit) (CommandOutput Unit)) :=
  .processed (some packet) ::
    ((if sequenceId ≠ packet.sequenceId then [.warn sequenceId packet.sequenceId] else []) ++
      [.executed (.other ⟨1, true, false, some .response⟩ false) (some packet)])

section Steps

variable (sequenceId : Nat) (packet : Packet) (parked : List (Option Packet)) (rest : Bytes)
  (todo : List (Task (Command JsValue Unit)))

theorem step_awaitingAt_packet (paused : Bool) :
    step driver listening (awaitingAt sequenceId paused parked []) (.input (.packet packet)) =
      (awaitingAt sequenceId paused parked [.handlePacket (some packet)], [.received packet]) :=
  rfl

theorem step_unpausing_awaitingAt_packet :
    step driver.unpausing listening (awaitingAt sequenceId false parked [])
        (.input (.packet packet)) =
      (awaitingAt sequenceId false parked [.handlePacket (some packet)], [.received packet]) :=
  rfl

theorem step_awaitingAt_parked :
    step driver listening (awaitingAt sequenceId true parked [.handlePacket (some packet)])
        (.proceed quiet) =
      (awaitingAt sequenceId true (parked ++ [some packet.clone]) [], []) :=
  rfl

theorem step_awaitingAt_handled (id numPackets : Nat) :
    step driver listening (awaitingAt sequenceId false parked
        (.handlePacket (some (zeroPacket id numPackets rest)) :: todo)) (.proceed quiet) =
      (awaitingAt ((sequenceId + numPackets) % 256) false parked (.finish false :: todo),
        handledOutputs sequenceId (zeroPacket id numPackets rest)) :=
  rfl

theorem step_unpausing_awaitingAt_handled (id numPackets : Nat) :
    step driver.unpausing listening (awaitingAt sequenceId false parked
        (.handlePacket (some (zeroPacket id numPackets rest)) :: todo)) (.proceed quiet) =
      (awaitingAt ((sequenceId + numPackets) % 256) false parked (.finish false :: todo),
        handledOutputs sequenceId (zeroPacket id numPackets rest)) :=
  rfl

theorem step_awaitingAt_finish :
    step driver listening (awaitingAt sequenceId false parked (.finish false :: todo))
        (.proceed quiet) = (awaitingAt sequenceId false parked todo, []) :=
  rfl

theorem step_unpausing_awaitingAt_finish :
    step driver.unpausing listening (awaitingAt sequenceId false parked (.finish false :: todo))
        (.proceed quiet) = (awaitingAt sequenceId false parked todo, []) :=
  rfl

theorem step_awaitingAt_callPause :
    step driver listening (awaitingAt sequenceId false parked []) (.input (.call .pause)) =
      (awaitingAt sequenceId false parked [.call .pause], []) :=
  rfl

theorem step_awaitingAt_pause :
    step driver listening (awaitingAt sequenceId false parked [.call .pause]) (.proceed quiet) =
      (awaitingAt sequenceId true parked [], []) :=
  rfl

theorem step_awaitingAt_callResume :
    step driver listening (awaitingAt sequenceId true parked []) (.input .resume) =
      (awaitingAt sequenceId false parked [.resume], []) :=
  rfl

theorem step_awaitingAt_resume :
    step driver listening (awaitingAt sequenceId false (some packet :: parked) [.resume])
        (.proceed quiet) =
      (awaitingAt sequenceId false parked [.handlePacket (some packet), .resume], []) :=
  rfl

theorem step_awaitingAt_resumed :
    step driver listening (awaitingAt sequenceId false [] [.resume]) (.proceed quiet) =
      (awaitingAt sequenceId false [] [], []) :=
  rfl

theorem zeroPacket_clone (id numPackets : Nat) :
    (zeroPacket id numPackets rest).clone = zeroPacket id 1 rest :=
  rfl

end Steps

/-- The packets arrive in both runs. -/
theorem arrivals_zeroPacket (rest : Bytes) :
    arrivals (run (step driver.unpausing listening) (awaitingAt 0 false [] [])
        (plainRun (zeroPacket 0 2 rest) (zeroPacket 2 1 []))).2 =
      arrivals (run (step driver listening) (awaitingAt 0 false [] [])
        (pausedRun (zeroPacket 0 2 rest) (zeroPacket 2 1 []))).2 := by
  simp only [plainRun, pausedRun, run_cons, run_nil, step_awaitingAt_packet,
    step_unpausing_awaitingAt_packet, step_awaitingAt_parked, step_awaitingAt_handled,
    step_unpausing_awaitingAt_handled, step_awaitingAt_finish, step_unpausing_awaitingAt_finish,
    step_awaitingAt_callPause, step_awaitingAt_pause, step_awaitingAt_callResume,
    step_awaitingAt_resume, step_awaitingAt_resumed, zeroPacket_clone, List.nil_append,
    List.cons_append]
  rfl

theorem trace_plainRun (rest : Bytes) :
    trace (step driver.unpausing listening) sequenceEntries (awaitingAt 0 false [] [])
        (plainRun (zeroPacket 0 2 rest) (zeroPacket 2 1 [])) = [.processed 2, .processed 3] := by
  simp only [plainRun, trace_cons, trace_nil, step_unpausing_awaitingAt_packet,
    step_unpausing_awaitingAt_handled, step_unpausing_awaitingAt_finish]
  rfl

theorem trace_pausedRun (rest : Bytes) :
    trace (step driver listening) sequenceEntries (awaitingAt 0 false [] [])
        (pausedRun (zeroPacket 0 2 rest) (zeroPacket 2 1 [])) =
      [.processed 1, .processed 2, .warning 1 2] := by
  simp only [pausedRun, trace_cons, trace_nil, step_awaitingAt_packet,
    step_awaitingAt_parked, step_awaitingAt_handled, step_awaitingAt_finish,
    step_awaitingAt_callPause, step_awaitingAt_pause, step_awaitingAt_callResume,
    step_awaitingAt_resume, step_awaitingAt_resumed, zeroPacket_clone, List.nil_append,
    List.cons_append]
  rfl

/-- A packet of two frames and the next packet, with the sequence ids that they
are sent with: without pauses there is no warning, with a pause there is one. -/
theorem twoFrames_parked_warns :
    let first := zeroPacket 0 2 (List.replicate (MAX_PACKET_LENGTH - 1) 0)
    let second := zeroPacket 2 1 []
    arrivals (run (step driver.unpausing listening) (awaitingAt 0 false [] [])
          (plainRun first second)).2 =
        arrivals (run (step driver listening) (awaitingAt 0 false [] [])
          (pausedRun first second)).2 ∧
      trace (step driver.unpausing listening) sequenceEntries (awaitingAt 0 false [] [])
        (plainRun first second) = [.processed 2, .processed 3] ∧
      trace (step driver listening) sequenceEntries (awaitingAt 0 false [] [])
        (pausedRun first second) = [.processed 1, .processed 2, .warning 1 2] :=
  ⟨arrivals_zeroPacket _, trace_plainRun _, trace_pausedRun _⟩

end Copies

end Mysql2.Connection

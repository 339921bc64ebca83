import Mysql2.Connection.Connection

/-!
# What a task does

Every way in which a task can be performed, with the state it leaves behind.
Invariants of the connection are proved by cases on it, without unfolding the
functions of the connection.
-/

namespace Mysql2.Connection

open Mysql2.Packets
open Mysql2.Transition

namespace BaseConnection

variable {ω ι σ κ ο : Type}

@[simp]
theorem push_todo (conn : BaseConnection σ κ) (tasks : List (Task κ)) :
    (conn.push tasks).todo = tasks ++ conn.todo :=
  rfl

/-- `after` is the connection, except that it can have crashed or been closed. -/
structure Closes (before after : BaseConnection σ κ) : Prop where
  command : after.command = before.command
  commands : after.commands = before.commands
  paused : after.paused = before.paused
  pausedPackets : after.pausedPackets = before.pausedPackets
  wire : after.wire = before.wire
  store : after.store = before.store
  todo : after.todo = before.todo
  fatalError : after.fatalError = before.fatalError
  closedState : before.closedState = true → after.closedState = true
  closing : before.closing = true → after.closing = true

/-- An observer sees at most `error` events of the connection. -/
def OnlyErrors (outputs : List (Output κ ο)) : Prop :=
  ∀ output ∈ outputs, ∃ err, output = .error err

theorem onlyErrors_nil : OnlyErrors ([] : List (Output κ ο)) := by
  intro output outputMem
  contradiction

theorem Closes.refl (conn : BaseConnection σ κ) : Closes conn conn :=
  ⟨rfl, rfl, rfl, rfl, rfl, rfl, rfl, rfl, id, id⟩

theorem closes_close (conn : BaseConnection σ κ) : Closes conn conn.close :=
  ⟨rfl, rfl, rfl, rfl, rfl, rfl, rfl, rfl, fun _ => rfl, fun _ => rfl⟩

theorem Closes.trans {first second third : BaseConnection σ κ} (left : Closes first second)
    (right : Closes second third) : Closes first third :=
  ⟨right.command.trans left.command, right.commands.trans left.commands,
    right.paused.trans left.paused, right.pausedPackets.trans left.pausedPackets,
    right.wire.trans left.wire, right.store.trans left.store, right.todo.trans left.todo,
    right.fatalError.trans left.fatalError, right.closedState ∘ left.closedState,
    right.closing ∘ left.closing⟩

theorem closes_emitError (config : Config) (conn : BaseConnection σ κ) (err : JsError) :
    Closes conn (conn.emitError config err : BaseConnection σ κ × List (Output κ ο)).1 ∧
      OnlyErrors (conn.emitError config err : BaseConnection σ κ × List (Output κ ο)).2 := by
  rw [emitError]
  split
  · constructor
    · exact .refl conn
    · intro output outputMem
      exact ⟨err, List.mem_singleton.mp outputMem⟩
  · exact ⟨⟨rfl, rfl, rfl, rfl, rfl, rfl, rfl, rfl, id, id⟩, onlyErrors_nil⟩

theorem closes_unexpectedPacket (config : Config) (conn : BaseConnection σ κ) (packet : Packet) :
    Closes conn (conn.unexpectedPacket config packet : BaseConnection σ κ × List (Output κ ο)).1 ∧
      OnlyErrors
        (conn.unexpectedPacket config packet : BaseConnection σ κ × List (Output κ ο)).2 := by
  unfold unexpectedPacket
  dsimp only
  split
  · exact ⟨⟨rfl, rfl, rfl, rfl, rfl, rfl, rfl, rfl, id, id⟩, onlyErrors_nil⟩
  · rename_i err _
    have emitted := closes_emitError (ο := ο) config conn err
    split
    · exact ⟨closes_close conn, onlyErrors_nil⟩
    · refine ⟨?_, emitted.2⟩
      split
      · exact emitted.1
      · exact emitted.1.trans (closes_close _)

/-- The task that follows the calls made from inside `command.execute`. -/
def afterExecute (result : Except JsError Bool) : Task κ :=
  match result with
  | .error err => .handleFatalError err
  | .ok done => .finish done

/-- The connection behind `command.execute`. -/
def executed (conn : BaseConnection σ κ) (outcome : Outcome σ κ ο) : BaseConnection σ κ :=
  { conn with
    store := outcome.store
    wire := outcome.wire
    command := some outcome.command
    todo := outcome.calls.map .call ++ (outcome.handshakeError.toList.map .handshakeError ++
      (afterExecute outcome.result :: conn.todo)) }

/-- The ways a task can be performed. -/
inductive Performed (family : CommandFamily ω ι σ κ ο) (config : Config) (behaviour : ω)
    (conn : BaseConnection σ κ) :
    Task κ → BaseConnection σ κ → List (Output κ ο) → Prop
  | parked (packet : Option Packet) (paused : conn.paused = true) :
      Performed family config behaviour conn (.handlePacket packet)
        { conn with pausedPackets := conn.pausedPackets ++ [packet.map Packet.clone] } []
  | unexpected (packet : Option Packet) (unpaused : conn.paused = false)
      (idle : conn.command = none) {after : BaseConnection σ κ} {outputs : List (Output κ ο)}
      (closes : Closes conn after) (onlyErrors : OnlyErrors outputs) :
      Performed family config behaviour conn (.handlePacket packet) after
        (.processed packet :: outputs)
  | skipped (packet : Option Packet) (unpaused : conn.paused = false) {command : κ}
      (active : conn.command = some command) (fatal : conn.fatalError.isSome = true) :
      Performed family config behaviour conn (.handlePacket packet)
        (conn.receiveSequenceId packet : BaseConnection σ κ × List (Output κ ο)).1
        (.processed packet :: (conn.receiveSequenceId packet : _ × List (Output κ ο)).2)
  | executed (packet : Option Packet) (unpaused : conn.paused = false) {command : κ}
      (active : conn.command = some command) (unfailed : conn.fatalError = none)
      {counted : BaseConnection σ κ} {warnings : List (Output κ ο)}
      (countedEq : conn.receiveSequenceId packet = (counted, warnings))
      {outcome : Outcome σ κ ο}
      (outcomeEq : family.execute behaviour (counted.view config) counted.store counted.wire
        command packet = outcome) :
      Performed family config behaviour conn (.handlePacket packet) (counted.executed outcome)
        (.processed packet :: (warnings ++
          .executed command packet :: outcome.outputs.map .command))
  | pause :
      Performed family config behaviour conn (.call .pause) { conn with paused := true } []
  | resumeCall :
      Performed family config behaviour conn (.call .resume)
        ({ conn with paused := false }.push [.resume]) []
  | close : Performed family config behaviour conn (.call .close) conn.close []
  | addClosed (command : κ) (closed : conn.closedState = true)
      (callback : family.hasCallback command = true) :
      Performed family config behaviour conn (.call (.addCommand command))
        { (conn.callOnResult family behaviour command closedStateError).1 with
          crashed := conn.crashed }
        (conn.callOnResult family behaviour command closedStateError).2
  | addClosedSilent (command : κ) (closed : conn.closedState = true)
      (silent : family.hasCallback command = false) {outputs : List (Output κ ο)}
      (onlyErrors : OnlyErrors outputs) :
      Performed family config behaviour conn (.call (.addCommand command)) conn outputs
  | addIdle (command : κ) (unclosed : conn.closedState = false) (idle : conn.command = none) :
      Performed family config behaviour conn (.call (.addCommand command))
        ({ conn with command := some command }.push [.handlePacket none]) []
  | addQueued (command : κ) (unclosed : conn.closedState = false) {active : κ}
      (busy : conn.command = some active) :
      Performed family config behaviour conn (.call (.addCommand command))
        { conn with commands := conn.commands ++ [command] } []
  | handshakeError (err : JsError) :
      Performed family config behaviour conn (.handshakeError err)
        ({ conn with closing := true }.push [.notifyError err false]) []
  | continued : Performed family config behaviour conn (.finish false) conn []
  | finishedLast (last : conn.commands = []) :
      Performed family config behaviour conn (.finish true) { conn with command := none }
        [.removed]
  | finishedNext {next : κ} {commands : List κ} (queue : conn.commands = next :: commands) :
      Performed family config behaviour conn (.finish true)
        ({ conn with
          command := some next
          commands := commands
          wire := conn.wire.resetSequenceId }.push [.handlePacket none]) [.removed]
  | resumeStopped (stopped : conn.paused = true ∨ conn.pausedPackets = []) :
      Performed family config behaviour conn .resume conn []
  | resumeStart {parked : List (Option Packet)} (unpaused : conn.paused = false)
      (queue : conn.pausedPackets = none :: parked) :
      Performed family config behaviour conn .resume { conn with pausedPackets := parked } []
  | resumePacket {packet : Packet} {parked : List (Option Packet)}
      (unpaused : conn.paused = false) (queue : conn.pausedPackets = some packet :: parked) :
      Performed family config behaviour conn .resume
        ({ conn with pausedPackets := parked }.push [.handlePacket (some packet), .resume]) []
  | handleFatalError (err : JsError) :
      Performed family config behaviour conn (.handleFatalError err)
        (conn.handleFatalError err) []
  | notifyIgnored (err : JsError) (fatal : Bool) (failed : conn.fatalError.isSome = true) :
      Performed family config behaviour conn (.notifyError err fatal)
        (conn.setFatalError err fatal) []
  | notifyCallback (err : JsError) (fatal : Bool) (unfailed : conn.fatalError = none)
      {command : κ} (active : conn.command = some command)
      (callback : family.hasCallback command = true) :
      Performed family config behaviour conn (.notifyError err fatal)
        ((conn.push [.dropCommand, .drain err false fatal]).callOnResult family behaviour
          command err).1
        ((conn.push [.dropCommand, .drain err false fatal]).callOnResult family behaviour
          command err).2
  | notifySilent (err : JsError) (fatal : Bool) (unfailed : conn.fatalError = none)
      (silent : ∀ command, conn.command = some command → family.hasCallback command = false)
      (bubble : Bool) :
      Performed family config behaviour conn (.notifyError err fatal)
        (conn.push [.drain err bubble fatal]) []
  | dropCommand :
      Performed family config behaviour conn .dropCommand { conn with command := none } []
  | drainCallback (err : JsError) (bubble fatal : Bool) {command : κ} {commands : List κ}
      (queue : conn.commands = command :: commands)
      (callback : family.hasCallback command = true) :
      Performed family config behaviour conn (.drain err bubble fatal)
        (({ conn with commands := commands }.push [.drain err bubble fatal]).callOnResult family
          behaviour command err).1
        (({ conn with commands := commands }.push [.drain err bubble fatal]).callOnResult family
          behaviour command err).2
  | drainSilent (err : JsError) (bubble fatal : Bool) {command : κ} {commands : List κ}
      (queue : conn.commands = command :: commands)
      (silent : family.hasCallback command = false) :
      Performed family config behaviour conn (.drain err bubble fatal)
        ({ conn with commands := commands }.push [.drain err true fatal]) []
  | drained (err : JsError) (bubble fatal : Bool) (empty : conn.commands = [])
      {after : BaseConnection σ κ} {outputs : List (Output κ ο)} (closes : Closes conn after)
      (onlyErrors : OnlyErrors outputs) (setsFatal : Bool)
      (setsFatalOnly : setsFatal = true → fatal = true) :
      Performed family config behaviour conn (.drain err bubble fatal)
        (after.setFatalError err setsFatal) outputs

theorem executeCommand_eq (family : CommandFamily ω ι σ κ ο) (config : Config) (behaviour : ω)
    (conn : BaseConnection σ κ) (command : κ) (packet : Option Packet) :
    conn.executeCommand family config behaviour command packet =
      (conn.executed
          (family.execute behaviour (conn.view config) conn.store conn.wire command packet),
        .executed command packet ::
          (family.execute behaviour (conn.view config) conn.store conn.wire command
            packet).outputs.map .command) := by
  simp only [executeCommand, executed, push, afterExecute, List.append_assoc]
  rfl

theorem receiveSequenceId_eq (conn : BaseConnection σ κ) (packet : Option Packet) :
    ∃ wire, (conn.receiveSequenceId packet : BaseConnection σ κ × List (Output κ ο)).1 =
      { conn with wire := wire } := by
  cases packet with
  | none => exact ⟨conn.wire, rfl⟩
  | some packet => exact ⟨_, rfl⟩

theorem handlePacket_performed (family : CommandFamily ω ι σ κ ο) (config : Config)
    (behaviour : ω) (conn : BaseConnection σ κ) (packet : Option Packet) :
    Performed family config behaviour conn (.handlePacket packet)
      (conn.handlePacket family config behaviour packet).1
      (conn.handlePacket family config behaviour packet).2 := by
  unfold handlePacket
  by_cases paused : conn.paused = true
  · rw [if_pos paused]
    exact .parked packet paused
  · rw [if_neg paused]
    have unpaused : conn.paused = false := Bool.eq_false_iff.mpr paused
    split
    · rename_i idle
      cases packet with
      | none =>
          exact .unexpected none unpaused idle
            ⟨rfl, rfl, rfl, rfl, rfl, rfl, rfl, rfl, id, id⟩ onlyErrors_nil
      | some received =>
          exact .unexpected (some received) unpaused idle
            (closes_unexpectedPacket config conn received).1
            (closes_unexpectedPacket config conn received).2
    · rename_i command active
      dsimp only
      by_cases fatal : conn.fatalError.isSome = true
      · rw [if_pos fatal]
        exact .skipped packet unpaused active fatal
      · rw [if_neg fatal]
        have unfailed : conn.fatalError = none := Option.not_isSome_iff_eq_none.mp fatal
        cases countedEq : (conn.receiveSequenceId packet : BaseConnection σ κ × List (Output κ ο))
        with
        | mk counted warnings =>
            rw [executeCommand_eq]
            exact .executed packet unpaused active unfailed countedEq rfl

theorem call_performed (family : CommandFamily ω ι σ κ ο) (config : Config)
    (behaviour : ω) (conn : BaseConnection σ κ) (call : Call κ) :
    Performed family config behaviour conn (.call call)
      (conn.perform family config behaviour call).1
      (conn.perform family config behaviour call).2 := by
  cases call with
  | pause => exact .pause
  | resume => exact .resumeCall
  | close => exact .close
  | addCommand command =>
      unfold perform addCommand
      dsimp only
      by_cases closed : conn.closedState = true
      · rw [if_pos closed, addCommandClosedState]
        by_cases callback : family.hasCallback command = true
        · rw [if_pos callback]
          exact .addClosed command closed callback
        · rw [if_neg callback]
          refine .addClosedSilent command closed (Bool.eq_false_iff.mpr callback) ?_
          intro output outputMem
          split at outputMem
          · exact ⟨_, List.mem_singleton.mp outputMem⟩
          · contradiction
      · rw [if_neg closed]
        have unclosed : conn.closedState = false := Bool.eq_false_iff.mpr closed
        split
        · rename_i active
          exact .addIdle command unclosed active
        · rename_i busy active
          exact .addQueued command unclosed active

theorem finish_performed (family : CommandFamily ω ι σ κ ο) (config : Config)
    (behaviour : ω) (conn : BaseConnection σ κ) (done : Bool) :
    Performed family config behaviour conn (.finish done)
      (conn.finish done : BaseConnection σ κ × List (Output κ ο)).1 (conn.finish done).2 := by
  cases done with
  | false => exact .continued
  | true =>
      unfold finish
      rw [if_pos rfl]
      split
      · rename_i queue
        exact .finishedLast queue
      · rename_i next commands queue
        exact .finishedNext queue

theorem resume_performed (family : CommandFamily ω ι σ κ ο) (config : Config)
    (behaviour : ω) (conn : BaseConnection σ κ) :
    Performed family config behaviour conn .resume conn.resume [] := by
  unfold resume
  by_cases paused : conn.paused = true
  · rw [if_pos paused]
    exact .resumeStopped (Or.inl paused)
  · rw [if_neg paused]
    have unpaused : conn.paused = false := Bool.eq_false_iff.mpr paused
    split
    · rename_i queue
      exact .resumeStopped (Or.inr queue)
    · rename_i parked queue
      exact .resumeStart unpaused queue
    · rename_i packet parked queue
      exact .resumePacket unpaused queue

theorem notifyError_performed (family : CommandFamily ω ι σ κ ο) (config : Config)
    (behaviour : ω) (conn : BaseConnection σ κ) (err : JsError) (fatal : Bool) :
    Performed family config behaviour conn (.notifyError err fatal)
      (conn.notifyError family behaviour err fatal).1
      (conn.notifyError family behaviour err fatal).2 := by
  unfold notifyError
  by_cases failed : conn.fatalError.isSome = true
  · rw [if_pos failed]
    exact .notifyIgnored err fatal failed
  · rw [if_neg failed]
    have unfailed : conn.fatalError = none := Option.not_isSome_iff_eq_none.mp failed
    split
    · rename_i active
      refine .notifySilent err fatal unfailed ?_ true
      intro command isActive
      rw [active] at isActive
      contradiction
    · rename_i command active
      · by_cases callback : family.hasCallback command = true
        · rw [if_pos callback]
          exact .notifyCallback err fatal unfailed active callback
        · rw [if_neg callback]
          have silent : ∀ other, conn.command = some other →
              family.hasCallback other = false := by
            intro other isActive
            rw [active] at isActive
            cases isActive
            exact Bool.eq_false_iff.mpr callback
          split
          · exact .notifySilent err fatal unfailed silent false
          · exact .notifySilent err fatal unfailed silent true

theorem drain_performed (family : CommandFamily ω ι σ κ ο) (config : Config)
    (behaviour : ω) (conn : BaseConnection σ κ) (err : JsError) (bubble fatal : Bool) :
    Performed family config behaviour conn (.drain err bubble fatal)
      (conn.drain family config behaviour err bubble fatal).1
      (conn.drain family config behaviour err bubble fatal).2 := by
  unfold drain
  split
  · rename_i command commands queue
    dsimp only
    by_cases callback : family.hasCallback command = true
    · rw [if_pos callback]
      exact .drainCallback err bubble fatal queue callback
    · rw [if_neg callback]
      exact .drainSilent err bubble fatal queue (Bool.eq_false_iff.mpr callback)
  · rename_i queue
    have emits : Closes conn (if bubble = true ∨ config.pool = true then
          conn.emitError config err else (conn, ([] : List (Output κ ο)))).1 ∧
        OnlyErrors (if bubble = true ∨ config.pool = true then
          conn.emitError config err else (conn, ([] : List (Output κ ο)))).2 := by
      split
      · exact closes_emitError config conn err
      · exact ⟨.refl conn, onlyErrors_nil⟩
    dsimp only
    generalize (if bubble = true ∨ config.pool = true then conn.emitError config err else
      (conn, ([] : List (Output κ ο)))) = emitted at emits ⊢
    by_cases crashed : emitted.1.crashed = true
    · rw [if_pos crashed]
      exact .drained err bubble fatal queue emits.1 emits.2 false (by simp)
    · rw [if_neg crashed]
      by_cases errFatal : err.fatal = true
      · rw [if_pos errFatal]
        exact .drained err bubble fatal queue (emits.1.trans (closes_close _)) emits.2 fatal id
      · rw [if_neg errFatal]
        exact .drained err bubble fatal queue emits.1 emits.2 fatal id

/-- Performing a task is one of these ways. -/
theorem performTask_performed (family : CommandFamily ω ι σ κ ο) (config : Config)
    (behaviour : ω) (conn : BaseConnection σ κ) (task : Task κ) :
    Performed family config behaviour conn task
      (conn.performTask family config behaviour task).1
      (conn.performTask family config behaviour task).2 := by
  cases task with
  | handlePacket packet => exact handlePacket_performed family config behaviour conn packet
  | call call => exact call_performed family config behaviour conn call
  | handshakeError err => exact .handshakeError err
  | finish done => exact finish_performed family config behaviour conn done
  | resume => exact resume_performed family config behaviour conn
  | handleFatalError err => exact .handleFatalError err
  | notifyError err fatal => exact notifyError_performed family config behaviour conn err fatal
  | dropCommand => exact .dropCommand
  | drain err bubble fatal => exact drain_performed family config behaviour conn err bubble fatal

/-- The task marks the error it reports as fatal behind itself. -/
def setsFatal : Task κ → Bool
  | .notifyError _ fatal => fatal
  | .drain _ _ fatal => fatal
  | _ => false

section Stepping

variable {family : CommandFamily ω ι σ κ ο} {config : Config} {conn : BaseConnection σ κ}

/-- The next task is performed. -/
theorem step_proceed {behaviour : ω} (running : conn.crashed = false) {task : Task κ}
    {rest : List (Task κ)} (todoEq : conn.todo = task :: rest) :
    step family config conn (.proceed behaviour) =
      performTask family config behaviour { conn with todo := rest } task := by
  unfold step
  dsimp only
  rw [if_neg (ne_true_of_eq_false running)]
  split
  · next nothing =>
      rw [todoEq] at nothing
      contradiction
  · next other todo otherEq =>
      rw [todoEq] at otherEq
      cases otherEq
      rfl

theorem step_input_busy (busy : conn.todo ≠ []) (input : Input ι κ) :
    step family config conn (.input input : Event ω ι κ) = (conn, []) :=
  if_neg fun accepted => busy accepted.2

theorem step_crashed (crashed : conn.crashed = true) (event : Event ω ι κ) :
    step family config conn event = (conn, []) := by
  cases event with
  | input input =>
      apply if_neg
      rintro ⟨running, _⟩
      exact absurd (crashed.symm.trans running) (Bool.noConfusion ·)
  | proceed performed => exact if_pos crashed

theorem step_proceed_idle (idle : conn.todo = []) (performed : ω) :
    step family config conn (.proceed performed : Event ω ι κ) = (conn, []) := by
  unfold step
  dsimp only
  split
  · rfl
  · split
    · rfl
    · next todoEq =>
        rw [idle] at todoEq
        contradiction

end Stepping

end BaseConnection

end Mysql2.Connection

import Mysql2.Commands.Defaults
import Mysql2.Commands.Frame
import Mysql2.Connection.FailsClosed

/-!
# Pausing and resuming

A paused connection parks packets and command starts in one queue, and `resume`
works the queue off.  As long as that loop meets no parked start, nothing is
lost: whenever no handler is running and the connection is not paused, the queue
is empty, every packet has been processed once and in the order of arrival, and
the current command has been started.

A parked start is `undefined`, at which the loop of `resume` stops as if the
queue were empty.  The start is lost, and so is the order of what was parked
behind it.
-/

namespace Mysql2.Connection

open Mysql2.Packets
open Mysql2.Transition

variable {ω ι σ κ ο : Type}

/-- The packets that have arrived, as stable copies. -/
def receivedPackets (outputs : List (Output κ ο)) : List Packet :=
  outputs.filterMap fun
    | .received packet => some packet.clone
    | _ => none

/-- The packets that `handlePacket` has processed, as stable copies. -/
def processedPackets (outputs : List (Output κ ο)) : List Packet :=
  outputs.filterMap fun
    | .processed (some packet) => some packet.clone
    | _ => none

namespace BaseConnection

/-- The parked packets. -/
def parkedPackets (conn : BaseConnection σ κ) : List Packet :=
  conn.pausedPackets.filterMap fun parked => parked.map Packet.clone

/-- The packet that is about to be handled. -/
def packetInHand (conn : BaseConnection σ κ) : List Packet :=
  match conn.todo with
  | .handlePacket (some packet) :: _ => [packet.clone]
  | _ => []

/-- The packets that have arrived and are not processed, in the order in which
they will be. -/
def waitingPackets (conn : BaseConnection σ κ) : List Packet :=
  if conn.paused then
    conn.parkedPackets ++ conn.packetInHand
  else
    conn.packetInHand ++ conn.parkedPackets

/-- A connection with no packet or command start in hand. -/
structure Orderly (conn : BaseConnection σ κ) : Prop where
  noPacket : ∀ packet, Task.handlePacket packet ∉ conn.todo
  resumes : conn.paused = false → conn.pausedPackets ≠ [] → Task.resume ∈ conn.todo

/-- The current command has been started, has been done and is about to be
removed, or its start is parked. -/
def CommandStarted (family : CommandFamily ω ι σ κ ο) (conn : BaseConnection σ κ) : Prop :=
  ∀ command, conn.command = some command →
    family.started command = true ∨ Task.finish true ∈ conn.todo ∨ none ∈ conn.pausedPackets

/-- The tasks on the stack, except for a packet or a command start on top. -/
def below : List (Task κ) → List (Task κ)
  | .handlePacket _ :: todo => todo
  | todo => todo

/-- What holds in every state: the connection is orderly below a packet or
command start in hand, and the current command has been started, unless its
start is in hand. -/
structure Parks (family : CommandFamily ω ι σ κ ο) (conn : BaseConnection σ κ) : Prop where
  orderly : Orderly { conn with todo := below conn.todo }
  started : (∀ todo, conn.todo ≠ .handlePacket none :: todo) → CommandStarted family conn
  unfailed : ∀ todo, conn.todo = .handlePacket none :: todo → conn.fatalError = none

variable {family : CommandFamily ω ι σ κ ο} {config : Config} {behaviour : ω}
  {conn after : BaseConnection σ κ}

theorem CommandStarted.keep (started : CommandStarted family conn)
    (same : after.command = conn.command)
    (parks : none ∈ conn.pausedPackets → none ∈ after.pausedPackets)
    (finishes : Task.finish true ∈ conn.todo → Task.finish true ∈ after.todo) :
    CommandStarted family after := by
  intro command active
  rw [same] at active
  rcases started command active with isStarted | isDone | isParked
  · exact Or.inl isStarted
  · exact Or.inr (Or.inl (finishes isDone))
  · exact Or.inr (Or.inr (parks isParked))

theorem below_of_noPacket {todo : List (Task κ)}
    (noPacket : ∀ packet, Task.handlePacket packet ∉ todo) : below todo = todo := by
  cases todo with
  | nil => rfl
  | cons task todo =>
      cases task with
      | handlePacket packet => exact absurd List.mem_cons_self (noPacket packet)
      | _ => rfl

theorem Orderly.parks (orderly : Orderly conn) (started : CommandStarted family conn) :
    Parks family conn := by
  constructor
  · rw [below_of_noPacket orderly.noPacket]
    exact orderly
  · intro _
    exact started
  · intro todo todoEq
    exact absurd (todoEq ▸ List.mem_cons_self) (orderly.noPacket none)

theorem Orderly.parks_packet (orderly : Orderly conn) (started : CommandStarted family conn)
    (packet : Packet) : Parks family (conn.push [.handlePacket (some packet)]) := by
  constructor
  · exact orderly
  · intro _
    exact started.keep rfl id (List.mem_cons_of_mem _)
  · intro todo todoEq
    cases todoEq

theorem Orderly.parks_start (orderly : Orderly conn) (unfailed : conn.fatalError = none) :
    Parks family (conn.push [.handlePacket none]) := by
  constructor
  · exact orderly
  · intro notStart
    exact absurd rfl (notStart conn.todo)
  · intro _ _
    exact unfailed

/-- Tasks other than packets and command starts go on the stack of an orderly
connection. -/
theorem Orderly.extend (orderly : Orderly conn) (tasks : List (Task κ))
    (todoEq : after.todo = tasks ++ conn.todo)
    (noPacket : ∀ packet, Task.handlePacket packet ∉ tasks)
    (paused : after.paused = conn.paused)
    (pausedPackets : after.pausedPackets = conn.pausedPackets) : Orderly after where
  noPacket := by
    intro packet packetMem
    rw [todoEq] at packetMem
    rcases List.mem_append.mp packetMem with inTasks | inTodo
    · exact noPacket packet inTasks
    · exact orderly.noPacket packet inTodo
  resumes := by
    rw [paused, pausedPackets, todoEq]
    intro unpaused nonempty
    exact List.mem_append_right tasks (orderly.resumes unpaused nonempty)

/-- Only calls go on the stack, and nothing else changes that matters. -/
theorem Orderly.apply (orderly : Orderly conn) (effect : Effect σ κ ο) :
    Orderly (conn.apply effect).1 := by
  refine orderly.extend _ rfl ?_ rfl rfl
  intro packet packetMem
  rcases List.mem_map.mp packetMem with ⟨call, _, callEq⟩
  cases callEq

/-- No task on this list is a packet or a start. -/
def Harmless (tasks : List (Task κ)) : Prop :=
  ∀ task ∈ tasks, ∀ packet, task ≠ .handlePacket packet

theorem Orderly.push (orderly : Orderly conn) {tasks : List (Task κ)} (harmless : Harmless tasks) :
    Orderly (conn.push tasks) :=
  orderly.extend _ rfl (fun packet packetMem => harmless _ packetMem packet rfl) rfl rfl

theorem Orderly.closes (orderly : Orderly conn) (closes : Closes conn after) : Orderly after :=
  orderly.extend [] closes.todo (fun _ => List.not_mem_nil) closes.paused closes.pausedPackets

/-- Taking a task other than the loop of `resume` off the stack. -/
theorem Orderly.pop {task : Task κ} (orderly : Orderly (conn.push [task]))
    (notResume : task ≠ .resume) : Orderly conn where
  noPacket := fun packet packetMem => orderly.noPacket packet (List.mem_cons_of_mem task packetMem)
  resumes := by
    intro unpaused nonempty
    rcases List.mem_cons.mp (orderly.resumes unpaused nonempty) with resumeEq | resumeMem
    · exact absurd resumeEq.symm notResume
    · exact resumeMem

/-- Taking a task off the stack that removes no command. -/
theorem CommandStarted.pop {task : Task κ} (started : CommandStarted family (conn.push [task]))
    (notFinish : task ≠ .finish true) : CommandStarted family conn := by
  refine started.keep rfl id ?_
  intro finishMem
  rcases List.mem_cons.mp finishMem with headEq | laterMem
  · exact absurd headEq.symm notFinish
  · exact laterMem

/-- More tasks on the stack. -/
theorem CommandStarted.push (started : CommandStarted family conn) {tasks : List (Task κ)}
    (command : after.command = conn.command)
    (pausedPackets : after.pausedPackets = conn.pausedPackets)
    (todoEq : after.todo = tasks ++ conn.todo) : CommandStarted family after := by
  apply started.keep command
  · rw [pausedPackets]
    exact id
  · rw [todoEq]
    exact List.mem_append_right tasks

theorem harmless_calls (calls : List (Call κ)) : Harmless (calls.map Task.call) := by
  intro task taskMem
  rcases List.mem_map.mp taskMem with ⟨call, _, rfl⟩
  simp

/-- A start that has run leaves a command that has been started. -/
theorem commandStarted_executed (command : κ) (packet : Option Packet)
    {counted : BaseConnection σ κ} {outcome : Outcome σ κ ο}
    (outcomeEq : family.execute behaviour (counted.view config) counted.store counted.wire command
      packet = outcome) : CommandStarted family (counted.executed outcome) := by
  intro current active
  cases active
  by_cases done : outcome.result = .ok true
  · refine Or.inr (Or.inl ?_)
    rw [executed, done]
    simp [afterExecute]
  · left
    subst outcomeEq
    exact family.started_execute behaviour _ _ _ command packet done

theorem orderly_executed {counted : BaseConnection σ κ} (orderly : Orderly counted)
    (outcome : Outcome σ κ ο) : Orderly (counted.executed outcome) := by
  have harmless : Harmless (outcome.calls.map Task.call ++
      (outcome.handshakeError.toList.map Task.handshakeError ++
        [afterExecute outcome.result])) := by
    intro task taskMem
    rcases List.mem_append.mp taskMem with inCalls | inRest
    · exact harmless_calls outcome.calls task inCalls
    · rcases List.mem_append.mp inRest with inErrors | isLast
      · rcases List.mem_map.mp inErrors with ⟨err, _, rfl⟩
        simp
      · cases List.mem_singleton.mp isLast
        unfold afterExecute
        split <;> simp
  refine (orderly.push harmless).extend [] ?_ (fun _ => List.not_mem_nil) rfl rfl
  simp [executed, push]

/-- A packet or a command start in hand is handled. -/
theorem Parks.handlePacket {packet : Option Packet} {todo : List (Task κ)}
    {outputs : List (Output κ ο)} (parks : Parks family conn)
    (todoEq : conn.todo = .handlePacket packet :: todo)
    (performed : Performed family config behaviour { conn with todo := todo }
      (.handlePacket packet) after outputs) : Parks family after := by
  have orderly : Orderly { conn with todo := todo } := by
    have orderlyBelow := parks.orderly
    rwa [todoEq] at orderlyBelow
  have started : packet ≠ none → CommandStarted family { conn with todo := todo } := by
    intro isPacket command active
    have notStart : ∀ other, conn.todo ≠ .handlePacket none :: other := by
      intro other otherEq
      rw [todoEq] at otherEq
      injection otherEq with headEq
      injection headEq with packetEq
      exact isPacket packetEq
    rcases parks.started notStart command active with isStarted | isDone | isParked
    · exact Or.inl isStarted
    · rw [todoEq] at isDone
      rcases List.mem_cons.mp isDone with headEq | isLater
      · cases headEq
      · exact Or.inr (Or.inl isLater)
    · exact Or.inr (Or.inr isParked)
  cases performed with
  | parked _ paused =>
      apply Orderly.parks
      · refine ⟨orderly.noPacket, ?_⟩
        intro unpaused
        rw [show conn.paused = true from paused] at unpaused
        contradiction
      · cases packet with
        | none =>
            intro command active
            exact Or.inr (Or.inr (List.mem_append_right _ List.mem_cons_self))
        | some packet =>
            exact (started (by simp)).keep rfl (List.mem_append_left _) id
  | unexpected _ unpaused idle closes onlyErrors =>
      apply (orderly.closes closes).parks
      intro command active
      rw [closes.command, show conn.command = none from idle] at active
      contradiction
  | skipped _ unpaused active failed =>
      obtain ⟨wire, countedEq⟩ := receiveSequenceId_eq (ο := ο)
        { conn with todo := todo } packet
      rw [countedEq]
      have isPacket : packet ≠ none := by
        rintro rfl
        have unfailed := parks.unfailed todo todoEq
        rw [show conn.fatalError = none from unfailed] at failed
        contradiction
      apply Orderly.parks
      · exact ⟨orderly.noPacket, orderly.resumes⟩
      · exact (started isPacket).keep rfl id id
  | executed _ unpaused active unfailed countedEq outcomeEq =>
      obtain ⟨wire, sameEq⟩ := receiveSequenceId_eq (ο := ο)
        { conn with todo := todo } packet
      rw [countedEq] at sameEq
      cases sameEq
      apply Orderly.parks
      · apply orderly_executed
        exact ⟨orderly.noPacket, orderly.resumes⟩
      · exact commandStarted_executed _ packet outcomeEq

theorem Orderly.setFatalError (orderly : Orderly conn) (err : JsError) (fatal : Bool) :
    Orderly (conn.setFatalError err fatal) := by
  cases fatal with
  | false => exact orderly
  | true => exact ⟨orderly.noPacket, orderly.resumes⟩

/-- `callOnResult` with further tasks below the calls of the callback. -/
theorem Orderly.callOnResult (orderly : Orderly conn) (family : CommandFamily ω ι σ κ ο)
    (behaviour : ω) {tasks : List (Task κ)} (harmless : Harmless tasks) (command : κ)
    (err : JsError) :
    Orderly ((conn.push tasks).callOnResult family behaviour command err).1 :=
  (orderly.push harmless).apply _

/-- A call is performed. -/
theorem Orderly.parks_call {call : Call κ} {outputs : List (Output κ ο)}
    (orderly : Orderly (conn.push [.call call])) (closed : FailsClosed conn)
    (started : CommandStarted family (conn.push [.call call]))
    (performed : Performed family config behaviour conn (.call call) after outputs) :
    Parks family after := by
  have popped := orderly.pop (by simp)
  have startedBelow := started.pop (by simp)
  cases performed with
  | pause =>
      refine Orderly.parks ?_ (startedBelow.keep rfl id id)
      refine ⟨popped.noPacket, ?_⟩
      intro unpaused
      contradiction
  | resumeCall =>
      refine Orderly.parks ?_ (startedBelow.keep rfl id (List.mem_cons_of_mem _))
      refine ⟨?_, fun _ _ => List.mem_cons_self⟩
      simpa using popped.noPacket
  | close => exact (popped.closes (closes_close _)).parks (startedBelow.keep rfl id id)
  | addClosed command isClosed callback =>
      have called := popped.apply
        (family.onResult behaviour conn.store conn.wire command closedStateError)
      apply Orderly.parks
      · exact ⟨called.noPacket, called.resumes⟩
      · exact startedBelow.push rfl rfl rfl
  | addClosedSilent command isClosed silent onlyErrors => exact popped.parks startedBelow
  | addIdle command unclosed idle =>
      have added : Orderly { conn with command := some command } :=
        ⟨popped.noPacket, popped.resumes⟩
      exact added.parks_start (closed.unfailed_of_open unclosed)
  | addQueued command unclosed busy =>
      exact Orderly.parks ⟨popped.noPacket, popped.resumes⟩ (startedBelow.keep rfl id id)

/-- `handlePacket` goes on behind `execute`. -/
theorem Orderly.parks_finish {done : Bool} {outputs : List (Output κ ο)}
    (orderly : Orderly (conn.push [.finish done])) (closed : FailsClosed conn)
    (started : CommandStarted family (conn.push [.finish done]))
    (performed : Performed family config behaviour conn (.finish done) after outputs) :
    Parks family after := by
  have popped := orderly.pop (by simp)
  cases performed with
  | continued => exact popped.parks (started.pop (by simp))
  | finishedLast last =>
      apply Orderly.parks
      · exact ⟨popped.noPacket, popped.resumes⟩
      · intro command active
        contradiction
  | @finishedNext next commands queue =>
      have begun : Orderly
          { conn with
            command := some next
            commands := commands
            wire := conn.wire.resetSequenceId } :=
        ⟨popped.noPacket, popped.resumes⟩
      exact begun.parks_start (closed.unfailed_of_queue (by rw [queue]; simp))

/-- The loop of `resume` goes on, unless it would find a parked start. -/
theorem Orderly.parks_resume {outputs : List (Output κ ο)}
    (orderly : Orderly (conn.push [.resume]))
    (started : CommandStarted family (conn.push [.resume]))
    (notStart : conn.paused = false → conn.pausedPackets.head? ≠ some none)
    (performed : Performed family config behaviour conn .resume after outputs) :
    Parks family after := by
  have noPacket : ∀ packet, Task.handlePacket packet ∉ conn.todo :=
    fun packet packetMem => orderly.noPacket packet (List.mem_cons_of_mem _ packetMem)
  have startedBelow := started.pop (by simp)
  cases performed with
  | resumeStopped stopped =>
      apply Orderly.parks _ startedBelow
      refine ⟨noPacket, ?_⟩
      intro unpaused nonempty
      rcases stopped with paused | empty
      · rw [paused] at unpaused
        contradiction
      · exact absurd empty nonempty
  | resumeStart unpaused queue =>
      have notHead := notStart unpaused
      rw [queue] at notHead
      contradiction
  | @resumePacket packet parked unpaused queue =>
      have resumed : Orderly (({ conn with pausedPackets := parked } :
          BaseConnection σ κ).push [.resume]) :=
        ⟨orderly.noPacket, fun _ _ => List.mem_cons_self⟩
      refine resumed.parks_packet (started.keep rfl ?_ id) packet
      intro startMem
      rw [show (conn.push [.resume]).pausedPackets = _ from queue] at startMem
      rcases List.mem_cons.mp startMem with headEq | later
      · contradiction
      · exact later

/-- A failure is reported: the queue is worked off. -/
theorem Orderly.parks_failure {task : Task κ} {outputs : List (Output κ ο)}
    (orderly : Orderly (conn.push [task])) (started : CommandStarted family (conn.push [task]))
    (isFailure : ∀ done, task ≠ .finish done) (notCall : ∀ call, task ≠ .call call)
    (notResume : task ≠ .resume) (notPacket : ∀ packet, task ≠ .handlePacket packet)
    (performed : Performed family config behaviour conn task after outputs) :
    Parks family after := by
  have popped := orderly.pop notResume
  have startedBelow := started.pop (isFailure true)
  cases performed with
  | parked => exact absurd rfl (notPacket _)
  | unexpected => exact absurd rfl (notPacket _)
  | skipped => exact absurd rfl (notPacket _)
  | executed => exact absurd rfl (notPacket _)
  | pause => exact absurd rfl (notCall _)
  | resumeCall => exact absurd rfl (notCall _)
  | close => exact absurd rfl (notCall _)
  | addClosed => exact absurd rfl (notCall _)
  | addClosedSilent => exact absurd rfl (notCall _)
  | addIdle => exact absurd rfl (notCall _)
  | addQueued => exact absurd rfl (notCall _)
  | continued => exact absurd rfl (isFailure _)
  | finishedLast => exact absurd rfl (isFailure _)
  | finishedNext => exact absurd rfl (isFailure _)
  | resumeStopped => exact absurd rfl notResume
  | resumeStart => exact absurd rfl notResume
  | resumePacket => exact absurd rfl notResume
  | handshakeError err =>
      exact Orderly.parks (popped.extend [.notifyError err false] rfl (by simp) rfl rfl)
        (startedBelow.push rfl rfl rfl)
  | handleFatalError err =>
      exact Orderly.parks (popped.extend [.notifyError { err with fatal := true } true] rfl
        (by simp) rfl rfl) (startedBelow.push rfl rfl rfl)
  | notifyIgnored err fatal failed =>
      apply (popped.setFatalError err fatal).parks
      cases fatal <;> exact startedBelow
  | notifyCallback err fatal unfailed active callback =>
      refine (popped.callOnResult family behaviour ?_ _ err).parks ?_
      · simp [Harmless]
      · exact startedBelow.push rfl rfl (List.append_assoc _ _ _).symm
  | notifySilent err fatal unfailed silent bubble =>
      exact Orderly.parks (popped.extend [.drain err bubble fatal] rfl (by simp) rfl rfl)
        (startedBelow.push rfl rfl rfl)
  | dropCommand =>
      apply Orderly.parks
      · exact ⟨popped.noPacket, popped.resumes⟩
      · intro command active
        contradiction
  | @drainCallback err bubble fatal command commands queue callback =>
      have shifted : Orderly { conn with commands := commands } :=
        ⟨popped.noPacket, popped.resumes⟩
      refine (shifted.callOnResult family behaviour ?_ command err).parks ?_
      · simp [Harmless]
      · exact startedBelow.push rfl rfl (List.append_assoc _ _ _).symm
  | @drainSilent err bubble fatal command commands queue silent =>
      exact Orderly.parks (popped.extend [.drain err true fatal] rfl (by simp) rfl rfl)
        (startedBelow.push rfl rfl rfl)
  | drained err bubble fatal empty closes onlyErrors marks marksOnly =>
      apply ((popped.closes closes).setFatalError err marks).parks
      cases marks <;>
        exact startedBelow.push closes.command closes.pausedPackets
          (show _ = [] ++ conn.todo from closes.todo)

/-- A task that is neither a packet nor a command start is performed. -/
theorem Parks.perform {task : Task κ} {todo : List (Task κ)} {outputs : List (Output κ ο)}
    (parks : Parks family conn) (closed : FailsClosed conn) (todoEq : conn.todo = task :: todo)
    (notPacket : ∀ packet, task ≠ .handlePacket packet)
    (notStart : task = .resume → conn.paused = false → conn.pausedPackets.head? ≠ some none)
    (performed : Performed family config behaviour { conn with todo := todo } task after outputs) :
    Parks family after := by
  have orderly : Orderly (({ conn with todo := todo } : BaseConnection σ κ).push [task]) := by
    have orderlyBelow := parks.orderly
    rw [todoEq] at orderlyBelow
    cases task with
    | handlePacket packet => exact absurd rfl (notPacket packet)
    | _ => exact orderlyBelow
  have started :
      CommandStarted family (({ conn with todo := todo } : BaseConnection σ κ).push [task]) := by
    refine CommandStarted.keep (parks.started ?_) rfl id (todoEq ▸ id)
    intro other otherEq
    rw [todoEq] at otherEq
    injection otherEq with headEq
    exact notPacket none headEq
  have closedBelow : FailsClosed { conn with todo := todo } := by
    refine ⟨closed.failed, fun other otherMem => closed.failing other ?_⟩
    rw [todoEq]
    exact List.mem_cons_of_mem task otherMem
  cases task with
  | handlePacket packet => exact absurd rfl (notPacket packet)
  | call call => exact orderly.parks_call closedBelow started performed
  | finish done => exact orderly.parks_finish closedBelow started performed
  | resume => exact orderly.parks_resume started (notStart rfl) performed
  | _ => exact orderly.parks_failure started (by simp) (by simp) (by simp) (by simp) performed

/-! ## Accounting for packets -/

/-- Outputs that say nothing about packets. -/
def Unrelated (outputs : List (Output κ ο)) : Prop :=
  receivedPackets outputs = [] ∧ processedPackets outputs = []

theorem unrelated_command (outputs : List ο) :
    Unrelated (outputs.map (Output.command : ο → Output κ ο)) := by
  constructor
  · simp [receivedPackets]
  · simp [processedPackets]

theorem OnlyErrors.unrelated {outputs : List (Output κ ο)} (onlyErrors : OnlyErrors outputs) :
    Unrelated outputs := by
  constructor
  · apply List.filterMap_eq_nil_iff.mpr
    intro output outputMem
    rcases onlyErrors output outputMem with ⟨err, rfl⟩
    rfl
  · apply List.filterMap_eq_nil_iff.mpr
    intro output outputMem
    rcases onlyErrors output outputMem with ⟨err, rfl⟩
    rfl

theorem Unrelated.processed {outputs : List (Output κ ο)} (unrelated : Unrelated outputs)
    (packet : Option Packet) :
    receivedPackets (.processed packet :: outputs) = [] ∧
      processedPackets (.processed packet :: outputs) = (packet.map Packet.clone).toList := by
  rcases unrelated with ⟨received, processed⟩
  constructor
  · simpa [receivedPackets] using received
  · cases packet <;> simpa [processedPackets] using processed

theorem unrelated_append {first second : List (Output κ ο)} (left : Unrelated first)
    (right : Unrelated second) : Unrelated (first ++ second) := by
  rw [Unrelated, receivedPackets, processedPackets, List.filterMap_append,
    List.filterMap_append]
  rw [Unrelated, receivedPackets, processedPackets] at left right
  rw [left.1, left.2, right.1, right.2]
  exact ⟨rfl, rfl⟩

theorem unrelated_warnings (conn : BaseConnection σ κ) (packet : Option Packet) :
    Unrelated (conn.receiveSequenceId packet : BaseConnection σ κ × List (Output κ ο)).2 := by
  cases packet with
  | none => exact ⟨rfl, rfl⟩
  | some packet =>
      rw [receiveSequenceId]
      dsimp only
      split <;> exact ⟨rfl, rfl⟩

theorem unrelated_executed (command : κ) (packet : Option Packet) (outputs : List ο) :
    Unrelated (.executed command packet :: outputs.map (Output.command : ο → Output κ ο)) :=
  unrelated_command outputs

/-- Where the arrived packets are behind a step: processed in it, or still
waiting. -/
structure Accounts (before after : BaseConnection σ κ) (outputs : List (Output κ ο)) : Prop where
  received : receivedPackets outputs = []
  waiting : before.waitingPackets = processedPackets outputs ++ after.waitingPackets

theorem waitingPackets_of_noPacket (noPacket : ∀ packet, Task.handlePacket packet ∉ conn.todo) :
    conn.waitingPackets = conn.parkedPackets := by
  have empty : conn.packetInHand = [] := by
    unfold packetInHand
    split
    · rename_i packet todo todoEq
      exact absurd (todoEq ▸ List.mem_cons_self) (noPacket (some packet))
    · rfl
  rw [waitingPackets, empty]
  simp

theorem noPacket_of_popped {task : Task κ} {todo : List (Task κ)}
    (todoEq : conn.todo = task :: todo) (notPacket : ∀ packet, task ≠ .handlePacket packet)
    (noPacket : ∀ packet, Task.handlePacket packet ∉ todo) (packet : Option Packet) :
    Task.handlePacket packet ∉ conn.todo := by
  rw [todoEq]
  intro packetMem
  rcases List.mem_cons.mp packetMem with headEq | laterMem
  · exact notPacket packet headEq.symm
  · exact noPacket packet laterMem

/-- With nothing in hand behind the step, only parked packets wait. -/
theorem Accounts.of_noPacket {before after : BaseConnection σ κ} {outputs : List (Output κ ο)}
    (noPacket : ∀ packet, Task.handlePacket packet ∉ after.todo)
    (received : receivedPackets outputs = [])
    (waiting : before.waitingPackets = processedPackets outputs ++ after.parkedPackets) :
    Accounts before after outputs := by
  refine ⟨received, ?_⟩
  rw [waiting, waitingPackets_of_noPacket noPacket]

/-- A step that keeps the parked packets and takes no packet in hand. -/
theorem Accounts.of_parked {before after : BaseConnection σ κ} {outputs : List (Output κ ο)}
    (beforeNone : ∀ packet, Task.handlePacket (some packet) ∉ before.todo.head?)
    (afterNone : ∀ packet, Task.handlePacket (some packet) ∉ after.todo.head?)
    (same : after.pausedPackets = before.pausedPackets) (unrelated : Unrelated outputs) :
    Accounts before after outputs := by
  have noneInHand : ∀ conn : BaseConnection σ κ,
      (∀ packet, Task.handlePacket (some packet) ∉ conn.todo.head?) → conn.packetInHand = [] := by
    intro conn headNone
    unfold packetInHand
    split
    · rename_i packet todo todoEq
      rw [todoEq] at headNone
      exact absurd rfl (headNone packet)
    · rfl
  refine ⟨unrelated.1, ?_⟩
  rw [unrelated.2, waitingPackets, waitingPackets, noneInHand before beforeNone,
    noneInHand after afterNone, parkedPackets, parkedPackets, same]
  simp

theorem waitingPackets_of_unpaused {packet : Option Packet} {todo : List (Task κ)}
    (todoEq : conn.todo = .handlePacket packet :: todo) (unpaused : conn.paused = false) :
    conn.waitingPackets = (packet.map Packet.clone).toList ++ conn.parkedPackets := by
  rw [waitingPackets, unpaused, packetInHand, todoEq]
  cases packet <;> rfl

/-- Behind a processed packet only parked ones wait. -/
theorem Accounts.of_processed {packet : Option Packet} {todo : List (Task κ)}
    {outputs : List (Output κ ο)} (todoEq : conn.todo = .handlePacket packet :: todo)
    (unpaused : conn.paused = false) (same : after.pausedPackets = conn.pausedPackets)
    (noPacket : ∀ packet, Task.handlePacket packet ∉ after.todo) (unrelated : Unrelated outputs) :
    Accounts conn after (.processed packet :: outputs) := by
  rcases unrelated.processed packet with ⟨received, processed⟩
  refine ⟨received, ?_⟩
  rw [processed, waitingPackets_of_unpaused todoEq unpaused, waitingPackets_of_noPacket noPacket,
    parkedPackets, parkedPackets, same]

theorem Parks.accounts_handlePacket {packet : Option Packet} {todo : List (Task κ)}
    {outputs : List (Output κ ο)} (parks : Parks family conn)
    (todoEq : conn.todo = .handlePacket packet :: todo)
    (performed : Performed family config behaviour { conn with todo := todo }
      (.handlePacket packet) after outputs) : Accounts conn after outputs := by
  have orderly : Orderly { conn with todo := todo } := by
    have orderlyBelow := parks.orderly
    rwa [todoEq] at orderlyBelow
  cases performed with
  | parked _ paused =>
      refine Accounts.of_noPacket ?_ rfl ?_
      · exact orderly.noPacket
      · rw [waitingPackets, show conn.paused = true from paused, packetInHand, todoEq]
        cases packet <;> simp [parkedPackets, processedPackets]
  | unexpected _ unpaused idle closes onlyErrors =>
      refine .of_processed todoEq unpaused closes.pausedPackets ?_ onlyErrors.unrelated
      rw [closes.todo]
      exact orderly.noPacket
  | skipped _ unpaused active failed =>
      obtain ⟨wire, countedEq⟩ := receiveSequenceId_eq (ο := ο)
        { conn with todo := todo } packet
      rw [countedEq]
      exact .of_processed todoEq unpaused rfl orderly.noPacket (unrelated_warnings _ _)
  | executed _ unpaused active unfailed countedEq outcomeEq =>
      rename_i command counted warnings outcome
      obtain ⟨wire, sameEq⟩ := receiveSequenceId_eq (ο := ο)
        { conn with todo := todo } packet
      have warned := unrelated_warnings (ο := ο) { conn with todo := todo } packet
      rw [countedEq] at sameEq warned
      cases sameEq
      have countedOrderly : Orderly
          { conn with
            todo := todo
            wire := wire } :=
        ⟨orderly.noPacket, orderly.resumes⟩
      exact .of_processed todoEq unpaused rfl (orderly_executed countedOrderly outcome).noPacket
        (unrelated_append warned (unrelated_executed command packet outcome.outputs))

theorem Parks.accounts_perform {task : Task κ} {todo : List (Task κ)}
    {outputs : List (Output κ ο)} (parks : Parks family conn) (todoEq : conn.todo = task :: todo)
    (notPacket : ∀ packet, task ≠ .handlePacket packet)
    (performed : Performed family config behaviour { conn with todo := todo } task after outputs) :
    Accounts conn after outputs := by
  have noPacket : ∀ packet, Task.handlePacket packet ∉ todo := by
    have orderlyBelow := parks.orderly.noPacket
    intro packet packetMem
    apply orderlyBelow packet
    rw [todoEq]
    cases task with
    | handlePacket packet => exact absurd rfl (notPacket packet)
    | _ => exact List.mem_cons_of_mem _ packetMem
  have headNone : ∀ packet, Task.handlePacket (some packet) ∉ conn.todo.head? := by
    intro packet packetHead
    rw [todoEq] at packetHead
    exact notPacket (some packet) (Option.some.inj packetHead)
  -- the tasks in front of the rest of the stack
  have extended : ∀ (pushed : List (Task κ)), after.todo = pushed ++ todo →
      (∀ packet, Task.handlePacket (some packet) ∉ pushed) →
      ∀ packet, Task.handlePacket (some packet) ∉ after.todo.head? := by
    intro pushed afterEq pushedNone packet packetHead
    have packetMem := List.mem_of_mem_head? packetHead
    rw [afterEq] at packetMem
    rcases List.mem_append.mp packetMem with inPushed | inTodo
    · exact pushedNone packet inPushed
    · exact noPacket (some packet) inTodo
  have callsNone : ∀ (calls : List (Call κ)) packet,
      Task.handlePacket (some packet) ∉ calls.map Task.call := by
    simp
  cases performed with
  | parked => exact absurd rfl (notPacket _)
  | unexpected => exact absurd rfl (notPacket _)
  | skipped => exact absurd rfl (notPacket _)
  | executed => exact absurd rfl (notPacket _)
  | pause =>
      refine Accounts.of_noPacket noPacket rfl ?_
      rw [waitingPackets_of_noPacket (noPacket_of_popped todoEq notPacket noPacket)]
      rfl
  | resumeCall =>
      refine Accounts.of_noPacket ?_ rfl ?_
      · simpa using noPacket
      · rw [waitingPackets_of_noPacket (noPacket_of_popped todoEq notPacket noPacket)]
        rfl
  | close => exact .of_parked headNone (extended [] rfl (by simp)) rfl ⟨rfl, rfl⟩
  | addClosed command closed callback =>
      exact .of_parked headNone (extended _ rfl (callsNone _)) rfl (unrelated_command _)
  | addClosedSilent command closed silent onlyErrors =>
      exact .of_parked headNone (extended [] rfl (by simp)) rfl onlyErrors.unrelated
  | addIdle command unclosed idle =>
      exact .of_parked headNone (extended [.handlePacket none] rfl (by simp)) rfl ⟨rfl, rfl⟩
  | addQueued command unclosed busy =>
      exact .of_parked headNone (extended [] rfl (by simp)) rfl ⟨rfl, rfl⟩
  | handshakeError err =>
      exact .of_parked headNone (extended [_] rfl (by simp)) rfl ⟨rfl, rfl⟩
  | continued => exact .of_parked headNone (extended [] rfl (by simp)) rfl ⟨rfl, rfl⟩
  | finishedLast last =>
      exact .of_parked headNone (extended [] rfl (by simp)) rfl ⟨rfl, rfl⟩
  | finishedNext queue =>
      exact .of_parked headNone (extended [.handlePacket none] rfl (by simp)) rfl ⟨rfl, rfl⟩
  | resumeStopped stopped =>
      exact .of_parked headNone (extended [] rfl (by simp)) rfl ⟨rfl, rfl⟩
  | resumeStart unpaused queue =>
      refine Accounts.of_noPacket noPacket rfl ?_
      rw [waitingPackets_of_noPacket (noPacket_of_popped todoEq notPacket noPacket), parkedPackets,
        show conn.pausedPackets = _ from queue]
      rfl
  | resumePacket unpaused queue =>
      rename_i packet parked
      refine ⟨rfl, .trans ?_ (waitingPackets_of_unpaused rfl ?_).symm⟩
      rotate_left
      · exact unpaused
      rw [waitingPackets_of_noPacket (noPacket_of_popped todoEq notPacket noPacket), parkedPackets,
        show conn.pausedPackets = _ from queue]
      rfl
  | handleFatalError err =>
      exact .of_parked headNone (extended [_] rfl (by simp)) rfl ⟨rfl, rfl⟩
  | notifyIgnored err fatal failed =>
      cases fatal
      · exact .of_parked headNone (extended [] rfl (by simp)) rfl ⟨rfl, rfl⟩
      · exact .of_parked headNone (extended [] rfl (by simp)) rfl ⟨rfl, rfl⟩
  | notifyCallback err fatal unfailed active callback =>
      rename_i command
      let calls := (family.onResult behaviour conn.store conn.wire command err).calls
      refine .of_parked headNone
        (extended (calls.map .call ++ [.dropCommand, .drain err false fatal]) ?_ ?_) rfl
        (unrelated_command _)
      · exact (List.append_assoc _ _ _).symm
      · simp
  | notifySilent err fatal unfailed silent bubble =>
      exact .of_parked headNone (extended [_] rfl (by simp)) rfl ⟨rfl, rfl⟩
  | dropCommand => exact .of_parked headNone (extended [] rfl (by simp)) rfl ⟨rfl, rfl⟩
  | drainCallback err bubble fatal queue callback =>
      rename_i command commands
      let calls := (family.onResult behaviour conn.store conn.wire command err).calls
      refine .of_parked headNone
        (extended (calls.map .call ++ [.drain err bubble fatal]) ?_ ?_) rfl
        (unrelated_command _)
      · exact (List.append_assoc _ _ _).symm
      · simp
  | drainSilent err bubble fatal queue silent =>
      exact .of_parked headNone (extended [_] rfl (by simp)) rfl ⟨rfl, rfl⟩
  | drained err bubble fatal empty closes onlyErrors marks marksOnly =>
      cases marks
      · exact .of_parked headNone (extended [] closes.todo (by simp)) closes.pausedPackets
          onlyErrors.unrelated
      · exact .of_parked headNone (extended [] closes.todo (by simp)) closes.pausedPackets
          onlyErrors.unrelated

/-! ## Runs -/

/-- The invariant of a run: what has arrived has been processed in order, or is
waiting in order. -/
structure Delivers (family : CommandFamily ω ι σ κ ο) (outputs : List (Output κ ο))
    (conn : BaseConnection σ κ) : Prop where
  parks : Parks family conn
  accounted : receivedPackets outputs = processedPackets outputs ++ conn.waitingPackets

theorem Delivers.extend {outputs more : List (Output κ ο)} (delivers : Delivers family outputs conn)
    (parks : Parks family after) (accounts : Accounts conn after more) :
    Delivers family (outputs ++ more) after := by
  refine ⟨parks, ?_⟩
  have received : receivedPackets (outputs ++ more) = receivedPackets outputs := by
    rw [receivedPackets, List.filterMap_append]
    exact .trans (congrArg _ accounts.received) (List.append_nil _)
  calc receivedPackets (outputs ++ more)
      = processedPackets outputs ++ conn.waitingPackets := received.trans delivers.accounted
    _ = processedPackets outputs ++ (processedPackets more ++ after.waitingPackets) := by
        rw [accounts.waiting]
    _ = processedPackets (outputs ++ more) ++ after.waitingPackets := by
        rw [processedPackets, processedPackets, processedPackets, List.filterMap_append,
          List.append_assoc]

/-- The next task is performed. -/
theorem Delivers.proceed {outputs : List (Output κ ο)} {task : Task κ} {todo : List (Task κ)}
    (delivers : Delivers family outputs conn) (closed : FailsClosed conn)
    (todoEq : conn.todo = task :: todo)
    (notStart : task = .resume → conn.paused = false → conn.pausedPackets.head? ≠ some none) :
    Delivers family
      (outputs ++ ({ conn with todo := todo }.performTask family config behaviour task).2)
      ({ conn with todo := todo }.performTask family config behaviour task).1 := by
  have performed := performTask_performed family config behaviour { conn with todo := todo } task
  by_cases isPacket : ∃ packet, task = .handlePacket packet
  · rcases isPacket with ⟨packet, rfl⟩
    exact delivers.extend (delivers.parks.handlePacket todoEq performed)
      (delivers.parks.accounts_handlePacket todoEq performed)
  · have notPacket : ∀ packet, task ≠ .handlePacket packet :=
      fun packet taskEq => isPacket ⟨packet, taskEq⟩
    exact delivers.extend (delivers.parks.perform closed todoEq notPacket notStart performed)
      (delivers.parks.accounts_perform todoEq notPacket performed)

/-- Between inputs the whole stack is empty. -/
theorem Parks.orderly_of_idle (parks : Parks family conn) (idle : conn.todo = []) :
    Orderly conn := by
  have orderly := parks.orderly
  rw [show below conn.todo = conn.todo by rw [idle]; rfl] at orderly
  exact orderly

theorem Parks.started_of_idle (parks : Parks family conn) (idle : conn.todo = []) :
    CommandStarted family conn := by
  apply parks.started
  intro todo todoEq
  rw [idle] at todoEq
  contradiction

theorem Orderly.pausedPackets_eq_nil (orderly : Orderly conn) (idle : conn.todo = [])
    (unpaused : conn.paused = false) : conn.pausedPackets = [] := by
  by_contra nonempty
  have resumes := orderly.resumes unpaused nonempty
  rw [idle] at resumes
  contradiction

/-- An input other than a packet puts harmless tasks on the empty stack. -/
theorem Delivers.input {outputs more : List (Output κ ο)} (delivers : Delivers family outputs conn)
    (idle : conn.todo = []) (harmless : Harmless after.todo) (unrelated : Unrelated more)
    (command : after.command = conn.command)
    (pausedPackets : after.pausedPackets = conn.pausedPackets)
    (paused : after.paused = conn.paused ∨ Task.resume ∈ after.todo) :
    Delivers family (outputs ++ more) after := by
  have orderly := delivers.parks.orderly_of_idle idle
  have noPacket : ∀ packet, Task.handlePacket packet ∉ after.todo :=
    fun packet packetMem => harmless _ packetMem packet rfl
  apply delivers.extend
  · apply Orderly.parks
    · refine ⟨noPacket, ?_⟩
      intro unpaused nonempty
      rcases paused with same | resumes
      · rw [same] at unpaused
        rw [pausedPackets, orderly.pausedPackets_eq_nil idle unpaused] at nonempty
        contradiction
      · exact resumes
    · apply (delivers.parks.started_of_idle idle).keep command
      · rw [pausedPackets]
        exact id
      · rw [idle]
        simp
  · refine Accounts.of_noPacket noPacket unrelated.1 ?_
    rw [unrelated.2, waitingPackets_of_noPacket orderly.noPacket, parkedPackets, parkedPackets,
      pausedPackets]
    rfl

/-- Only tasks that are pushed lie on an empty stack. -/
theorem harmless_push (idle : conn.todo = []) {tasks : List (Task κ)} (harmless : Harmless tasks) :
    Harmless (conn.push tasks).todo := by
  rw [push_todo, idle, List.append_nil]
  exact harmless

theorem Delivers.packet {outputs : List (Output κ ο)} (delivers : Delivers family outputs conn)
    (idle : conn.todo = []) (packet : Packet) :
    Delivers family (outputs ++ [.received packet]) (conn.push [.handlePacket (some packet)]) := by
  have orderly := delivers.parks.orderly_of_idle idle
  constructor
  · exact orderly.parks_packet (delivers.parks.started_of_idle idle) packet
  · have waited := delivers.accounted
    rw [waitingPackets_of_noPacket orderly.noPacket] at waited
    have inHand : (conn.push [.handlePacket (some packet)]).waitingPackets =
        conn.parkedPackets ++ [packet.clone] := by
      rw [waitingPackets]
      split
      · rfl
      · rename_i unpaused
        have empty := orderly.pausedPackets_eq_nil idle (Bool.eq_false_iff.mpr unpaused)
        have noneParked : conn.parkedPackets = [] := by
          rw [parkedPackets, empty]
          rfl
        rw [noneParked, show parkedPackets (conn.push _) = conn.parkedPackets from rfl, noneParked]
        rfl
    rw [inHand, ← List.append_assoc, receivedPackets, List.filterMap_append,
      processedPackets, List.filterMap_append]
    rw [receivedPackets, processedPackets] at waited
    rw [waited]
    simp

theorem Delivers.interrupt {outputs : List (Output κ ο)} (delivers : Delivers family outputs conn)
    (idle : conn.todo = []) (function : ι) :
    Delivers family (outputs ++ (conn.runInterrupt family config function).2)
      (conn.runInterrupt family config function).1 := by
  let effect := family.interrupt function conn.store conn.wire
  have harmless := harmless_push idle (harmless_calls effect.calls)
  unfold runInterrupt
  dsimp only
  split
  · have emitted := closes_emitError (ο := ο) config
      (conn.apply (ο := ο) { effect with wire := conn.wire }).1 (.new "Can't write in closed state")
    refine delivers.input idle ?_ (unrelated_append (unrelated_command _) emitted.2.unrelated)
      emitted.1.command emitted.1.pausedPackets (Or.inl emitted.1.paused)
    rw [emitted.1.todo]
    exact harmless
  · exact delivers.input idle harmless (unrelated_command _) rfl rfl (Or.inl rfl)

/-- An input that leaves a connection as it was, or puts one harmless task on its
stack. -/
theorem Delivers.push {outputs : List (Output κ ο)} (delivers : Delivers family outputs conn)
    (idle : conn.todo = []) {tasks : List (Task κ)} (harmless : Harmless tasks) :
    Delivers family (outputs ++ []) (conn.push tasks) :=
  delivers.input idle (harmless_push idle harmless) ⟨rfl, rfl⟩ rfl rfl (Or.inl rfl)

/-- An input is accepted. -/
theorem Delivers.accept {outputs : List (Output κ ο)} (delivers : Delivers family outputs conn)
    (idle : conn.todo = []) (input : Input ι κ) :
    Delivers family (outputs ++ (conn.accept family config input).2)
      (conn.accept family config input).1 := by
  cases input with
  | packet packet => exact delivers.packet idle packet
  | call call => exact delivers.push idle (harmless_calls [call])
  | resume =>
      have harmless : Harmless [(Task.resume : Task κ)] := by simp [Harmless]
      refine delivers.input idle ?_ ⟨rfl, rfl⟩ rfl rfl (Or.inr List.mem_cons_self)
      exact harmless_push idle harmless
  | interrupt function => exact delivers.interrupt idle function
  | networkError err =>
      rw [BaseConnection.accept, handleNetworkError]
      have harmless : Harmless [(Task.handleFatalError err : Task κ)] := by
        simp [Harmless]
      split
      · rwa [List.append_nil]
      · exact delivers.push idle harmless
  | streamClose =>
      rw [BaseConnection.accept, streamClose]
      split
      · rwa [List.append_nil]
      · have harmless : ∀ err, Harmless [(Task.notifyError err false : Task κ)] := by
          simp [Harmless]
        exact delivers.input idle (harmless_push idle (harmless _)) ⟨rfl, rfl⟩ rfl rfl
          (Or.inl rfl)

/-- The next task is an iteration of the loop of `resume`. -/
def resumesNext (conn : BaseConnection σ κ) : Bool :=
  match conn.todo with
  | .resume :: _ => true
  | _ => false

/-- The step is not an iteration of the loop of `resume` that meets a parked
command start. -/
def MeetsNoStart (conn : BaseConnection σ κ) : Event ω ι κ → Prop
  | .input _ => True
  | .proceed _ =>
      conn.resumesNext = true → conn.paused = false → conn.pausedPackets.head? ≠ some none

instance (conn : BaseConnection σ κ) : ∀ event : Event ω ι κ, Decidable (MeetsNoStart conn event)
  | .input _ => isTrue trivial
  | .proceed _ =>
      inferInstanceAs (Decidable
        (conn.resumesNext = true → conn.paused = false → conn.pausedPackets.head? ≠ some none))

/-- A step that does not lose a start keeps the packets in order. -/
theorem Delivers.step {outputs : List (Output κ ο)} (delivers : Delivers family outputs conn)
    (closed : FailsClosed conn) (event : Event ω ι κ) (meetsNoStart : MeetsNoStart conn event) :
    Delivers family (outputs ++ (step family config conn event).2)
      (step family config conn event).1 := by
  cases event with
  | input input =>
      rw [BaseConnection.step]
      split
      · rename_i accepted
        exact delivers.accept accepted.2 input
      · rwa [List.append_nil]
  | proceed behaviour =>
      rw [BaseConnection.step]
      split
      · rwa [List.append_nil]
      · split
        · rwa [List.append_nil]
        · rename_i task todo todoEq
          apply delivers.proceed closed todoEq
          rintro rfl
          apply meetsNoStart
          rw [resumesNext, todoEq]

theorem delivers_new (family : CommandFamily ω ι σ κ ο) (store : σ) :
    Delivers family ([] : List (Output κ ο)) (new store) := by
  constructor
  · apply Orderly.parks
    · exact ⟨by simp [new], by simp [new]⟩
    · intro command active
      contradiction
  · rfl

/-- Nothing that has arrived is left behind while no handler is running. -/
structure AllHandled (family : CommandFamily ω ι σ κ ο) (outputs : List (Output κ ο))
    (conn : BaseConnection σ κ) : Prop where
  noneParked : conn.pausedPackets = []
  processed : processedPackets outputs = receivedPackets outputs
  started : ∀ command, conn.command = some command → family.started command = true

theorem Delivers.allHandled {outputs : List (Output κ ο)} (delivers : Delivers family outputs conn)
    (idle : conn.todo = []) (unpaused : conn.paused = false) :
    AllHandled family outputs conn := by
  have orderly := delivers.parks.orderly_of_idle idle
  have noneParked := orderly.pausedPackets_eq_nil idle unpaused
  refine ⟨noneParked, ?_, ?_⟩
  · rw [delivers.accounted, waitingPackets_of_noPacket orderly.noPacket, parkedPackets, noneParked]
    simp
  · intro command active
    rcases delivers.parks.started_of_idle idle command active with started | finishes | parked
    · exact started
    · rw [idle] at finishes
      contradiction
    · rw [noneParked] at parked
      contradiction

/-- In a run whose `resume` loops meet no parked start, nothing is left behind
whenever no handler is running and the connection is not paused. -/
theorem run_allHandled (family : CommandFamily ω ι σ κ ο) (config : Config) (store : σ)
    (events : List (Event ω ι κ))
    (meetsNoStart : Meets (step family config) MeetsNoStart (new store) events)
    (idle : (run (step family config) (new store) events).1.todo = [])
    (unpaused : (run (step family config) (new store) events).1.paused = false) :
    AllHandled family (run (step family config) (new store) events).2
      (run (step family config) (new store) events).1 := by
  have delivers := meetsNoStart.invariant
    (fun outputs conn => Delivers family outputs conn ∧ FailsClosed conn)
    (fun _ _ event holds condition => ⟨holds.1.step holds.2 event condition, holds.2.step event⟩)
    ⟨delivers_new family store, .new store⟩
  rw [List.nil_append] at delivers
  exact delivers.1.allHandled idle unpaused

end BaseConnection

/-! ## A lost start -/

section Lost

open Mysql2.Commands
open BaseConnection

/-- A command whose handlers wait for more. -/
def waiting : Command JsValue Unit :=
  .other ⟨1, true, false, none⟩ false

/-- A packet arrives while the connection is paused. -/
def parkedPacketRun : List DriverEvent :=
  [.input (.call (.addCommand waiting)), .proceed quiet, .proceed quiet, .proceed quiet,
    .input (.call .pause), .proceed quiet,
    .input (.packet (.new 0 [1, 0, 0, 0, 0] 0 5)), .proceed quiet,
    .input .resume, .proceed quiet, .proceed quiet, .proceed quiet, .proceed quiet]

theorem run_allHandled_parkedPacket :
    AllHandled (Command.family (defaultConfig false))
      (run (step (Command.family (defaultConfig false)) listening)
        (new (.empty [])) parkedPacketRun).2
      (run (step (Command.family (defaultConfig false)) listening)
        (new (.empty [])) parkedPacketRun).1 := by
  exact run_allHandled _ _ _ _ (by decide) rfl rfl

/-- A command is added while the connection is paused, which is then resumed. -/
def parkedStartRun : List DriverEvent :=
  [.input (.call .pause), .proceed quiet,
    .input (.call (.addCommand waiting)), .proceed quiet, .proceed quiet,
    .input .resume, .proceed quiet]

/-- The command has not been started, although no handler is running and the
connection is not paused. -/
theorem parkedStart_not_allHandled :
    (run (step (Command.family (defaultConfig false)) listening)
        (new (.empty [])) parkedStartRun).1.todo = [] ∧
      (run (step (Command.family (defaultConfig false)) listening)
        (new (.empty [])) parkedStartRun).1.paused = false ∧
      ¬ AllHandled (Command.family (defaultConfig false))
        (run (step (Command.family (defaultConfig false)) listening)
          (new (.empty [])) parkedStartRun).2
        (run (step (Command.family (defaultConfig false)) listening)
          (new (.empty [])) parkedStartRun).1 := by
  refine ⟨rfl, rfl, ?_⟩
  intro allHandled
  have started := allHandled.started waiting rfl
  contradiction

end Lost

end Mysql2.Connection

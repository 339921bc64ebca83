import Mysql2.Connection.Compression
import Mysql2.Parser.Refinement

/-!
# What the inner parser is fed

A received frame takes one of four routes: fed raw, inflated in line, or one of
the two through the queue.  The tasks that have not ended are fed in the order
in which the packets of the outer parser arrived, so the data fed so far and the
decoded tasks that are pending always make up the decoded packets.

The packets are the frames, with one exception.  The outer parser knows frames
of maximal size as beginnings of continued packets, and the frames of the
compressed protocol do not continue each other.  It joins such a frame with the
next one behind a header of zeros, which marks the joined body as raw.
-/

namespace Mysql2.Compression

open Mysql2.Packets
open Mysql2.Parser
open Mysql2.Stream
open Mysql2.Transition

/-! ## Observations -/

/-- The data fed to the inner parser. -/
def executed (outputs : List Output) : List Bytes :=
  outputs.filterMap fun
    | .execute data => some data
    | _ => none

/-- The calls of `zlib.inflate`, with their limits. -/
def inflations (outputs : List Output) : List (Bytes × Nat) :=
  outputs.filterMap fun
    | .inflate body maxOutputLength => some (body, maxOutputLength)
    | _ => none

/-- The chunks that arrive. -/
def received (events : List Event) : List Bytes :=
  events.filterMap fun
    | .data chunk => some chunk
    | _ => none

@[simp]
theorem executed_append (outputs more : List Output) :
    executed (outputs ++ more) = executed outputs ++ executed more :=
  List.filterMap_append

@[simp]
theorem inflations_append (outputs more : List Output) :
    inflations (outputs ++ more) = inflations outputs ++ inflations more :=
  List.filterMap_append

@[simp]
theorem received_append (events more : List Event) :
    received (events ++ more) = received events ++ received more :=
  List.filterMap_append

namespace Inflation

/-- The data a task ends with. -/
def data (zlib : Zlib) (task : Inflation) : Bytes :=
  if task.deflatedLength = 0 then task.body
  else
    match zlib.inflate task.body task.deflatedLength with
    | .ok data => data
    | .error _ => []

/-- The call of `zlib.inflate` for a task. -/
def call (task : Inflation) : Option (Bytes × Nat) :=
  if task.deflatedLength = 0 then none else some (task.body, task.deflatedLength)

/-- A task that does not fail. -/
def Inflates (zlib : Zlib) (task : Inflation) : Prop :=
  task.deflatedLength ≠ 0 → zlib.inflate task.body task.deflatedLength = .ok (task.data zlib)

/-- The task for the bytes that a packet presents for reading. -/
def ofUnread (numPackets : Nat) (unread : Bytes) : Inflation :=
  { deflatedLength := frameLength unread
    body := unread.drop 3
    numPackets := numPackets }

theorem data_raw {task : Inflation} (raw : task.deflatedLength = 0) (zlib : Zlib) :
    task.data zlib = task.body :=
  if_pos raw

theorem call_raw {task : Inflation} (raw : task.deflatedLength = 0) : task.call = none :=
  if_pos raw

theorem call_deflated {task : Inflation} (deflated : task.deflatedLength ≠ 0) :
    task.call = some (task.body, task.deflatedLength) :=
  if_neg deflated

end Inflation

/-- The task for a packet. -/
def taskOf (packet : Packet) : Inflation :=
  .ofUnread packet.numPackets packet.unread

/-- The reads of `handleCompressedPacket` see the unread bytes of the packet. -/
theorem readCompressed_run {packet : Packet} (readable : 3 ≤ packet.unread.length) :
    ∃ after, CompressedConnection.readCompressed.run packet =
      .ok (((taskOf packet).deflatedLength, (taskOf packet).body), after) := by
  have inBuffer : packet.offset + 3 ≤ packet.buffer.length := by
    simp only [Packet.unread, slice, List.length_take, List.length_drop] at readable
    omega
  have inWindow : packet.offset + 3 ≤ packet.endOffset := by
    simp only [Packet.unread, slice, List.length_take, List.length_drop] at readable
    omega
  have byteEq : ∀ index < 3, byteAt packet.unread index =
      byteAt packet.buffer (packet.offset + index) := by
    intro index inside
    rw [Packet.unread, slice, ← byteAt_drop, byteAt, byteAt, List.getD_eq_getElem?_getD,
      List.getD_eq_getElem?_getD, List.getElem?_take_of_lt (by omega)]
  have lengthEq : (taskOf packet).deflatedLength =
      byteAt packet.buffer packet.offset + 256 * byteAt packet.buffer (packet.offset + 1) +
        65536 * byteAt packet.buffer (packet.offset + 2) := by
    rw [taskOf, Inflation.ofUnread, frameLength, byteEq 0 (by decide), byteEq 1 (by decide),
      byteEq 2 (by decide), Nat.add_zero]
  have bodyEq : (taskOf packet).body = slice packet.buffer (packet.offset + 3)
      (packet.offset + 3 + (packet.endOffset - (packet.offset + 3))) := by
    rw [taskOf, Inflation.ofUnread, Packet.unread, slice, slice, List.drop_take, List.drop_drop,
      Nat.add_sub_cancel_left, Nat.sub_sub]
  have highEq : (packet.buffer[packet.offset + 2]?.map UInt8.toNat).getD 0 <<< 16 =
      65536 * byteAt packet.buffer (packet.offset + 2) := by
    rw [List.getElem?_eq_getElem (by omega), Nat.shiftLeft_eq, byteAt,
      List.getD_eq_getElem?_getD, List.getElem?_eq_getElem (by omega)]
    exact Nat.mul_comm _ _
  refine ⟨{ packet with
    offset := packet.offset + 3 + (packet.endOffset - (packet.offset + 3)) }, ?_⟩
  rw [lengthEq, bodyEq, ← highEq]
  simp [CompressedConnection.readCompressed, Packet.readInt24, Packet.readInt16, Packet.readInt8,
    Packet.readBuffer,
    Packet.skip, Packet.readUInt16LE, Packet.peekByte,
    show packet.offset + 2 ≤ packet.buffer.length by omega, Except.bind, bind, pure, Except.pure,
    StateT.bind, StateT.run, get, getThe, MonadStateOf.get, StateT.get, modify,
    modifyGet, MonadStateOf.modifyGet, StateT.modifyGet, liftM, monadLift, MonadLift.monadLift,
    StateT.lift]
  rfl

theorem handleCompressedPacket_eq (zlib : Zlib) (connection : CompressedConnection)
    {packet : Packet} (readable : 3 ≤ packet.unread.length) :
    connection.handleCompressedPacket zlib packet =
      connection.handleBody zlib (taskOf packet) := by
  obtain ⟨after, readEq⟩ := readCompressed_run readable
  rw [CompressedConnection.handleCompressedPacket, readEq]
  rfl

/-! ## Progress of the inflate queue -/

/-- A queue of tasks that do not fail, in which only deflated bodies go to the
thread pool. -/
structure Working (zlib : Zlib) (tasks : SerialQueue Inflation) : Prop where
  serial : tasks.Serial
  inflate : ∀ task ∈ tasks.pending, task.Inflates zlib
  deflated : ∀ task ∈ tasks.started, task.deflatedLength ≠ 0

/-- From one queue to another, while tasks were accepted: the data fed and the
calls of `zlib.inflate` are those of the tasks that ended or were started. -/
structure Progress (zlib : Zlib) (before after : SerialQueue Inflation)
    (accepted : List Inflation) (outputs : List Output) : Prop where
  working : Working zlib after
  fed : before.pending.map (Inflation.data zlib) ++ accepted.map (Inflation.data zlib) =
    executed outputs ++ after.pending.map (Inflation.data zlib)
  called : before.queue.filterMap Inflation.call ++ accepted.filterMap Inflation.call =
    inflations outputs ++ after.queue.filterMap Inflation.call

theorem working_idle (zlib : Zlib) : Working zlib .idle where
  serial := SerialQueue.serial_idle
  inflate := List.forall_mem_nil _
  deflated := List.forall_mem_nil _

namespace Progress

variable {zlib : Zlib} {before after : SerialQueue Inflation}

theorem refl (working : Working zlib before) : Progress zlib before before [] [] where
  working := working
  fed := by simp [executed]
  called := by simp [inflations]

theorem trans {last : SerialQueue Inflation} {accepted more : List Inflation}
    {outputs later : List Output} (first : Progress zlib before after accepted outputs)
    (second : Progress zlib after last more later) :
    Progress zlib before last (accepted ++ more) (outputs ++ later) where
  working := second.working
  fed := by
    rw [List.map_append, ← List.append_assoc, first.fed, List.append_assoc, second.fed,
      executed_append, List.append_assoc]
  called := by
    rw [List.filterMap_append, ← List.append_assoc, first.called, List.append_assoc,
      second.called, inflations_append, List.append_assoc]

/-- A task is pushed. -/
theorem push (working : Working zlib before) {task : Inflation}
    (inflates : task.Inflates zlib) : Progress zlib before (before.push task) [task] [] where
  working :=
    { serial := working.serial.push task
      inflate := by
        rw [SerialQueue.pending_push]
        intro other otherMem
        rcases List.mem_append.mp otherMem with earlier | last
        · exact working.inflate other earlier
        · rw [List.mem_singleton.mp last]
          exact inflates
      deflated := by
        rw [SerialQueue.started_push]
        exact working.deflated }
  fed := by simp [executed]
  called := by simp [inflations, SerialQueue.queue_push, List.filterMap_append]

/-- A task is handled in line, which happens only while the queue is not running. -/
theorem inline (working : Working zlib before) (resting : before.running = false)
    (task : Inflation) {outputs : List Output} (fed : executed outputs = [task.data zlib])
    (called : inflations outputs = task.call.toList) :
    Progress zlib before before [task] outputs where
  working := working
  fed := by
    rw [working.serial.pending_of_resting resting, fed]
    rfl
  called := by
    rw [(working.serial.resting resting).1, called]
    cases callEq : task.call <;> simp [callEq]

end Progress

namespace CompressedConnection

/-- A result that keeps the parser and makes progress on the queue. -/
structure Accepts (zlib : Zlib) (connection : CompressedConnection) (accepted : List Inflation)
    (result : CompressedConnection × List Output) : Prop where
  packetParser : result.1.packetParser = connection.packetParser
  failed : result.1.failed = connection.failed
  progress : Progress zlib connection.inflateQueue result.1.inflateQueue accepted result.2

theorem handleBody_accepts {zlib : Zlib} {connection : CompressedConnection}
    (working : Working zlib connection.inflateQueue) {task : Inflation}
    (inflates : task.Inflates zlib) :
    connection.Accepts zlib [task] (connection.handleBody zlib task) := by
  have pushed := Progress.push working inflates
  unfold handleBody
  cases runningEq : connection.inflateQueue.running with
  | true => exact ⟨rfl, rfl, pushed⟩
  | false =>
      rw [if_neg Bool.false_ne_true]
      by_cases raw : task.deflatedLength = 0
      · rw [if_pos raw]
        refine ⟨rfl, rfl, Progress.inline working runningEq task ?_ ?_⟩
        · rw [Inflation.data_raw raw]
          rfl
        · rw [Inflation.call_raw raw]
          rfl
      · rw [if_neg raw]
        by_cases short : task.deflatedLength ≤ MAX_SYNC_INFLATE_LENGTH
        · rw [if_pos short, inflates raw]
          refine ⟨rfl, rfl, Progress.inline working runningEq task rfl ?_⟩
          rw [Inflation.call_deflated raw]
          rfl
        · rw [if_neg short]
          exact ⟨rfl, rfl, pushed⟩

/-- The packets of one chunk. -/
theorem run_handleCompressedPacket_accepts {zlib : Zlib} {packets : List Packet}
    (readable : ∀ packet ∈ packets, 3 ≤ packet.unread.length)
    (inflate : ∀ packet ∈ packets, (taskOf packet).Inflates zlib)
    (connection : CompressedConnection) (working : Working zlib connection.inflateQueue) :
    connection.Accepts zlib (packets.map taskOf)
      (run (handleCompressedPacket zlib) connection packets) := by
  induction packets generalizing connection with
  | nil => exact ⟨rfl, rfl, Progress.refl working⟩
  | cons packet packets ih =>
      have first := handleBody_accepts working (inflate packet List.mem_cons_self)
      rw [← handleCompressedPacket_eq zlib connection (readable packet List.mem_cons_self)]
        at first
      have later := ih
        (fun other otherMem => readable other (List.mem_cons_of_mem packet otherMem))
        (fun other otherMem => inflate other (List.mem_cons_of_mem packet otherMem))
        _ first.progress.working
      rw [run_cons]
      exact ⟨later.packetParser.trans first.packetParser, later.failed.trans first.failed,
        first.progress.trans later.progress⟩

theorem inflateNext_accepts {zlib : Zlib} {connection : CompressedConnection}
    (working : Working zlib connection.inflateQueue)
    (scheduled : connection.inflateQueue.ticks ≠ 0) :
    connection.Accepts zlib [] connection.inflateNext := by
  have pendingEq := working.serial.pending_of_tick scheduled
  have inflate := working.inflate
  rw [pendingEq] at inflate
  unfold inflateNext
  cases queueEq : connection.inflateQueue.queue with
  | nil =>
      rw [working.serial.next_nil scheduled queueEq]
      refine ⟨rfl, rfl, working_idle zlib, ?_, ?_⟩
      · rw [pendingEq, queueEq]
        rfl
      · rw [queueEq]
        rfl
  | cons task queue =>
      rw [working.serial.next_cons scheduled queueEq]
      rw [queueEq] at inflate pendingEq
      dsimp only
      by_cases raw : task.deflatedLength = 0
      · rw [if_pos raw]
        refine ⟨rfl, rfl, ⟨SerialQueue.Serial.handled queue,
          fun other otherMem => inflate other (List.mem_cons_of_mem task otherMem),
          List.forall_mem_nil _⟩, ?_, ?_⟩
        · rw [pendingEq, List.map_nil, List.append_nil, List.map_cons, Inflation.data_raw raw]
          rfl
        · rw [queueEq, List.filterMap_nil, List.append_nil,
            List.filterMap_cons_none (Inflation.call_raw raw)]
          rfl
      · rw [if_neg raw]
        refine ⟨rfl, rfl, ⟨SerialQueue.Serial.waiting queue task, inflate,
          List.forall_mem_singleton.mpr raw⟩, ?_, ?_⟩
        · rw [pendingEq, List.map_nil, List.append_nil]
          rfl
        · rw [queueEq, List.filterMap_nil, List.append_nil,
            List.filterMap_cons_some (Inflation.call_deflated raw)]
          rfl

theorem inflated_accepts {zlib : Zlib} {connection : CompressedConnection}
    (working : Working zlib connection.inflateQueue) (index : Nat) :
    connection.Accepts zlib [] (connection.inflated zlib index) := by
  unfold inflated
  cases startedEq : connection.inflateQueue.started[index]? with
  | none =>
      have nothing : (connection.inflateQueue.callback index).2 = none := startedEq
      dsimp only
      rw [nothing]
      exact ⟨rfl, rfl, Progress.refl working⟩
  | some task =>
      have pendingEq := working.serial.pending_of_started startedEq
      have inflate := working.inflate
      rw [pendingEq] at inflate
      rw [working.serial.callback_eq startedEq]
      dsimp only
      rw [inflate task List.mem_cons_self
        (working.deflated task (List.mem_of_getElem? startedEq))]
      refine ⟨rfl, rfl, ⟨SerialQueue.Serial.handled _,
        fun other otherMem => inflate other (List.mem_cons_of_mem task otherMem),
        List.forall_mem_nil _⟩, ?_, ?_⟩
      · rw [pendingEq, List.map_nil, List.append_nil]
        rfl
      · rw [List.filterMap_nil, List.append_nil]
        rfl

/-! ## Writing leaves the receiving side alone -/

/-- What a result has in common with the connection before: all that receiving
depends on. -/
structure Unreceived (connection : CompressedConnection)
    (result : CompressedConnection × List Output) : Prop where
  packetParser : result.1.packetParser = connection.packetParser
  failed : result.1.failed = connection.failed
  inflateQueue : result.1.inflateQueue = connection.inflateQueue
  executed : executed result.2 = []
  inflations : inflations result.2 = []

theorem Unreceived.accepts {zlib : Zlib} {connection : CompressedConnection}
    {result : CompressedConnection × List Output} (unreceived : connection.Unreceived result)
    (working : Working zlib connection.inflateQueue) : connection.Accepts zlib [] result where
  packetParser := unreceived.packetParser
  failed := unreceived.failed
  progress := by
    rw [unreceived.inflateQueue]
    refine ⟨working, ?_, ?_⟩
    · rw [unreceived.executed]
      simp
    · rw [unreceived.inflations]
      simp

theorem unreceived_writeShorter (seqId : Nat) (buffer compressed : Bytes) :
    executed (writeShorter seqId buffer compressed) = [] ∧
      inflations (writeShorter seqId buffer compressed) = [] := by
  unfold writeShorter writeCompressedFrame
  split <;> exact ⟨rfl, rfl⟩

theorem writeWithin_unreceived {zlib : Zlib} (deflates : zlib.Deflates)
    (connection : CompressedConnection) (buffer : Bytes) :
    connection.Unreceived (connection.writeWithin zlib buffer) := by
  obtain ⟨compressed, deflateEq⟩ := deflates buffer
  unfold writeWithin
  rw [deflateEq]
  dsimp only
  split
  · exact ⟨rfl, rfl, rfl, rfl, rfl⟩
  · split
    · exact ⟨rfl, rfl, rfl, rfl, rfl⟩
    · split
      · have shorter := unreceived_writeShorter connection.compressedSequenceId buffer compressed
        exact ⟨rfl, rfl, rfl, shorter.1, shorter.2⟩
      · exact ⟨rfl, rfl, rfl, rfl, rfl⟩

theorem Unreceived.trans {connection : CompressedConnection}
    {first second : CompressedConnection × List Output} (before : connection.Unreceived first)
    (after : first.1.Unreceived second) :
    connection.Unreceived (second.1, first.2 ++ second.2) where
  packetParser := after.packetParser.trans before.packetParser
  failed := after.failed.trans before.failed
  inflateQueue := after.inflateQueue.trans before.inflateQueue
  executed := by rw [executed_append, before.executed, after.executed, List.nil_append]
  inflations := by rw [inflations_append, before.inflations, after.inflations, List.nil_append]

theorem writeCompressed_unreceived {zlib : Zlib} (deflates : zlib.Deflates)
    (connection : CompressedConnection) (buffer : Bytes) :
    connection.Unreceived (connection.writeCompressed zlib buffer) := by
  unfold writeCompressed
  split
  · generalize compressedSlices buffer 0 = slices
    induction slices generalizing connection with
    | nil => exact ⟨rfl, rfl, rfl, rfl, rfl⟩
    | cons first slices ih =>
        rw [run_cons]
        exact (writeWithin_unreceived deflates connection first).trans (ih _)
  · exact writeWithin_unreceived deflates connection buffer

theorem deflateNext_unreceived (connection : CompressedConnection) :
    connection.Unreceived connection.deflateNext := by
  unfold deflateNext
  dsimp only
  split <;> exact ⟨rfl, rfl, rfl, rfl, rfl⟩

theorem deflated_unreceived {zlib : Zlib} (deflates : zlib.Deflates)
    (connection : CompressedConnection) (index : Nat) :
    connection.Unreceived (connection.deflated zlib index) := by
  unfold deflated
  dsimp only
  split
  · exact ⟨rfl, rfl, rfl, rfl, rfl⟩
  · next task _ =>
      obtain ⟨compressed, deflateEq⟩ := deflates task.buffer
      rw [deflateEq]
      have shorter := unreceived_writeShorter task.seqId task.buffer compressed
      exact ⟨rfl, rfl, rfl, shorter.1, shorter.2⟩

/-! ## Runs -/

/-- The packets of the outer parser can be read and inflated. -/
def Decodable (zlib : Zlib) (packets : List Packet) : Prop :=
  ∀ packet ∈ packets, 3 ≤ packet.unread.length ∧ (taskOf packet).Inflates zlib

/-- A run from one state, with everything the outer parser delivers on the
chunks accepted in order. -/
structure Receives (zlib : Zlib) (connection : CompressedConnection) (chunks : List Bytes)
    (result : CompressedConnection × List Output) : Prop where
  packetParser : result.1.packetParser =
    (run PacketParser.executeChunk connection.packetParser chunks).1
  failed : result.1.failed = connection.failed
  progress : Progress zlib connection.inflateQueue result.1.inflateQueue
    ((run PacketParser.executeChunk connection.packetParser chunks).2.map taskOf) result.2

theorem Accepts.receives {zlib : Zlib} {connection : CompressedConnection}
    {result : CompressedConnection × List Output}
    (accepts : connection.Accepts zlib [] result) : connection.Receives zlib [] result :=
  ⟨accepts.packetParser, accepts.failed, accepts.progress⟩

/-- One event. -/
theorem step_receives {zlib : Zlib} (deflates : zlib.Deflates)
    {connection : CompressedConnection} (working : Working zlib connection.inflateQueue)
    (listening : connection.failed = false) (event : Event)
    (decodable : Decodable zlib
      (run PacketParser.executeChunk connection.packetParser (received [event])).2) :
    connection.Receives zlib (received [event]) (step zlib connection event) := by
  have nothing : connection.Accepts zlib [] (connection, []) :=
    ⟨rfl, rfl, Progress.refl working⟩
  cases event with
  | data chunk =>
      have packetsEq :
          (run PacketParser.executeChunk connection.packetParser (received [.data chunk])).2 =
            (connection.packetParser.executeChunk chunk).2 := List.append_nil _
      have accepts := run_handleCompressedPacket_accepts
        (fun packet packetMem => (decodable packet (packetsEq ▸ packetMem)).1)
        (fun packet packetMem => (decodable packet (packetsEq ▸ packetMem)).2)
        { connection with packetParser := (connection.packetParser.executeChunk chunk).1 } working
      change connection.Receives zlib _
        (if connection.failed then (connection, []) else connection.receive zlib chunk)
      rw [listening, if_neg Bool.false_ne_true]
      refine ⟨accepts.packetParser, accepts.failed, ?_⟩
      rw [packetsEq]
      exact accepts.progress
  | write buffer =>
      apply Accepts.receives
      change connection.Accepts zlib []
        (if connection.failed then (connection, [.closedWrite])
          else connection.writeCompressed zlib buffer)
      rw [listening, if_neg Bool.false_ne_true]
      exact (writeCompressed_unreceived deflates connection buffer).accepts working
  | resetSequenceId => exact Accepts.receives ⟨rfl, rfl, Progress.refl working⟩
  | inflateNext =>
      apply Accepts.receives
      change connection.Accepts zlib []
        (if connection.inflateQueue.ticks = 0 then (connection, []) else connection.inflateNext)
      by_cases scheduled : connection.inflateQueue.ticks = 0
      · rw [if_pos scheduled]
        exact nothing
      · rw [if_neg scheduled]
        exact inflateNext_accepts working scheduled
  | inflated index => exact (inflated_accepts working index).receives
  | deflateNext =>
      apply Accepts.receives
      change connection.Accepts zlib []
        (if connection.deflateQueue.ticks = 0 then (connection, []) else connection.deflateNext)
      by_cases scheduled : connection.deflateQueue.ticks = 0
      · rw [if_pos scheduled]
        exact nothing
      · rw [if_neg scheduled]
        exact (deflateNext_unreceived connection).accepts working
  | deflated index =>
      exact ((deflated_unreceived deflates connection index).accepts working).receives

/-- Any run. -/
theorem run_receives {zlib : Zlib} (deflates : zlib.Deflates)
    {connection : CompressedConnection} (working : Working zlib connection.inflateQueue)
    (listening : connection.failed = false) (events : List Event)
    (decodable : Decodable zlib
      (run PacketParser.executeChunk connection.packetParser (received events)).2) :
    connection.Receives zlib (received events) (run (step zlib) connection events) := by
  induction events generalizing connection with
  | nil => exact ⟨rfl, rfl, Progress.refl working⟩
  | cons event events ih =>
      have chunksEq : received (event :: events) = received [event] ++ received events :=
        received_append [event] events
      rw [chunksEq, run_append] at decodable
      have first := step_receives deflates working listening event
        (fun packet packetMem => decodable packet (List.mem_append_left _ packetMem))
      have later := @ih (step zlib connection event).1 first.progress.working
        (first.failed.trans listening)
        (fun packet packetMem => decodable packet (List.mem_append_right _ (by
          rw [first.packetParser] at packetMem
          exact packetMem)))
      have laterParser := later.packetParser
      have laterProgress := later.progress
      rw [first.packetParser] at laterParser laterProgress
      rw [run_cons, chunksEq]
      refine ⟨?_, later.failed.trans first.failed, ?_⟩
      · rw [run_append]
        exact laterParser
      · rw [run_append, List.map_append]
        exact first.progress.trans laterProgress

/-! ## Every queue comes to rest -/

private theorem step_inflateNext {zlib : Zlib} {connection : CompressedConnection}
    (scheduled : connection.inflateQueue.ticks ≠ 0) :
    step zlib connection .inflateNext = connection.inflateNext :=
  if_neg scheduled

/-- The callback of the only task in the thread pool schedules a tick. -/
private theorem inflated_zero {zlib : Zlib} {connection : CompressedConnection}
    (working : Working zlib connection.inflateQueue) (task : Inflation)
    (startedEq : connection.inflateQueue.started[0]? = some task) :
    (connection.inflated zlib 0).1.inflateQueue =
      SerialQueue.done
        { queue := connection.inflateQueue.queue, running := true, ticks := 0, started := [] } := by
  have taskMem : task ∈ connection.inflateQueue.pending := by
    rw [working.serial.pending_of_started startedEq]
    exact List.mem_cons_self
  have inflateEq := working.inflate task taskMem
    (working.deflated task (List.mem_of_getElem? startedEq))
  unfold inflated
  rw [working.serial.callback_eq startedEq]
  dsimp only
  rw [inflateEq]
  rfl

/-- With a tick scheduled, the queue can be emptied task by task. -/
private theorem exists_atRest_of_tick {zlib : Zlib} {connection : CompressedConnection}
    (working : Working zlib connection.inflateQueue)
    (scheduled : connection.inflateQueue.ticks ≠ 0) :
    ∃ events, received events = [] ∧
      (run (step zlib) connection events).1.inflateQueue.AtRest := by
  induction queueEq : connection.inflateQueue.queue generalizing connection with
  | nil =>
      refine ⟨[.inflateNext], rfl, ?_⟩
      rw [run_cons, step_inflateNext scheduled, inflateNext,
        working.serial.next_nil scheduled queueEq]
      exact ⟨rfl, rfl⟩
  | cons task queue ih =>
      have afterNext := (inflateNext_accepts working scheduled).progress.working
      by_cases raw : task.deflatedLength = 0
      · have nextEq : connection.inflateNext.1.inflateQueue =
            SerialQueue.done { queue := queue, running := true, ticks := 0, started := [] } := by
          rw [inflateNext, working.serial.next_cons scheduled queueEq]
          dsimp only
          rw [if_pos raw]
          rfl
        obtain ⟨events, silent, atRest⟩ := ih afterNext (by rw [nextEq]; exact SerialQueue.ticks_done _)
          (by rw [nextEq]; rfl)
        refine ⟨.inflateNext :: events, silent, ?_⟩
        rw [run_cons, step_inflateNext scheduled]
        exact atRest
      · have nextEq : connection.inflateNext.1.inflateQueue =
            SerialQueue.start { queue := queue, running := true, ticks := 0, started := [] }
              task := by
          rw [inflateNext, working.serial.next_cons scheduled queueEq]
          dsimp only
          rw [if_neg raw]
        have callbackEq := inflated_zero afterNext task (by rw [nextEq]; rfl)
        have afterCallback := (inflated_accepts afterNext 0).progress.working
        obtain ⟨events, silent, atRest⟩ :=
          ih afterCallback (by rw [callbackEq]; exact SerialQueue.ticks_done _)
          (by rw [callbackEq, nextEq]; rfl)
        refine ⟨.inflateNext :: .inflated 0 :: events, silent, ?_⟩
        rw [run_cons, step_inflateNext scheduled, run_cons]
        exact atRest

/-- From any state, ticks and callbacks alone bring the inflate queue to rest. -/
theorem exists_atRest {zlib : Zlib} {connection : CompressedConnection}
    (working : Working zlib connection.inflateQueue) :
    ∃ events, received events = [] ∧
      (run (step zlib) connection events).1.inflateQueue.AtRest := by
  by_cases scheduled : connection.inflateQueue.ticks = 0
  · cases startedEq : connection.inflateQueue.started with
    | nil => exact ⟨[], rfl, scheduled, startedEq⟩
    | cons task started =>
        have startedAt : connection.inflateQueue.started[0]? = some task := by
          rw [startedEq]
          rfl
        have callbackEq := inflated_zero working task startedAt
        have afterCallback := (inflated_accepts working 0).progress.working
        obtain ⟨events, silent, atRest⟩ := exists_atRest_of_tick afterCallback
          (by rw [callbackEq]; exact SerialQueue.ticks_done _)
        exact ⟨.inflated 0 :: events, silent, atRest⟩
  · exact exists_atRest_of_tick working scheduled

end CompressedConnection

end Mysql2.Compression

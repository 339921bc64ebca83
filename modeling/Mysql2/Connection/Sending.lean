import Mysql2.Connection.CompressedFrames
import Mysql2.Connection.Deflating

/-!
# The sending side of a compressed connection

While a connection also receives, starts commands and resets its counters: what it has
written are whole frames that a receiver can read, and with those of the pending tasks
they hold the buffers of all calls of `write`.
-/

namespace Mysql2.Compression

open Mysql2.Packets
open Mysql2.Parser
open Mysql2.Stream
open Mysql2.Transition
open CompressedFrame

/-- A frame that a receiver can read, and that no other frame continues. -/
structure Sendable (zlib : Zlib) (frame : CompressedFrame) : Prop where
  wellFormed : frame.WellFormed zlib
  short : frame.body.length < MAX_PACKET_LENGTH

/-- A connection has accepted the buffers and shown the outputs, among them the frames
that it has written. -/
structure Sending (zlib : Zlib) (buffers : List Bytes) (connection : CompressedConnection)
    (outputs : List Output) (frames : List CompressedFrame) : Prop where
  serial : connection.deflateQueue.Serial
  idShort : connection.compressedSequenceId < 256
  written : written outputs = frames.flatMap CompressedFrame.buffers
  content : (frames ++ connection.deflateQueue.pending.map (Deflation.frame zlib)).flatMap
    content = buffers.flatten
  sendable : ∀ frame ∈ frames ++ connection.deflateQueue.pending.map (Deflation.frame zlib),
    Sendable zlib frame

/-- What a step adds to the outputs of a connection. -/
def SendsOn (zlib : Zlib) (before buffers : List Bytes) (outputs : List Output)
    (result : CompressedConnection × List Output) : Prop :=
  ∃ frames, Sending zlib (before ++ buffers) result.1 (outputs ++ result.2) frames

variable {zlib : Zlib} {buffers more : List Bytes} {connection : CompressedConnection}
  {outputs : List Output} {frames : List CompressedFrame}

/-! ## Frames that can be sent -/

theorem Fits.length_lt {buffer : Bytes} (fits : Fits buffer) :
    buffer.length < MAX_PACKET_LENGTH := by
  unfold Fits at fits
  rw [MAX_COMPRESSED_LENGTH_eq] at fits
  rw [MAX_PACKET_LENGTH_eq]
  omega

theorem sendable_rawFrame (zlib : Zlib) {seqId : Nat} (idShort : seqId < 256) {buffer : Bytes}
    (fits : Fits buffer) : Sendable zlib (rawFrame seqId buffer) :=
  ⟨rawFrame_wellFormed zlib idShort fits, fits.length_lt⟩

theorem sendable_shorterFrame {seqId : Nat} (idShort : seqId < 256) {buffer compressed : Bytes}
    (fits : Fits buffer) (inflateEq : zlib.inflate compressed buffer.length = .ok buffer) :
    Sendable zlib (shorterFrame seqId buffer compressed) := by
  refine ⟨shorterFrame_wellFormed idShort fits inflateEq, ?_⟩
  rw [shorterFrame, body]
  split
  · rename_i shorter
    exact Nat.lt_trans shorter fits.length_lt
  · exact fits.length_lt

/-! ## What steps do -/

namespace Sending

/-- Nothing is written, and the queue stays as it is. -/
theorem quiet (sending : Sending zlib buffers connection outputs frames)
    {after : CompressedConnection} {shown : List Output}
    (sameQueue : after.deflateQueue = connection.deflateQueue)
    (idShort : after.compressedSequenceId < 256) (silent : Compression.written shown = []) :
    Sending zlib buffers after (outputs ++ shown) frames where
  serial := by
    rw [sameQueue]
    exact sending.serial
  idShort := idShort
  written := by rw [written_append, silent, List.append_nil, sending.written]
  content := by
    rw [sameQueue]
    exact sending.content
  sendable := by
    rw [sameQueue]
    exact sending.sendable

/-- A buffer is written while nothing is pending. -/
theorem emit (sending : Sending zlib buffers connection outputs frames)
    (resting : connection.deflateQueue.running = false) {after : CompressedConnection}
    {shown : List Output} {frame : CompressedFrame} {buffer : Bytes}
    (sameQueue : after.deflateQueue = connection.deflateQueue)
    (idShort : after.compressedSequenceId < 256)
    (writtenEq : Compression.written shown = frame.buffers) (contentEq : frame.content = buffer)
    (sendable : Sendable zlib frame) :
    Sending zlib (buffers ++ [buffer]) after (outputs ++ shown) (frames ++ [frame]) := by
  have nothing := sending.serial.pending_of_resting resting
  have contents := sending.content
  have allSendable := sending.sendable
  rw [nothing, List.map_nil, List.append_nil] at contents allSendable
  constructor
  · rw [sameQueue]
    exact sending.serial
  · exact idShort
  · rw [written_append, sending.written, writtenEq, List.flatMap_append, List.flatMap_singleton]
  · rw [sameQueue, nothing, List.map_nil, List.append_nil, List.flatMap_append, contents,
      List.flatMap_singleton, contentEq, List.flatten_append, List.flatten_singleton]
  · rw [sameQueue, nothing, List.map_nil, List.append_nil]
    intro other member
    rcases List.mem_append.mp member with isEarlier | isLast
    · exact allSendable other isEarlier
    · rw [List.mem_singleton.mp isLast]
      exact sendable

/-- A buffer waits in the queue. -/
theorem enqueue (sending : Sending zlib buffers connection outputs frames) (task : Deflation)
    {after : CompressedConnection}
    (pushed : after.deflateQueue = connection.deflateQueue.push task)
    (idShort : after.compressedSequenceId < 256)
    (contentEq : (task.frame zlib).content = task.buffer)
    (sendable : Sendable zlib (task.frame zlib)) :
    Sending zlib (buffers ++ [task.buffer]) after (outputs ++ []) frames := by
  have pendingEq : after.deflateQueue.pending.map (Deflation.frame zlib) =
      connection.deflateQueue.pending.map (Deflation.frame zlib) ++ [task.frame zlib] := by
    rw [pushed, SerialQueue.pending_push, List.map_append, List.map_singleton]
  constructor
  · rw [pushed]
    exact sending.serial.push task
  · exact idShort
  · rw [List.append_nil, sending.written]
  · rw [pendingEq, ← List.append_assoc, List.flatMap_append, sending.content,
      List.flatMap_singleton, contentEq, List.flatten_append, List.flatten_singleton]
  · rw [pendingEq, ← List.append_assoc]
    intro other member
    rcases List.mem_append.mp member with isEarlier | isLast
    · exact sending.sendable other isEarlier
    · rw [List.mem_singleton.mp isLast]
      exact sendable

/-- Only the bytes of the buffers matter. -/
theorem congr (sending : Sending zlib buffers connection outputs frames)
    (same : buffers.flatten = more.flatten) : Sending zlib more connection outputs frames :=
  { sending with content := sending.content.trans same }

end Sending

namespace CompressedConnection

theorem bumped_short (connection : CompressedConnection) (numPackets : Nat) :
    (connection.bumpCompressedSequenceId numPackets).compressedSequenceId < 256 :=
  Nat.mod_lt _ (by decide)

/-- One call for a buffer within the limit. -/
theorem writeWithin_sendsOn (roundTrips : zlib.RoundTrips)
    (sending : Sending zlib buffers connection outputs frames) {buffer : Bytes}
    (fits : Fits buffer) :
    SendsOn zlib buffers [buffer] outputs (connection.writeWithin zlib buffer) := by
  obtain ⟨compressed, deflateEq, inflateEq⟩ := roundTrips buffer
  have shorterSendable := sendable_shorterFrame sending.idShort fits inflateEq
  have queued : SendsOn zlib buffers [buffer] outputs
      ({ connection.bumpCompressedSequenceId 1 with
        deflateQueue := connection.deflateQueue.push
          { seqId := connection.compressedSequenceId, buffer := buffer } }, []) := by
    refine ⟨frames, sending.enqueue
      { seqId := connection.compressedSequenceId, buffer := buffer } rfl
      (connection.bumped_short 1) ?_ ?_⟩
    · rw [Deflation.frame_eq deflateEq]
      rfl
    · rw [Deflation.frame_eq deflateEq]
      exact shorterSendable
  unfold writeWithin
  cases runningEq : connection.deflateQueue.running with
  | true => exact queued
  | false =>
      dsimp only
      rw [if_neg Bool.false_ne_true]
      by_cases tiny : buffer.length < MIN_COMPRESS_LENGTH
      · rw [if_pos tiny]
        exact ⟨_, sending.emit runningEq rfl (connection.bumped_short 1)
          (written_rawFrame _ buffer) rfl (sendable_rawFrame zlib sending.idShort fits)⟩
      · rw [if_neg tiny]
        by_cases small : buffer.length ≤ MAX_SYNC_DEFLATE_LENGTH
        · rw [if_pos small, deflateEq]
          exact ⟨_, sending.emit runningEq rfl (connection.bumped_short 1)
            (written_shorterFrame _ buffer compressed) rfl shorterSendable⟩
        · rw [if_neg small]
          exact queued

/-- The calls for the slices of a long buffer. -/
theorem run_writeWithin_sendsOn (roundTrips : zlib.RoundTrips)
    (sending : Sending zlib buffers connection outputs frames) {slices : List Bytes}
    (fit : ∀ slice ∈ slices, Fits slice) :
    SendsOn zlib buffers slices outputs (run (writeWithin zlib) connection slices) := by
  induction slices generalizing buffers connection outputs frames with
  | nil =>
      refine ⟨frames, ?_⟩
      rw [run_nil, List.append_nil, List.append_nil]
      exact sending
  | cons slice slices ih =>
      have ⟨fitsFirst, fitOthers⟩ := List.forall_mem_cons.mp fit
      obtain ⟨_, first⟩ := writeWithin_sendsOn roundTrips sending fitsFirst
      obtain ⟨laterFrames, later⟩ := ih first fitOthers
      refine ⟨laterFrames, ?_⟩
      rw [run_cons, ← List.append_assoc]
      rw [List.append_assoc, List.singleton_append] at later
      exact later

/-- One call of `write`. -/
theorem writeCompressed_sendsOn (roundTrips : zlib.RoundTrips)
    (sending : Sending zlib buffers connection outputs frames) (buffer : Bytes) :
    SendsOn zlib buffers [buffer] outputs (connection.writeCompressed zlib buffer) := by
  unfold writeCompressed
  by_cases long : buffer.length > MAX_COMPRESSED_LENGTH
  · rw [if_pos long]
    obtain ⟨later, sendsSlices⟩ :=
      run_writeWithin_sendsOn roundTrips sending (compressedSlices_fit buffer 0)
    refine ⟨later, sendsSlices.congr ?_⟩
    rw [List.flatten_append, List.flatten_append, compressedSlices_flatten, List.drop_zero,
      List.flatten_singleton]
  · rw [if_neg long]
    exact writeWithin_sendsOn roundTrips sending (Nat.le_of_not_lt long)

theorem deflateNext_sendsOn (sending : Sending zlib buffers connection outputs frames)
    (scheduled : connection.deflateQueue.ticks ≠ 0) :
    SendsOn zlib buffers [] outputs connection.deflateNext := by
  have pendingEq := sending.serial.pending_of_tick scheduled
  have contents := sending.content
  have allSendable := sending.sendable
  rw [pendingEq] at contents allSendable
  refine ⟨frames, ?_⟩
  rw [List.append_nil]
  unfold deflateNext
  cases queueEq : connection.deflateQueue.queue with
  | nil =>
      rw [queueEq] at contents allSendable
      rw [sending.serial.next_nil scheduled queueEq]
      refine ⟨SerialQueue.serial_idle, sending.idShort, ?_, contents, allSendable⟩
      rw [List.append_nil, sending.written]
  | cons task queue =>
      rw [queueEq] at contents allSendable
      rw [sending.serial.next_cons scheduled queueEq]
      refine ⟨SerialQueue.Serial.waiting queue task, sending.idShort, ?_, contents, allSendable⟩
      rw [List.append_nil, sending.written]

theorem deflated_sendsOn (roundTrips : zlib.RoundTrips)
    (sending : Sending zlib buffers connection outputs frames) (index : Nat) :
    SendsOn zlib buffers [] outputs (connection.deflated zlib index) := by
  unfold deflated
  cases startedEq : connection.deflateQueue.started[index]? with
  | none =>
      have nothing : (connection.deflateQueue.callback index).2 = none := startedEq
      dsimp only
      rw [nothing]
      refine ⟨frames, ?_⟩
      rw [List.append_nil]
      exact sending.quiet rfl sending.idShort rfl
  | some task =>
      obtain ⟨compressed, deflateEq, _⟩ := roundTrips task.buffer
      have pendingEq := sending.serial.pending_of_started startedEq
      have contents := sending.content
      have allSendable := sending.sendable
      rw [pendingEq, List.map_cons, List.append_cons] at contents allSendable
      rw [sending.serial.callback_eq startedEq]
      dsimp only
      rw [deflateEq]
      refine ⟨frames ++ [task.frame zlib], ?_⟩
      rw [List.append_nil]
      refine ⟨SerialQueue.Serial.handled _, sending.idShort, ?_, contents, allSendable⟩
      rw [written_append, sending.written, written_shorterFrame, List.flatMap_append,
        List.flatMap_singleton, Deflation.frame_eq deflateEq]

/-! ## Receiving leaves the sending side alone -/

/-- What a result has in common with the connection before: all that sending depends
on. -/
structure Unsent (connection : CompressedConnection)
    (result : CompressedConnection × List Output) : Prop where
  deflateQueue : result.1.deflateQueue = connection.deflateQueue
  idShort : connection.compressedSequenceId < 256 → result.1.compressedSequenceId < 256
  written : written result.2 = []

theorem Unsent.refl (connection : CompressedConnection) : connection.Unsent (connection, []) :=
  ⟨rfl, fun short => short, rfl⟩

theorem Unsent.trans {first second : CompressedConnection × List Output}
    (before : connection.Unsent first) (after : first.1.Unsent second) :
    connection.Unsent (second.1, first.2 ++ second.2) where
  deflateQueue := after.deflateQueue.trans before.deflateQueue
  idShort := fun short => after.idShort (before.idShort short)
  written := by rw [written_append, before.written, after.written, List.nil_append]

theorem Unsent.sendsOn {result : CompressedConnection × List Output}
    (unsent : connection.Unsent result)
    (sending : Sending zlib buffers connection outputs frames) :
    SendsOn zlib buffers [] outputs result := by
  refine ⟨frames, ?_⟩
  rw [List.append_nil]
  exact sending.quiet unsent.deflateQueue (unsent.idShort sending.idShort) unsent.written

theorem feed_unsent (connection : CompressedConnection) (numPackets : Nat) (data : Bytes) :
    connection.Unsent (connection.feed numPackets data) :=
  ⟨rfl, fun _ => connection.bumped_short numPackets, rfl⟩

theorem handleBody_unsent (zlib : Zlib) (connection : CompressedConnection) (task : Inflation) :
    connection.Unsent (connection.handleBody zlib task) := by
  unfold handleBody
  split
  · exact ⟨rfl, fun short => short, rfl⟩
  · split
    · exact feed_unsent connection _ _
    · split
      · dsimp only
        split
        · exact ⟨rfl, fun short => short, rfl⟩
        · exact ⟨rfl, fun _ => connection.bumped_short _, rfl⟩
      · exact ⟨rfl, fun short => short, rfl⟩

theorem handleCompressedPacket_unsent (zlib : Zlib) (connection : CompressedConnection)
    (packet : Packet) : connection.Unsent (connection.handleCompressedPacket zlib packet) := by
  unfold handleCompressedPacket
  split
  · exact ⟨rfl, fun short => short, rfl⟩
  · exact handleBody_unsent zlib connection _

theorem run_handleCompressedPacket_unsent (zlib : Zlib) (connection : CompressedConnection)
    (packets : List Packet) :
    connection.Unsent (run (handleCompressedPacket zlib) connection packets) := by
  induction packets generalizing connection with
  | nil => exact .refl connection
  | cons packet packets ih =>
      rw [run_cons]
      exact (handleCompressedPacket_unsent zlib connection packet).trans (ih _)

theorem inflateNext_unsent (connection : CompressedConnection) :
    connection.Unsent connection.inflateNext := by
  unfold inflateNext
  dsimp only
  split
  · exact ⟨rfl, fun short => short, rfl⟩
  · split
    · exact ⟨rfl, fun _ => bumped_short _ _, rfl⟩
    · exact ⟨rfl, fun short => short, rfl⟩

theorem inflated_unsent (zlib : Zlib) (connection : CompressedConnection) (index : Nat) :
    connection.Unsent (connection.inflated zlib index) := by
  unfold inflated
  dsimp only
  split
  · exact .refl connection
  · split
    · exact ⟨rfl, fun short => short, rfl⟩
    · exact ⟨rfl, fun _ => bumped_short _ _, rfl⟩

/-! ## Steps -/

/-- Any event of a connection that has not failed. -/
theorem step_sendsOn (roundTrips : zlib.RoundTrips)
    (sending : Sending zlib buffers connection outputs frames)
    (listening : connection.failed = false) (event : Event) :
    SendsOn zlib buffers (writes [event]) outputs (step zlib connection event) := by
  have nothing : SendsOn zlib buffers [] outputs (connection, []) :=
    (Unsent.refl connection).sendsOn sending
  cases event with
  | data chunk =>
      change SendsOn zlib buffers [] outputs
        (if connection.failed then (connection, []) else connection.receive zlib chunk)
      rw [listening, if_neg Bool.false_ne_true]
      have unsent := run_handleCompressedPacket_unsent zlib
        { connection with packetParser := (connection.packetParser.executeChunk chunk).1 }
        (connection.packetParser.executeChunk chunk).2
      have same : connection.Unsent (connection.receive zlib chunk) :=
        ⟨unsent.deflateQueue, unsent.idShort, unsent.written⟩
      exact same.sendsOn sending
  | write buffer =>
      change SendsOn zlib buffers [buffer] outputs
        (if connection.failed then (connection, [.closedWrite])
          else connection.writeCompressed zlib buffer)
      rw [listening, if_neg Bool.false_ne_true]
      exact writeCompressed_sendsOn roundTrips sending buffer
  | resetSequenceId =>
      have unsent : connection.Unsent ({ connection with compressedSequenceId := 0 }, []) :=
        ⟨rfl, fun _ => Nat.zero_lt_succ 255, rfl⟩
      exact unsent.sendsOn sending
  | inflateNext =>
      change SendsOn zlib buffers [] outputs
        (if connection.inflateQueue.ticks = 0 then (connection, []) else connection.inflateNext)
      split
      · exact nothing
      · exact (inflateNext_unsent connection).sendsOn sending
  | inflated index => exact (inflated_unsent zlib connection index).sendsOn sending
  | deflateNext =>
      change SendsOn zlib buffers [] outputs
        (if connection.deflateQueue.ticks = 0 then (connection, []) else connection.deflateNext)
      by_cases scheduled : connection.deflateQueue.ticks = 0
      · rw [if_pos scheduled]
        exact nothing
      · rw [if_neg scheduled]
        exact deflateNext_sendsOn sending scheduled
  | deflated index => exact deflated_sendsOn roundTrips sending index

end CompressedConnection

/-- A connection that has just turned compression on. -/
theorem sending_enableCompression (zlib : Zlib) {compressedSequenceId : Nat}
    (idShort : compressedSequenceId < 256) :
    Sending zlib [] (.enableCompression compressedSequenceId) [] [] :=
  ⟨SerialQueue.serial_idle, idShort, rfl, rfl, fun _ member => absurd member List.not_mem_nil⟩

/-- The frames of the outputs can be read. -/
theorem Sending.frames_sendable (sending : Sending zlib buffers connection outputs frames) :
    ∀ frame ∈ frames, Sendable zlib frame :=
  fun frame member => sending.sendable frame (List.mem_append_left _ member)

/-- The frames hold a beginning of the buffers. -/
theorem Sending.content_prefix (sending : Sending zlib buffers connection outputs frames) :
    frames.flatMap CompressedFrame.content <+: buffers.flatten := by
  have contents := sending.content
  rw [List.flatMap_append] at contents
  exact ⟨_, contents⟩

/-- With nothing pending, the frames hold the buffers. -/
theorem Sending.content_atRest (sending : Sending zlib buffers connection outputs frames)
    (atRest : connection.deflateQueue.AtRest) :
    frames.flatMap CompressedFrame.content = buffers.flatten := by
  have contents := sending.content
  rw [(sending.serial.pending_atRest atRest).2, List.map_nil, List.append_nil] at contents
  exact contents

/-- No frame that can be sent is continued by another. -/
theorem harmless_of_sendable (sendable : ∀ frame ∈ frames, Sendable zlib frame) :
    Harmless frames := by
  induction frames with
  | nil => trivial
  | cons frame frames ih =>
      have ⟨first, others⟩ := List.forall_mem_cons.mp sendable
      exact ⟨fun maximal => absurd maximal (Nat.ne_of_lt first.short), ih others⟩

end Mysql2.Compression

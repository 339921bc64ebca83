import Mysql2.Connection.CompressedFrames

/-!
# The frames that are written compressed

A frame gets its id when `write` is called and is written when its buffer is
deflated.  In line or through the queue, frames are written in the order of the
calls: the frames written so far and those of the pending tasks always make up
the frames of the calls, with consecutive ids.
-/

namespace Mysql2.Compression

open Mysql2.Packets
open Mysql2.Parser
open Mysql2.Stream
open Mysql2.Transition
open CompressedFrame

/-! ## Observations -/

/-- The buffers handed to `writeUncompressed`. -/
def written (outputs : List Output) : List Bytes :=
  outputs.filterMap fun
    | .writeUncompressed buffer => some buffer
    | _ => none

/-- The buffers handed to `write`. -/
def writes (events : List Event) : List Bytes :=
  events.filterMap fun
    | .write buffer => some buffer
    | _ => none

/-- Calls of `write`, ticks of the deflate queue and its callbacks. -/
def Event.Outbound : Event → Prop
  | .write _ => True
  | .deflateNext => True
  | .deflated _ => True
  | _ => False

instance (event : Event) : Decidable event.Outbound := by
  cases event <;> unfold Event.Outbound <;> infer_instance

@[simp]
theorem written_append (outputs more : List Output) :
    written (outputs ++ more) = written outputs ++ written more :=
  List.filterMap_append

@[simp]
theorem writes_append (events more : List Event) :
    writes (events ++ more) = writes events ++ writes more :=
  List.filterMap_append

/-- Ids that count up modulo 256. -/
def consecutive (firstId count : Nat) : List Nat :=
  (List.range count).map fun index => (firstId + index) % 256

theorem consecutive_append (firstId count more : Nat) :
    consecutive firstId (count + more) =
      consecutive firstId count ++ consecutive ((firstId + count) % 256) more := by
  rw [consecutive, List.range_add, List.map_append, List.map_map]
  congr 1
  apply List.map_congr_left
  intro index _
  change (firstId + (count + index)) % 256 = ((firstId + count) % 256 + index) % 256
  omega

/-- The two buffers a frame is written in. -/
def CompressedFrame.buffers (frame : CompressedFrame) : List Bytes :=
  [frame.header, frame.body]

theorem flatten_buffers (frames : List CompressedFrame) :
    (frames.flatMap CompressedFrame.buffers).flatten = frames.flatMap encode := by
  induction frames with
  | nil => rfl
  | cons frame frames ih =>
      rw [List.flatMap_cons, List.flatten_append, ih, List.flatMap_cons]
      simp [CompressedFrame.buffers, encode]

/-- What a receiver reads from a byte stream: the contents of its frames. -/
def decoded (zlib : Zlib) (stream : Bytes) : Bytes :=
  ((fullReader compressedHeader).deframe stream).1.flatMap fun full => unreadData zlib full.2

/-- A stream of well-formed frames is read as their contents. -/
theorem decoded_encode {zlib : Zlib} {frames : List CompressedFrame}
    (wellFormed : ∀ frame ∈ frames, frame.WellFormed zlib) :
    decoded zlib (frames.flatMap encode) = frames.flatMap content := by
  rw [decoded, deframe_encode wellFormed, List.flatMap_map, List.flatMap_def, List.flatMap_def]
  congr 1
  exact List.map_congr_left fun frame frameMem => (wellFormed frame frameMem).unreadData_full

/-! ## The frame of a call -/

/-- A frame with a raw body. -/
def rawFrame (seqId : Nat) (buffer : Bytes) : CompressedFrame :=
  { sequenceId := seqId
    content := buffer
    compressed := none }

/-- The frame for a deflated buffer. -/
def shorterFrame (seqId : Nat) (buffer compressed : Bytes) : CompressedFrame :=
  { sequenceId := seqId
    content := buffer
    compressed := if compressed.length < buffer.length then some compressed else none }

/-- The frame a task on the deflate queue ends with. -/
def Deflation.frame (zlib : Zlib) (task : Deflation) : CompressedFrame :=
  match zlib.deflate task.buffer with
  | .ok compressed => shorterFrame task.seqId task.buffer compressed
  | .error _ => rawFrame task.seqId task.buffer

theorem Deflation.frame_eq {zlib : Zlib} {task : Deflation} {compressed : Bytes}
    (deflateEq : zlib.deflate task.buffer = .ok compressed) :
    task.frame zlib = shorterFrame task.seqId task.buffer compressed := by
  rw [Deflation.frame, deflateEq]

private theorem toByte_low (number : Nat) : toByte (number &&& 0xff) = toByte number := by
  rw [← UInt8.toNat_inj, toByte_toNat, toByte_toNat, Nat.and_two_pow_sub_one_eq_mod _ 8]
  omega

/-- The header the source builds is the header of the frame. -/
theorem compressHeader_eq (frame : CompressedFrame) :
    CompressedConnection.compressHeader frame.sequenceId frame.body.length
      frame.uncompressedLength = frame.header := by
  simp only [CompressedConnection.compressHeader, header, lengthBytes, toByte_low,
    Nat.shiftRight_eq_div_pow]
  rfl

theorem written_rawFrame (seqId : Nat) (buffer : Bytes) :
    written (CompressedConnection.writeCompressedFrame seqId buffer.length buffer none) =
      (rawFrame seqId buffer).buffers :=
  congrArg (fun header => [header, buffer]) (compressHeader_eq (rawFrame seqId buffer))

theorem written_shorterFrame (seqId : Nat) (buffer compressed : Bytes) :
    written (CompressedConnection.writeShorter seqId buffer compressed) =
      (shorterFrame seqId buffer compressed).buffers := by
  have headerEq := compressHeader_eq (shorterFrame seqId buffer compressed)
  unfold CompressedConnection.writeShorter CompressedFrame.buffers
  rw [← headerEq]
  by_cases shorter : compressed.length < buffer.length
  · simp only [shorterFrame, shorter, if_true]
    rfl
  · simp only [shorterFrame, shorter, if_false]
    rfl

/-- A buffer that fits into one frame. -/
def Fits (buffer : Bytes) : Prop :=
  buffer.length ≤ MAX_COMPRESSED_LENGTH

theorem Fits.length_le {buffer : Bytes} (fits : Fits buffer) :
    buffer.length ≤ MAX_PACKET_LENGTH := by
  unfold Fits at fits
  rw [MAX_COMPRESSED_LENGTH_eq] at fits
  rw [MAX_PACKET_LENGTH_eq]
  omega

theorem rawFrame_wellFormed (zlib : Zlib) {seqId : Nat} (idShort : seqId < 256) {buffer : Bytes}
    (fits : Fits buffer) : (rawFrame seqId buffer).WellFormed zlib where
  sequenceId := idShort
  body := fits.length_le
  content := fits.length_le
  nonempty := fun compressed => absurd compressed Bool.false_ne_true
  inflates := fun _ compressed => absurd compressed (Option.not_mem_none _)

theorem shorterFrame_wellFormed {zlib : Zlib} {seqId : Nat} (idShort : seqId < 256)
    {buffer compressed : Bytes} (fits : Fits buffer)
    (inflateEq : zlib.inflate compressed buffer.length = .ok buffer) :
    (shorterFrame seqId buffer compressed).WellFormed zlib := by
  by_cases shorter : compressed.length < buffer.length
  · have frameEq : shorterFrame seqId buffer compressed = ⟨seqId, buffer, some compressed⟩ := by
      rw [shorterFrame, if_pos shorter]
    rw [frameEq]
    constructor
    · exact idShort
    · exact Nat.le_trans (Nat.le_of_lt shorter) fits.length_le
    · exact fits.length_le
    · rintro - rfl
      exact absurd shorter (Nat.not_lt_zero _)
    · intro other otherMem
      cases otherMem
      exact inflateEq
  · have frameEq : shorterFrame seqId buffer compressed = rawFrame seqId buffer := by
      rw [shorterFrame, if_neg shorter, rawFrame]
    rw [frameEq]
    exact rawFrame_wellFormed zlib idShort fits

/-! ## Progress of the deflate queue -/

namespace CompressedConnection

/-- From one connection to another, while buffers were accepted: the frames
written and the frames of the pending tasks are those of the calls, which carry
the buffers under consecutive ids. -/
structure Sends (zlib : Zlib) (before : CompressedConnection) (buffers : List Bytes)
    (accepted frames : List CompressedFrame) (result : CompressedConnection × List Output) :
    Prop where
  failed : result.1.failed = before.failed
  serial : result.1.deflateQueue.Serial
  written : written result.2 = frames.flatMap CompressedFrame.buffers
  order : before.deflateQueue.pending.map (Deflation.frame zlib) ++ accepted =
    frames ++ result.1.deflateQueue.pending.map (Deflation.frame zlib)
  content : accepted.flatMap content = buffers.flatten
  ids : accepted.map CompressedFrame.sequenceId =
    consecutive before.compressedSequenceId accepted.length
  nextId : result.1.compressedSequenceId =
    (before.compressedSequenceId + accepted.length) % 256
  wellFormed : ∀ frame ∈ accepted, frame.WellFormed zlib

namespace Sends

variable {zlib : Zlib} {before : CompressedConnection}

theorem trans {buffers more : List Bytes} {accepted acceptedMore frames framesMore}
    {first second : CompressedConnection × List Output}
    (sends : before.Sends zlib buffers accepted frames first)
    (later : first.1.Sends zlib more acceptedMore framesMore second) :
    before.Sends zlib (buffers ++ more) (accepted ++ acceptedMore) (frames ++ framesMore)
      (second.1, first.2 ++ second.2) where
  failed := later.failed.trans sends.failed
  serial := later.serial
  written := by rw [written_append, sends.written, later.written, List.flatMap_append]
  order := by
    rw [← List.append_assoc, sends.order, List.append_assoc, later.order, List.append_assoc]
  content := by
    rw [List.flatMap_append, sends.content, later.content, List.flatten_append]
  ids := by
    rw [List.map_append, sends.ids, later.ids, sends.nextId, List.length_append,
      consecutive_append]
  nextId := by
    rw [later.nextId, sends.nextId, List.length_append]
    omega
  wellFormed := by
    intro frame frameMem
    rcases List.mem_append.mp frameMem with earlier | last
    · exact sends.wellFormed frame earlier
    · exact later.wellFormed frame last

/-- A step that accepts no buffer, for example because only a task ends. -/
theorem silent {result : CompressedConnection × List Output} {frames : List CompressedFrame}
    (failed : result.1.failed = before.failed) (serial : result.1.deflateQueue.Serial)
    (idShort : before.compressedSequenceId < 256)
    (sameId : result.1.compressedSequenceId = before.compressedSequenceId)
    (written : Compression.written result.2 = frames.flatMap CompressedFrame.buffers)
    (order : before.deflateQueue.pending.map (Deflation.frame zlib) =
      frames ++ result.1.deflateQueue.pending.map (Deflation.frame zlib)) :
    before.Sends zlib [] [] frames result where
  failed := failed
  serial := serial
  written := written
  order := by rw [List.append_nil, order]
  content := rfl
  ids := rfl
  nextId := by
    rw [sameId]
    exact (Nat.mod_eq_of_lt idShort).symm
  wellFormed := List.forall_mem_nil _

/-- Nothing happens. -/
theorem refl (serial : before.deflateQueue.Serial) (idShort : before.compressedSequenceId < 256) :
    before.Sends zlib [] [] [] (before, []) :=
  silent rfl serial idShort rfl rfl rfl

/-- One buffer is accepted. -/
theorem single {result : CompressedConnection × List Output} {buffer : Bytes}
    {frame : CompressedFrame} {frames : List CompressedFrame}
    (failed : result.1.failed = before.failed) (serial : result.1.deflateQueue.Serial)
    (written : Compression.written result.2 = frames.flatMap CompressedFrame.buffers)
    (order : before.deflateQueue.pending.map (Deflation.frame zlib) ++ [frame] =
      frames ++ result.1.deflateQueue.pending.map (Deflation.frame zlib))
    (contentEq : frame.content = buffer)
    (idShort : before.compressedSequenceId < 256)
    (idEq : frame.sequenceId = before.compressedSequenceId)
    (nextId : result.1.compressedSequenceId = (before.compressedSequenceId + 1) % 256)
    (wellFormed : frame.WellFormed zlib) :
    before.Sends zlib [buffer] [frame] frames result where
  failed := failed
  serial := serial
  written := written
  order := order
  content := by simp [contentEq]
  ids := by simp [consecutive, idEq, Nat.mod_eq_of_lt idShort]
  nextId := nextId
  wellFormed := List.forall_mem_singleton.mpr wellFormed

end Sends

/-- One call for a buffer within the limit. -/
theorem writeWithin_sends {zlib : Zlib} (roundTrips : zlib.RoundTrips)
    {connection : CompressedConnection} (serial : connection.deflateQueue.Serial)
    (idShort : connection.compressedSequenceId < 256) {buffer : Bytes} (fits : Fits buffer) :
    ∃ frame frames,
      connection.Sends zlib [buffer] [frame] frames (connection.writeWithin zlib buffer) := by
  obtain ⟨compressed, deflateEq, inflateEq⟩ := roundTrips buffer
  have shorterWellFormed := shorterFrame_wellFormed idShort fits inflateEq
  have queued : connection.Sends zlib [buffer]
      [shorterFrame connection.compressedSequenceId buffer compressed] []
      ({ connection.bumpCompressedSequenceId 1 with
        deflateQueue := connection.deflateQueue.push
          { seqId := connection.compressedSequenceId, buffer := buffer } }, []) := by
    refine Sends.single rfl (serial.push _) rfl ?_ rfl idShort rfl rfl shorterWellFormed
    rw [SerialQueue.pending_push, List.map_append, List.map_singleton,
      Deflation.frame_eq deflateEq]
    rfl
  unfold writeWithin
  cases runningEq : connection.deflateQueue.running with
  | true => exact ⟨_, _, queued⟩
  | false =>
      have nothingPending := serial.pending_of_resting runningEq
      dsimp only
      rw [if_neg Bool.false_ne_true]
      by_cases tiny : buffer.length < MIN_COMPRESS_LENGTH
      · rw [if_pos tiny]
        refine ⟨rawFrame connection.compressedSequenceId buffer,
          [rawFrame connection.compressedSequenceId buffer], Sends.single rfl serial ?_ ?_ rfl
          idShort rfl rfl (rawFrame_wellFormed zlib idShort fits)⟩
        · rw [written_rawFrame, List.flatMap_singleton]
        · change connection.deflateQueue.pending.map _ ++ _ =
            _ ++ connection.deflateQueue.pending.map _
          rw [nothingPending]
          rfl
      · rw [if_neg tiny]
        by_cases small : buffer.length ≤ MAX_SYNC_DEFLATE_LENGTH
        · rw [if_pos small, deflateEq]
          refine ⟨shorterFrame connection.compressedSequenceId buffer compressed,
            [shorterFrame connection.compressedSequenceId buffer compressed],
            Sends.single rfl serial ?_ ?_ rfl idShort rfl rfl shorterWellFormed⟩
          · rw [written_shorterFrame, List.flatMap_singleton]
          · change connection.deflateQueue.pending.map _ ++ _ =
              _ ++ connection.deflateQueue.pending.map _
            rw [nothingPending]
            rfl
        · rw [if_neg small]
          exact ⟨_, _, queued⟩

/-- The calls for the slices of a long buffer. -/
theorem run_writeWithin_sends {zlib : Zlib} (roundTrips : zlib.RoundTrips)
    {connection : CompressedConnection} (serial : connection.deflateQueue.Serial)
    (idShort : connection.compressedSequenceId < 256) {slices : List Bytes}
    (fit : ∀ slice ∈ slices, Fits slice) :
    ∃ accepted frames,
      connection.Sends zlib slices accepted frames (run (writeWithin zlib) connection slices) := by
  induction slices generalizing connection with
  | nil => exact ⟨[], [], Sends.refl serial idShort⟩
  | cons slice slices ih =>
      obtain ⟨frame, frames, first⟩ :=
        writeWithin_sends roundTrips serial idShort (fit slice List.mem_cons_self)
      have nextShort : (connection.writeWithin zlib slice).1.compressedSequenceId < 256 := by
        rw [first.nextId]
        exact Nat.mod_lt _ (by decide)
      obtain ⟨accepted, framesMore, later⟩ := ih first.serial nextShort
        fun other otherMem => fit other (List.mem_cons_of_mem slice otherMem)
      exact ⟨_, _, first.trans later⟩

theorem compressedSlices_fit (buffer : Bytes) (start : Nat) :
    ∀ slice ∈ compressedSlices buffer start, Fits slice := by
  induction start using compressedSlices.induct buffer with
  | case1 start inside ih =>
      rw [compressedSlices, if_pos inside]
      intro slice sliceMem
      rcases List.mem_cons.mp sliceMem with rfl | laterMem
      · exact Nat.le_trans (List.length_take_le _ _)
          (Nat.le_of_eq (Nat.add_sub_cancel_left _ _))
      · exact ih slice laterMem
  | case2 start done =>
      rw [compressedSlices, if_neg done]
      exact List.forall_mem_nil _

theorem compressedSlices_flatten (buffer : Bytes) (start : Nat) :
    (compressedSlices buffer start).flatten = buffer.drop start := by
  induction start using compressedSlices.induct buffer with
  | case1 start inside ih =>
      rw [compressedSlices, if_pos inside, List.flatten_cons, ih, slice,
        Nat.add_sub_cancel_left, ← List.drop_drop, List.take_append_drop]
  | case2 start done =>
      rw [compressedSlices, if_neg done, List.drop_of_length_le (Nat.le_of_not_lt done)]
      rfl

/-- One call of `write`. -/
theorem writeCompressed_sends {zlib : Zlib} (roundTrips : zlib.RoundTrips)
    {connection : CompressedConnection} (serial : connection.deflateQueue.Serial)
    (idShort : connection.compressedSequenceId < 256) (buffer : Bytes) :
    ∃ accepted frames,
      connection.Sends zlib [buffer] accepted frames (connection.writeCompressed zlib buffer) := by
  unfold writeCompressed
  by_cases long : buffer.length > MAX_COMPRESSED_LENGTH
  · rw [if_pos long]
    obtain ⟨accepted, frames, sends⟩ :=
      run_writeWithin_sends roundTrips serial idShort (compressedSlices_fit buffer 0)
    refine ⟨accepted, frames, { sends with content := ?_ }⟩
    rw [sends.content, compressedSlices_flatten, List.drop_zero, List.flatten_singleton]
  · rw [if_neg long]
    obtain ⟨frame, frames, sends⟩ :=
      writeWithin_sends roundTrips serial idShort (Nat.le_of_not_lt long)
    exact ⟨[frame], frames, sends⟩

theorem deflateNext_sends {zlib : Zlib} {connection : CompressedConnection}
    (serial : connection.deflateQueue.Serial) (idShort : connection.compressedSequenceId < 256)
    (scheduled : connection.deflateQueue.ticks ≠ 0) :
    connection.Sends zlib [] [] [] connection.deflateNext := by
  have pendingEq := serial.pending_of_tick scheduled
  unfold deflateNext
  cases queueEq : connection.deflateQueue.queue with
  | nil =>
      rw [serial.next_nil scheduled queueEq]
      refine Sends.silent rfl SerialQueue.serial_idle idShort rfl rfl ?_
      rw [pendingEq, queueEq]
      rfl
  | cons task queue =>
      rw [serial.next_cons scheduled queueEq]
      refine Sends.silent rfl (SerialQueue.Serial.waiting queue task) idShort rfl rfl ?_
      rw [pendingEq, queueEq]
      rfl

theorem deflated_sends {zlib : Zlib} (roundTrips : zlib.RoundTrips)
    {connection : CompressedConnection} (serial : connection.deflateQueue.Serial)
    (idShort : connection.compressedSequenceId < 256) (index : Nat) :
    ∃ frames, connection.Sends zlib [] [] frames (connection.deflated zlib index) := by
  unfold deflated
  cases startedEq : connection.deflateQueue.started[index]? with
  | none =>
      have nothing : (connection.deflateQueue.callback index).2 = none := startedEq
      dsimp only
      rw [nothing]
      exact ⟨[], Sends.refl serial idShort⟩
  | some task =>
      obtain ⟨compressed, deflateEq, _⟩ := roundTrips task.buffer
      rw [serial.callback_eq startedEq]
      dsimp only
      rw [deflateEq]
      refine ⟨[shorterFrame task.seqId task.buffer compressed],
        Sends.silent rfl (SerialQueue.Serial.handled _) idShort rfl ?_ ?_⟩
      · rw [written_shorterFrame, List.flatMap_singleton]
      · rw [serial.pending_of_started startedEq, List.map_cons, Deflation.frame_eq deflateEq]
        rfl

/-- One event of the writing side. -/
theorem step_sends {zlib : Zlib} (roundTrips : zlib.RoundTrips)
    {connection : CompressedConnection} (serial : connection.deflateQueue.Serial)
    (idShort : connection.compressedSequenceId < 256) (listening : connection.failed = false)
    {event : Event} (outbound : event.Outbound) :
    ∃ accepted frames,
      connection.Sends zlib (writes [event]) accepted frames (step zlib connection event) := by
  cases event with
  | write buffer =>
      change ∃ accepted frames, connection.Sends zlib [buffer] accepted frames
        (if connection.failed then (connection, [.closedWrite])
          else connection.writeCompressed zlib buffer)
      rw [listening, if_neg Bool.false_ne_true]
      exact writeCompressed_sends roundTrips serial idShort buffer
  | deflateNext =>
      refine ⟨[], [], ?_⟩
      change connection.Sends zlib [] [] []
        (if connection.deflateQueue.ticks = 0 then (connection, []) else connection.deflateNext)
      by_cases scheduled : connection.deflateQueue.ticks = 0
      · rw [if_pos scheduled]
        exact Sends.refl serial idShort
      · rw [if_neg scheduled]
        exact deflateNext_sends serial idShort scheduled
  | deflated index =>
      obtain ⟨frames, sends⟩ := deflated_sends roundTrips serial idShort index
      exact ⟨[], frames, sends⟩
  | data chunk => exact absurd outbound id
  | resetSequenceId => exact absurd outbound id
  | inflateNext => exact absurd outbound id
  | inflated index => exact absurd outbound id

/-- Any run of the writing side. -/
theorem run_sends {zlib : Zlib} (roundTrips : zlib.RoundTrips)
    {connection : CompressedConnection} (serial : connection.deflateQueue.Serial)
    (idShort : connection.compressedSequenceId < 256) (listening : connection.failed = false)
    {events : List Event} (outbound : ∀ event ∈ events, event.Outbound) :
    ∃ accepted frames,
      connection.Sends zlib (writes events) accepted frames
        (run (step zlib) connection events) := by
  induction events generalizing connection with
  | nil => exact ⟨[], [], Sends.refl serial idShort⟩
  | cons event events ih =>
      obtain ⟨accepted, frames, first⟩ :=
        step_sends roundTrips serial idShort listening (outbound event List.mem_cons_self)
      have nextShort : (step zlib connection event).1.compressedSequenceId < 256 := by
        rw [first.nextId]
        exact Nat.mod_lt _ (by decide)
      obtain ⟨acceptedMore, framesMore, later⟩ := ih first.serial nextShort
        (first.failed.trans listening)
        fun other otherMem => outbound other (List.mem_cons_of_mem event otherMem)
      refine ⟨accepted ++ acceptedMore, frames ++ framesMore, ?_⟩
      rw [run_cons, ← List.singleton_append, writes_append]
      exact first.trans later

end CompressedConnection

/-! ## Runs of the writing side -/

/-- What a run of the writing side has handed to `writeUncompressed`: whole
frames, header and body, with consecutive ids and header lengths that describe
the body, which a receiver reads as a beginning of the written buffers, and as
all of them once the deflate queue is at rest. -/
structure SentInOrder (zlib : Zlib) (firstId : Nat) (buffers : List Bytes)
    (result : CompressedConnection × List Output) (frames : List CompressedFrame) : Prop where
  listening : result.1.failed = false
  written : written result.2 = frames.flatMap CompressedFrame.buffers
  ids : frames.map CompressedFrame.sequenceId = consecutive firstId frames.length
  bodyLength : ∀ frame ∈ frames, frame.body.length < 2 ^ 24
  uncompressedLength : ∀ frame ∈ frames, frame.uncompressedLength < 2 ^ 24
  marked : ∀ frame ∈ frames, frame.uncompressedLength = 0 ↔ frame.Raw
  described : ∀ frame ∈ frames, ¬frame.Raw → frame.uncompressedLength = frame.content.length
  decoded : decoded zlib (Compression.written result.2).flatten = frames.flatMap content
  beginning : frames.flatMap content <+: buffers.flatten
  complete : result.1.deflateQueue.AtRest → frames.flatMap content = buffers.flatten

/-- Ids of the first frames of the calls. -/
private theorem ids_take {firstId : Nat} {frames more : List CompressedFrame}
    (ids : (frames ++ more).map CompressedFrame.sequenceId =
      consecutive firstId (frames ++ more).length) :
    frames.map CompressedFrame.sequenceId = consecutive firstId frames.length := by
  rw [List.map_append, List.length_append, consecutive_append] at ids
  exact (List.append_inj ids (by simp [consecutive])).1

/-- A well-formed frame is marked as raw exactly if it is. -/
private theorem marked_iff {zlib : Zlib} {frame : CompressedFrame}
    (wellFormed : frame.WellFormed zlib) : frame.uncompressedLength = 0 ↔ frame.Raw := by
  constructor
  · intro zero
    cases compressedEq : frame.compressed with
    | none => exact compressedEq
    | some compressed => exact absurd zero (wellFormed.uncompressedLength_ne compressedEq).2
  · exact Raw.uncompressedLength_eq

end Mysql2.Compression

import Mysql2.Parser.PacketParser
import Mysql2.Stream.Deframe

/-!
# Reference framing

The purpose of the packet parser, stated on a whole stream.  A frame is three
length bytes, a sequence id, the rest of the header and a body of the given
length.  Frames whose body has the maximal length are continued by the next
frame; a maximal run of them with the shorter frame behind it is one packet.
-/

namespace Mysql2.Parser

open Mysql2.Packets
open Mysql2.Stream

/-- One frame of the protocol. -/
structure Frame where
  sequenceId : Nat
  body : Bytes
  deriving DecidableEq, Repr

/-- The little-endian number in the first three bytes. -/
def frameLength (stream : Bytes) : Nat :=
  byteAt stream 0 + 256 * byteAt stream 1 + 65536 * byteAt stream 2

/-- Read one frame from the front of a stream. -/
def readFrame (headerLength : HeaderLength) (stream : Bytes) : Option (Frame × Bytes) :=
  let length := headerLength.val + frameLength stream
  if 3 ≤ stream.length ∧ length ≤ stream.length then
    some (⟨byteAt stream 3, slice stream headerLength.val length⟩, stream.drop length)
  else
    none

/-- What a consumer sees of a delivered packet. -/
structure Delivery where
  sequenceId : Nat
  numPackets : Nat
  payload : Bytes
  deriving DecidableEq, Repr

/-- The packet made of a run of frames: the first frame's id, the number of
frames, and the joined bodies. -/
def Delivery.ofFrames (frames : List Frame) : Delivery :=
  { sequenceId := (frames.head?.map Frame.sequenceId).getD 0
    numPackets := frames.length
    payload := frames.flatMap Frame.body }

/-- Join frames into packets.  `unfinished` is the run of maximal frames that
the next frame continues. -/
def joinFrames : List Frame → List Frame → List Delivery × List Frame
  | unfinished, [] => ([], unfinished)
  | unfinished, frame :: frames =>
      if frame.body.length = MAX_PACKET_LENGTH then
        joinFrames (unfinished ++ [frame]) frames
      else
        (Delivery.ofFrames (unfinished ++ [frame]) :: (joinFrames [] frames).1,
          (joinFrames [] frames).2)

/-- The packets of a stream, the run of maximal frames no packet contains yet,
and the bytes behind the last complete frame. -/
structure Framing where
  packets : List Delivery
  unfinished : List Frame
  tail : Bytes

/-! ## Bytes and slices -/

theorem byteAt_drop (bytes : Bytes) (count index : Nat) :
    byteAt (bytes.drop count) index = byteAt bytes (count + index) := by
  simp [byteAt, List.getD_eq_getElem?_getD]

theorem byteAt_append_left {bytes : Bytes} {index : Nat} (more : Bytes)
    (inside : index < bytes.length) : byteAt (bytes ++ more) index = byteAt bytes index := by
  simp [byteAt, List.getD_eq_getElem?_getD, List.getElem?_append_left inside]

theorem slice_drop (bytes : Bytes) (count first last : Nat) :
    slice (bytes.drop count) first last = slice bytes (count + first) (count + last) := by
  rw [slice, slice, List.drop_drop, Nat.add_sub_add_left]

theorem slice_append_left {bytes : Bytes} {first last : Nat} (more : Bytes)
    (inside : last ≤ bytes.length) : slice (bytes ++ more) first last = slice bytes first last := by
  unfold slice
  by_cases ordered : first ≤ last
  · rw [List.drop_append_of_le_length (by omega), List.take_append_of_le_length]
    rw [List.length_drop]
    omega
  · simp [Nat.sub_eq_zero_of_le (Nat.le_of_not_le ordered)]

theorem length_slice {bytes : Bytes} {first last : Nat} (inside : last ≤ bytes.length) :
    (slice bytes first last).length = last - first := by
  rw [slice, List.length_take, List.length_drop]
  omega

theorem frameLength_append {stream : Bytes} (more : Bytes) (inside : 3 ≤ stream.length) :
    frameLength (stream ++ more) = frameLength stream := by
  unfold frameLength
  rw [byteAt_append_left more (by omega), byteAt_append_left more (by omega),
    byteAt_append_left more (by omega)]

theorem frameLength_le (stream : Bytes) : frameLength stream ≤ MAX_PACKET_LENGTH := by
  rw [MAX_PACKET_LENGTH_eq]
  have first := byteAt_lt stream 0
  have second := byteAt_lt stream 1
  have third := byteAt_lt stream 2
  unfold frameLength
  omega

/-- The parser computes the length of the frame at an offset. -/
theorem readPacketLength_eq_frameLength (bytes : Bytes) (off : Nat) :
    readPacketLength bytes off = frameLength (bytes.drop off) := by
  unfold readPacketLength frameLength
  rw [byteAt_drop, byteAt_drop, byteAt_drop]
  simp only [Nat.shiftLeft_eq, Nat.add_zero]
  split <;> omega

/-! ## The frame reader -/

theorem headerLength_ge (headerLength : HeaderLength) : 4 ≤ headerLength.val := by
  rcases headerLength.property with lengthEq | lengthEq <;> omega

theorem readFrame_eq_none {headerLength : HeaderLength} {stream : Bytes}
    (short : stream.length < 3 ∨ stream.length < headerLength.val + frameLength stream) :
    readFrame headerLength stream = none := by
  rw [readFrame, if_neg]
  omega

theorem readFrame_eq_some {headerLength : HeaderLength} {stream : Bytes}
    (complete : headerLength.val + frameLength stream ≤ stream.length) :
    readFrame headerLength stream =
      some (⟨byteAt stream 3,
        slice stream headerLength.val (headerLength.val + frameLength stream)⟩,
        stream.drop (headerLength.val + frameLength stream)) := by
  have headerGe := headerLength_ge headerLength
  rw [readFrame, if_pos]
  exact ⟨by omega, complete⟩

theorem readFrame_eq_some_iff {headerLength : HeaderLength} {stream rest : Bytes}
    {frame : Frame} :
    readFrame headerLength stream = some (frame, rest) ↔
      headerLength.val + frameLength stream ≤ stream.length ∧
        frame = ⟨byteAt stream 3,
          slice stream headerLength.val (headerLength.val + frameLength stream)⟩ ∧
        rest = stream.drop (headerLength.val + frameLength stream) := by
  by_cases complete : headerLength.val + frameLength stream ≤ stream.length
  · rw [readFrame_eq_some complete]
    simp [complete, eq_comm]
  · rw [readFrame_eq_none (Or.inr (by omega))]
    simp [complete]

/-- Frames with a fixed header length, as a frame reader. -/
def frameReader (headerLength : HeaderLength) : FrameReader UInt8 Frame where
  read := readFrame headerLength
  shorter := by
    intro stream frame rest readEq
    obtain ⟨complete, _, rfl⟩ := readFrame_eq_some_iff.mp readEq
    have headerGe := headerLength_ge headerLength
    rw [List.length_drop]
    omega
  append := by
    intro stream frame rest more readEq
    obtain ⟨complete, rfl, rfl⟩ := readFrame_eq_some_iff.mp readEq
    have headerGe := headerLength_ge headerLength
    have lengthEq := frameLength_append more (show 3 ≤ stream.length by omega)
    apply readFrame_eq_some_iff.mpr
    rw [lengthEq, byteAt_append_left more (by omega), slice_append_left more complete,
      List.drop_append_of_le_length complete, List.length_append]
    exact ⟨by omega, rfl, rfl⟩

/-- No frame can be read before its three length bytes are complete. -/
theorem frameReader_read_short {headerLength : HeaderLength} {stream : Bytes}
    (short : stream.length < 3) : (frameReader headerLength).read stream = none :=
  readFrame_eq_none (Or.inl short)

/-- The bytes of the frame at the front of a stream from its sequence id on. -/
def behindId (headerLength : HeaderLength) (stream : Bytes) (frame : Frame) : Bytes :=
  slice stream 4 (headerLength.val + frame.body.length)

theorem behindId_append {headerLength : HeaderLength} {stream rest : Bytes} {frame : Frame}
    (more : Bytes) (readEq : (frameReader headerLength).read stream = some (frame, rest)) :
    behindId headerLength (stream ++ more) frame = behindId headerLength stream frame := by
  obtain ⟨complete, rfl, _⟩ := readFrame_eq_some_iff.mp readEq
  apply slice_append_left
  rw [length_slice complete]
  omega

/-- Frames together with their bytes behind the sequence id. -/
def fullReader (headerLength : HeaderLength) : FrameReader UInt8 (Frame × Bytes) :=
  (frameReader headerLength).withView (behindId headerLength) behindId_append

theorem fullReader_read_none {headerLength : HeaderLength} {stream : Bytes}
    (readEq : readFrame headerLength stream = none) :
    (fullReader headerLength).read stream = none :=
  (frameReader headerLength).withView_read_none behindId_append readEq

theorem fullReader_read_some {headerLength : HeaderLength} {stream rest : Bytes} {frame : Frame}
    (readEq : readFrame headerLength stream = some (frame, rest)) :
    (fullReader headerLength).read stream =
      some ((frame, behindId headerLength stream frame), rest) :=
  (frameReader headerLength).withView_read_some behindId_append readEq

theorem deframe_fullReader (headerLength : HeaderLength) (stream : Bytes) :
    (frameReader headerLength).deframe stream =
      (((fullReader headerLength).deframe stream).1.map Prod.fst,
        ((fullReader headerLength).deframe stream).2) :=
  (frameReader headerLength).deframe_withView behindId_append stream

/-- Reference framing of a whole stream. -/
def framing (headerLength : HeaderLength) (stream : Bytes) : Framing :=
  let frames := (frameReader headerLength).deframe stream
  let joined := joinFrames [] frames.1
  { packets := joined.1
    unfinished := joined.2
    tail := frames.2 }

/-! ## Joining frames -/

@[simp]
theorem joinFrames_nil (unfinished : List Frame) : joinFrames unfinished [] = ([], unfinished) :=
  rfl

/-- Frames can be joined in any number of installments. -/
theorem joinFrames_append (unfinished frames more : List Frame) :
    joinFrames unfinished (frames ++ more) =
      ((joinFrames unfinished frames).1 ++ (joinFrames (joinFrames unfinished frames).2 more).1,
        (joinFrames (joinFrames unfinished frames).2 more).2) := by
  induction frames generalizing unfinished with
  | nil => simp
  | cons frame frames ih =>
      rw [List.cons_append, joinFrames, joinFrames]
      split
      · exact ih _
      · simp [ih]

theorem joinFrames_cons (unfinished frames : List Frame) (frame : Frame) :
    joinFrames unfinished (frame :: frames) =
      ((joinFrames unfinished [frame]).1 ++
          (joinFrames (joinFrames unfinished [frame]).2 frames).1,
        (joinFrames (joinFrames unfinished [frame]).2 frames).2) :=
  joinFrames_append unfinished [frame] frames

theorem joinFrames_maximal {frame : Frame} (maximal : frame.body.length = MAX_PACKET_LENGTH)
    (unfinished : List Frame) :
    joinFrames unfinished [frame] = ([], unfinished ++ [frame]) := by
  simp [joinFrames, maximal]

theorem joinFrames_shorter {frame : Frame} (shorter : frame.body.length ≠ MAX_PACKET_LENGTH)
    (unfinished : List Frame) :
    joinFrames unfinished [frame] = ([Delivery.ofFrames (unfinished ++ [frame])], []) := by
  simp [joinFrames, shorter]

/-- A run of maximal frames with a shorter one behind it is one packet. -/
theorem joinFrames_run {run : List Frame} {last : Frame}
    (maximal : ∀ frame ∈ run, frame.body.length = MAX_PACKET_LENGTH)
    (shorter : last.body.length ≠ MAX_PACKET_LENGTH) (unfinished : List Frame) :
    joinFrames unfinished (run ++ [last]) =
      ([Delivery.ofFrames (unfinished ++ (run ++ [last]))], []) := by
  induction run generalizing unfinished with
  | nil => exact joinFrames_shorter shorter unfinished
  | cons frame run ih =>
      rw [List.cons_append, joinFrames_cons,
        joinFrames_maximal (maximal frame List.mem_cons_self),
        ih fun other otherMem => maximal other (List.mem_cons_of_mem frame otherMem)]
      simp

/-- Frames that complete no packet and leave none unfinished are none. -/
theorem joinFrames_eq_nil {unfinished frames : List Frame}
    (nothing : joinFrames unfinished frames = ([], [])) : unfinished = [] ∧ frames = [] := by
  induction frames generalizing unfinished with
  | nil => exact ⟨congrArg Prod.snd nothing, rfl⟩
  | cons frame frames ih =>
      rw [joinFrames] at nothing
      split at nothing
      · cases (List.append_eq_nil_iff.mp (ih nothing).1).2
      · cases congrArg Prod.fst nothing

/-! ## Streams in two parts -/

theorem framing_append (headerLength : HeaderLength) (stream more : Bytes) :
    framing headerLength (stream ++ more) =
      let first := framing headerLength stream
      let frames := (frameReader headerLength).deframe (first.tail ++ more)
      let joined := joinFrames first.unfinished frames.1
      { packets := first.packets ++ joined.1
        unfinished := joined.2
        tail := frames.2 } := by
  unfold framing
  dsimp only
  rw [FrameReader.deframe_append, joinFrames_append]

/-- The part of a stream behind which the packets are the same, and nothing is
left, is empty. -/
theorem framing_append_eq_nil {headerLength : HeaderLength} {stream more : Bytes}
    (packets : (framing headerLength (stream ++ more)).packets =
      (framing headerLength stream).packets)
    (unfinished : (framing headerLength (stream ++ more)).unfinished = [])
    (tail : (framing headerLength (stream ++ more)).tail = []) : more = [] := by
  rw [framing_append] at packets unfinished tail
  dsimp only at packets unfinished tail
  have joined := joinFrames_eq_nil
    (Prod.ext (List.append_right_eq_self.mp packets) unfinished)
  have nothing := (frameReader headerLength).deframe_eq_nil (Prod.ext joined.2 tail)
  exact (List.append_eq_nil_iff.mp nothing).2

/-! ## What is left to read in a packet -/

/-- The bytes that a delivered packet presents for reading: the bytes behind the
sequence id of a single frame, and for a run of frames the joined bodies behind
zeros in place of the rest of the header. -/
def joinUnread (headerLength : HeaderLength) : List Frame → List (Frame × Bytes) → List Bytes
  | _, [] => []
  | unfinished, full :: fulls =>
      if full.1.body.length = MAX_PACKET_LENGTH then
        joinUnread headerLength (unfinished ++ [full.1]) fulls
      else
        (if unfinished = [] then full.2
          else List.replicate (headerLength.val - 4) 0 ++
            (unfinished ++ [full.1]).flatMap Frame.body) ::
          joinUnread headerLength [] fulls

@[simp]
theorem joinUnread_nil (headerLength : HeaderLength) (unfinished : List Frame) :
    joinUnread headerLength unfinished [] = [] :=
  rfl

theorem joinUnread_maximal {full : Frame × Bytes}
    (maximal : full.1.body.length = MAX_PACKET_LENGTH) (headerLength : HeaderLength)
    (unfinished : List Frame) : joinUnread headerLength unfinished [full] = [] := by
  simp [joinUnread, maximal]

theorem joinUnread_shorter {full : Frame × Bytes}
    (shorter : full.1.body.length ≠ MAX_PACKET_LENGTH) (headerLength : HeaderLength)
    (unfinished : List Frame) :
    joinUnread headerLength unfinished [full] =
      [if unfinished = [] then full.2
        else List.replicate (headerLength.val - 4) 0 ++
          (unfinished ++ [full.1]).flatMap Frame.body] := by
  simp [joinUnread, shorter]

theorem joinUnread_append (headerLength : HeaderLength) (unfinished : List Frame)
    (fulls more : List (Frame × Bytes)) :
    joinUnread headerLength unfinished (fulls ++ more) =
      joinUnread headerLength unfinished fulls ++
        joinUnread headerLength (joinFrames unfinished (fulls.map Prod.fst)).2 more := by
  induction fulls generalizing unfinished with
  | nil => rfl
  | cons full fulls ih =>
      rw [List.cons_append, joinUnread, joinUnread, List.map_cons, joinFrames]
      by_cases maximal : full.1.body.length = MAX_PACKET_LENGTH
      · rw [if_pos maximal, if_pos maximal, if_pos maximal]
        exact ih _
      · rw [if_neg maximal, if_neg maximal, if_neg maximal, ih, List.cons_append]

theorem joinUnread_cons (headerLength : HeaderLength) (unfinished : List Frame)
    (full : Frame × Bytes) (fulls : List (Frame × Bytes)) :
    joinUnread headerLength unfinished (full :: fulls) =
      joinUnread headerLength unfinished [full] ++
        joinUnread headerLength (joinFrames unfinished [full.1]).2 fulls :=
  joinUnread_append headerLength unfinished [full] fulls

end Mysql2.Parser

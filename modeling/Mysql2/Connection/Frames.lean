import Mysql2.Connection.WritePacket
import Mysql2.Parser.Refinement

/-!
# The frames `writePacket` produces

Whatever the length of a packet, the bytes `writePacket` hands to `write` are
whole frames with consecutive sequence ids whose bodies join to the payload.
The loop bound includes the four header bytes, so the number of frames is that
of a payload four bytes longer: a payload that is at most three bytes short of
a multiple of the frame limit gets one empty frame too many, which the receiver
takes for a packet of its own.
-/

namespace Mysql2.Connection

open Mysql2.Packets
open Mysql2.Parser
open Mysql2.Transition

/-- Four-byte frame headers. -/
def plainHeader : HeaderLength :=
  ⟨4, Or.inl rfl⟩

/-- A frame as it stands in the byte stream. -/
def encodeFrame (frame : Frame) : Bytes :=
  [toByte frame.body.length, toByte (frame.body.length / 256),
    toByte (frame.body.length / 65536), toByte frame.sequenceId] ++ frame.body

/-- Cut a payload into a given number of chunks of the maximal frame length. -/
def frameChunks : Nat → Bytes → List Bytes
  | 0, _ => []
  | count + 1, payload =>
      payload.take MAX_PACKET_LENGTH :: frameChunks count (payload.drop MAX_PACKET_LENGTH)

/-- Frames around chunks, with consecutive sequence ids modulo 256. -/
def numberFrames (sequenceId : Nat) (chunks : List Bytes) : List Frame :=
  chunks.mapIdx fun index chunk => ⟨(sequenceId + index) % 256, chunk⟩

/-- The number of frames written for a payload of the given length. -/
def frameCount (payloadLength : Nat) : Nat :=
  (payloadLength + 4 + MAX_PACKET_LENGTH - 1) / MAX_PACKET_LENGTH

/-! ## Reading frames back -/

theorem readFrame_encodeFrame {frame : Frame} (bodyShort : frame.body.length < 16777216)
    (idShort : frame.sequenceId < 256) :
    readFrame plainHeader (encodeFrame frame) = some (frame, []) := by
  have lengthEq : frameLength (encodeFrame frame) = frame.body.length := by
    change (toByte _).toNat + 256 * (toByte _).toNat + 65536 * (toByte _).toNat = _
    rw [toByte_toNat, toByte_toNat, toByte_toNat]
    omega
  apply readFrame_eq_some_iff.mpr
  have idEq : byteAt (encodeFrame frame) 3 = frame.sequenceId := by
    change (toByte frame.sequenceId).toNat = _
    rw [toByte_toNat, Nat.mod_eq_of_lt idShort]
  have totalLength : (encodeFrame frame).length = 4 + frame.body.length := by
    simp [encodeFrame]
    omega
  rw [lengthEq, idEq]
  refine ⟨Nat.le_of_eq totalLength.symm, ?_, ?_⟩
  · simp [slice, encodeFrame, plainHeader]
  · exact (List.drop_of_length_le (Nat.le_of_eq totalLength)).symm

theorem deframe_encodeFrames {frames : List Frame}
    (bodiesShort : ∀ frame ∈ frames, frame.body.length < 16777216)
    (idsShort : ∀ frame ∈ frames, frame.sequenceId < 256) :
    (frameReader plainHeader).deframe (frames.flatMap encodeFrame) = (frames, []) :=
  (frameReader plainHeader).deframe_flatMap_encode encodeFrame frames
    (fun frame frameMem =>
      readFrame_encodeFrame (bodiesShort frame frameMem) (idsShort frame frameMem))
    (frameReader_read_short (by decide))

/-! ## Chunks -/

theorem length_frameChunks (count : Nat) (payload : Bytes) :
    (frameChunks count payload).length = count := by
  induction count generalizing payload with
  | zero => rfl
  | succ count ih => rw [frameChunks, List.length_cons, ih]

theorem length_le_of_mem_frameChunks {count : Nat} {payload chunk : Bytes}
    (chunkMem : chunk ∈ frameChunks count payload) : chunk.length ≤ MAX_PACKET_LENGTH := by
  induction count generalizing payload with
  | zero => simp [frameChunks] at chunkMem
  | succ count ih =>
      rcases List.mem_cons.mp chunkMem with rfl | restMem
      · exact List.length_take_le _ _
      · exact ih restMem

/-- A payload with exactly `count` maximal chunks in front of a rest. -/
theorem frameChunks_append (count : Nat) (payload : Bytes)
    (long : count * MAX_PACKET_LENGTH ≤ payload.length) :
    frameChunks (count + 1) payload =
        frameChunks count payload ++
          [(payload.drop (count * MAX_PACKET_LENGTH)).take MAX_PACKET_LENGTH] ∧
      (∀ chunk ∈ frameChunks count payload, chunk.length = MAX_PACKET_LENGTH) ∧
      (frameChunks count payload).flatten = payload.take (count * MAX_PACKET_LENGTH) := by
  induction count generalizing payload with
  | zero => simp [frameChunks]
  | succ count ih =>
      have restLong : count * MAX_PACKET_LENGTH ≤ (payload.drop MAX_PACKET_LENGTH).length := by
        rw [List.length_drop]
        rw [Nat.succ_mul] at long
        omega
      obtain ⟨chunksEq, maximal, flattenEq⟩ := ih (payload.drop MAX_PACKET_LENGTH) restLong
      refine ⟨?_, ?_, ?_⟩
      · rw [frameChunks, chunksEq, frameChunks, List.drop_drop, Nat.succ_mul, Nat.add_comm]
        rfl
      · intro chunk chunkMem
        rcases List.mem_cons.mp chunkMem with rfl | restMem
        · rw [List.length_take]
          rw [Nat.succ_mul] at long
          omega
        · exact maximal chunk restMem
      · rw [frameChunks, List.flatten_cons, flattenEq, Nat.succ_mul, Nat.add_comm, List.take_add]

/-- One chunk more than the payload fills is empty. -/
theorem frameChunks_succ_of_le {count : Nat} {payload : Bytes}
    (enough : payload.length ≤ count * MAX_PACKET_LENGTH) :
    frameChunks (count + 1) payload = frameChunks count payload ++ [[]] := by
  induction count generalizing payload with
  | zero =>
      rw [Nat.zero_mul] at enough
      rw [List.eq_nil_of_length_eq_zero (Nat.le_zero.mp enough)]
      simp [frameChunks]
  | succ count ih =>
      have restEnough : (payload.drop MAX_PACKET_LENGTH).length ≤ count * MAX_PACKET_LENGTH := by
        rw [List.length_drop]
        rw [Nat.succ_mul] at enough
        omega
      rw [frameChunks, ih restEnough, frameChunks, List.cons_append]

/-! ## Numbering -/

@[simp]
theorem numberFrames_nil (sequenceId : Nat) : numberFrames sequenceId [] = [] :=
  rfl

theorem numberFrames_cons (sequenceId : Nat) (chunk : Bytes) (chunks : List Bytes) :
    numberFrames sequenceId (chunk :: chunks) =
      ⟨sequenceId % 256, chunk⟩ :: numberFrames ((sequenceId + 1) % 256) chunks := by
  rw [numberFrames, numberFrames, List.mapIdx_cons]
  congr 2
  funext index chunk
  congr 1
  omega

theorem length_numberFrames (sequenceId : Nat) (chunks : List Bytes) :
    (numberFrames sequenceId chunks).length = chunks.length :=
  List.length_mapIdx

theorem body_numberFrames (sequenceId : Nat) (chunks : List Bytes) :
    (numberFrames sequenceId chunks).map Frame.body = chunks := by
  induction chunks generalizing sequenceId with
  | nil => rfl
  | cons chunk chunks ih => rw [numberFrames_cons, List.map_cons, ih]

theorem mem_numberFrames {sequenceId : Nat} {chunks : List Bytes} {frame : Frame}
    (frameMem : frame ∈ numberFrames sequenceId chunks) :
    frame.sequenceId < 256 ∧ frame.body ∈ chunks := by
  rw [numberFrames, List.mem_mapIdx] at frameMem
  rcases frameMem with ⟨index, inside, rfl⟩
  exact ⟨Nat.mod_lt _ (by decide), List.getElem_mem inside⟩

/-! ## The loop of `writePacket` -/

theorem chunkHeader_append (chunk : Bytes) (sequenceId : Nat) :
    chunkHeader chunk sequenceId ++ chunk = encodeFrame ⟨sequenceId, chunk⟩ := by
  rw [chunkHeader, encodeFrame]
  congr 1
  by_cases maximal : chunk.length = MAX_PACKET_LENGTH
  · rw [if_pos maximal, maximal, MAX_PACKET_LENGTH_eq]
    rfl
  · rw [if_neg maximal]
    simp only [List.cons.injEq, ← UInt8.toNat_inj, toByte_toNat, and_true,
      Nat.and_two_pow_sub_one_eq_mod _ 8, Nat.shiftRight_eq_div_pow]
    omega

theorem writeChunk_written (wire : Wire) (chunk : Bytes) :
    (writeChunk wire chunk).written.flatten =
      wire.written.flatten ++ encodeFrame ⟨wire.sequenceId, chunk⟩ := by
  rw [← chunkHeader_append]
  simp [writeChunk, Wire.write, Wire.bumpSequenceId]

theorem writeChunk_sequenceId (wire : Wire) (chunk : Bytes) :
    (writeChunk wire chunk).sequenceId = (wire.sequenceId + 1) % 256 :=
  rfl

theorem writeChunks_of_lt {length offset : Nat} (inside : offset < 4 + length) (wire : Wire)
    (buffer : Bytes) :
    writeChunks wire buffer length offset =
      writeChunks (writeChunk wire ((buffer.drop offset).take MAX_PACKET_LENGTH)) buffer length
        (offset + MAX_PACKET_LENGTH) := by
  rw [writeChunks, if_pos inside, slice, Nat.add_sub_cancel_left]

theorem writeChunks_of_le {length offset : Nat} (done : 4 + length ≤ offset) (wire : Wire)
    (buffer : Bytes) : writeChunks wire buffer length offset = wire := by
  rw [writeChunks, if_neg (Nat.not_lt.mpr done)]

/-- What `count` iterations of the loop write. -/
theorem writeChunks_eq (count : Nat) (wire : Wire) (buffer : Bytes) (length offset : Nat)
    (enough : 4 + length ≤ offset + count * MAX_PACKET_LENGTH)
    (needed : ∀ done < count, offset + done * MAX_PACKET_LENGTH < 4 + length)
    (idShort : wire.sequenceId < 256) :
    (writeChunks wire buffer length offset).written.flatten =
        wire.written.flatten ++
          (numberFrames wire.sequenceId (frameChunks count (buffer.drop offset))).flatMap
            encodeFrame ∧
      (writeChunks wire buffer length offset).sequenceId = (wire.sequenceId + count) % 256 := by
  induction count generalizing wire offset with
  | zero =>
      rw [Nat.zero_mul, Nat.add_zero] at enough
      rw [writeChunks_of_le enough]
      simp [frameChunks, Nat.mod_eq_of_lt idShort]
  | succ count ih =>
      have here := needed 0 (Nat.succ_pos count)
      rw [Nat.zero_mul, Nat.add_zero] at here
      rw [writeChunks_of_lt here]
      have laterEnough : 4 + length ≤ offset + MAX_PACKET_LENGTH + count * MAX_PACKET_LENGTH := by
        rw [Nat.succ_mul] at enough
        omega
      have laterNeeded : ∀ done < count,
          offset + MAX_PACKET_LENGTH + done * MAX_PACKET_LENGTH < 4 + length := by
        intro done before
        have later := needed (done + 1) (Nat.succ_lt_succ before)
        rw [Nat.succ_mul] at later
        omega
      have laterShort : (writeChunk wire
          ((buffer.drop offset).take MAX_PACKET_LENGTH)).sequenceId < 256 := by
        rw [writeChunk_sequenceId]
        exact Nat.mod_lt _ (by decide)
      obtain ⟨laterWritten, laterId⟩ := ih _ _ laterEnough laterNeeded laterShort
      constructor
      · rw [laterWritten, writeChunk_written, writeChunk_sequenceId, frameChunks,
          numberFrames_cons, List.flatMap_cons, List.drop_drop, Nat.mod_eq_of_lt idShort,
          List.append_assoc]
      · rw [laterId, writeChunk_sequenceId]
        omega

/-- A packet that fills its buffer, as every `toPacket` builds it. -/
structure FillsBuffer (packet : Packet) : Prop where
  start : packet.start = 0
  endOffset : packet.endOffset = packet.buffer.length
  header : 4 ≤ packet.buffer.length

/-- The frames of a payload. -/
def payloadFrames (sequenceId : Nat) (payload : Bytes) : List Frame :=
  numberFrames sequenceId (frameChunks (frameCount payload.length) payload)

private theorem frameCount_of_lt {payloadLength : Nat}
    (short : payloadLength + 4 < MAX_PACKET_LENGTH) : frameCount payloadLength = 1 := by
  unfold frameCount
  rw [MAX_PACKET_LENGTH_eq] at short ⊢
  omega

/-- The frames hold the payload and the four header bytes. -/
private theorem le_frameCount_mul (payloadLength : Nat) :
    payloadLength + 4 ≤ frameCount payloadLength * MAX_PACKET_LENGTH := by
  unfold frameCount
  rw [MAX_PACKET_LENGTH_eq]
  omega

/-- Fewer frames do not. -/
private theorem mul_lt_of_lt_frameCount {done payloadLength : Nat}
    (before : done < frameCount payloadLength) : done * MAX_PACKET_LENGTH < payloadLength + 4 := by
  unfold frameCount at before
  rw [MAX_PACKET_LENGTH_eq] at before ⊢
  omega

/-- A header written in place makes the buffer one frame. -/
private theorem writeHeader_buffer (packet : Packet) (sequenceId : Nat) :
    (writeHeader packet sequenceId).buffer = encodeFrame ⟨sequenceId, packet.buffer.drop 4⟩ := by
  have lowByte : toByte ((packet.buffer.length - 4) &&& 0xff) =
      toByte (packet.buffer.length - 4) := by
    rw [← UInt8.toNat_inj, toByte_toNat, toByte_toNat, Nat.and_two_pow_sub_one_eq_mod _ 8]
    omega
  rw [encodeFrame, List.length_drop, ← lowByte]
  simp only [writeHeader, Nat.shiftRight_eq_div_pow]

/-- `writePacket` writes the frames of the payload. -/
theorem writePacket_eq {packet : Packet} (fills : FillsBuffer packet) (wire : Wire)
    (idShort : wire.sequenceId < 256) :
    (writePacket wire packet).written.flatten =
        wire.written.flatten ++
          (payloadFrames wire.sequenceId (packet.buffer.drop 4)).flatMap encodeFrame ∧
      (writePacket wire packet).sequenceId =
        (wire.sequenceId + frameCount (packet.buffer.drop 4).length) % 256 := by
  have payloadLength : (packet.buffer.drop 4).length + 4 = packet.buffer.length := by
    rw [List.length_drop]
    have header := fills.header
    omega
  have lengthEq : packet.length = packet.buffer.length := by
    rw [Packet.length, fills.start, fills.endOffset, Nat.sub_zero]
  rw [writePacket, lengthEq]
  by_cases short : packet.buffer.length < MAX_PACKET_LENGTH
  · rw [if_pos short, payloadFrames, frameCount_of_lt (by omega), frameChunks, frameChunks,
      numberFrames_cons, numberFrames_nil, Nat.mod_eq_of_lt idShort,
      List.take_of_length_le (by omega), writeHeader_buffer]
    simp [Wire.write, Wire.bumpSequenceId]
  · rw [if_neg short]
    have enough : 4 + packet.buffer.length ≤
        4 + frameCount (packet.buffer.drop 4).length * MAX_PACKET_LENGTH := by
      have bound := le_frameCount_mul (packet.buffer.drop 4).length
      omega
    have needed : ∀ done < frameCount (packet.buffer.drop 4).length,
        4 + done * MAX_PACKET_LENGTH < 4 + packet.buffer.length := by
      intro done before
      have bound := mul_lt_of_lt_frameCount before
      omega
    exact writeChunks_eq _ wire packet.buffer packet.buffer.length 4 enough needed idShort

/-! ## What the receiver makes of the frames -/

/-- The frames cover the payload. -/
private theorem payload_le_frameCount_mul (payload : Bytes) :
    payload.length ≤ frameCount payload.length * MAX_PACKET_LENGTH := by
  have bound := le_frameCount_mul payload.length
  omega

/-- Frames for at least the whole payload join to the payload. -/
theorem flatten_frameChunks {count : Nat} {payload : Bytes}
    (enough : payload.length ≤ count * MAX_PACKET_LENGTH) :
    (frameChunks count payload).flatten = payload := by
  induction count generalizing payload with
  | zero =>
      rw [Nat.zero_mul] at enough
      rw [List.eq_nil_of_length_eq_zero (Nat.le_zero.mp enough)]
      rfl
  | succ count ih =>
      have restEnough : (payload.drop MAX_PACKET_LENGTH).length ≤ count * MAX_PACKET_LENGTH := by
        rw [List.length_drop]
        rw [Nat.succ_mul] at enough
        omega
      rw [frameChunks, List.flatten_cons, ih restEnough, List.take_append_drop]

theorem deframe_payloadFrames (sequenceId : Nat) (payload : Bytes) :
    (frameReader plainHeader).deframe ((payloadFrames sequenceId payload).flatMap encodeFrame) =
      (payloadFrames sequenceId payload, []) := by
  apply deframe_encodeFrames
  · intro frame frameMem
    have bound := length_le_of_mem_frameChunks (mem_numberFrames frameMem).2
    rw [MAX_PACKET_LENGTH_eq] at bound
    omega
  · intro frame frameMem
    exact (mem_numberFrames frameMem).1

theorem length_payloadFrames (sequenceId : Nat) (payload : Bytes) :
    (payloadFrames sequenceId payload).length = frameCount payload.length := by
  rw [payloadFrames, length_numberFrames, length_frameChunks]

theorem sequenceId_payloadFrames (sequenceId : Nat) (payload : Bytes) :
    (payloadFrames sequenceId payload).map Frame.sequenceId =
      (List.range (frameCount payload.length)).map fun index => (sequenceId + index) % 256 := by
  rw [payloadFrames, numberFrames]
  apply List.ext_getElem
  · simp [length_frameChunks]
  · intro index _ _
    simp

/-- Residues up to four below the limit give the number of frames the payload
needs. -/
theorem frameCount_eq_iff (payloadLength : Nat) :
    frameCount payloadLength = payloadLength / MAX_PACKET_LENGTH + 1 ↔
      payloadLength % MAX_PACKET_LENGTH ≤ MAX_PACKET_LENGTH - 4 := by
  unfold frameCount
  rw [MAX_PACKET_LENGTH_eq]
  omega

/-- The other residues give one frame too many. -/
theorem frameCount_of_residue {payloadLength : Nat}
    (residue : ¬ payloadLength % MAX_PACKET_LENGTH ≤ MAX_PACKET_LENGTH - 4) :
    frameCount payloadLength = payloadLength / MAX_PACKET_LENGTH + 1 + 1 := by
  unfold frameCount
  rw [MAX_PACKET_LENGTH_eq] at residue ⊢
  omega

/-- Of as many chunks as a payload needs all but the last are maximal, and the
receiver joins frames around them into one packet. -/
theorem joinFrames_of_bodies {payload : Bytes} {frames : List Frame}
    (bodies : frames.map Frame.body =
      frameChunks (payload.length / MAX_PACKET_LENGTH + 1) payload) :
    joinFrames [] frames = ([Delivery.ofFrames frames], []) := by
  have long : payload.length / MAX_PACKET_LENGTH * MAX_PACKET_LENGTH ≤ payload.length :=
    Nat.div_mul_le_self _ _
  obtain ⟨chunksEq, maximal, -⟩ := frameChunks_append _ payload long
  rw [chunksEq, List.map_eq_append_iff] at bodies
  rcases bodies with ⟨run, lastList, rfl, runBodies, lastBodies⟩
  rcases List.map_eq_singleton_iff.mp lastBodies with ⟨last, rfl, lastBody⟩
  apply joinFrames_run
  · intro frame frameMem
    apply maximal
    rw [← runBodies]
    exact List.mem_map_of_mem frameMem
  · have remainder : payload.length - payload.length / MAX_PACKET_LENGTH * MAX_PACKET_LENGTH <
        MAX_PACKET_LENGTH := by
      rw [← Nat.mod_eq_sub_div_mul]
      exact Nat.mod_lt _ MAX_PACKET_LENGTH_pos
    rw [lastBody, List.length_take, List.length_drop]
    omega

/-- With the right number of frames the receiver finds one packet. -/
theorem joinFrames_payloadFrames {payload : Bytes} (sequenceId : Nat)
    (countEq : frameCount payload.length = payload.length / MAX_PACKET_LENGTH + 1) :
    joinFrames [] (payloadFrames sequenceId payload) =
      ([Delivery.ofFrames (payloadFrames sequenceId payload)], []) := by
  apply joinFrames_of_bodies
  rw [payloadFrames, body_numberFrames, countEq]

/-- Frames around enough chunks join to the payload. -/
theorem payload_ofFrames {count : Nat} {payload : Bytes} {frames : List Frame}
    (bodies : frames.map Frame.body = frameChunks count payload)
    (enough : payload.length ≤ count * MAX_PACKET_LENGTH) :
    (Delivery.ofFrames frames).payload = payload := by
  change frames.flatMap Frame.body = payload
  rw [List.flatMap_def, bodies, flatten_frameChunks enough]

/-- What the receiver is to see of a packet, for the connection as
`writePacket` leaves it: the frames of the payload with consecutive sequence
ids, one delivery with the payload and the number of frames, and the sequence id
behind the last frame. -/
structure SentAsOnePacket (sequenceId : Nat) (payload : Bytes) (wire : Wire) : Prop where
  frames : ∃ frames, (frameReader plainHeader).deframe wire.written.flatten = (frames, []) ∧
    frames.map Frame.sequenceId =
      (List.range (payload.length / MAX_PACKET_LENGTH + 1)).map fun index =>
        (sequenceId + index) % 256
  delivered : ∀ chunks : List Bytes, (∀ chunk ∈ chunks, chunk ≠ []) →
    chunks.flatten = wire.written.flatten →
    ∃ packet, (run PacketParser.executeChunk (.new plainHeader) chunks).2 = [packet] ∧
      packet.payload 4 = payload ∧
      packet.numPackets = payload.length / MAX_PACKET_LENGTH + 1
  sequenceId : wire.sequenceId =
    (sequenceId + (payload.length / MAX_PACKET_LENGTH + 1)) % 256

/-- The receiver delivers what the frames join to, however the bytes arrive. -/
private theorem run_executeChunk_delivers {chunks : List Bytes} {frames : List Frame}
    {packets : List Delivery} (nonempty : ∀ chunk ∈ chunks, chunk ≠ [])
    (framesEq : (frameReader plainHeader).deframe chunks.flatten = (frames, []))
    (joinedEq : joinFrames [] frames = (packets, [])) :
    (run PacketParser.executeChunk (.new plainHeader) chunks).2.map (delivery plainHeader) =
      packets := by
  obtain ⟨-, delivered, -⟩ := PacketParser.run_executeChunk_refines nonempty
    (PacketParser.represents_new plainHeader) (frameReader_read_short (by decide))
  rw [List.nil_append, framesEq, joinedEq] at delivered
  exact delivered

/-- A packet that arrives as one packet was written in as many frames as its
payload needs. -/
private theorem frameCount_of_sentAsOnePacket {packet : Packet} (fills : FillsBuffer packet)
    {sequenceId compressedSequenceId : Nat} (idShort : sequenceId < 256)
    (sent : SentAsOnePacket sequenceId (packet.buffer.drop 4)
      (writePacket ⟨sequenceId, compressedSequenceId, []⟩ packet)) :
    frameCount (packet.buffer.drop 4).length =
      (packet.buffer.drop 4).length / MAX_PACKET_LENGTH + 1 := by
  have written := (writePacket_eq fills ⟨sequenceId, compressedSequenceId, []⟩ idShort).1
  rw [List.flatten_nil, List.nil_append] at written
  rcases sent.frames with ⟨frames, framesEq, ids⟩
  rw [written, deframe_payloadFrames] at framesEq
  cases framesEq
  have lengths := congrArg List.length ids
  rwa [List.length_map, length_payloadFrames, List.length_map, List.length_range] at lengths

/-- A packet written in as many frames as its payload needs arrives as one
packet. -/
private theorem sentAsOnePacket_of_frameCount {packet : Packet} (fills : FillsBuffer packet)
    {sequenceId compressedSequenceId : Nat} (idShort : sequenceId < 256)
    (countEq : frameCount (packet.buffer.drop 4).length =
      (packet.buffer.drop 4).length / MAX_PACKET_LENGTH + 1) :
    SentAsOnePacket sequenceId (packet.buffer.drop 4)
      (writePacket ⟨sequenceId, compressedSequenceId, []⟩ packet) := by
  obtain ⟨written, finalId⟩ :=
    writePacket_eq fills ⟨sequenceId, compressedSequenceId, []⟩ idShort
  rw [List.flatten_nil, List.nil_append] at written
  constructor
  · refine ⟨_, written ▸ deframe_payloadFrames _ _, ?_⟩
    rw [sequenceId_payloadFrames, countEq]
  · intro chunks nonempty cut
    have delivered := run_executeChunk_delivers nonempty
      (cut ▸ written ▸ deframe_payloadFrames _ _) (joinFrames_payloadFrames _ countEq)
    rcases List.map_eq_singleton_iff.mp delivered with ⟨received, receivedEq, same⟩
    refine ⟨received, receivedEq, ?_, ?_⟩
    · have payloadEq := congrArg Delivery.payload same
      exact payloadEq.trans
        (payload_ofFrames (body_numberFrames _ _) (payload_le_frameCount_mul _))
    · have countSame := congrArg Delivery.numPackets same
      rw [Delivery.ofFrames, length_payloadFrames, countEq] at countSame
      exact countSame
  · rw [finalId, countEq]

/-- `writePacket` sends a packet as one packet exactly if its payload is not
one, two or three bytes short of filling its last frame. -/
theorem writePacket_sentAsOnePacket_iff {packet : Packet} (fills : FillsBuffer packet)
    {sequenceId : Nat} (idShort : sequenceId < 256) (compressedSequenceId : Nat) :
    SentAsOnePacket sequenceId (packet.buffer.drop 4)
        (writePacket ⟨sequenceId, compressedSequenceId, []⟩ packet) ↔
      (packet.buffer.drop 4).length % MAX_PACKET_LENGTH ≤ MAX_PACKET_LENGTH - 4 := by
  rw [← frameCount_eq_iff]
  constructor
  · exact frameCount_of_sentAsOnePacket fills idShort
  · exact sentAsOnePacket_of_frameCount fills idShort

/-- A one-byte payload, sent with the last sequence id. -/
theorem writePacket_sentAsOnePacket_iff_one :
    let packet := Packet.new 0 [0, 0, 0, 0, 3] 0 5
    SentAsOnePacket 255 (packet.buffer.drop 4) (writePacket ⟨255, 0, []⟩ packet) ↔
      (packet.buffer.drop 4).length % MAX_PACKET_LENGTH ≤ MAX_PACKET_LENGTH - 4 := by
  intro packet
  have fills : FillsBuffer packet := ⟨rfl, rfl, by decide⟩
  exact writePacket_sentAsOnePacket_iff fills (by decide) 0

private theorem three_short_not_sentAsOnePacket {buffer : Bytes}
    (lengthEq : buffer.length = 0x1000000) :
    ¬ SentAsOnePacket 0 (buffer.drop 4)
      (writePacket ⟨0, 0, []⟩ (.new 0 buffer 0 buffer.length)) := by
  intro sent
  have fills : FillsBuffer (.new 0 buffer 0 buffer.length) :=
    ⟨rfl, rfl, show 4 ≤ buffer.length by omega⟩
  have residue := (frameCount_eq_iff _).mp (frameCount_of_sentAsOnePacket fills (by decide) sent)
  change (buffer.drop 4).length % MAX_PACKET_LENGTH ≤ MAX_PACKET_LENGTH - 4 at residue
  rw [List.length_drop, lengthEq, MAX_PACKET_LENGTH_eq] at residue
  omega

/-- A payload of `0xfffffc` bytes needs one frame and is written in two. -/
theorem writePacket_fffffc_not_sentAsOnePacket :
    let buffer := List.replicate 0x1000000 0
    ¬ SentAsOnePacket 0 (buffer.drop 4)
      (writePacket ⟨0, 0, []⟩ (.new 0 buffer 0 buffer.length)) :=
  three_short_not_sentAsOnePacket List.length_replicate

end Mysql2.Connection

import Mysql2.Parser.Framing
import Mysql2.Transition.Mealy

/-!
# The packet parser refines the reference framing

A parser state stands for the bytes behind the last complete frame and for the
run of maximal frames that no packet contains yet.  Each of the four methods
takes the state that stands for some tail to the state that stands for the tail
of the longer stream, and delivers the packets completed in between.  Hence the
packets do not depend on where the stream is cut into chunks.
-/

namespace Mysql2.Parser

open Mysql2.Packets
open Mysql2.Stream
open Mysql2.Transition

/-- What a consumer sees of a packet delivered behind a header of this length. -/
def delivery (headerLength : HeaderLength) (packet : Packet) : Delivery :=
  { sequenceId := packet.sequenceId
    numPackets := packet.numPackets
    payload := packet.payload headerLength.val }

namespace PacketParser

/-- The bytes of the incomplete frame, reconstructed from the parser's fields. -/
def retained (parser : PacketParser) : Bytes :=
  match parser.execute with
  | .executeStart => []
  | .executeHeader2 => [toByte parser.length]
  | .executeHeader3 => [toByte parser.length, toByte (parser.length / 256)]
  | .executePayload =>
      [toByte parser.length, toByte (parser.length / 256), toByte (parser.length / 65536)] ++
        parser.buffer.flatten

/-- The collected parts are the bodies of a run of frames, and the remembered
sequence id is the first one's. -/
structure Collects (parser : PacketParser) (unfinished : List Frame) : Prop where
  parts : parser.largePacketParts = unfinished.map Frame.body
  firstId : ∀ frame ∈ unfinished.head?, parser.firstPacketSequenceId = frame.sequenceId

/-- The fields that carry a partial frame, for each method that `execute` can
stand for. -/
def Holds (parser : PacketParser) (tail : Bytes) : Prop :=
  match parser.execute with
  | .executeStart => tail = [] ∧ parser.buffer = [] ∧ parser.bufferLength = 0
  | .executeHeader2 =>
      ∃ b0, tail = [b0] ∧ parser.length = b0.toNat ∧ parser.buffer = [] ∧
        parser.bufferLength = 0
  | .executeHeader3 =>
      ∃ b0 b1, tail = [b0, b1] ∧ parser.length = b0.toNat + 256 * b1.toNat ∧
        parser.buffer = [] ∧ parser.bufferLength = 0
  | .executePayload =>
      ∃ b0 b1 b2, tail = b0 :: b1 :: b2 :: parser.buffer.flatten ∧
        parser.length = b0.toNat + 256 * b1.toNat + 65536 * b2.toNat ∧
        parser.bufferLength = parser.buffer.flatten.length ∧
        tail.length < parser.packetHeaderLength.val + parser.length

/-- The parser state stands for a tail and an unfinished run of frames. -/
structure Represents (headerLength : HeaderLength) (parser : PacketParser) (tail : Bytes)
    (unfinished : List Frame) : Prop where
  header : parser.packetHeaderLength = headerLength
  collects : parser.Collects unfinished
  holds : parser.Holds tail

/-- A step from the state that stands for `tail` and `unfinished` over a chunk
delivers what the reference framing delivers there. -/
def StepRefines (headerLength : HeaderLength) (stream : Bytes) (unfinished : List Frame)
    (result : PacketParser × List Packet) : Prop :=
  let frames := (frameReader headerLength).deframe stream
  let joined := joinFrames unfinished frames.1
  Represents headerLength result.1 frames.2 joined.2 ∧
    result.2.map (delivery headerLength) = joined.1 ∧
    result.2.map Packet.unread =
      joinUnread headerLength unfinished ((fullReader headerLength).deframe stream).1

private theorem three_bytes (b0 b1 b2 : UInt8) :
    [toByte (b0.toNat + 256 * b1.toNat + 65536 * b2.toNat),
      toByte ((b0.toNat + 256 * b1.toNat + 65536 * b2.toNat) / 256),
      toByte ((b0.toNat + 256 * b1.toNat + 65536 * b2.toNat) / 65536)] = [b0, b1, b2] := by
  have bound0 := b0.toNat_lt
  have bound1 := b1.toNat_lt
  have bound2 := b2.toNat_lt
  simp only [List.cons.injEq, ← UInt8.toNat_inj, toByte_toNat, and_true]
  omega

private theorem two_bytes (b0 b1 : UInt8) :
    [toByte (b0.toNat + 256 * b1.toNat), toByte ((b0.toNat + 256 * b1.toNat) / 256)] =
      [b0, b1] := by
  have bound0 := b0.toNat_lt
  have bound1 := b1.toNat_lt
  simp only [List.cons.injEq, ← UInt8.toNat_inj, toByte_toNat, and_true]
  omega

/-- The tail a parser stands for is what can be read off its fields. -/
theorem Holds.retained_eq {parser : PacketParser} {tail : Bytes} (holds : parser.Holds tail) :
    parser.retained = tail := by
  unfold Holds at holds
  unfold retained
  cases modeEq : parser.execute with
  | executeStart => simp_all
  | executeHeader2 =>
      rw [modeEq] at holds
      obtain ⟨b0, rfl, lengthEq, _⟩ := holds
      simp [lengthEq, toByte]
  | executeHeader3 =>
      rw [modeEq] at holds
      obtain ⟨b0, b1, rfl, lengthEq, _⟩ := holds
      dsimp only
      rw [lengthEq, two_bytes]
  | executePayload =>
      rw [modeEq] at holds
      obtain ⟨b0, b1, b2, rfl, lengthEq, _⟩ := holds
      dsimp only
      rw [lengthEq, three_bytes]
      rfl

theorem represents_new (headerLength : HeaderLength) :
    Represents headerLength (new headerLength) [] [] where
  header := rfl
  collects := ⟨rfl, by simp⟩
  holds := ⟨rfl, rfl, rfl⟩

/-! ## Complete frames -/

/-- The fields a complete frame leaves alone. -/
structure SameBuffering (parser other : PacketParser) : Prop where
  buffer : parser.buffer = other.buffer
  bufferLength : parser.bufferLength = other.bufferLength
  packetHeaderLength : parser.packetHeaderLength = other.packetHeaderLength
  execute : parser.execute = other.execute

theorem completeFrame_sameBuffering (parser : PacketParser) (sequenceId : Nat)
    (packet : Packet) (part : Bytes) :
    SameBuffering (parser.completeFrame sequenceId packet part).1 parser := by
  unfold completeFrame flushLargePacket
  split
  · exact ⟨rfl, rfl, rfl, rfl⟩
  · dsimp only
    split <;> exact ⟨rfl, rfl, rfl, rfl⟩

/-- The sequence id of a run is the remembered one, or the new frame's when
nothing was collected before. -/
private theorem Collects.first_eq {parser : PacketParser} {unfinished : List Frame}
    (collects : parser.Collects unfinished) (frame : Frame) :
    (if parser.largePacketParts = [] then frame.sequenceId
      else parser.firstPacketSequenceId) =
      (((unfinished ++ [frame]).head?.map Frame.sequenceId).getD 0) := by
  cases unfinished with
  | nil => simp [collects.parts]
  | cons first rest =>
      have firstEq := collects.firstId first (by simp)
      simp [collects.parts, firstEq]

private theorem payload_zeros_append (headerLength : HeaderLength) (sequenceId count : Nat)
    (body : Bytes) :
    Packet.payload
        { Packet.new sequenceId (List.replicate headerLength.val 0 ++ body) 0
            (List.replicate headerLength.val 0 ++ body).length with numPackets := count }
        headerLength.val = body := by
  simp [Packet.payload, Packet.new, slice]

private theorem unread_zeros_append (headerLength : HeaderLength) (sequenceId count : Nat)
    (body : Bytes) :
    Packet.unread
        { Packet.new sequenceId (List.replicate headerLength.val 0 ++ body) 0
            (List.replicate headerLength.val 0 ++ body).length with numPackets := count } =
      List.replicate (headerLength.val - 4) 0 ++ body := by
  have headerGe := headerLength_ge headerLength
  unfold Packet.unread Packet.new slice
  rw [List.drop_append_of_le_length (by rw [List.length_replicate]; omega),
    List.drop_replicate, List.take_of_length_le]
  simp
  omega

/-- A complete frame continues the unfinished run or ends a packet, as in the
reference framing. -/
theorem completeFrame_refines (parser : PacketParser) (frame : Frame) (packet : Packet)
    {unfinished : List Frame} (collects : parser.Collects unfinished)
    (lengthEq : frame.body.length = parser.length)
    (lengthLe : parser.length ≤ MAX_PACKET_LENGTH)
    (deliveryEq : delivery parser.packetHeaderLength packet = ⟨frame.sequenceId, 1, frame.body⟩) :
    let completed := parser.completeFrame frame.sequenceId packet frame.body
    let joined := joinFrames unfinished [frame]
    SameBuffering completed.1 parser ∧ completed.1.Collects joined.2 ∧
      completed.2.map (delivery parser.packetHeaderLength) = joined.1 ∧
      completed.2.map Packet.unread =
        joinUnread parser.packetHeaderLength unfinished [(frame, packet.unread)] := by
  refine ⟨completeFrame_sameBuffering _ _ _ _, ?_⟩
  by_cases maximal : parser.length < MAX_PACKET_LENGTH
  · rw [joinFrames_shorter (by omega)]
    by_cases nothing : parser.largePacketParts = []
    · have unfinishedEq : unfinished = [] :=
        List.map_eq_nil_iff.mp (collects.parts.symm.trans nothing)
      subst unfinishedEq
      rw [completeFrame, if_pos ⟨maximal, nothing⟩]
      refine ⟨⟨by simpa using nothing, by simp⟩, ?_, ?_⟩
      · simp [deliveryEq, Delivery.ofFrames]
      · rw [joinUnread_shorter (by dsimp only; omega), if_pos rfl, List.map_singleton]
    · rw [completeFrame, if_neg (by simp [nothing])]
      dsimp only
      rw [if_pos maximal, collects.first_eq frame]
      refine ⟨⟨rfl, by simp⟩, ?_, ?_⟩
      · simp only [flushLargePacket, List.map_cons, List.map_nil, delivery]
        rw [payload_zeros_append]
        simp [Delivery.ofFrames, Packet.new, collects.parts, List.flatMap_def]
      · have unfinishedNonempty : unfinished ≠ [] := by
          rintro rfl
          exact nothing collects.parts
        rw [joinUnread_shorter (by dsimp only; omega), if_neg unfinishedNonempty]
        simp only [flushLargePacket, List.map_cons, List.map_nil]
        rw [unread_zeros_append]
        simp [collects.parts, List.flatMap_def]
  · have maximalEq : frame.body.length = MAX_PACKET_LENGTH := by omega
    rw [joinFrames_maximal maximalEq, completeFrame, if_neg (by simp [maximal])]
    dsimp only
    rw [if_neg maximal, collects.first_eq frame]
    refine ⟨⟨by simp [collects.parts], ?_⟩, rfl, (joinUnread_maximal maximalEq _ _).symm⟩
    intro first firstMem
    simp only [Option.mem_def] at firstMem
    simp [firstMem]

/-! ## Between frames -/

/-- A parser that stands for an empty tail, apart from its mode. -/
private theorem Holds.start_iff {parser : PacketParser} (between : parser.execute = .executeStart)
    (tail : Bytes) :
    parser.Holds tail ↔ tail = [] ∧ parser.buffer = [] ∧ parser.bufferLength = 0 := by
  rw [Holds, between]

private theorem byteAt_zero_drop (bytes : Bytes) (count : Nat) :
    byteAt (bytes.drop count) 0 = byteAt bytes count := by
  rw [byteAt_drop, Nat.add_zero]

private theorem drop_eq_cons {bytes : Bytes} {count : Nat} (inside : count < bytes.length) :
    bytes.drop count = bytes[count] :: bytes.drop (count + 1) :=
  List.drop_eq_getElem_cons inside

private theorem byteAt_eq_getElem {bytes : Bytes} {index : Nat} (inside : index < bytes.length) :
    byteAt bytes index = bytes[index].toNat := by
  simp [byteAt, List.getD_eq_getElem?_getD, List.getElem?_eq_getElem inside]

private theorem slice_to_end (bytes : Bytes) (first : Nat) :
    slice bytes first bytes.length = bytes.drop first :=
  List.take_of_length_le (Nat.le_of_eq List.length_drop)

/-- Without a complete frame nothing is delivered. -/
theorem StepRefines.none {headerLength : HeaderLength} {stream : Bytes}
    {unfinished : List Frame} {parser : PacketParser}
    (readEq : (frameReader headerLength).read stream = none)
    (represents : Represents headerLength parser stream unfinished) :
    StepRefines headerLength stream unfinished (parser, []) := by
  rw [StepRefines, FrameReader.deframe_of_read_none _ readEq,
    FrameReader.deframe_of_read_none _ (fullReader_read_none readEq)]
  exact ⟨represents, rfl, rfl⟩

/-- A complete frame in front of a stream, then the stream behind it. -/
theorem StepRefines.cons {headerLength : HeaderLength} {stream rest : Bytes} {frame : Frame}
    {unfinished : List Frame} {packets : List Packet} {later : PacketParser × List Packet}
    (readEq : readFrame headerLength stream = some (frame, rest))
    (delivered : packets.map (delivery headerLength) = (joinFrames unfinished [frame]).1)
    (presented : packets.map Packet.unread =
      joinUnread headerLength unfinished [(frame, behindId headerLength stream frame)])
    (laterRefines : StepRefines headerLength rest (joinFrames unfinished [frame]).2 later) :
    StepRefines headerLength stream unfinished (later.1, packets ++ later.2) := by
  rw [StepRefines, (frameReader headerLength).deframe_of_read_some readEq, joinFrames_cons,
    (fullReader headerLength).deframe_of_read_some (fullReader_read_some readEq),
    joinUnread_cons]
  refine ⟨laterRefines.1, ?_, ?_⟩
  · rw [List.map_append, delivered, laterRefines.2.1]
  · rw [List.map_append, presented, laterRefines.2.2]

/-- A complete frame with nothing behind it. -/
theorem StepRefines.last {headerLength : HeaderLength} {stream : Bytes} {frame : Frame}
    {unfinished : List Frame} {packets : List Packet} {parser : PacketParser}
    (readEq : readFrame headerLength stream = some (frame, []))
    (delivered : packets.map (delivery headerLength) = (joinFrames unfinished [frame]).1)
    (presented : packets.map Packet.unread =
      joinUnread headerLength unfinished [(frame, behindId headerLength stream frame)])
    (represents : Represents headerLength parser [] (joinFrames unfinished [frame]).2) :
    StepRefines headerLength stream unfinished (parser, packets) := by
  have nothingRefines : StepRefines headerLength [] (joinFrames unfinished [frame]).2
      (parser, []) :=
    StepRefines.none (frameReader_read_short (by simp)) represents
  simpa using StepRefines.cons readEq delivered presented nothingRefines

theorem executeStartFrom_refines {headerLength : HeaderLength} (chunk : Bytes) (start : Nat)
    {parser : PacketParser} {unfinished : List Frame} (inside : start ≤ chunk.length)
    (represents : Represents headerLength parser [] unfinished)
    (between : parser.execute = .executeStart) :
    StepRefines headerLength (chunk.drop start) unfinished
      (parser.executeStartFrom chunk start) := by
  induction remaining : chunk.length - start using Nat.strongRecOn
    generalizing headerLength parser unfinished start with
  | _ count ih =>
      obtain ⟨rfl, collects, holds⟩ := represents
      obtain ⟨_, bufferEq, bufferLengthEq⟩ := (Holds.start_iff between []).mp holds
      have headerGe := headerLength_ge parser.packetHeaderLength
      have maximalLength := frameLength_le (chunk.drop start)
      have dropLength : (chunk.drop start).length = chunk.length - start := List.length_drop
      rw [executeStartFrom]
      dsimp only
      rw [readPacketLength_eq_frameLength]
      by_cases threeBytes : chunk.length - start ≥ 3
      · rw [if_pos threeBytes]
        by_cases complete : chunk.length - start ≥
            frameLength (chunk.drop start) + parser.packetHeaderLength.val
        · rw [if_pos complete]
          have completeRead : parser.packetHeaderLength.val + frameLength (chunk.drop start) ≤
              (chunk.drop start).length := by omega
          have readEq := readFrame_eq_some completeRead
          rw [byteAt_drop, slice_drop, List.drop_drop, ← Nat.add_assoc] at readEq
          have lengthEq : (slice chunk (start + parser.packetHeaderLength.val)
              (start + parser.packetHeaderLength.val + frameLength (chunk.drop start))).length =
              frameLength (chunk.drop start) := by
            rw [length_slice] <;> omega
          obtain ⟨same, collected, delivered, presented⟩ := completeFrame_refines
            { parser with length := frameLength (chunk.drop start) }
            ⟨byteAt chunk (start + 3), slice chunk (start + parser.packetHeaderLength.val)
              (start + parser.packetHeaderLength.val + frameLength (chunk.drop start))⟩
            { sequenceId := byteAt chunk (start + 3)
              numPackets := 1
              buffer := chunk
              start := start
              offset := start + 4
              endOffset := start + parser.packetHeaderLength.val +
                frameLength (chunk.drop start) }
            ⟨collects.parts, collects.firstId⟩ lengthEq maximalLength rfl
          have unreadEq : behindId parser.packetHeaderLength (chunk.drop start)
              ⟨byteAt chunk (start + 3), slice chunk (start + parser.packetHeaderLength.val)
                (start + parser.packetHeaderLength.val + frameLength (chunk.drop start))⟩ =
              slice chunk (start + 4) (start + parser.packetHeaderLength.val +
                frameLength (chunk.drop start)) := by
            rw [behindId, slice_drop, lengthEq, Nat.add_assoc start]
          rw [← Nat.add_assoc]
          apply StepRefines.cons readEq delivered (by rw [unreadEq]; exact presented)
          apply ih (chunk.length - (start + parser.packetHeaderLength.val +
            frameLength (chunk.drop start))) (by omega) _ (by omega) _ _ rfl
          · exact ⟨same.packetHeaderLength, collected, (Holds.start_iff
              (same.execute.trans between) []).mpr
                ⟨rfl, same.buffer.trans bufferEq, same.bufferLength.trans bufferLengthEq⟩⟩
          · exact same.execute.trans between
        · rw [if_neg complete]
          have readEq : (frameReader parser.packetHeaderLength).read (chunk.drop start) = none :=
            readFrame_eq_none (Or.inr (by omega))
          apply StepRefines.none readEq
          refine ⟨rfl, ⟨collects.parts, collects.firstId⟩, ?_⟩
          refine ⟨chunk[start], chunk[start + 1], chunk[start + 2], ?_, ?_, ?_, ?_⟩
          · rw [drop_eq_cons (by omega), drop_eq_cons (by omega), drop_eq_cons (by omega),
              slice_to_end]
            simp
          · simp only [frameLength, byteAt_drop, Nat.add_zero]
            rw [byteAt_eq_getElem, byteAt_eq_getElem, byteAt_eq_getElem]
          · rw [slice_to_end]
            simp
            omega
          · dsimp only
            omega
      · rw [if_neg threeBytes]
        have readEq : (frameReader parser.packetHeaderLength).read (chunk.drop start) = none :=
          readFrame_eq_none (Or.inl (by omega))
        by_cases someBytes : chunk.length - start > 0
        · rw [if_pos someBytes]
          by_cases twoBytes : chunk.length - start = 2
          · rw [if_pos twoBytes]
            apply StepRefines.none readEq
            refine ⟨rfl, ⟨collects.parts, collects.firstId⟩, ?_⟩
            refine ⟨chunk[start], chunk[start + 1], ?_, ?_, bufferEq, bufferLengthEq⟩
            · rw [drop_eq_cons (by omega), drop_eq_cons (by omega), List.drop_of_length_le]
              omega
            · dsimp only
              rw [byteAt_eq_getElem (by omega), byteAt_eq_getElem (by omega), Nat.shiftLeft_eq]
              omega
          · rw [if_neg twoBytes]
            apply StepRefines.none readEq
            refine ⟨rfl, ⟨collects.parts, collects.firstId⟩, ?_⟩
            refine ⟨chunk[start], ?_, byteAt_eq_getElem (by omega), bufferEq, bufferLengthEq⟩
            rw [drop_eq_cons (by omega), List.drop_of_length_le]
            omega
        · rw [if_neg someBytes]
          have dropEq : chunk.drop start = [] := List.drop_of_length_le (by omega)
          rw [dropEq] at readEq ⊢
          exact StepRefines.none readEq ⟨rfl, collects, holds⟩

/-! ## Inside a frame -/

private theorem slice_slice (bytes : Bytes) {first last from' to' : Nat}
    (inside : first + to' ≤ last) :
    slice (slice bytes first last) from' to' = slice bytes (first + from') (first + to') := by
  unfold slice
  rw [List.drop_take, List.take_take, List.drop_drop]
  congr 1
  omega

/-- Behind its three length bytes, a frame of the stream is read from any
buffer that has the same bytes there. -/
private theorem readFrame_of_joined (headerLength : HeaderLength) (stream joined : Bytes)
    (complete : headerLength.val + frameLength stream ≤ stream.length)
    (joinedEq : joined.drop 3 = slice stream 3 (headerLength.val + frameLength stream)) :
    readFrame headerLength stream =
      some (⟨byteAt joined 3,
        slice joined headerLength.val (headerLength.val + frameLength stream)⟩,
        stream.drop (headerLength.val + frameLength stream)) := by
  have headerGe := headerLength_ge headerLength
  obtain ⟨behind, behindEq⟩ := Nat.exists_eq_add_of_le (show 3 ≤ headerLength.val by omega)
  have idEq : byteAt joined 3 = byteAt stream 3 := by
    rw [← byteAt_zero_drop, joinedEq, slice, ← byteAt_zero_drop stream 3, byteAt, byteAt,
      List.getD_eq_getElem?_getD, List.getD_eq_getElem?_getD, List.getElem?_take_of_lt (by omega)]
  have bodyEq : slice joined headerLength.val (headerLength.val + frameLength stream) =
      slice stream headerLength.val (headerLength.val + frameLength stream) := by
    rw [behindEq, Nat.add_assoc, ← slice_drop, joinedEq, slice_slice _ (by omega)]
  rw [readFrame_eq_some complete, idEq, bodyEq]

theorem executePayload_refines {headerLength : HeaderLength} {parser : PacketParser}
    {unfinished : List Frame} (tail chunk : Bytes)
    (represents : Represents headerLength parser tail unfinished)
    (inside : parser.execute = .executePayload) :
    StepRefines headerLength (tail ++ chunk) unfinished (parser.executePayload chunk) := by
  obtain ⟨rfl, collects, holds⟩ := represents
  rw [Holds, inside] at holds
  obtain ⟨b0, b1, b2, rfl, lengthEq, bufferLengthEq, incomplete⟩ := holds
  have headerGe := headerLength_ge parser.packetHeaderLength
  have streamLength : frameLength (b0 :: b1 :: b2 :: parser.buffer.flatten ++ chunk) =
      parser.length := by
    rw [lengthEq]
    rfl
  have maximalLength := frameLength_le (b0 :: b1 :: b2 :: parser.buffer.flatten ++ chunk)
  have joinedLength : (b0 :: b1 :: b2 :: parser.buffer.flatten ++ chunk).length =
      3 + parser.bufferLength + chunk.length := by
    rw [bufferLengthEq, List.length_append]
    simp only [List.length_cons]
    omega
  have incompleteLength : 3 + parser.bufferLength <
      parser.packetHeaderLength.val + parser.length := by
    rw [bufferLengthEq]
    simp only [List.length_cons] at incomplete
    omega
  rw [executePayload]
  dsimp only
  by_cases complete : chunk.length ≥
      parser.length + parser.packetHeaderLength.val - 3 - parser.bufferLength
  · rw [if_pos complete]
    generalize remainingEq :
      parser.length + parser.packetHeaderLength.val - 3 - parser.bufferLength = remaining
      at complete ⊢
    generalize joinedEq : [0, 0, 0] ++ parser.buffer.flatten ++ slice chunk 0 remaining = joined
    have remainingTaken : parser.packetHeaderLength.val + parser.length - 3 =
        parser.buffer.flatten.length + remaining := by omega
    have sameBehind : joined.drop 3 =
        slice (b0 :: b1 :: b2 :: parser.buffer.flatten ++ chunk) 3
          (parser.packetHeaderLength.val + parser.length) := by
      rw [slice, remainingTaken, ← joinedEq]
      change parser.buffer.flatten ++ slice chunk 0 remaining =
        List.take _ (parser.buffer.flatten ++ chunk)
      rw [List.take_length_add_append]
      rfl
    have readEq := readFrame_of_joined parser.packetHeaderLength
      (b0 :: b1 :: b2 :: parser.buffer.flatten ++ chunk) joined (by omega)
      (by rw [streamLength]; exact sameBehind)
    have restEq : (b0 :: b1 :: b2 :: parser.buffer.flatten ++ chunk).drop
        (parser.packetHeaderLength.val + parser.length) = chunk.drop remaining := by
      have dropped : parser.packetHeaderLength.val + parser.length =
          (b0 :: b1 :: b2 :: parser.buffer.flatten).length + remaining := by
        simp only [List.length_cons]
        omega
      rw [dropped, List.drop_length_add_append]
    rw [streamLength, restEq] at readEq
    have joinedLong : parser.packetHeaderLength.val + parser.length ≤ joined.length := by
      have behindLength := congrArg List.length sameBehind
      rw [length_slice (by omega), List.length_drop] at behindLength
      omega
    have unreadEq : behindId parser.packetHeaderLength
        (b0 :: b1 :: b2 :: parser.buffer.flatten ++ chunk)
        ⟨byteAt joined 3, slice joined parser.packetHeaderLength.val
          (parser.packetHeaderLength.val + parser.length)⟩ =
        slice joined 4 (parser.length + parser.packetHeaderLength.val) := by
      obtain ⟨behind, behindEq⟩ := Nat.exists_eq_add_of_le
        (show 3 ≤ parser.packetHeaderLength.val + parser.length by omega)
      rw [behindId, length_slice joinedLong, Nat.add_sub_cancel_left,
        Nat.add_comm parser.length, behindEq, show (4 : Nat) = 3 + 1 from rfl, ← slice_drop joined, sameBehind, behindEq,
        slice_slice _ (Nat.le_refl _)]
    obtain ⟨same, collected, delivered, presented⟩ := completeFrame_refines parser
      ⟨byteAt joined 3, slice joined parser.packetHeaderLength.val
        (parser.packetHeaderLength.val + parser.length)⟩
      { sequenceId := byteAt joined 3
        numPackets := 1
        buffer := joined
        start := 0
        offset := 4
        endOffset := parser.length + parser.packetHeaderLength.val }
      collects (by rw [length_slice joinedLong]; omega)
      (by rw [← streamLength]; exact maximalLength)
      (by simp [delivery, Packet.payload, Nat.add_comm])
    rw [Packet.unread] at presented
    dsimp only at presented
    rw [← unreadEq] at presented
    by_cases leftover : chunk.length - remaining > 0
    · rw [if_pos leftover, slice_to_end]
      apply StepRefines.cons readEq delivered presented
      apply executeStartFrom_refines (chunk.drop remaining) 0 (Nat.zero_le _) _ rfl
      exact ⟨same.packetHeaderLength, ⟨collected.parts, collected.firstId⟩, rfl, rfl, rfl⟩
    · rw [if_neg leftover]
      have nothingLeft : chunk.drop remaining = [] := List.drop_of_length_le (by omega)
      rw [nothingLeft] at readEq
      apply StepRefines.last readEq delivered presented
      exact ⟨same.packetHeaderLength, ⟨collected.parts, collected.firstId⟩, rfl, rfl, rfl⟩
  · rw [if_neg complete]
    have readEq : (frameReader parser.packetHeaderLength).read
        (b0 :: b1 :: b2 :: parser.buffer.flatten ++ chunk) = none :=
      readFrame_eq_none (Or.inr (by omega))
    apply StepRefines.none readEq
    refine ⟨rfl, ⟨collects.parts, collects.firstId⟩, ?_⟩
    rw [Holds]
    dsimp only
    rw [inside]
    refine ⟨b0, b1, b2, ?_, lengthEq, ?_, ?_⟩
    · simp
    · simp [bufferLengthEq]
    · omega

/-! ## Inside the length bytes -/

/-- The state behind the three length bytes. -/
private theorem represents_lengthBytes {headerLength : HeaderLength} {parser : PacketParser}
    {unfinished : List Frame} (headerEq : parser.packetHeaderLength = headerLength)
    (collects : parser.Collects unfinished) (bufferEq : parser.buffer = [])
    (bufferLengthEq : parser.bufferLength = 0) (inside : parser.execute = .executePayload)
    {b0 b1 b2 : UInt8}
    (lengthEq : parser.length = b0.toNat + 256 * b1.toNat + 65536 * b2.toNat) :
    Represents headerLength parser [b0, b1, b2] unfinished := by
  have headerGe := headerLength_ge parser.packetHeaderLength
  refine ⟨headerEq, collects, ?_⟩
  rw [Holds, inside]
  refine ⟨b0, b1, b2, by rw [bufferEq]; rfl, lengthEq, by rw [bufferLengthEq, bufferEq]; rfl, ?_⟩
  change 3 < _
  omega

theorem executeHeader3_refines {headerLength : HeaderLength} {parser : PacketParser}
    {tail : Bytes} {unfinished : List Frame} {chunk : Bytes} (nonempty : chunk ≠ [])
    (represents : Represents headerLength parser tail unfinished)
    (inside : parser.execute = .executeHeader3) :
    StepRefines headerLength (tail ++ chunk) unfinished (parser.executeHeader3 chunk) := by
  obtain ⟨rfl, collects, holds⟩ := represents
  rw [Holds, inside] at holds
  obtain ⟨b0, b1, rfl, lengthEq, bufferEq, bufferLengthEq⟩ := holds
  obtain ⟨b2, rest, rfl⟩ := List.exists_cons_of_ne_nil nonempty
  have byteEq : byteAt (b2 :: rest) 0 = b2.toNat := rfl
  have streamEq : [b0, b1] ++ b2 :: rest = [b0, b1, b2] ++ rest := rfl
  rw [executeHeader3, byteEq, Nat.shiftLeft_eq, Nat.mul_comm b2.toNat, List.drop_one,
    List.tail_cons, streamEq]
  apply executePayload_refines [b0, b1, b2] rest _ rfl
  apply represents_lengthBytes
  · rfl
  · exact ⟨collects.parts, collects.firstId⟩
  · exact bufferEq
  · exact bufferLengthEq
  · rfl
  · exact congrArg (· + 2 ^ 16 * b2.toNat) lengthEq

theorem executeHeader2_refines {headerLength : HeaderLength} {parser : PacketParser}
    {tail : Bytes} {unfinished : List Frame} {chunk : Bytes} (nonempty : chunk ≠ [])
    (represents : Represents headerLength parser tail unfinished)
    (inside : parser.execute = .executeHeader2) :
    StepRefines headerLength (tail ++ chunk) unfinished (parser.executeHeader2 chunk) := by
  obtain ⟨rfl, collects, holds⟩ := represents
  rw [Holds, inside] at holds
  obtain ⟨b0, rfl, lengthEq, bufferEq, bufferLengthEq⟩ := holds
  obtain ⟨b1, rest, rfl⟩ := List.exists_cons_of_ne_nil nonempty
  have byteEq : byteAt (b1 :: rest) 0 = b1.toNat := rfl
  have twoBytes : parser.length + 2 ^ 8 * b1.toNat = b0.toNat + 256 * b1.toNat := by
    omega
  rw [executeHeader2, byteEq, Nat.shiftLeft_eq, Nat.mul_comm b1.toNat, twoBytes]
  cases rest with
  | nil =>
      apply StepRefines.none (frameReader_read_short (by simp))
      exact ⟨rfl, ⟨collects.parts, collects.firstId⟩, b0, b1, rfl, rfl, bufferEq,
        bufferLengthEq⟩
  | cons b2 rest =>
      have byteEq : byteAt (b1 :: b2 :: rest) 1 = b2.toNat := rfl
      have streamEq : [b0] ++ b1 :: b2 :: rest = [b0, b1, b2] ++ rest := rfl
      rw [if_pos (by simp), byteEq, Nat.shiftLeft_eq, Nat.mul_comm b2.toNat, streamEq]
      apply executePayload_refines [b0, b1, b2] rest _ rfl
      apply represents_lengthBytes
      · rfl
      · exact ⟨collects.parts, collects.firstId⟩
      · exact bufferEq
      · exact bufferLengthEq
      · rfl
      · rfl

/-- One call of `execute` on a non-empty chunk. -/
theorem executeChunk_refines {headerLength : HeaderLength} {parser : PacketParser}
    {tail : Bytes} {unfinished : List Frame} {chunk : Bytes} (nonempty : chunk ≠ [])
    (represents : Represents headerLength parser tail unfinished) :
    StepRefines headerLength (tail ++ chunk) unfinished (parser.executeChunk chunk) := by
  unfold executeChunk
  cases modeEq : parser.execute with
  | executeStart =>
      have tailEq : tail = [] := ((Holds.start_iff modeEq tail).mp represents.holds).1
      subst tailEq
      exact executeStartFrom_refines chunk 0 (Nat.zero_le _) represents modeEq
  | executePayload => exact executePayload_refines tail chunk represents modeEq
  | executeHeader2 => exact executeHeader2_refines nonempty represents modeEq
  | executeHeader3 => exact executeHeader3_refines nonempty represents modeEq

/-! ## Runs over chunks -/

/-- From a state that stands for a tail without a complete frame, the chunks
together deliver what the reference framing delivers on the whole stream. -/
theorem run_executeChunk_refines {headerLength : HeaderLength} {chunks : List Bytes}
    (nonempty : ∀ chunk ∈ chunks, chunk ≠ []) {parser : PacketParser} {tail : Bytes}
    {unfinished : List Frame} (represents : Represents headerLength parser tail unfinished)
    (incomplete : (frameReader headerLength).read tail = none) :
    StepRefines headerLength (tail ++ chunks.flatten) unfinished
      (run executeChunk parser chunks) := by
  induction chunks generalizing parser tail unfinished with
  | nil =>
      rw [List.flatten_nil, List.append_nil]
      exact StepRefines.none incomplete represents
  | cons chunk chunks ih =>
      obtain ⟨afterRepresents, delivered, presented⟩ :=
        executeChunk_refines (nonempty chunk List.mem_cons_self) represents
      have later := ih (fun other otherMem => nonempty other (List.mem_cons_of_mem chunk otherMem))
        afterRepresents ((frameReader headerLength).read_deframe_tail (tail ++ chunk))
      have sameTail : ((fullReader headerLength).deframe (tail ++ chunk)).2 =
          ((frameReader headerLength).deframe (tail ++ chunk)).2 := by
        rw [deframe_fullReader]
      have sameFrames :
          ((fullReader headerLength).deframe (tail ++ chunk)).1.map Prod.fst =
            ((frameReader headerLength).deframe (tail ++ chunk)).1 := by
        rw [deframe_fullReader]
      rw [run_cons, List.flatten_cons, ← List.append_assoc, StepRefines,
        (frameReader headerLength).deframe_append, joinFrames_append,
        (fullReader headerLength).deframe_append, joinUnread_append, sameTail, sameFrames]
      refine ⟨later.1, ?_, ?_⟩
      · rw [List.map_append, delivered, later.2.1]
      · rw [List.map_append, presented, later.2.2]

/-- However a stream is cut into non-empty chunks, the parser delivers the
packets of the reference framing, keeps the bytes of the incomplete frame, and
keeps the bodies of the unfinished run of maximal frames. -/
theorem run_executeChunk_eq_framing (headerLength : HeaderLength) (chunks : List Bytes)
    (nonempty : ∀ chunk ∈ chunks, chunk ≠ []) :
    let result := run executeChunk (new headerLength) chunks
    let reference := framing headerLength chunks.flatten
    result.2.map (delivery headerLength) = reference.packets ∧
      result.1.retained = reference.tail ∧ result.1.Collects reference.unfinished := by
  obtain ⟨represents, delivered, _⟩ := run_executeChunk_refines nonempty
    (represents_new headerLength) (frameReader_read_short (by simp))
  rw [List.nil_append] at represents delivered
  exact ⟨delivered, represents.holds.retained_eq, represents.collects⟩

/-- A packet cut inside its length bytes and inside its payload. -/
theorem run_executeChunk_eq_framing_cut :
    let result := run executeChunk (new ⟨4, Or.inl rfl⟩) [[2, 0], [0, 5, 42], [43, 1]]
    let reference := framing ⟨4, Or.inl rfl⟩ [2, 0, 0, 5, 42, 43, 1]
    result.2.map (delivery ⟨4, Or.inl rfl⟩) = reference.packets ∧
      result.1.retained = reference.tail ∧ result.1.Collects reference.unfinished :=
  run_executeChunk_eq_framing ⟨4, Or.inl rfl⟩ [[2, 0], [0, 5, 42], [43, 1]] (by decide)

end PacketParser

end Mysql2.Parser

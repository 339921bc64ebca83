import Mysql2.Connection.Frames

/-!
# Packets from one connection to another

What the parser of the receiver delivers of the packets that a connection writes one
after the other, however the socket cuts the bytes into chunks.
-/

namespace Mysql2.Connection

open Mysql2.Packets
open Mysql2.Parser
open Mysql2.Transition

/-- Write packets one after the other. -/
def writePackets (wire : Wire) (packets : List Packet) : Wire :=
  packets.foldl writePacket wire

/-- The bytes behind the header of a packet that fills its buffer. -/
def payloadOf (packet : Packet) : Bytes :=
  packet.buffer.drop 4

/-- What arrives of one payload: a packet with the payload, and an empty packet behind
it if one, two or three bytes are missing to fill the last frame. -/
def payloadArrivals (sequenceId : Nat) (payload : Bytes) : List Delivery :=
  ⟨sequenceId, payload.length / MAX_PACKET_LENGTH + 1, payload⟩ ::
    if payload.length % MAX_PACKET_LENGTH ≤ MAX_PACKET_LENGTH - 4 then
      []
    else
      [⟨(sequenceId + (payload.length / MAX_PACKET_LENGTH + 1)) % 256, 1, []⟩]

/-- The sequence id behind packets. -/
def behindArrivals (sequenceId : Nat) (arrived : List Delivery) : Nat :=
  (sequenceId + (arrived.map Delivery.numPackets).sum) % 256

/-- What arrives of payloads that are sent one after the other. -/
def allArrivals : Nat → List Bytes → List Delivery
  | _, [] => []
  | sequenceId, payload :: payloads =>
      payloadArrivals sequenceId payload ++
        allArrivals (behindArrivals sequenceId (payloadArrivals sequenceId payload)) payloads

/-- The frames of payloads that are sent one after the other. -/
def allFrames : Nat → List Bytes → List Frame
  | _, [] => []
  | sequenceId, payload :: payloads =>
      payloadFrames sequenceId payload ++
        allFrames ((sequenceId + frameCount payload.length) % 256) payloads

/-! ## One payload -/

/-- The sender counts the frames that the receiver counts. -/
theorem behindArrivals_eq (sequenceId : Nat) (payload : Bytes) :
    behindArrivals sequenceId (payloadArrivals sequenceId payload) =
      (sequenceId + frameCount payload.length) % 256 := by
  rw [behindArrivals, payloadArrivals]
  by_cases residue : payload.length % MAX_PACKET_LENGTH ≤ MAX_PACKET_LENGTH - 4
  · rw [if_pos residue, (frameCount_eq_iff _).mpr residue]
    rfl
  · rw [if_neg residue, frameCount_of_residue residue]
    rfl

/-- The packet that frames around the chunks of a payload join to. -/
theorem ofFrames_numberFrames {sequenceId : Nat} (idShort : sequenceId < 256) (payload : Bytes) :
    Delivery.ofFrames (numberFrames sequenceId
        (frameChunks (payload.length / MAX_PACKET_LENGTH + 1) payload)) =
      ⟨sequenceId, payload.length / MAX_PACKET_LENGTH + 1, payload⟩ := by
  have enough : payload.length ≤ (payload.length / MAX_PACKET_LENGTH + 1) * MAX_PACKET_LENGTH :=
    Nat.le_of_lt (Nat.lt_mul_of_div_lt (Nat.lt_succ_self _) MAX_PACKET_LENGTH_pos)
  have payloadEq := payload_ofFrames (body_numberFrames sequenceId _) enough
  rw [Delivery.ofFrames] at payloadEq ⊢
  dsimp only at payloadEq
  rw [payloadEq, length_numberFrames, length_frameChunks, frameChunks, numberFrames_cons]
  simp only [List.head?_cons, Option.map_some, Option.getD_some, Nat.mod_eq_of_lt idShort]

theorem joinFrames_arrivals {sequenceId : Nat} (idShort : sequenceId < 256) (payload : Bytes) :
    joinFrames [] (payloadFrames sequenceId payload) = (payloadArrivals sequenceId payload, []) := by
  have joined := joinFrames_of_bodies (body_numberFrames sequenceId
    (frameChunks (payload.length / MAX_PACKET_LENGTH + 1) payload))
  rw [ofFrames_numberFrames idShort] at joined
  rw [payloadFrames, payloadArrivals]
  by_cases residue : payload.length % MAX_PACKET_LENGTH ≤ MAX_PACKET_LENGTH - 4
  · rw [if_pos residue, (frameCount_eq_iff _).mpr residue]
    exact joined
  · have enough : payload.length ≤
        (payload.length / MAX_PACKET_LENGTH + 1) * MAX_PACKET_LENGTH :=
      Nat.le_of_lt (Nat.lt_mul_of_div_lt (Nat.lt_succ_self _) MAX_PACKET_LENGTH_pos)
    have empty : (⟨(sequenceId + (payload.length / MAX_PACKET_LENGTH + 1)) % 256, []⟩ :
        Frame).body.length ≠ MAX_PACKET_LENGTH := Nat.ne_of_lt MAX_PACKET_LENGTH_pos
    rw [if_neg residue, frameCount_of_residue residue, frameChunks_succ_of_le enough]
    rw [numberFrames, List.mapIdx_concat, length_frameChunks, ← numberFrames, joinFrames_append,
      joined, joinFrames_shorter empty]
    rfl

/-! ## Many payloads -/

theorem joinFrames_allArrivals {sequenceId : Nat} (idShort : sequenceId < 256)
    (payloads : List Bytes) :
    joinFrames [] (allFrames sequenceId payloads) = (allArrivals sequenceId payloads, []) := by
  induction payloads generalizing sequenceId with
  | nil => rfl
  | cons payload payloads ih =>
      have nextShort : (sequenceId + frameCount payload.length) % 256 < 256 :=
        Nat.mod_lt _ (by decide)
      rw [allFrames, allArrivals, joinFrames_append, joinFrames_arrivals idShort,
        behindArrivals_eq, ih nextShort]

theorem deframe_allFrames (sequenceId : Nat) (payloads : List Bytes) :
    (frameReader plainHeader).deframe ((allFrames sequenceId payloads).flatMap encodeFrame) =
      (allFrames sequenceId payloads, []) := by
  have short : ∀ frame ∈ allFrames sequenceId payloads,
      frame.body.length ≤ MAX_PACKET_LENGTH ∧ frame.sequenceId < 256 := by
    induction payloads generalizing sequenceId with
    | nil => exact fun _ member => absurd member List.not_mem_nil
    | cons payload payloads ih =>
        intro frame member
        rcases List.mem_append.mp member with isFirst | isLater
        · exact ⟨length_le_of_mem_frameChunks (mem_numberFrames isFirst).2,
            (mem_numberFrames isFirst).1⟩
        · exact ih _ frame isLater
  refine deframe_encodeFrames (fun frame member => ?_) fun frame member => (short frame member).2
  have bound := (short frame member).1
  rw [MAX_PACKET_LENGTH_eq] at bound
  omega

theorem writePackets_written {packets : List Packet}
    (fills : ∀ packet ∈ packets, FillsBuffer packet) (wire : Wire)
    (idShort : wire.sequenceId < 256) :
    (writePackets wire packets).written.flatten = wire.written.flatten ++
      (allFrames wire.sequenceId (packets.map payloadOf)).flatMap encodeFrame := by
  induction packets generalizing wire with
  | nil => exact (List.append_nil _).symm
  | cons packet packets ih =>
      have ⟨fillsFirst, fillsOthers⟩ := List.forall_mem_cons.mp fills
      obtain ⟨written, nextId⟩ := writePacket_eq fillsFirst wire idShort
      have nextShort : (writePacket wire packet).sequenceId < 256 := by
        rw [nextId]
        exact Nat.mod_lt _ (by decide)
      rw [List.map_cons, allFrames, List.flatMap_append, ← List.append_assoc]
      change (writePackets (writePacket wire packet) packets).written.flatten = _
      rw [ih fillsOthers _ nextShort, nextId, written]
      rfl

/-! ## The receiver -/

/-- The receiver has got the packets in order, and when all bytes have arrived it has
got them all and keeps nothing. -/
structure ArriveInOrder (sequenceId : Nat) (payloads : List Bytes) (stream : Bytes)
    (chunks : List Bytes) : Prop where
  beginning : (run PacketParser.executeChunk (.new plainHeader) chunks).2.map
    (delivery plainHeader) <+: allArrivals sequenceId payloads
  complete : chunks.flatten = stream →
    (run PacketParser.executeChunk (.new plainHeader) chunks).2.map (delivery plainHeader) =
        allArrivals sequenceId payloads ∧
      (run PacketParser.executeChunk (.new plainHeader) chunks).1.retained = [] ∧
      (run PacketParser.executeChunk (.new plainHeader) chunks).1.Collects []

/-- However the bytes of any packets are cut into chunks, the receiver gets the payloads
in the order in which they were written, with consecutive sequence ids; behind a
payload that is one, two or three bytes short of filling its last frame it gets an
empty packet. -/
theorem writePackets_arriveInOrder {packets : List Packet}
    (fills : ∀ packet ∈ packets, FillsBuffer packet) {sequenceId : Nat}
    (idShort : sequenceId < 256) (compressedSequenceId : Nat) {chunks : List Bytes}
    (nonempty : ∀ chunk ∈ chunks, chunk ≠ [])
    (isBeginning : chunks.flatten <+:
      (writePackets ⟨sequenceId, compressedSequenceId, []⟩ packets).written.flatten) :
    ArriveInOrder sequenceId (packets.map payloadOf)
      (writePackets ⟨sequenceId, compressedSequenceId, []⟩ packets).written.flatten chunks := by
  have written := writePackets_written fills ⟨sequenceId, compressedSequenceId, []⟩ idShort
  rw [List.flatten_nil, List.nil_append] at written
  obtain ⟨delivered, retained, collects⟩ :=
    PacketParser.run_executeChunk_eq_framing plainHeader chunks nonempty
  have whole : framing plainHeader
      (writePackets ⟨sequenceId, compressedSequenceId, []⟩ packets).written.flatten =
        ⟨allArrivals sequenceId (packets.map payloadOf), [], []⟩ := by
    rw [written, framing, deframe_allFrames, joinFrames_allArrivals idShort]
  constructor
  · obtain ⟨missing, stream⟩ := isBeginning
    rw [← stream, framing_append] at whole
    rw [delivered]
    exact ⟨_, congrArg Framing.packets whole⟩
  · intro all
    rw [all, whole] at delivered retained collects
    exact ⟨delivered, retained, collects⟩

/-- A command packet, and the packet behind it. -/
def pingAndQuery : List Packet :=
  [.new 0 [0, 0, 0, 0, 14] 0 5, .new 0 [0, 0, 0, 0, 1, 2] 0 6]

theorem writePackets_pingAndQuery :
    (writePackets ⟨255, 0, []⟩ pingAndQuery).written.flatten =
      [1, 0, 0, 255, 14, 2, 0, 0, 0, 1, 2] := by
  have short : (6 : Nat) < MAX_PACKET_LENGTH := by
    rw [MAX_PACKET_LENGTH_eq]
    decide
  simp [writePackets, pingAndQuery, writePacket, Packet.length, Packet.new, short,
    Nat.lt_trans (Nat.lt_succ_self 5) short, Wire.bumpSequenceId, Wire.write, writeHeader]
  decide

theorem writePackets_arriveInOrder_pingAndQuery :
    ArriveInOrder 255 (pingAndQuery.map payloadOf)
      (writePackets ⟨255, 0, []⟩ pingAndQuery).written.flatten
      [[1, 0], [0, 255, 14, 2], [0, 0, 0, 1, 2]] := by
  have fills : ∀ packet ∈ pingAndQuery, FillsBuffer packet := by
    intro packet member
    rcases List.mem_cons.mp member with rfl | isLast
    · exact ⟨rfl, rfl, by decide⟩
    · rw [List.mem_singleton.mp isLast]
      exact ⟨rfl, rfl, by decide⟩
  refine writePackets_arriveInOrder fills (by decide) 0 (by decide) ⟨[], ?_⟩
  rw [writePackets_pingAndQuery]
  rfl

end Mysql2.Connection

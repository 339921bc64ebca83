import Mysql2.Parser.Refinement

/-!
# Windows of delivered packets

A packet that the parser delivers has not been read, and its window lies in its buffer.
-/

namespace Mysql2.Parser

open Mysql2.Packets
open Mysql2.Transition

/-- A packet that has not been read, in a buffer that holds all of it. -/
structure IsWhole (packet : Packet) : Prop where
  unread : packet.offset = packet.start + 4
  header : packet.start + 4 ≤ packet.endOffset
  inside : packet.endOffset ≤ packet.buffer.length

namespace PacketParser

variable {parser : PacketParser} {tail : Bytes}

theorem flushLargePacket_isWhole (parser : PacketParser) :
    ∀ packet ∈ parser.flushLargePacket.2, IsWhole packet := by
  have headerGe := headerLength_ge parser.packetHeaderLength
  intro packet member
  rw [List.mem_singleton.mp member]
  refine ⟨rfl, ?_, Nat.le_refl _⟩
  show 0 + 4 ≤ (List.replicate _ _ ++ _).length
  rw [List.length_append, List.length_replicate]
  omega

theorem completeFrame_isWhole (parser : PacketParser) (sequenceId : Nat) {packet : Packet}
    (whole : IsWhole packet) (part : Bytes) :
    ∀ delivered ∈ (parser.completeFrame sequenceId packet part).2, IsWhole delivered := by
  rw [completeFrame]
  split
  · intro delivered member
    rw [List.mem_singleton.mp member]
    exact whole
  · dsimp only
    split
    · exact flushLargePacket_isWhole _
    · exact fun _ member => absurd member List.not_mem_nil

/-- The packets of a chunk lie in the chunk. -/
theorem executeStartFrom_isWhole (parser : PacketParser) (chunk : Bytes) (start : Nat) :
    ∀ packet ∈ (parser.executeStartFrom chunk start).2, IsWhole packet := by
  have nothing (packet : Packet) (member : packet ∈ ([] : List Packet)) : IsWhole packet :=
    absurd member List.not_mem_nil
  induction remaining : chunk.length - start using Nat.strongRecOn generalizing parser start with
  | _ count ih =>
      have headerGe := headerLength_ge parser.packetHeaderLength
      rw [executeStartFrom]
      dsimp only
      split
      · split
        · rename_i threeBytes complete
          intro packet member
          rcases List.mem_append.mp member with isFirst | isLater
          · exact completeFrame_isWhole _ _ ⟨rfl, by dsimp only; omega, by dsimp only; omega⟩ _
              packet isFirst
          · exact ih _ (by omega) _ _ rfl packet isLater
        · exact nothing
      · split
        · split
          · exact nothing
          · exact nothing
        · exact nothing

/-- A packet that chunks have been collected for lies in the joined chunks. -/
theorem executePayload_isWhole (bufferLengthEq : parser.bufferLength = parser.buffer.flatten.length)
    (incomplete : 3 + parser.buffer.flatten.length <
      parser.packetHeaderLength.val + parser.length) (chunk : Bytes) :
    ∀ packet ∈ (parser.executePayload chunk).2, IsWhole packet := by
  have headerGe := headerLength_ge parser.packetHeaderLength
  rw [executePayload]
  dsimp only
  split
  · rename_i complete
    have whole {sequenceId : Nat} : IsWhole
        { sequenceId := sequenceId
          numPackets := 1
          buffer := [0, 0, 0] ++ parser.buffer.flatten ++ slice chunk 0
            (parser.length + parser.packetHeaderLength.val - 3 - parser.bufferLength)
          start := 0
          offset := 4
          endOffset := parser.length + parser.packetHeaderLength.val } := by
      refine ⟨rfl, by dsimp only; omega, ?_⟩
      dsimp only
      rw [List.length_append, List.length_append, length_slice complete]
      simp only [List.length_cons, List.length_nil]
      omega
    split
    · intro packet member
      rcases List.mem_append.mp member with isFirst | isLater
      · exact completeFrame_isWhole _ _ whole _ packet isFirst
      · exact executeStartFrom_isWhole _ _ _ packet isLater
    · exact completeFrame_isWhole _ _ whole _
  · exact fun _ member => absurd member List.not_mem_nil

theorem executeChunk_isWhole (holds : parser.Holds tail) (chunk : Bytes) :
    ∀ packet ∈ (parser.executeChunk chunk).2, IsWhole packet := by
  have headerGe := headerLength_ge parser.packetHeaderLength
  -- behind the length bytes nothing has been collected
  have behindLength {length : Nat} (bufferEq : parser.buffer = [])
      (bufferLengthEq : parser.bufferLength = 0) (rest : Bytes) :
      ∀ packet ∈ (executePayload
        { parser with length := length, execute := .executePayload } rest).2, IsWhole packet := by
    refine executePayload_isWhole ?_ ?_ rest
    · rw [bufferEq]
      exact bufferLengthEq
    · rw [bufferEq]
      show 3 + 0 < parser.packetHeaderLength.val + length
      omega
  unfold executeChunk
  rw [Holds] at holds
  cases modeEq : parser.execute with
  | executeStart => exact executeStartFrom_isWhole parser chunk 0
  | executePayload =>
      rw [modeEq] at holds
      obtain ⟨b0, b1, b2, rfl, lengthEq, bufferLengthEq, incomplete⟩ := holds
      simp only [List.length_cons] at incomplete
      exact executePayload_isWhole bufferLengthEq (by omega) chunk
  | executeHeader3 =>
      rw [modeEq] at holds
      obtain ⟨b0, b1, rfl, lengthEq, bufferEq, bufferLengthEq⟩ := holds
      exact behindLength bufferEq bufferLengthEq _
  | executeHeader2 =>
      rw [modeEq] at holds
      obtain ⟨b0, rfl, lengthEq, bufferEq, bufferLengthEq⟩ := holds
      show ∀ packet ∈ (parser.executeHeader2 chunk).2, IsWhole packet
      rw [executeHeader2]
      split
      · exact behindLength bufferEq bufferLengthEq _
      · exact fun _ member => absurd member List.not_mem_nil

/-- All packets that the parser delivers in a run are whole. -/
theorem run_executeChunk_isWhole (headerLength : HeaderLength) {chunks : List Bytes}
    (nonempty : ∀ chunk ∈ chunks, chunk ≠ []) :
    ∀ packet ∈ (run executeChunk (new headerLength) chunks).2, IsWhole packet := by
  have wholeFrom {parser : PacketParser} {tail : Bytes} {unfinished : List Frame}
      (represents : Represents headerLength parser tail unfinished) :
      ∀ packet ∈ (run executeChunk parser chunks).2, IsWhole packet := by
    induction chunks generalizing parser tail unfinished with
    | nil => exact fun _ member => absurd member List.not_mem_nil
    | cons chunk chunks ih =>
        obtain ⟨first, others⟩ := List.forall_mem_cons.mp nonempty
        intro packet member
        rw [run_cons] at member
        rcases List.mem_append.mp member with isFirst | isLater
        · exact executeChunk_isWhole represents.holds chunk packet isFirst
        · exact ih others (executeChunk_refines first represents).1 packet isLater
  exact wholeFrom (represents_new headerLength)

end PacketParser

end Mysql2.Parser

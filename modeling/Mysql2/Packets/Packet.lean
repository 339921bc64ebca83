import Mathlib.Algebra.Group.Int.Defs
import Mathlib.Algebra.Ring.Nat
import Mathlib.Tactic.Common

/-!
# Packets

A packet is a window into a buffer.  The window starts with the frame header;
`offset` is the read position, which a fresh packet has behind the four header
bytes.  A buffer that comes from a socket chunk can extend beyond the window on
both sides.
-/

namespace Mysql2.Packets

/-- Contents of a buffer. -/
abbrev Bytes :=
  List UInt8

/-- The largest payload length a frame header can carry.  Irreducible, so that
no unification counts up to it. -/
@[irreducible]
def MAX_PACKET_LENGTH : Nat :=
  16777215

theorem MAX_PACKET_LENGTH_eq : MAX_PACKET_LENGTH = 16777215 := by
  unfold MAX_PACKET_LENGTH
  rfl

theorem MAX_PACKET_LENGTH_pos : 0 < MAX_PACKET_LENGTH := by
  rw [MAX_PACKET_LENGTH_eq]
  decide

/-- The byte at an index, as the number the source computes with.  A read
behind the end gives `undefined` in the source, which its shift operators and
`Buffer.from` treat as zero. -/
def byteAt (buffer : Bytes) (index : Nat) : Nat :=
  (buffer.getD index 0).toNat

/-- `buffer.slice(first, last)`, which clamps both ends to the buffer. -/
def slice (buffer : Bytes) (first last : Nat) : Bytes :=
  (buffer.drop first).take (last - first)

/-- The byte a number is stored as, which keeps its lowest eight bits. -/
def toByte (number : Nat) : UInt8 :=
  UInt8.ofNat number

theorem toByte_toNat (number : Nat) : (toByte number).toNat = number % 256 := by
  simp [toByte]

theorem byteAt_lt (buffer : Bytes) (index : Nat) : byteAt buffer index < 256 :=
  UInt8.toNat_lt _

/-- The `Packet` instance: sequence id, number of frames it was sent in, buffer,
window and read position. -/
structure Packet where
  sequenceId : Nat
  numPackets : Nat
  buffer : Bytes
  start : Nat
  offset : Nat
  endOffset : Nat
  deriving DecidableEq, Repr

namespace Packet

/-- `new Packet(id, buffer, start, end)`. -/
def new (id : Nat) (buffer : Bytes) (start endOffset : Nat) : Packet :=
  { sequenceId := id
    numPackets := 1
    buffer := buffer
    start := start
    offset := start + 4
    endOffset := endOffset }

/-- Length of the window, the frame header included. -/
def length (packet : Packet) : Nat :=
  packet.endOffset - packet.start

/-- A copy that shares the buffer.  It goes through the constructor, so it
starts with one frame and a fresh read position. -/
def clone (packet : Packet) : Packet :=
  new packet.sequenceId packet.buffer packet.start packet.endOffset

/-- The bytes behind a frame header of the given length. -/
def payload (packet : Packet) (packetHeaderLength : Nat) : Bytes :=
  slice packet.buffer (packet.start + packetHeaderLength) packet.endOffset

/-- The bytes of the window from the read position on. -/
def unread (packet : Packet) : Bytes :=
  slice packet.buffer packet.offset packet.endOffset

@[simp]
theorem clone_clone (packet : Packet) : packet.clone.clone = packet.clone :=
  rfl

end Packet

end Mysql2.Packets

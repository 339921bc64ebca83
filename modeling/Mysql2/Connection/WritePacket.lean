import Mysql2.Packets.Packet

/-!
# Writing packets

`writePacket` cuts a packet into frames.  A packet below the frame limit gets
its header in place; a larger one is written as header and chunk pairs.  The
limit is on the payload of a frame, while the loop counts the length of the
whole packet buffer, which includes the four header bytes.
-/

namespace Mysql2.Connection

open Mysql2.Packets

/-- The part of the connection that `writePacket` works on: the sequence
counters, and the buffers handed to `write` so far. -/
structure Wire where
  sequenceId : Nat
  compressedSequenceId : Nat
  written : List Bytes
  deriving DecidableEq, Repr

namespace Wire

/-- `write(buffer)`. -/
def write (wire : Wire) (buffer : Bytes) : Wire :=
  { wire with written := wire.written ++ [buffer] }

/-- `_resetSequenceId()`. -/
def resetSequenceId (wire : Wire) : Wire :=
  { wire with sequenceId := 0, compressedSequenceId := 0 }

/-- `_bumpSequenceId(numPackets)`. -/
def bumpSequenceId (wire : Wire) (numPackets : Nat) : Wire :=
  { wire with sequenceId := (wire.sequenceId + numPackets) % 256 }

end Wire

/-- `packet.writeHeader(sequenceId)`: the payload length in three bytes and the
sequence id, in front of the buffer. -/
def writeHeader (packet : Packet) (sequenceId : Nat) : Packet :=
  let n := packet.buffer.length - 4
  let header := [toByte (n &&& 0xff), toByte (n >>> 8), toByte (n >>> 16), toByte sequenceId]
  { packet with buffer := header ++ packet.buffer.drop 4 }

/-- The header of one chunk of a large packet. -/
def chunkHeader (chunk : Bytes) (sequenceId : Nat) : Bytes :=
  if chunk.length = MAX_PACKET_LENGTH then
    [0xff, 0xff, 0xff, toByte sequenceId]
  else
    [toByte (chunk.length &&& 0xff), toByte ((chunk.length >>> 8) &&& 0xff),
      toByte ((chunk.length >>> 16) &&& 0xff), toByte sequenceId]

/-- One iteration of the loop of `writePacket`: the header is built with the
sequence id from before the bump. -/
def writeChunk (wire : Wire) (chunk : Bytes) : Wire :=
  ((wire.bumpSequenceId 1).write (chunkHeader chunk wire.sequenceId)).write chunk

/-- The loop of `writePacket` over the chunks of a large packet. -/
def writeChunks (wire : Wire) (buffer : Bytes) (length offset : Nat) : Wire :=
  if offset < 4 + length then
    writeChunks (writeChunk wire (slice buffer offset (offset + MAX_PACKET_LENGTH))) buffer
      length (offset + MAX_PACKET_LENGTH)
  else
    wire
termination_by 4 + length - offset
decreasing_by
  have positive := MAX_PACKET_LENGTH_pos
  omega

/-- `writePacket(packet)`. -/
def writePacket (wire : Wire) (packet : Packet) : Wire :=
  let length := packet.length
  if length < MAX_PACKET_LENGTH then
    (wire.bumpSequenceId 1).write (writeHeader packet wire.sequenceId).buffer
  else
    writeChunks wire packet.buffer length 4

end Mysql2.Connection

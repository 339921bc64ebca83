import Mysql2.Packets.Packet

/-!
# The packet parser

The parser receives a stream in arbitrary chunks and hands complete packets to
`onPacket`.  Its method `execute` is one of four, depending on how much of the
current frame the earlier chunks contained.  The model returns the packets in
place of calling `onPacket`, each with the contents the parser's reusable packet
instance has at the time of the call.
-/

namespace Mysql2.Parser

open Mysql2.Packets

/-- The number stored in three length bytes.  The source returns the first byte
alone when the other two are zero. -/
def readPacketLength (b : Bytes) (off : Nat) : Nat :=
  let b0 := byteAt b off
  let b1 := byteAt b (off + 1)
  let b2 := byteAt b (off + 2)
  if b1 + b2 = 0 then b0 else b0 + (b1 <<< 8) + (b2 <<< 16)

/-- The method that `execute` currently stands for. -/
inductive Mode
  | executeStart
  | executePayload
  | executeHeader2
  | executeHeader3
  deriving DecidableEq, Repr

/-- Frame headers have four bytes, or seven in the compressed protocol. -/
abbrev HeaderLength :=
  { length : Nat // length = 4 ∨ length = 7 }

/-- Fields of the parser. -/
structure PacketParser where
  buffer : List Bytes
  bufferLength : Nat
  packetHeaderLength : HeaderLength
  headerLen : Nat
  length : Nat
  largePacketParts : List Bytes
  firstPacketSequenceId : Nat
  execute : Mode
  deriving DecidableEq

namespace PacketParser

/-- `new PacketParser(onPacket, packetHeaderLength)`. -/
def new (packetHeaderLength : HeaderLength) : PacketParser :=
  { buffer := []
    bufferLength := 0
    packetHeaderLength := packetHeaderLength
    headerLen := 0
    length := 0
    largePacketParts := []
    firstPacketSequenceId := 0
    execute := .executeStart }

/-- Join the collected parts behind a header of zeros.  `_flushLargePacket4` and
`_flushLargePacket7` differ in the length of this header only. -/
def flushLargePacket (parser : PacketParser) : PacketParser × List Packet :=
  let numPackets := parser.largePacketParts.length
  let body := List.replicate parser.packetHeaderLength.val 0 ++ parser.largePacketParts.flatten
  let packet := Packet.new parser.firstPacketSequenceId body 0 body.length
  ({ parser with largePacketParts := [] }, [{ packet with numPackets := numPackets }])

/-- What `executeStart` and `executePayload` do with a complete frame: deliver
the packet that is set up around it, or collect its body as a part of a large
packet and deliver that packet behind its last part. -/
def completeFrame (parser : PacketParser) (sequenceId : Nat) (packet : Packet)
    (part : Bytes) : PacketParser × List Packet :=
  if parser.length < MAX_PACKET_LENGTH ∧ parser.largePacketParts = [] then
    (parser, [packet])
  else
    let first :=
      if parser.largePacketParts = [] then sequenceId else parser.firstPacketSequenceId
    let collected :=
      { parser with
        firstPacketSequenceId := first
        largePacketParts := parser.largePacketParts ++ [part] }
    if parser.length < MAX_PACKET_LENGTH then collected.flushLargePacket else (collected, [])

@[simp]
theorem completeFrame_packetHeaderLength (parser : PacketParser) (sequenceId : Nat)
    (packet : Packet) (part : Bytes) :
    (parser.completeFrame sequenceId packet part).1.packetHeaderLength =
      parser.packetHeaderLength := by
  unfold completeFrame flushLargePacket
  split
  · rfl
  · dsimp only
    split <;> rfl

/-- The loop of `executeStart` over the frames of a chunk from `start` on. -/
def executeStartFrom (parser : PacketParser) (chunk : Bytes) (start : Nat) :
    PacketParser × List Packet :=
  let stop := chunk.length
  let headerLength := parser.packetHeaderLength.val
  if stop - start ≥ 3 then
    let length := readPacketLength chunk start
    let framed := { parser with length := length }
    if stop - start ≥ length + headerLength then
      -- at least one full packet
      let sequenceId := byteAt chunk (start + 3)
      let packet : Packet :=
        { sequenceId := sequenceId
          numPackets := 1
          buffer := chunk
          start := start
          offset := start + 4
          endOffset := start + headerLength + length }
      let part := slice chunk (start + headerLength) (start + headerLength + length)
      let completed := framed.completeFrame sequenceId packet part
      let later := executeStartFrom completed.1 chunk (start + (headerLength + length))
      (later.1, completed.2 ++ later.2)
    else
      -- payload is incomplete
      ({ framed with
        buffer := [slice chunk (start + 3) stop]
        bufferLength := stop - start - 3
        execute := .executePayload }, [])
  else if stop - start > 0 then
    -- there is start of length header, but it's not full 3 bytes
    let headerLen := stop - start
    if headerLen = 2 then
      ({ parser with
        headerLen := headerLen
        length := byteAt chunk start + (byteAt chunk (start + 1) <<< 8)
        execute := .executeHeader3 }, [])
    else
      ({ parser with
        headerLen := headerLen
        length := byteAt chunk start
        execute := .executeHeader2 }, [])
  else
    (parser, [])
termination_by chunk.length - start
decreasing_by
  have headerPositive : 4 ≤ parser.packetHeaderLength.val := by
    rcases parser.packetHeaderLength.property with lengthEq | lengthEq <;> omega
  omega

/-- Between frames. -/
def executeStart (parser : PacketParser) (chunk : Bytes) : PacketParser × List Packet :=
  parser.executeStartFrom chunk 0

/-- Inside a frame whose length is known.  The first three bytes of the joined
payload, which the source leaves uninitialised and never reads, are zeros. -/
def executePayload (parser : PacketParser) (chunk : Bytes) : PacketParser × List Packet :=
  let stop := chunk.length
  let headerLength := parser.packetHeaderLength.val
  let remainingPayload := parser.length + headerLength - 3 - parser.bufferLength
  if stop ≥ remainingPayload then
    -- last chunk for payload
    let payload := [0, 0, 0] ++ parser.buffer.flatten ++ slice chunk 0 remainingPayload
    let sequenceId := byteAt payload 3
    let packet : Packet :=
      { sequenceId := sequenceId
        numPackets := 1
        buffer := payload
        start := 0
        offset := 4
        endOffset := parser.length + headerLength }
    let part := slice payload headerLength (headerLength + parser.length)
    let completed := parser.completeFrame sequenceId packet part
    let parser :=
      { completed.1 with
        buffer := []
        bufferLength := 0
        execute := .executeStart }
    if stop - remainingPayload > 0 then
      let later := parser.executeStart (slice chunk remainingPayload stop)
      (later.1, completed.2 ++ later.2)
    else
      (parser, completed.2)
  else
    ({ parser with
      buffer := parser.buffer ++ [chunk]
      bufferLength := parser.bufferLength + chunk.length }, [])

/-- Behind two length bytes. -/
def executeHeader3 (parser : PacketParser) (chunk : Bytes) : PacketParser × List Packet :=
  { parser with
    length := parser.length + (byteAt chunk 0 <<< 16)
    execute := .executePayload }.executePayload (chunk.drop 1)

/-- Behind one length byte. -/
def executeHeader2 (parser : PacketParser) (chunk : Bytes) : PacketParser × List Packet :=
  let parser := { parser with length := parser.length + (byteAt chunk 0 <<< 8) }
  if chunk.length > 1 then
    { parser with
      length := parser.length + (byteAt chunk 1 <<< 16)
      execute := .executePayload }.executePayload (chunk.drop 2)
  else
    ({ parser with execute := .executeHeader3 }, [])

/-- `parser.execute(chunk)`. -/
def executeChunk (parser : PacketParser) (chunk : Bytes) : PacketParser × List Packet :=
  match parser.execute with
  | .executeStart => parser.executeStart chunk
  | .executePayload => parser.executePayload chunk
  | .executeHeader2 => parser.executeHeader2 chunk
  | .executeHeader3 => parser.executeHeader3 chunk

end PacketParser

end Mysql2.Parser

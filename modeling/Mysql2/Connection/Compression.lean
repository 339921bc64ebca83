import Mysql2.Packets.Reader
import Mysql2.Parser.PacketParser
import Mysql2.Stream.SerialQueue
import Mysql2.Transition.Mealy

/-!
# The compressed protocol

`enableCompression` puts a second layer under the connection.  Received chunks
go through a parser with seven-byte headers, whose packets are inflated and fed
to an inner parser; written buffers are deflated and framed.  Small payloads are
inflated and deflated in line, larger ones in the thread pool, behind a queue
for each direction.

An event is a call from outside, a tick of one of the queues, or a callback of
the thread pool.  The model leaves the order of ticks and callbacks open.
-/

namespace Mysql2.Compression

open Mysql2.Packets
open Mysql2.Parser
open Mysql2.Stream
open Mysql2.Transition

/-- Payloads shorter than this are written uncompressed. -/
def MIN_COMPRESS_LENGTH : Nat :=
  50

def MAX_SYNC_INFLATE_LENGTH : Nat :=
  16384

def MAX_SYNC_DEFLATE_LENGTH : Nat :=
  4096

/-- The longest buffer that is written in one compressed frame.  Irreducible, so
that no unification counts up to it. -/
@[irreducible]
def MAX_COMPRESSED_LENGTH : Nat :=
  16777210

theorem MAX_COMPRESSED_LENGTH_eq : MAX_COMPRESSED_LENGTH = 16777210 := by
  unfold MAX_COMPRESSED_LENGTH
  rfl

/-- The functions of the `zlib` module, synchronous or in the thread pool.
`inflate` takes its option `maxOutputLength`. -/
structure Zlib where
  inflate : Bytes → Nat → Except JsError Bytes
  deflate : Bytes → Except JsError Bytes

/-- No buffer is too much for `zlib.deflate`. -/
def Zlib.Deflates (zlib : Zlib) : Prop :=
  ∀ buffer, ∃ compressed, zlib.deflate buffer = .ok compressed

/-- What is deflated is inflated again, within its own length. -/
def Zlib.RoundTrips (zlib : Zlib) : Prop :=
  ∀ buffer, ∃ compressed, zlib.deflate buffer = .ok compressed ∧
    zlib.inflate compressed buffer.length = .ok buffer

theorem Zlib.RoundTrips.deflates {zlib : Zlib} (roundTrips : zlib.RoundTrips) :
    zlib.Deflates := by
  intro buffer
  obtain ⟨compressed, deflateEq, _⟩ := roundTrips buffer
  exact ⟨compressed, deflateEq⟩

/-- A buffer of equal bytes.  Irreducible, so that it is never counted out. -/
@[irreducible]
def repetitive : Bytes :=
  List.replicate 5000 97

theorem length_repetitive : repetitive.length = 5000 := by
  unfold repetitive
  exact List.length_replicate

/-- What zlib deflates it to. -/
def repetitiveDeflated : Bytes :=
  [120, 156, 237, 193, 49, 1, 0, 0, 0, 194, 160, 172, 235, 95, 194, 20, 126, 64, 1, 0, 0, 0, 0,
    111, 3, 75, 111, 102, 242]

/-- A codec that agrees with zlib on that buffer and marks any other one with a
byte no zlib stream starts with. -/
def repetitiveZlib : Zlib where
  inflate := fun body _ =>
    if body = repetitiveDeflated then .ok repetitive else .ok body.tail
  deflate := fun buffer =>
    if buffer = repetitive then .ok repetitiveDeflated else .ok (0 :: buffer)

theorem repetitiveZlib_roundTrips : repetitiveZlib.RoundTrips := by
  intro buffer
  by_cases isRepetitive : buffer = repetitive
  · subst isRepetitive
    exact ⟨repetitiveDeflated, if_pos rfl, by simp [repetitiveZlib]⟩
  · refine ⟨0 :: buffer, if_neg isRepetitive, ?_⟩
    have marked : (0 :: buffer : Bytes) ≠ repetitiveDeflated := by
      simp [repetitiveDeflated]
    simp [repetitiveZlib, marked]

/-- A task on the inflate queue, with what `handleCompressedPacket` has read out
of the packet. -/
structure Inflation where
  deflatedLength : Nat
  body : Bytes
  numPackets : Nat
  deriving DecidableEq, Repr

/-- A task on the deflate queue. -/
structure Deflation where
  seqId : Nat
  buffer : Bytes
  deriving DecidableEq, Repr

/-- Fields of a connection with compression.  `failed` stands for what
`_handleFatalError` leaves behind: no listener for chunks, and a `write` that
only reports an error. -/
structure CompressedConnection where
  compressedSequenceId : Nat
  failed : Bool
  packetParser : PacketParser
  inflateQueue : SerialQueue Inflation
  deflateQueue : SerialQueue Deflation

/-- What the layer does: calls of `zlib.inflate`, data handed to the inner parser,
buffers handed to `writeUncompressed`, and errors. -/
inductive Output
  | inflate (body : Bytes) (maxOutputLength : Nat)
  | execute (data : Bytes)
  | writeUncompressed (buffer : Bytes)
  | networkError (error : JsError)
  | fatalError (error : JsError)
  | closedWrite
  | uncaught (error : JsError)
  deriving DecidableEq

/-- A chunk from the socket, a call of `write` or of `_resetSequenceId`, a tick
of a queue, or a callback of the thread pool. -/
inductive Event
  | data (chunk : Bytes)
  | write (buffer : Bytes)
  | resetSequenceId
  | inflateNext
  | inflated (index : Nat)
  | deflateNext
  | deflated (index : Nat)
  deriving DecidableEq

/-- Seven-byte frame headers. -/
def compressedHeader : HeaderLength :=
  ⟨7, Or.inr rfl⟩

namespace CompressedConnection

/-- `enableCompression(connection)`. -/
def enableCompression (compressedSequenceId : Nat) : CompressedConnection :=
  { compressedSequenceId := compressedSequenceId
    failed := false
    packetParser := .new compressedHeader
    inflateQueue := .idle
    deflateQueue := .idle }

/-- `_bumpCompressedSequenceId(numPackets)`. -/
def bumpCompressedSequenceId (connection : CompressedConnection) (numPackets : Nat) :
    CompressedConnection :=
  { connection with
    compressedSequenceId := (connection.compressedSequenceId + numPackets) % 256 }

/-- `_handleNetworkError(error)`, of which only the end in `_handleFatalError`
matters here. -/
def handleNetworkError (connection : CompressedConnection) (error : JsError) :
    CompressedConnection × List Output :=
  ({ connection with failed := true }, [.networkError error])

/-- `_handleFatalError(error)`. -/
def handleFatalError (connection : CompressedConnection) (error : JsError) :
    CompressedConnection × List Output :=
  ({ connection with failed := true }, [.fatalError error])

/-! ## Receiving -/

/-- The end of the four routes: count the frames and feed the inner parser. -/
def feed (connection : CompressedConnection) (numPackets : Nat) (data : Bytes) :
    CompressedConnection × List Output :=
  (connection.bumpCompressedSequenceId numPackets, [.execute data])

/-- What `handleCompressedPacket` reads from a packet. -/
def readCompressed : Reader (Nat × Bytes) := do
  let deflatedLength ← Packet.readInt24
  let packet ← get
  let body ← Packet.readBuffer (packet.endOffset - packet.offset)
  return (deflatedLength, body)

/-- `handleCompressedPacket` behind the reads. -/
def handleBody (zlib : Zlib) (connection : CompressedConnection) (task : Inflation) :
    CompressedConnection × List Output :=
  if connection.inflateQueue.running then
    ({ connection with inflateQueue := connection.inflateQueue.push task }, [])
  else if task.deflatedLength = 0 then
    connection.feed task.numPackets task.body
  else if task.deflatedLength ≤ MAX_SYNC_INFLATE_LENGTH then
    let inflate := Output.inflate task.body task.deflatedLength
    match zlib.inflate task.body task.deflatedLength with
    | .error error =>
        let failed := connection.handleNetworkError error
        (failed.1, inflate :: failed.2)
    | .ok data =>
        let fed := connection.feed task.numPackets data
        (fed.1, inflate :: fed.2)
  else
    ({ connection with inflateQueue := connection.inflateQueue.push task }, [])

/-- `handleCompressedPacket(packet)`. -/
def handleCompressedPacket (zlib : Zlib) (connection : CompressedConnection)
    (packet : Packet) : CompressedConnection × List Output :=
  match readCompressed.run packet with
  | .error error => (connection, [.uncaught error])
  | .ok ((deflatedLength, body), _) =>
      connection.handleBody zlib
        { deflatedLength := deflatedLength
          body := body
          numPackets := packet.numPackets }

/-- A chunk arrives: the parser hands its packets to `handleCompressedPacket`. -/
def receive (zlib : Zlib) (connection : CompressedConnection) (chunk : Bytes) :
    CompressedConnection × List Output :=
  let parsed := connection.packetParser.executeChunk chunk
  run (handleCompressedPacket zlib) { connection with packetParser := parsed.1 } parsed.2

/-- A tick of the inflate queue runs `_next`, and the task if there is one.  A raw
body is fed at once; a deflated one goes to the thread pool. -/
def inflateNext (connection : CompressedConnection) : CompressedConnection × List Output :=
  let taken := connection.inflateQueue.next
  match taken.2 with
  | none => ({ connection with inflateQueue := taken.1 }, [])
  | some task =>
      if task.deflatedLength = 0 then
        { connection with inflateQueue := taken.1.done }.feed task.numPackets task.body
      else
        ({ connection with inflateQueue := taken.1.start task },
          [.inflate task.body task.deflatedLength])

/-- The callback of `zlib.inflate`. -/
def inflated (zlib : Zlib) (connection : CompressedConnection) (index : Nat) :
    CompressedConnection × List Output :=
  let taken := connection.inflateQueue.callback index
  match taken.2 with
  | none => (connection, [])
  | some task =>
      match zlib.inflate task.body task.deflatedLength with
      | .error error => { connection with inflateQueue := taken.1 }.handleNetworkError error
      | .ok data =>
          { connection with inflateQueue := taken.1.done }.feed task.numPackets data

/-! ## Writing -/

/-- The header of a compressed frame. -/
def compressHeader (seqId compressedLength packetLen : Nat) : Bytes :=
  [toByte (compressedLength &&& 0xff), toByte (compressedLength >>> 8),
    toByte (compressedLength >>> 16), toByte seqId, toByte (packetLen &&& 0xff),
    toByte (packetLen >>> 8), toByte (packetLen >>> 16)]

/-- `writeCompressedFrame(connection, seqId, packetLen, buffer, compressed)`. -/
def writeCompressedFrame (seqId packetLen : Nat) (buffer : Bytes) (compressed : Option Bytes) :
    List Output :=
  match compressed with
  | none =>
      [.writeUncompressed (compressHeader seqId packetLen 0), .writeUncompressed buffer]
  | some compressed =>
      [.writeUncompressed (compressHeader seqId compressed.length packetLen),
        .writeUncompressed compressed]

/-- What is written of a deflated buffer: the shorter of the two. -/
def writeShorter (seqId : Nat) (buffer compressed : Bytes) : List Output :=
  writeCompressedFrame seqId buffer.length buffer
    (if compressed.length < buffer.length then some compressed else none)

/-- `writeCompressed(buffer)` for a buffer within the limit. -/
def writeWithin (zlib : Zlib) (connection : CompressedConnection) (buffer : Bytes) :
    CompressedConnection × List Output :=
  let seqId := connection.compressedSequenceId
  let bumped := connection.bumpCompressedSequenceId 1
  let queued : CompressedConnection :=
    { bumped with deflateQueue := bumped.deflateQueue.push { seqId := seqId, buffer := buffer } }
  if connection.deflateQueue.running then
    (queued, [])
  else if buffer.length < MIN_COMPRESS_LENGTH then
    (bumped, writeCompressedFrame seqId buffer.length buffer none)
  else if buffer.length ≤ MAX_SYNC_DEFLATE_LENGTH then
    match zlib.deflate buffer with
    | .error error => bumped.handleFatalError error
    | .ok compressed => (bumped, writeShorter seqId buffer compressed)
  else
    (queued, [])

/-- The slices `writeCompressed` cuts a long buffer into, from `start` on. -/
def compressedSlices (buffer : Bytes) (start : Nat) : List Bytes :=
  if start < buffer.length then
    slice buffer start (start + MAX_COMPRESSED_LENGTH) ::
      compressedSlices buffer (start + MAX_COMPRESSED_LENGTH)
  else
    []
termination_by buffer.length - start
decreasing_by
  rw [MAX_COMPRESSED_LENGTH_eq]
  omega

/-- `writeCompressed(buffer)`.  The calls for the slices of a long buffer are
within the limit. -/
def writeCompressed (zlib : Zlib) (connection : CompressedConnection) (buffer : Bytes) :
    CompressedConnection × List Output :=
  if buffer.length > MAX_COMPRESSED_LENGTH then
    run (writeWithin zlib) connection (compressedSlices buffer 0)
  else
    connection.writeWithin zlib buffer

/-- A tick of the deflate queue runs `_next`; its task goes to the thread pool. -/
def deflateNext (connection : CompressedConnection) : CompressedConnection × List Output :=
  let taken := connection.deflateQueue.next
  match taken.2 with
  | none => ({ connection with deflateQueue := taken.1 }, [])
  | some task => ({ connection with deflateQueue := taken.1.start task }, [])

/-- The callback of `zlib.deflate`. -/
def deflated (zlib : Zlib) (connection : CompressedConnection) (index : Nat) :
    CompressedConnection × List Output :=
  let taken := connection.deflateQueue.callback index
  match taken.2 with
  | none => (connection, [])
  | some task =>
      match zlib.deflate task.buffer with
      | .error error => { connection with deflateQueue := taken.1 }.handleFatalError error
      | .ok compressed =>
          ({ connection with deflateQueue := taken.1.done },
            writeShorter task.seqId task.buffer compressed)

/-- What an event does.  Ticks and callbacks that are not outstanding do nothing. -/
def handle (zlib : Zlib) (connection : CompressedConnection) :
    Event → CompressedConnection × List Output
  | .data chunk => if connection.failed then (connection, []) else connection.receive zlib chunk
  | .write buffer =>
      if connection.failed then (connection, [.closedWrite])
      else connection.writeCompressed zlib buffer
  | .resetSequenceId => ({ connection with compressedSequenceId := 0 }, [])
  | .inflateNext =>
      if connection.inflateQueue.ticks = 0 then (connection, []) else connection.inflateNext
  | .inflated index => connection.inflated zlib index
  | .deflateNext =>
      if connection.deflateQueue.ticks = 0 then (connection, []) else connection.deflateNext
  | .deflated index => connection.deflated zlib index

/-- The step function of the layer. -/
def step (zlib : Zlib) : Step CompressedConnection Event Output :=
  handle zlib

end CompressedConnection

/-! ## Frames of the compressed protocol -/

/-- A frame: the content, and its compressed form when it is sent compressed. -/
structure CompressedFrame where
  sequenceId : Nat
  content : Bytes
  compressed : Option Bytes
  deriving DecidableEq

namespace CompressedFrame

/-- The bytes behind the header. -/
def body (frame : CompressedFrame) : Bytes :=
  frame.compressed.getD frame.content

/-- The length of the content, and zero for a frame with a raw body. -/
def uncompressedLength (frame : CompressedFrame) : Nat :=
  if frame.compressed.isSome then frame.content.length else 0

/-- The uncompressed length as the header holds it. -/
def lengthBytes (frame : CompressedFrame) : Bytes :=
  [toByte frame.uncompressedLength, toByte (frame.uncompressedLength / 256),
    toByte (frame.uncompressedLength / 65536)]

/-- The seven bytes in front of the body. -/
def header (frame : CompressedFrame) : Bytes :=
  [toByte frame.body.length, toByte (frame.body.length / 256),
    toByte (frame.body.length / 65536), toByte frame.sequenceId] ++ frame.lengthBytes

/-- The frame in the byte stream. -/
def encode (frame : CompressedFrame) : Bytes :=
  frame.header ++ frame.body

/-- A frame the protocol allows: the lengths fit into the header, and a
compressed body inflates to its content, which is not empty because a length of
zero marks a raw body. -/
structure WellFormed (zlib : Zlib) (frame : CompressedFrame) : Prop where
  sequenceId : frame.sequenceId < 256
  body : frame.body.length ≤ MAX_PACKET_LENGTH
  content : frame.content.length ≤ MAX_PACKET_LENGTH
  nonempty : frame.compressed.isSome → frame.content ≠ []
  inflates : ∀ compressed ∈ frame.compressed,
    zlib.inflate compressed frame.content.length = .ok frame.content

end CompressedFrame

end Mysql2.Compression

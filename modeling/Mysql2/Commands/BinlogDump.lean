import Mysql2.Auth.HandshakePackets
import Mysql2.Packets.BinlogQueryStatusVars
import Mysql2.Packets.ColumnWriter
import Mysql2.Packets.StatusWriters
import Mysql2.Transition.Mealy

/-!
# Binlog events

After its request a `BinlogDump` command is given one packet for each event, until an EOF packet
ends it.  The classes of events read their strings without an encoding.
-/

namespace Mysql2.Commands

open Mysql2.Packets Mysql2.Script Mysql2.Transition

/-! ## Events -/

/-- `BinlogEventHeader`. -/
structure BinlogEventHeader where
  timestamp : Nat
  eventType : Option Nat
  serverId : Nat
  eventSize : Nat
  logPos : Nat
  flags : Nat
  deriving DecidableEq, Repr

/-- The fields of an event behind its header, by its class. -/
inductive EventFields
  | rotate (pposition : Nat) (nextBinlog : JsString)
  | formatDescription (binlogVersion : Nat) (serverVersion : JsString) (createTimestamp : Nat)
      (eventHeaderLength : Option Nat) (eventsLength : Bytes)
  | query (slaveProxyId executionTime errorCode : Nat) (schema : JsString)
      (statusVars : StatusVars) (query : JsString)
  | xid (binlogVersion : Nat) (xid : Value Empty)
  | unknown
  deriving DecidableEq, Repr

/-- An event that is emitted. -/
structure BinlogEvent where
  header : BinlogEventHeader
  fields : EventFields
  deriving DecidableEq, Repr

/-- `new BinlogEventHeader(packet)`. -/
def BinlogEventHeader.read : Reader BinlogEventHeader := do
  let timestamp ← Packet.readInt32
  let eventType ← Packet.readInt8
  let serverId ← Packet.readInt32
  let eventSize ← Packet.readInt32
  let logPos ← Packet.readInt32
  let flags ← Packet.readInt16
  return ⟨timestamp, eventType, serverId, eventSize, logPos, flags⟩

/-- `new RotateEvent(packet)`. -/
def RotateEvent.read (codecs : Codecs) : Reader EventFields := do
  let pposition ← Packet.readInt32
  let _positionDword2 ← Packet.readInt32
  let nextBinlog ← codecs.readString none none
  return .rotate pposition nextBinlog

/-- What `.` does not match in a regular expression. -/
def isLineTerminator (unit : UInt16) : Bool :=
  unit = 0x0a ∨ unit = 0x0d ∨ unit = 0x2028 ∨ unit = 0x2029

/-- `string.replace(/\u0000.*/, '')`. -/
def withoutPadding : JsString → JsString
  | [] => []
  | unit :: string =>
      if unit = 0 then string.dropWhile fun unit => !isLineTerminator unit
      else unit :: withoutPadding string

/-- `new FormatDescriptionEvent(packet)`. -/
def FormatDescriptionEvent.read (codecs : Codecs) : Reader EventFields := do
  let binlogVersion ← Packet.readInt16
  let serverVersion ← codecs.readString (some 50) none
  let createTimestamp ← Packet.readInt32
  let eventHeaderLength ← Packet.readInt8
  let eventsLength ← Auth.readRest
  return .formatDescription binlogVersion (withoutPadding serverVersion) createTimestamp
    eventHeaderLength eventsLength

/-- `new QueryEvent(packet)`. -/
def QueryEvent.read (codecs : Codecs) : Reader EventFields := do
  let slaveProxyId ← Packet.readInt32
  let executionTime ← Packet.readInt32
  let schemaLength ← Packet.readInt8
  let errorCode ← Packet.readInt16
  let statusVarsLength ← Packet.readInt16
  let statusVars ← Packet.readBuffer statusVarsLength
  let schema ← codecs.readString schemaLength none
  let _zero ← Packet.readInt8
  let statusVars ← parseStatusVars statusVars
  let query ← codecs.readString none none
  return .query slaveProxyId executionTime errorCode schema statusVars query

/-- `new XidEvent(packet)`. -/
def XidEvent.read : Reader EventFields := do
  let binlogVersion ← Packet.readInt16
  let xid ← Packet.readInt64
  return .xid binlogVersion xid

/-- `eventParsers`. -/
def eventParsers (codecs : Codecs) : Option Nat → Option (Reader EventFields)
  | some 2 => some (QueryEvent.read codecs)
  | some 4 => some (RotateEvent.read codecs)
  | some 15 => some (FormatDescriptionEvent.read codecs)
  | some 16 => some XidEvent.read
  | _ => none

/-- The event of a packet. -/
def BinlogEvent.read (codecs : Codecs) : Reader BinlogEvent := do
  let _ok ← Packet.readInt8
  let header ← BinlogEventHeader.read
  match eventParsers codecs header.eventType with
  | some eventParser => return ⟨header, ← eventParser⟩
  | none => return ⟨header, .unknown⟩

/-! ## The command -/

/-- What the command emits. -/
inductive BinlogOutput
  | eof
  | event (event : BinlogEvent)
  deriving DecidableEq, Repr

/-- `binlogData(packet)`: what is emitted, and whether the next packet is for the command too. -/
def binlogData (codecs : Codecs) (packet : Packet) : Except JsError (BinlogOutput × Bool) :=
  if packet.isEOF then .ok (.eof, false)
  else ((BinlogEvent.read codecs).run packet).map fun read => (.event read.1, true)

/-- The command behind its request: it takes the next packet, has ended, or has thrown, which is
fatal to the connection. -/
inductive BinlogDumpState
  | binlogData
  | ended
  | thrown (err : JsError)
  deriving DecidableEq, Repr

/-- A packet.  Behind the end of the command it is for the next one. -/
def BinlogDump.step (codecs : Codecs) : Step BinlogDumpState Packet BinlogOutput
  | .binlogData, packet =>
      match Commands.binlogData codecs packet with
      | .ok (output, true) => (.binlogData, [output])
      | .ok (output, false) => (.ended, [output])
      | .error err => (.thrown err, [])
  | state, _ => (state, [])

/-! ## What a server sends -/

/-- The header of an event, but for its type. -/
structure SentHeader where
  timestamp : UInt32
  serverId : UInt32
  eventSize : UInt32
  logPos : UInt32
  flags : UInt16

/-- A string that is not empty, in UTF-8. -/
structure SentText where
  string : JsString
  nonempty : string ≠ []
  wellFormed : IsWellFormed string

/-- The types of events that have classes. -/
def hasClass (eventType : Nat) : Bool :=
  eventType = 2 ∨ eventType = 4 ∨ eventType = 15 ∨ eventType = 16

/-- The fields of an event behind its header. -/
inductive SentFields
  | rotate (position : UInt64) (name : SentText)
  | query (threadId executionTime : UInt32) (errorCode : UInt16) (statusVars : Bytes)
      (schema query : SentText) (short : statusVars.length < 65536)
      (schemaShort : utf8ByteLength schema.string < 256)
  | formatDescription (binlogVersion : UInt16) (serverVersion : Bytes)
      (createTimestamp : UInt32) (headerLength : UInt8) (eventsLength : Bytes)
      (padded : serverVersion.length = 50)
  | xid (xid : UInt64)
  | unknown (eventType : UInt8) (body : Bytes) (noClass : hasClass eventType.toNat = false)

namespace SentFields

/-- The type of an event. -/
def eventType : SentFields → UInt8
  | query .. => 2
  | rotate .. => 4
  | formatDescription .. => 15
  | xid _ => 16
  | unknown eventType _ _ => eventType

/-- The bytes behind the header. -/
def encode : SentFields → Bytes
  | rotate position name => writeUIntLE position.toNat 8 ++ utf8 name.string
  | query threadId executionTime errorCode statusVars schema text _ _ =>
      writeUIntLE threadId.toNat 4 ++ (writeUIntLE executionTime.toNat 4 ++
        ([toByte (utf8 schema.string).length] ++ (writeUIntLE errorCode.toNat 2 ++
          (writeUIntLE statusVars.length 2 ++ (statusVars ++ (utf8 schema.string ++
            ([0] ++ utf8 text.string)))))))
  | formatDescription binlogVersion serverVersion createTimestamp headerLength eventsLength _ =>
      writeUIntLE binlogVersion.toNat 2 ++ (serverVersion ++
        (writeUIntLE createTimestamp.toNat 4 ++ ([headerLength] ++ eventsLength)))
  | xid number => writeUIntLE number.toNat 8
  | unknown _ body _ => body

end SentFields

/-- An event, with its checksum if the server sends checksums. -/
structure SentEvent where
  header : SentHeader
  fields : SentFields
  checksum : Option UInt32

namespace SentEvent

/-- The bytes of the header. -/
def headerBytes (sent : SentEvent) : Bytes :=
  writeUIntLE sent.header.timestamp.toNat 4 ++ ([sent.fields.eventType] ++
    (writeUIntLE sent.header.serverId.toNat 4 ++ (writeUIntLE sent.header.eventSize.toNat 4 ++
      (writeUIntLE sent.header.logPos.toNat 4 ++ writeUIntLE sent.header.flags.toNat 2))))

/-- The bytes of the checksum. -/
def checksumBytes (sent : SentEvent) : Bytes :=
  match sent.checksum with
  | none => []
  | some checksum => writeUIntLE checksum.toNat 4

/-- The payload of the packet. -/
def payload (sent : SentEvent) : Bytes :=
  [0] ++ (sent.headerBytes ++ (sent.fields.encode ++ sent.checksumBytes))

end SentEvent

/-- The packet has the payload, with other bytes behind it in its buffer. -/
structure HasPayload (packet : Packet) (payload behind : Bytes) : Prop where
  offset : packet.offset = packet.start + 4
  endOffset : packet.endOffset = packet.offset + payload.length
  ahead : packet.ahead = payload ++ behind

/-- The payload of an EOF packet. -/
def eofPayload (warnings statusFlags : UInt16) : Bytes :=
  0xfe :: (writeUIntLE warnings.toNat 2 ++ writeUIntLE statusFlags.toNat 2)

/-- The event shows the header that has been sent, and the texts. -/
structure BinlogEvent.Shows (event : BinlogEvent) (sent : SentEvent) : Prop where
  header : event.header = ⟨sent.header.timestamp.toNat, some sent.fields.eventType.toNat,
    sent.header.serverId.toNat, sent.header.eventSize.toNat, sent.header.logPos.toNat,
    sent.header.flags.toNat⟩
  fields : match sent.fields with
    | .rotate _ name => ∃ pposition, event.fields = .rotate pposition name.string
    | .query _ _ _ _ schema query _ _ => ∃ slaveProxyId executionTime errorCode statusVars,
        event.fields =
          .query slaveProxyId executionTime errorCode schema.string statusVars query.string
    | .formatDescription .. => ∃ binlogVersion serverVersion createTimestamp eventHeaderLength
        eventsLength, event.fields = .formatDescription binlogVersion serverVersion
          createTimestamp eventHeaderLength eventsLength
    | .xid _ => ∃ binlogVersion xid, event.fields = .xid binlogVersion xid
    | .unknown .. => event.fields = .unknown

/-- An event and the packet that it is sent in, with the bytes behind it. -/
structure Delivery where
  sent : SentEvent
  packet : Packet
  behind : Bytes
  hasPayload : HasPayload packet sent.payload behind

/-- Every packet of a stream gives its event, and the command ends with the EOF packet. -/
def HandledRight (codecs : Codecs) (stream : List Delivery) (eof : Packet) : Prop :=
  ∃ events : List BinlogEvent,
    run (BinlogDump.step codecs) .binlogData (stream.map Delivery.packet) =
      (.binlogData, events.map .event) ∧
    (∀ others, run (BinlogDump.step codecs) .binlogData
        (stream.map Delivery.packet ++ eof :: others) = (.ended, events.map .event ++ [.eof])) ∧
    List.Forall₂ BinlogEvent.Shows events (stream.map Delivery.sent)

/-! ## One packet -/

/-- The class of the event reads no string, and its fields are there to be read. -/
def Delivery.Readable (delivery : Delivery) : Prop :=
  match delivery.sent.fields with
  | .unknown .. => True
  | .xid _ => 2 ≤ (delivery.sent.checksumBytes ++ delivery.behind).length
  | _ => False

/-- The header as it is read. -/
def SentEvent.headerRead (sent : SentEvent) : BinlogEventHeader :=
  ⟨sent.header.timestamp.toNat, some sent.fields.eventType.toNat, sent.header.serverId.toNat,
    sent.header.eventSize.toNat, sent.header.logPos.toNat, sent.header.flags.toNat⟩

theorem reads_uint16 (n : UInt16) :
    Reads Packet.readInt16 (writeUIntLE n.toNat 2) (.ok n.toNat) :=
  Reads.readInt16_of_lt n.toNat_lt

theorem reads_uint32 (n : UInt32) :
    Reads Packet.readInt32 (writeUIntLE n.toNat 4) (.ok n.toNat) :=
  Reads.readInt32_of_lt n.toNat_lt

theorem reads_header (sent : SentEvent) :
    Reads BinlogEventHeader.read sent.headerBytes (.ok sent.headerRead) := by
  rw [BinlogEventHeader.read, SentEvent.headerBytes]
  exact (reads_uint32 _).bind ((Reads.readInt8 _).bind ((reads_uint32 _).bind
    ((reads_uint32 _).bind ((reads_uint32 _).bind ((reads_uint16 _).bind_nil (Reads.pure _))))))

/-- Behind the header of its event, a packet is given to the class. -/
theorem binlogData_eq (codecs : Codecs) (delivery : Delivery) :
    ∃ after : Packet,
      after.ahead = delivery.sent.fields.encode ++
        (delivery.sent.checksumBytes ++ delivery.behind) ∧
      after.endOffset = after.offset +
        (delivery.sent.fields.encode ++ delivery.sent.checksumBytes).length ∧
      binlogData codecs delivery.packet =
        ((match eventParsers codecs (some delivery.sent.fields.eventType.toNat) with
          | some eventParser => do
              return BinlogEvent.mk delivery.sent.headerRead (← eventParser)
          | none => return ⟨delivery.sent.headerRead, .unknown⟩ : Reader BinlogEvent).run after).map
            fun read => (.event read.1, true) := by
  obtain ⟨sent, packet, behind, ⟨offsetEq, endEq, aheadEq⟩⟩ := delivery
  dsimp only
  have lengthEq : sent.payload.length = 20 + (sent.fields.encode ++ sent.checksumBytes).length := by
    simp only [SentEvent.payload, SentEvent.headerBytes, List.length_append, length_writeUIntLE,
      List.length_singleton]
    omega
  have headerLength : ([0] ++ sent.headerBytes).length = 20 := by
    simp only [SentEvent.headerBytes, List.length_append, length_writeUIntLE,
      List.length_singleton]
  have aheadEq : packet.ahead = ([0] ++ sent.headerBytes) ++
      (sent.fields.encode ++ (sent.checksumBytes ++ behind)) := by
    rw [aheadEq, SentEvent.payload]
    simp only [List.append_assoc]
  refine ⟨packet.advance 20, ?_, ?_, ?_⟩
  · exact Packet.ahead_advance_of_append _ aheadEq headerLength.symm
  · rw [Packet.endOffset_advance, Packet.offset_advance, endEq, lengthEq, Nat.add_assoc]
  · have notEof : packet.isEOF = false := by
      have peeked : packet.peekByte = some 0 := by rw [Packet.peekByte_eq, aheadEq]; rfl
      simp [Packet.isEOF, peeked]
    have okRun : Packet.readInt8.run packet = .ok (some 0, packet.advance 1) :=
      Packet.readInt8_run_cons aheadEq
    have headerAhead : (packet.advance 1).ahead = sent.headerBytes ++
        (sent.fields.encode ++ (sent.checksumBytes ++ behind)) := by
      rw [List.append_assoc] at aheadEq
      exact Packet.ahead_advance_of_append [0] aheadEq rfl
    have headerRun := reads_header sent (packet.advance 1) _ headerAhead (by
      rw [Packet.offset_advance, Packet.endOffset_advance, endEq, lengthEq]
      rw [List.length_append, List.length_singleton] at headerLength
      omega)
    rw [List.length_append, List.length_singleton] at headerLength
    rw [Packet.advance_advance, headerLength] at headerRun
    rw [binlogData, notEof, if_neg Bool.false_ne_true, BinlogEvent.read,
      run_bind_of_ok okRun, run_bind_of_ok headerRun]
    rfl

theorem utf8_ne_nil (text : SentText) : utf8 text.string ≠ [] := by
  have positive := List.length_pos_iff.mpr text.nonempty
  have atLeast := (utf8ByteLength_bounds text.string).1
  rw [← length_utf8] at atLeast
  exact List.ne_nil_of_length_pos (by omega)

section Rejecting

variable {codecs : Codecs} {err : JsError} (rejects : codecs.getDecoder none = .error err)

include rejects

/-- A string that is not empty is not read without an encoding. -/
theorem reads_string_throws {bytes : Bytes} (nonempty : bytes ≠ []) {len : Option Nat}
    (notZero : len ≠ some 0) : Reads (codecs.readString len none) bytes (.error err) := by
  intro packet rest aheadEq inside
  have positive : 0 < len.getD (packet.endOffset - packet.offset) := by
    have some := List.length_pos_iff.mpr nonempty
    cases len with
    | none =>
        show 0 < packet.endOffset - packet.offset
        omega
    | some len => exact Nat.pos_of_ne_zero fun zero => notZero (congrArg Option.some zero)
  have notEmpty : slice packet.buffer packet.offset
      (packet.offset + len.getD (packet.endOffset - packet.offset)) ≠ [] := by
    rw [slice, Nat.add_sub_cancel_left]
    show packet.ahead.take _ ≠ []
    rw [aheadEq, Ne, List.take_eq_nil_iff, not_or]
    exact ⟨Nat.ne_of_gt positive, List.append_ne_nil_of_left_ne_nil nonempty _⟩
  rw [Codecs.readString, run_get_bind]
  dsimp only
  rw [run_bind_of_ok (Packet.skip_run _ _), Codecs.decode_eq, if_neg notEmpty]
  show StateT.run (liftM ((codecs.getDecoder none).map _)) _ = _
  rw [rejects]
  rfl

theorem reads_rotate (position : UInt64) (name : SentText) :
    Reads (RotateEvent.read codecs) (writeUIntLE position.toNat 8 ++ utf8 name.string)
      (.error err) := by
  have words : writeUIntLE position.toNat 8 = writeUIntLE position.toNat 4 ++
      writeUIntLE (position.toNat / 4294967296) 4 := Packet.writeUIntLE_add position.toNat 4 4
  rw [words, List.append_assoc]
  exact (Reads.readInt32 (length_writeUIntLE _ _)).bind ((Reads.readInt32
    (length_writeUIntLE _ _)).bind (reads_string_throws rejects (utf8_ne_nil name)
      (by decide)).bind_error)

theorem reads_formatDescription (binlogVersion : UInt16) {serverVersion : Bytes}
    (padded : serverVersion.length = 50) :
    Reads (FormatDescriptionEvent.read codecs)
      (writeUIntLE binlogVersion.toNat 2 ++ serverVersion) (.error err) := by
  have nonempty : serverVersion ≠ [] := List.ne_nil_of_length_pos (by omega)
  exact (reads_uint16 binlogVersion).bind
    (reads_string_throws rejects nonempty (by decide)).bind_error

theorem reads_query (threadId executionTime : UInt32) (errorCode : UInt16) {statusVars : Bytes}
    (schema : SentText) (short : statusVars.length < 65536)
    (schemaShort : utf8ByteLength schema.string < 256) :
    Reads (QueryEvent.read codecs)
      (writeUIntLE threadId.toNat 4 ++ (writeUIntLE executionTime.toNat 4 ++
        ([toByte (utf8 schema.string).length] ++ (writeUIntLE errorCode.toNat 2 ++
          (writeUIntLE statusVars.length 2 ++ (statusVars ++ utf8 schema.string))))))
      (.error err) := by
  have positive := List.length_pos_iff.mpr (utf8_ne_nil schema)
  have schemaLength : Reads Packet.readInt8 [toByte (utf8 schema.string).length]
      (.ok (some (utf8 schema.string).length)) :=
    Reads.readByte (by rwa [length_utf8])
  have statusVarsLength : Reads Packet.readInt16 (writeUIntLE statusVars.length 2)
      (.ok statusVars.length) :=
    Reads.readInt16_of_lt short
  have notZero : some (utf8 schema.string).length ≠ some 0 := by
    rw [Ne, Option.some.injEq]
    omega
  exact (reads_uint32 threadId).bind ((reads_uint32 executionTime).bind (schemaLength.bind
    ((reads_uint16 errorCode).bind (statusVarsLength.bind ((Reads.readBuffer statusVars).bind
      (reads_string_throws rejects (utf8_ne_nil schema) notZero).bind_error)))))

end Rejecting

/-- What a class throws while it reads the bytes of its event. -/
theorem binlogData_throws {codecs : Codecs} {delivery : Delivery} {eventParser : Reader EventFields}
    (isClass : eventParsers codecs (some delivery.sent.fields.eventType.toNat) = some eventParser)
    {bytes : Bytes} (more : Bytes) (encodeEq : delivery.sent.fields.encode = bytes ++ more)
    {err : JsError} (reads : Reads eventParser bytes (.error err)) :
    binlogData codecs delivery.packet = .error err := by
  obtain ⟨after, aheadEq, endEq, dataEq⟩ := binlogData_eq codecs delivery
  rw [encodeEq, List.append_assoc] at aheadEq
  rw [encodeEq, List.append_assoc, List.length_append] at endEq
  have run := reads after _ aheadEq (by omega)
  rw [dataEq, isClass]
  dsimp only
  rw [run_bind_of_error run]
  rfl

/-- An identifier of a transaction is read with the two bytes behind it, if there are any. -/
theorem xidEvent_run {packet : Packet} {bytes more : Bytes} (eight : bytes.length = 8)
    (aheadEq : packet.ahead = bytes ++ more) :
    (2 ≤ more.length → ∃ binlogVersion xid after,
      XidEvent.read.run packet = .ok (.xid binlogVersion xid, after)) ∧
    (more.length < 2 → XidEvent.read.run packet = .error .rangeError) := by
  have versionLength : (bytes.take 2).length = 2 := by rw [List.length_take, eight]; rfl
  have versionAhead : packet.ahead = bytes.take 2 ++ (bytes.drop 2 ++ more) := by
    rw [← List.append_assoc, List.take_append_drop, aheadEq]
  have restAhead : (packet.advance 2).ahead = bytes.drop 2 ++ more :=
    Packet.ahead_advance_of_append _ versionAhead versionLength
  have restLength : (bytes.drop 2 ++ more).length = 6 + more.length := by
    rw [List.length_append, List.length_drop, eight]
  rw [XidEvent.read, run_bind_of_ok (Packet.readInt16_run versionAhead versionLength)]
  constructor
  · intro enough
    have wordsLength : ((bytes.drop 2 ++ more).take 8).length = 8 := by
      rw [List.length_take, restLength]
      omega
    have wordsAhead : (packet.advance 2).ahead =
        (bytes.drop 2 ++ more).take 8 ++ (bytes.drop 2 ++ more).drop 8 := by
      rw [List.take_append_drop, restAhead]
    rw [run_bind_of_ok (Packet.readInt64_run wordsAhead wordsLength)]
    exact ⟨_, _, _, rfl⟩
  · intro few
    have firstLength : ((bytes.drop 2 ++ more).take 4).length = 4 := by
      rw [List.length_take, restLength]
      omega
    have firstAhead : (packet.advance 2).ahead =
        (bytes.drop 2 ++ more).take 4 ++ (bytes.drop 2 ++ more).drop 4 := by
      rw [List.take_append_drop, restAhead]
    have ends : ((packet.advance 2).advance 4).buffer.length <
        ((packet.advance 2).advance 4).offset + 4 := by
      have lengthEq := congrArg List.length restAhead
      rw [restLength, Packet.ahead, List.length_drop] at lengthEq
      rw [Packet.buffer_advance, Packet.offset_advance]
      omega
    have secondRun : Packet.readInt32.run ((packet.advance 2).advance 4) = .error .rangeError := by
      show StateT.run (if _ then _ else _) _ = _
      rw [if_neg (Nat.not_le.mpr ends)]
      rfl
    have xidRun : (Packet.readInt64 : Reader (Value Empty)).run (packet.advance 2) =
        .error .rangeError := by
      rw [Packet.readInt64, run_bind_of_ok (Packet.readInt32_run firstAhead firstLength)]
      exact run_bind_of_error secondRun
    exact run_bind_of_error xidRun

theorem eventParsers_eq_none (codecs : Codecs) {eventType : Nat}
    (noClass : hasClass eventType = false) : eventParsers codecs (some eventType) = none := by
  simp only [hasClass, decide_eq_false_iff_not, not_or] at noClass
  rw [eventParsers.eq_def]
  split
  · exact absurd (Option.some.inj ‹_›) noClass.1
  · exact absurd (Option.some.inj ‹_›) noClass.2.1
  · exact absurd (Option.some.inj ‹_›) noClass.2.2.1
  · exact absurd (Option.some.inj ‹_›) noClass.2.2.2
  · rfl

/-- A packet gives its event if it is readable, and is fatal otherwise. -/
theorem binlogData_readable (codecs : Codecs) {delivery : Delivery}
    (readable : delivery.Readable) : ∃ event : BinlogEvent,
      binlogData codecs delivery.packet = .ok (.event event, true) ∧
        event.Shows delivery.sent := by
  obtain ⟨after, aheadEq, -, dataEq⟩ := binlogData_eq codecs delivery
  obtain ⟨⟨header, fields, checksum⟩, packet, behind, hasPayload⟩ := delivery
  cases fields with
  | unknown eventType body noClass =>
      refine ⟨⟨_, .unknown⟩, ?_, ⟨rfl, rfl⟩⟩
      rw [dataEq]
      dsimp only [SentFields.eventType]
      rw [eventParsers_eq_none codecs noClass]
      rfl
  | xid xid =>
      obtain ⟨binlogVersion, number, last, run⟩ :=
        (xidEvent_run (length_writeUIntLE xid.toNat 8) aheadEq).1 readable
      refine ⟨⟨_, .xid binlogVersion number⟩, ?_, ⟨rfl, binlogVersion, number, rfl⟩⟩
      rw [dataEq]
      show Except.map _ (StateT.run (XidEvent.read >>= _) after) = _
      rw [run_bind_of_ok run]
      rfl
  | rotate => exact absurd readable id
  | query => exact absurd readable id
  | formatDescription => exact absurd readable id

theorem binlogData_not_readable {codecs : Codecs} {err : JsError}
    (rejects : codecs.getDecoder none = .error err) {delivery : Delivery}
    (notReadable : ¬delivery.Readable) : ∃ err, binlogData codecs delivery.packet = .error err := by
  obtain ⟨after, aheadEq, -, dataEq⟩ := binlogData_eq codecs delivery
  obtain ⟨⟨header, fields, checksum⟩, packet, behind, hasPayload⟩ := delivery
  cases fields with
  | unknown eventType body noClass => exact absurd trivial notReadable
  | xid xid =>
      refine ⟨.rangeError, ?_⟩
      have run := (xidEvent_run (length_writeUIntLE xid.toNat 8) aheadEq).2
        (Nat.lt_of_not_le notReadable)
      rw [dataEq]
      show Except.map _ (StateT.run (XidEvent.read >>= _) after) = _
      rw [run_bind_of_error run]
      rfl
  | rotate position name =>
      exact ⟨err, binlogData_throws rfl [] (List.append_nil _).symm
        (reads_rotate rejects position name)⟩
  | query threadId executionTime errorCode statusVars schema text short schemaShort =>
      refine ⟨err, binlogData_throws rfl ([0] ++ utf8 text.string) ?_
        (reads_query rejects threadId executionTime errorCode schema short schemaShort)⟩
      simp only [SentFields.encode, List.append_assoc]
  | formatDescription binlogVersion serverVersion createTimestamp headerLength eventsLength
      padded =>
      refine ⟨err, binlogData_throws rfl (writeUIntLE createTimestamp.toNat 4 ++
        ([headerLength] ++ eventsLength)) ?_
        (reads_formatDescription rejects binlogVersion padded)⟩
      simp only [SentFields.encode, List.append_assoc]

/-! ## The stream -/

theorem step_of_ok {codecs : Codecs} {packet : Packet} {event : BinlogEvent}
    (data : binlogData codecs packet = .ok (.event event, true)) :
    BinlogDump.step codecs .binlogData packet = (.binlogData, [.event event]) := by
  rw [BinlogDump.step, data]

theorem step_of_error {codecs : Codecs} {packet : Packet} {err : JsError}
    (data : binlogData codecs packet = .error err) :
    BinlogDump.step codecs .binlogData packet = (.thrown err, []) := by
  rw [BinlogDump.step, data]

theorem run_thrown (codecs : Codecs) (err : JsError) (packets : List Packet) :
    run (BinlogDump.step codecs) (.thrown err) packets = (.thrown err, []) :=
  run_of_stays (fun _ => rfl) packets

theorem run_ended (codecs : Codecs) (packets : List Packet) :
    run (BinlogDump.step codecs) .ended packets = (.ended, []) :=
  run_of_stays (fun _ => rfl) packets

/-- A stream of readable packets gives all its events. -/
theorem run_readable (codecs : Codecs) {stream : List Delivery}
    (readable : ∀ delivery ∈ stream, delivery.Readable) : ∃ events : List BinlogEvent,
      run (BinlogDump.step codecs) .binlogData (stream.map Delivery.packet) =
        (.binlogData, events.map .event) ∧
      List.Forall₂ BinlogEvent.Shows events (stream.map Delivery.sent) := by
  induction stream with
  | nil => exact ⟨[], rfl, .nil⟩
  | cons delivery stream ih =>
      rw [List.forall_mem_cons] at readable
      obtain ⟨event, data, shows'⟩ := binlogData_readable codecs readable.1
      obtain ⟨events, rest, others⟩ := ih readable.2
      refine ⟨event :: events, ?_, .cons shows' others⟩
      rw [List.map_cons, run_cons, step_of_ok data, rest]
      rfl

/-- One packet that is not readable ends the stream, without its event. -/
theorem readable_of_run {codecs : Codecs} {err : JsError}
    (rejects : codecs.getDecoder none = .error err) {stream : List Delivery}
    (going : (run (BinlogDump.step codecs) .binlogData (stream.map Delivery.packet)).1 =
      .binlogData) : ∀ delivery ∈ stream, delivery.Readable := by
  induction stream with
  | nil => exact fun delivery member => absurd member List.not_mem_nil
  | cons delivery stream ih =>
      have readable : delivery.Readable := by
        by_contra notReadable
        obtain ⟨thrown, data⟩ := binlogData_not_readable rejects notReadable
        rw [List.map_cons, run_cons, step_of_error data, run_thrown] at going
        cases going
      obtain ⟨event, data, -⟩ := binlogData_readable codecs readable
      rw [List.map_cons, run_cons, step_of_ok data] at going
      rw [List.forall_mem_cons]
      exact ⟨readable, ih going⟩

theorem step_eof (codecs : Codecs) {eof : Packet} {warnings statusFlags : UInt16} {behind : Bytes}
    (isEof : HasPayload eof (eofPayload warnings statusFlags) behind) :
    BinlogDump.step codecs .binlogData eof = (.ended, [.eof]) := by
  have peeked : eof.peekByte = some 0xfe := by rw [Packet.peekByte_eq, isEof.ahead]; rfl
  have short : eof.length < 13 := by
    have lengthEq : (eofPayload warnings statusFlags).length = 5 := rfl
    rw [Packet.length, isEof.endOffset, isEof.offset, lengthEq]
    omega
  have atEnd : eof.isEOF = true := decide_eq_true ⟨peeked, short⟩
  rw [BinlogDump.step, binlogData, if_pos atEnd]

/-- A stream of events is handled right if no event but those of unknown types has a class, or if
those are transactions with bytes behind their identifiers. -/
theorem handledRight_iff {codecs : Codecs} {err : JsError}
    (rejects : codecs.getDecoder none = .error err) (stream : List Delivery) {eof : Packet}
    {warnings statusFlags : UInt16} {behind : Bytes}
    (isEof : HasPayload eof (eofPayload warnings statusFlags) behind) :
    HandledRight codecs stream eof ↔ ∀ delivery ∈ stream, delivery.Readable := by
  constructor
  · rintro ⟨events, rest, -, -⟩
    exact readable_of_run rejects (congrArg Prod.fst rest)
  · intro readable
    obtain ⟨events, rest, shows'⟩ := run_readable codecs readable
    refine ⟨events, rest, fun others => ?_, shows'⟩
    rw [run_append, rest, run_cons, step_eof codecs isEof, run_ended]
    rfl

theorem hasPayload_new (payload behind : Bytes) :
    HasPayload (.new 0 ([0, 0, 0, 0] ++ (payload ++ behind)) 0 (4 + payload.length)) payload
      behind :=
  ⟨rfl, rfl, Packet.ahead_new 0 _ _ _ rfl⟩

/-- An event in a buffer of its own, with other bytes behind it. -/
def Delivery.of (sent : SentEvent) (behind : Bytes) : Delivery where
  sent := sent
  packet := .new 0 ([0, 0, 0, 0] ++ (sent.payload ++ behind)) 0 (4 + sent.payload.length)
  behind := behind
  hasPayload := hasPayload_new sent.payload behind

/-- The end of a transaction, with the header of the next frame behind it. -/
def someXid : Delivery :=
  .of ⟨⟨0, 1, 31, 0, 0⟩, .xid 7, none⟩ [5, 0, 0, 2]

theorem handledRight_iff_xid :
    HandledRight .unknown [someXid]
        (.new 0 ([0, 0, 0, 0] ++ (eofPayload 0 2 ++ [])) 0 (4 + (eofPayload 0 2).length)) ↔
      ∀ delivery ∈ [someXid], delivery.Readable :=
  handledRight_iff (show Codecs.unknown.getDecoder none = .error _ from rfl) [someXid]
    (hasPayload_new (eofPayload 0 2) [])

/-- The name of the first file. -/
def firstFile : SentText :=
  ⟨units "binlog.000001", by decide, by decide⟩

/-- The event that names the first file. -/
theorem not_handledRight_rotate :
    ¬∀ (codecs : Codecs) (err : JsError), codecs.getDecoder none = .error err →
      ∀ (stream : List Delivery) (eof : Packet) (warnings statusFlags : UInt16) (behind : Bytes),
        HasPayload eof (eofPayload warnings statusFlags) behind →
          HandledRight codecs stream eof := by
  intro all
  have rejects : Codecs.unknown.getDecoder none =
      .error (.new ("Encoding not recognized: " ++ "undefined")) := rfl
  obtain ⟨events, going, -⟩ := all .unknown _ rejects
    [.of ⟨⟨0, 1, 0, 0, 0⟩, .rotate 4 firstFile, none⟩ []] _ 0 2 [] (hasPayload_new (eofPayload 0 2) [])
  exact readable_of_run rejects (congrArg Prod.fst going) _ List.mem_cons_self

end Mysql2.Commands

import Mysql2.Auth.HandshakePackets
import Mysql2.Packets.Writer

/-!
# The hello packet of the server side

`Handshake.toPacket` writes all fields whatever the capability flags are, and reserves what the
version of the server takes in UTF-8, while it writes it in CESU-8.  `Handshake.fromPacket` goes by
the flags.
-/

namespace Mysql2.Auth

open Mysql2.Packets Mysql2.Packets.Packet Mysql2.Script ClientConstants

/-! ## CESU-8 -/

/-- The bytes of a code unit in CESU-8, where surrogates are no exception. -/
def cesu8Unit (unit : UInt16) : Bytes :=
  let code := unit.toNat
  if code < 0x80 then [toByte code]
  else if code < 0x800 then [toByte (0xc0 + code / 0x40), toByte (0x80 + code % 0x40)]
  else
    [toByte (0xe0 + code / 0x1000), toByte (0x80 + code / 0x40 % 0x40), toByte (0x80 + code % 0x40)]

/-- A string in CESU-8. -/
def cesu8 (string : JsString) : Bytes :=
  string.flatMap cesu8Unit

/-- A string without a byte order mark at its start. -/
def dropMark : JsString → JsString
  | [] => []
  | unit :: string => if unit = 0xfeff then string else unit :: string

/-- What the library knows of CESU-8.  A decoder drops the byte order mark of what it decodes
first, and the driver keeps its decoders: `used` tells whether this one has decoded before. -/
structure KnowsCesu8 (codecs : Codecs) (used : Bool) : Prop where
  encoder : codecs.getEncoder (some "cesu8") = .ok cesu8
  decoder : ∃ decoder, codecs.getDecoder (some "cesu8") = .ok decoder ∧
    ∀ string, decoder (cesu8 string) = if used then string else dropMark string

/-! ## Writing -/

/-- A `Handshake` that is sent, with random data of 20 bytes. -/
structure ServerHello where
  protocolVersion : Nat
  serverVersion : JsString
  capabilityFlags : Nat
  connectionId : Nat
  authPluginData1 : Bytes
  authPluginData2 : Bytes
  characterSet : Nat
  statusFlags : Nat
  deriving DecidableEq, Repr

/-- What `setScrambleData(cb)` makes of 20 random bytes. -/
def ServerHello.setScrambleData (hello : ServerHello) (data : Bytes) : ServerHello :=
  { hello with
    authPluginData1 := slice data 0 8
    authPluginData2 := slice data 8 20 }

/-- The name of the plugin that is always sent. -/
def nativePassword : JsString :=
  units "mysql_native_password"

/-- The fields before the reserved bytes. -/
def ServerHello.writeFields (codecs : Codecs) (hello : ServerHello) : Writer Unit := do
  Outgoing.writeInt8 hello.protocolVersion
  Outgoing.writeString codecs hello.serverVersion (some "cesu8")
  Outgoing.writeInt8 0
  Outgoing.writeInt32 hello.connectionId
  Outgoing.writeBuffer hello.authPluginData1
  Outgoing.writeInt8 0
  if 4294967296 ≤ hello.capabilityFlags then throw (outOfRangeError hello.capabilityFlags)
  let capabilityFlagsBuffer := writeUIntLE hello.capabilityFlags 4
  Outgoing.writeBuffer (slice capabilityFlagsBuffer 0 2)
  Outgoing.writeInt8 hello.characterSet
  Outgoing.writeInt16 hello.statusFlags
  Outgoing.writeBuffer (slice capabilityFlagsBuffer 2 4)
  Outgoing.writeInt8 21

/-- The fields behind them. -/
def ServerHello.writePlugin (codecs : Codecs) (hello : ServerHello) : Writer Unit := do
  Outgoing.writeBuffer hello.authPluginData2
  Outgoing.writeInt8 0
  Outgoing.writeString codecs nativePassword (some "latin1")
  Outgoing.writeInt8 0

/-- `toPacket(sequenceId)` of a `Handshake`. -/
def ServerHello.toPacket (codecs : Codecs) (hello : ServerHello) : Except JsError Outgoing :=
  let length := 68 + utf8ByteLength hello.serverVersion
  Outgoing.written (length + 4) do
    hello.writeFields codecs
    Outgoing.skip 10
    hello.writePlugin codecs

/-! ## Reading -/

/-- The fields behind the lower flags. -/
structure HelloFlags where
  capabilityFlags : Nat
  characterSet : Option Nat
  statusFlags : Option Nat
  authPluginDataLength : Option Nat
  mariadbExtendedCapabilityFlags : Nat
  deriving DecidableEq, Repr

/-- The flags, and what depends on them up to the second part of the plugin data. -/
def HelloFlags.read (lower : Nat) : Reader HelloFlags := do
  if !(← get).haveMoreData then
    return ⟨lower, none, none, none, 0⟩
  else
    let characterSet ← Packet.readInt8
    let statusFlags ← Packet.readInt16
    let third ← Packet.readInt8
    let fourth ← Packet.readInt8
    let capabilityFlags := lower + third.getD 0 * 65536 + fourth.getD 0 * 16777216
    let mut authPluginDataLength := some 0
    if hasFlag capabilityFlags PLUGIN_AUTH then
      authPluginDataLength ← Packet.readInt8
    else
      Packet.skip 1
    Packet.skip 6
    if hasFlag capabilityFlags LONG_PASSWORD then
      Packet.skip 4
      return ⟨capabilityFlags, characterSet, some statusFlags, authPluginDataLength, 0⟩
    else
      return ⟨capabilityFlags, characterSet, some statusFlags, authPluginDataLength,
        ← Packet.readInt32⟩

/-- All fields of a `Handshake`. -/
structure ClientHello where
  protocolVersion : Option Nat
  serverVersion : JsString
  capabilityFlags : Nat
  connectionId : Nat
  authPluginData1 : Bytes
  authPluginData2 : Option Bytes
  characterSet : Option Nat
  statusFlags : Option Nat
  authPluginName : Option JsString
  mariadbExtendedCapabilityFlags : Nat
  deriving DecidableEq, Repr

/-- The second part of the plugin data and the name of the plugin, as the flags tell. -/
def HelloFlags.readPlugin (codecs : Codecs) (flags : HelloFlags) :
    Reader (Option Bytes × Option JsString) := do
  let mut authPluginData2 := none
  if hasFlag flags.capabilityFlags SECURE_CONNECTION then
    authPluginData2 := some (← Handshake.readAuthPluginData2 flags.authPluginDataLength)
  let mut authPluginName := none
  if hasFlag flags.capabilityFlags PLUGIN_AUTH then
    authPluginName := some (← codecs.readNullTerminatedString (some "ascii"))
  return (authPluginData2, authPluginName)

/-- `Handshake.fromPacket(packet)`. -/
def ClientHello.fromPacket (codecs : Codecs) : Reader ClientHello := do
  let protocolVersion ← Packet.readInt8
  let serverVersion ← codecs.readNullTerminatedString (some "cesu8")
  let connectionId ← Packet.readInt32
  let authPluginData1 ← Packet.readBuffer 8
  Packet.skip 1
  let first ← Packet.readInt8
  let second ← Packet.readInt8
  let flags ← HelloFlags.read (first.getD 0 + second.getD 0 * 256)
  let (authPluginData2, authPluginName) ← flags.readPlugin codecs
  return {
    protocolVersion := protocolVersion
    serverVersion := serverVersion
    capabilityFlags := flags.capabilityFlags
    connectionId := connectionId
    authPluginData1 := authPluginData1
    authPluginData2 := authPluginData2
    characterSet := flags.characterSet
    statusFlags := flags.statusFlags
    authPluginName := authPluginName
    mariadbExtendedCapabilityFlags := flags.mariadbExtendedCapabilityFlags }

/-- The fields that authentication reads, with the text of the plugin's name. -/
def ClientHello.toHandshake (hello : ClientHello) : Handshake where
  capabilityFlags := hello.capabilityFlags
  authPluginData1 := hello.authPluginData1
  authPluginData2 := hello.authPluginData2
  authPluginName := hello.authPluginName.map textOf
  mariadbExtendedCapabilityFlags := hello.mariadbExtendedCapabilityFlags

/-! ## The reader of authentication -/

section Handshake

variable {runtime : Runtime} {codecs : Codecs}

/-- A string up to a zero byte, by its place in the buffer. -/
theorem slice_nullTerminated (packet : Packet) :
    slice packet.buffer packet.offset (packet.offset + packet.nullTerminated.length) =
      packet.nullTerminated := by
  have isPrefix : List.IsPrefix packet.nullTerminated packet.unread := List.takeWhile_prefix _
  obtain ⟨rest, split⟩ := isPrefix
  have ahead : packet.ahead = packet.nullTerminated ++
      (rest ++ packet.ahead.drop (packet.endOffset - packet.offset)) := by
    rw [← List.append_assoc]
    rw [split]
    exact (List.take_append_drop _ _).symm
  exact slice_of_ahead ahead

theorem readNullTerminatedString_eq (sameDecode : runtime.decode = codecs.decodeText)
    (encoding : Option String) :
    Packet.readNullTerminatedString runtime.toDecoding encoding =
      codecs.readNullTerminatedString encoding >>= fun string => pure (textOf string) := by
  apply StateT.ext
  intro packet
  have whole (bytes : Bytes) : slice bytes 0 bytes.length = bytes := List.take_length
  rw [Packet.readNullTerminatedString, Codecs.readNullTerminatedString, bind_assoc, run_get_bind,
    run_get_bind]
  dsimp only
  rw [bind_assoc, run_bind_of_ok (skip_run _ _), run_bind_of_ok (skip_run _ _), sameDecode,
    Codecs.decodeText, Codecs.decode_eq, Codecs.decode_eq, whole, slice_nullTerminated]
  split
  · rfl
  · cases codecs.decodeBytes encoding packet.nullTerminated with
    | error error => rfl
    | ok string => rfl

theorem HelloFlags.read_eq (lower : Nat) :
    Handshake.readUpperFlags lower = HelloFlags.read lower >>= fun flags =>
      pure (flags.capabilityFlags, flags.authPluginDataLength,
        flags.mariadbExtendedCapabilityFlags) := by
  rw [Handshake.readUpperFlags, HelloFlags.read, bind_assoc]
  refine bind_congr fun packet => ?_
  split
  · rfl
  · simp only [bind_assoc]
    refine bind_congr fun characterSet => bind_congr fun statusFlags => bind_congr fun third =>
      bind_congr fun fourth => ?_
    split
    · simp only [bind_assoc]
      split
      · rfl
      · simp only [bind_assoc, pure_bind]
    · simp only [bind_assoc]
      split
      · rfl
      · simp only [bind_assoc, pure_bind]

/-- Authentication reads the fields that it uses as they are read here. -/
theorem Handshake.fromPacket_eq (sameDecode : runtime.decode = codecs.decodeText) :
    Handshake.fromPacket runtime =
      ClientHello.fromPacket codecs >>= fun hello => pure hello.toHandshake := by
  rw [Handshake.fromPacket, ClientHello.fromPacket]
  simp only [readNullTerminatedString_eq sameDecode, HelloFlags.read_eq, bind_assoc, pure_bind]
  refine bind_congr fun protocolVersion => bind_congr fun serverVersion =>
    bind_congr fun connectionId => bind_congr fun authPluginData1 => bind_congr fun _ =>
      bind_congr fun first => bind_congr fun second => bind_congr fun flags => ?_
  rw [HelloFlags.readPlugin]
  split
  · split
    · simp only [bind_assoc, pure_bind]
      rfl
    · simp only [bind_assoc, pure_bind]
      rfl
  · split
    · simp only [bind_assoc, pure_bind]
      rfl
    · simp only [pure_bind]
      rfl

end Handshake

end Mysql2.Auth

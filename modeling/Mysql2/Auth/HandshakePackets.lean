import Mysql2.Auth.Auth41
import Mysql2.Packets.Requests

/-!
# Packets of the connection phase

The server's hello, switch and more-data packets, and the client's requests and
responses.  Flags are numbers; the bit operators of the source yield a signed
number, which a write to a buffer does not accept when its highest bit is set.
-/

namespace Mysql2.Auth

open Mysql2.Packets

namespace ClientConstants

/-! ## Constants -/

def LONG_PASSWORD : Nat := 0x1

def CONNECT_WITH_DB : Nat := 0x8

def COMPRESS : Nat := 0x20

def SSL : Nat := 0x800

def SECURE_CONNECTION : Nat := 0x8000

def PLUGIN_AUTH : Nat := 0x80000

def CONNECT_ATTRS : Nat := 0x100000

def PLUGIN_AUTH_LENENC_CLIENT_DATA : Nat := 0x200000

def MULTI_FACTOR_AUTHENTICATION : Nat := 0x10000000

/-- Of the extended flags of MariaDB. -/
def MARIADB_CLIENT_EXTENDED_METADATA : Nat := 0x8

end ClientConstants

open ClientConstants

/-! ## Packets of the server -/

/-- The hello packet, as far as authentication reads it. -/
structure Handshake where
  capabilityFlags : Nat
  authPluginData1 : Bytes
  authPluginData2 : Option Bytes
  authPluginName : Option String
  mariadbExtendedCapabilityFlags : Nat
  deriving DecidableEq, Repr

/-- The flags and the length of the plugin data behind the lower flags of a
hello packet, if there is more. -/
def Handshake.readUpperFlags (lower : Nat) : Reader (Nat × Option Nat × Nat) := do
  if !(← get).haveMoreData then
    return (lower, none, 0)
  else
    let _characterSet ← Packet.readInt8
    let _statusFlags ← Packet.readInt16
    let third ← Packet.readInt8
    let fourth ← Packet.readInt8
    let capabilityFlags := lower + third.getD 0 * 65536 + fourth.getD 0 * 16777216
    let mut authPluginDataLength := some 0
    if hasFlag capabilityFlags PLUGIN_AUTH then
      authPluginDataLength ← Packet.readInt8
    else
      Packet.skip 1
    Packet.skip 6
    if hasFlag capabilityFlags LONG_PASSWORD then
      -- the remaining reserved bytes of a MySQL server are filler
      Packet.skip 4
      return (capabilityFlags, authPluginDataLength, 0)
    else
      return (capabilityFlags, authPluginDataLength, ← Packet.readInt32)

/-- The second part of the plugin data.  A length that the packet does not
contain makes the read position `NaN`, from where nothing is read. -/
def Handshake.readAuthPluginData2 : Option Nat → Reader Bytes
  | some 0 => do
      let data ← Packet.readBuffer 12
      Packet.skip 1
      return data
  | some length => Packet.readBuffer (max 13 (length - 8))
  | none => do
      modify fun packet => { packet with offset := packet.endOffset }
      return []

/-- `Handshake.fromPacket(packet)`. -/
def Handshake.fromPacket (runtime : Runtime) : Reader Handshake := do
  let _protocolVersion ← Packet.readInt8
  let _serverVersion ← Packet.readNullTerminatedString runtime.toDecoding (some "cesu8")
  let _connectionId ← Packet.readInt32
  let authPluginData1 ← Packet.readBuffer 8
  Packet.skip 1
  let first ← Packet.readInt8
  let second ← Packet.readInt8
  let (capabilityFlags, authPluginDataLength, mariadbExtendedCapabilityFlags) ←
    readUpperFlags (first.getD 0 + second.getD 0 * 256)
  let mut authPluginData2 := none
  if hasFlag capabilityFlags SECURE_CONNECTION then
    authPluginData2 := some (← readAuthPluginData2 authPluginDataLength)
  let mut authPluginName := none
  if hasFlag capabilityFlags PLUGIN_AUTH then
    authPluginName := some (← Packet.readNullTerminatedString runtime.toDecoding (some "ascii"))
  return {
    capabilityFlags := capabilityFlags
    authPluginData1 := authPluginData1
    authPluginData2 := authPluginData2
    authPluginName := authPluginName
    mariadbExtendedCapabilityFlags := mariadbExtendedCapabilityFlags }

/-- `AuthSwitchRequest`, which an `AuthNextFactor` packet is read as too. -/
structure AuthSwitchRequest where
  pluginName : String
  pluginData : Bytes
  deriving DecidableEq, Repr

/-- `readBuffer()`: the rest of a packet. -/
def readRest : Reader Bytes := do
  let packet ← get
  Packet.readBuffer (packet.endOffset - packet.offset)

/-- `AuthSwitchRequest.fromPacket(packet)`. -/
def AuthSwitchRequest.fromPacket (runtime : Runtime) : Reader AuthSwitchRequest := do
  let _marker ← Packet.readInt8
  let name ← Packet.readNullTerminatedString runtime.toDecoding (some "cesu8")
  return {
    pluginName := name
    pluginData := ← readRest }

/-- `AuthSwitchRequestMoreData.fromPacket(packet)`. -/
def AuthSwitchRequestMoreData.fromPacket : Reader Bytes := do
  let _marker ← Packet.readInt8
  readRest

/-! ## Packets of the client -/

/-- `writeInt8(n)`. -/
def writeInt8 (n : Nat) : Except JsError Bytes :=
  if n < 256 then .ok [toByte n] else .error (outOfRangeError n)

/-- `writeInt16(n)`. -/
def writeInt16 (n : Nat) : Except JsError Bytes :=
  if n < 65536 then .ok (writeUIntLE n 2) else .error (outOfRangeError n)

/-- `writeInt32(flags)`, of the signed number with these bits. -/
def writeFlags (flags : Nat) : Except JsError Bytes :=
  if flags < 2147483648 then
    .ok (writeUIntLE flags 4)
  else
    .error (outOfRangeError (flags - 4294967296))

/-- The signed number with the given bits, which bit operators return. -/
def toInt32 (bits : Nat) : Int :=
  if bits < 2147483648 then bits else (bits : Int) - 4294967296

/-- The bits of a number, which bit operators use. -/
def toUint32 (number : Int) : Nat :=
  (number % 4294967296).toNat

/-- `writeInt32(n)`. -/
def writeInt32 (n : Int) : Except JsError Bytes :=
  if 0 ≤ n ∧ n < 4294967296 then .ok (writeUIntLE n.toNat 4) else .error (outOfRangeError n)

/-- `writeNullTerminatedString(s, encoding)`. -/
def writeNullTerminatedString (runtime : Runtime) (encoding : Option String) (s : String) :
    Except JsError Bytes :=
  (runtime.encode encoding s).map (· ++ [0])

/-- `writeLengthCodedString(s, encoding)`. -/
def writeLengthCodedString (runtime : Runtime) (encoding : Option String) (s : String) :
    Except JsError Bytes :=
  (runtime.encode encoding s).map writeLengthCodedBuffer

/-- The loop over connection attributes. -/
def writeAttributes (runtime : Runtime) (encoding : Option String) :
    List (String × String) → Except JsError Bytes
  | [] => .ok []
  | (name, value) :: connectAttributes => do
      let key ← writeLengthCodedString runtime encoding name
      let text ← writeLengthCodedString runtime encoding value
      return key ++ text ++ (← writeAttributes runtime encoding connectAttributes)

/-- The connection attributes, behind their length. -/
def writeConnectAttributes (runtime : Runtime) (encoding : Option String)
    (connectAttributes : List (String × String)) : Except JsError Bytes :=
  (writeAttributes runtime encoding connectAttributes).map writeLengthCodedBuffer

/-- What is written if a flag is set. -/
def writeIf (condition : Bool) (write : Except JsError Bytes) : Except JsError Bytes :=
  if condition then write else .ok []

/-- `new SSLRequest(flags, charset, mariadbExtendedClientFlags).toPacket()`. -/
def sslRequestToPacket (flags charset mariadbExtendedClientFlags : Nat) :
    Except JsError Packet := do
  let clientFlags ← writeFlags (flags ||| SSL)
  let charsetNumber ← writeInt8 charset
  let extended ← writeFlags mariadbExtendedClientFlags
  return .new 0 ([0, 0, 0, 0] ++ clientFlags ++ [0, 0, 0, 0] ++ charsetNumber ++
    List.replicate 19 0 ++ extended) 0 36

/-- The fields of a `HandshakeResponse` that it writes.  Flags are numbers, which
may be signed. -/
structure HandshakeResponse where
  clientFlags : Int
  mariadbExtendedClientFlags : Int
  charsetNumber : Nat
  user : String
  database : String
  authToken : Bytes
  authPluginName : String
  connectAttributes : List (String × String)
  deriving DecidableEq, Repr

/-- The token of a response, behind its length or in front of a zero byte. -/
def writeAuthToken (clientFlags : Nat) (authToken : Bytes) : Except JsError Bytes :=
  if hasFlag clientFlags PLUGIN_AUTH_LENENC_CLIENT_DATA then
    .ok (writeLengthCodedBuffer authToken)
  else if hasFlag clientFlags SECURE_CONNECTION then
    (writeInt8 authToken.length).map (· ++ authToken)
  else
    .ok (authToken ++ [0])

/-- `this.authPluginName || 'mysql_native_password'`. -/
def pluginNameOrDefault (authPluginName : String) : String :=
  if authPluginName = "" then "mysql_native_password" else authPluginName

/-- The part of `serializeResponse(buffer)` in front of the name of the user. -/
def HandshakeResponse.serializeHeader (response : HandshakeResponse) : Except JsError Bytes := do
  let clientFlags ← writeInt32 response.clientFlags
  let charsetNumber ← writeInt8 response.charsetNumber
  let extended ← writeInt32 response.mariadbExtendedClientFlags
  return clientFlags ++ [0, 0, 0, 0] ++ charsetNumber ++ List.replicate 19 0 ++ extended

/-- `serializeResponse(buffer)`, behind the header of the packet. -/
def HandshakeResponse.serializeResponse (runtime : Runtime) (response : HandshakeResponse) :
    Except JsError Bytes := do
  let encoding := runtime.charsetToEncoding response.charsetNumber
  let clientFlags := toUint32 response.clientFlags
  let header ← response.serializeHeader
  let user ← writeNullTerminatedString runtime encoding response.user
  let authToken ← writeAuthToken clientFlags response.authToken
  let database ← writeIf (hasFlag clientFlags CONNECT_WITH_DB)
    (writeNullTerminatedString runtime encoding response.database)
  let authPluginName ← writeIf (hasFlag clientFlags PLUGIN_AUTH)
    (writeNullTerminatedString runtime (some "latin1") (pluginNameOrDefault response.authPluginName))
  let connectAttributes ← writeIf (hasFlag clientFlags CONNECT_ATTRS)
    (writeConnectAttributes runtime encoding response.connectAttributes)
  return header ++ user ++ authToken ++ database ++ authPluginName ++ connectAttributes

/-- `HandshakeResponse.toPacket()`. -/
def HandshakeResponse.toPacket (runtime : Runtime) (response : HandshakeResponse) :
    Except JsError Packet := do
  let bytes ← response.serializeResponse runtime
  allocUnsafe (4 + bytes.length)
  return .new 0 ([0, 0, 0, 0] ++ bytes) 0 (4 + bytes.length)

/-- The fields of a `ChangeUser` packet that it writes.  It has no connection
attributes. -/
structure ChangeUserPacket where
  flags : Nat
  charsetNumber : Nat
  user : String
  database : String
  authToken : Bytes
  deriving DecidableEq, Repr

/-- `ChangeUser.toPacket()`. -/
def ChangeUserPacket.toPacket (runtime : Runtime) (packet : ChangeUserPacket) :
    Except JsError Packet := do
  let encoding := runtime.charsetToEncoding packet.charsetNumber
  let user ← writeNullTerminatedString runtime encoding packet.user
  let authToken ←
    if hasFlag packet.flags SECURE_CONNECTION then
      (writeInt8 packet.authToken.length).map (· ++ packet.authToken)
    else
      .ok (packet.authToken ++ [0])
  let database ← writeNullTerminatedString runtime encoding packet.database
  let charsetNumber ← writeInt16 packet.charsetNumber
  let authPluginName ← writeIf (hasFlag packet.flags PLUGIN_AUTH)
    (writeNullTerminatedString runtime (some "latin1") "mysql_native_password")
  let connectAttributes ← writeIf (hasFlag packet.flags CONNECT_ATTRS)
    (writeConnectAttributes runtime encoding [])
  let bytes := [0, 0, 0, 0, 0x11] ++ user ++ authToken ++ database ++ charsetNumber ++
    authPluginName ++ connectAttributes
  return .new 0 bytes 0 bytes.length

/-- `new AuthSwitchResponse(data).toPacket()`. -/
def authSwitchResponseToPacket (data : Bytes) : Packet :=
  .new 0 ([0, 0, 0, 0] ++ data) 0 (4 + data.length)

/-! ## The client's response, as a server reads it -/

/-- The object of connection attributes: its properties, and whether
`__proto__` still sets its prototype. -/
structure Attributes where
  entries : List (String × Option String)
  hasPrototype : Bool
  deriving DecidableEq, Repr

/-- `{}`. -/
def Attributes.empty : Attributes :=
  ⟨[], true⟩

/-- `attrs[key] = value`. -/
def Attributes.assign (attributes : Attributes) (key : String) (value : Option String) : Attributes :=
  if key = "__proto__" ∧ attributes.hasPrototype then
    { attributes with hasPrototype := value.isSome }
  else if attributes.entries.any (·.1 = key) then
    { attributes with
      entries := attributes.entries.map fun entry => if entry.1 = key then (key, value) else entry }
  else
    { attributes with entries := attributes.entries ++ [(key, value)] }

/-- The loop over attributes, each of which takes two bytes at least. -/
def readAttributes (runtime : Runtime) (encoding : Option String) (keysEnd : Nat) :
    Nat → Attributes → Reader Attributes
  | 0, attributes => return attributes
  | fuel + 1, attributes => do
      if (← get).offset < keysEnd then
        let key ← Packet.readLengthCodedString runtime.toDecoding encoding
        let value ← Packet.readLengthCodedString runtime.toDecoding encoding
        readAttributes runtime encoding keysEnd fuel (attributes.assign (key.getD "null") value)
      else
        return attributes

/-- The token of a response: a buffer, or a string without `SECURE_CONNECTION`. -/
inductive AuthToken
  | buffer (bytes : Bytes)
  | string (text : String)
  deriving DecidableEq, Repr

/-- What `HandshakeResponse.fromPacket` returns. -/
structure ClientReply where
  clientFlags : Nat
  maxPacketSize : Nat
  charsetNumber : Option Nat
  encoding : Option String
  user : String
  authToken : AuthToken
  database : Option String
  authPluginName : Option String
  connectAttributes : Option Attributes
  deriving DecidableEq, Repr

/-- The token, by the flags of both sides. -/
def readAuthToken (runtime : Runtime) (encoding : Option String) (flags : Nat) :
    Reader AuthToken := do
  if hasFlag flags PLUGIN_AUTH_LENENC_CLIENT_DATA then
    -- the encoding stands where the reader expects `bigNumberStrings`
    let length ← Packet.readLengthCodedNumber (encoding.any (· ≠ "")) false
    return .buffer (← Packet.readBuffer length.toNat)
  else if hasFlag flags SECURE_CONNECTION then
    match ← Packet.readInt8 with
    | some length => return .buffer (← Packet.readBuffer length)
    | none =>
        modify fun packet => { packet with offset := packet.endOffset }
        return .buffer []
  else
    return .string (← Packet.readNullTerminatedString runtime.toDecoding encoding)

/-- What is read if a flag is set. -/
def readIf {α : Type} (condition : Bool) (reader : Reader α) : Reader (Option α) :=
  if condition then some <$> reader else return none

/-- The connection attributes of a response. -/
def readConnectAttributes (runtime : Runtime) (encoding : Option String) : Reader Attributes := do
  let keysLength ← Packet.readLengthCodedNumber (encoding.any (· ≠ "")) false
  let keysEnd := (← get).offset + keysLength.toNat
  readAttributes runtime encoding keysEnd keysLength.toNat .empty

/-- `HandshakeResponse.fromPacket(packet, serverFlags)`. -/
def HandshakeResponse.fromPacket (runtime : Runtime) (serverFlags : Nat) : Reader ClientReply := do
  let clientFlags ← Packet.readInt32
  let flags := clientFlags &&& serverFlags
  let maxPacketSize ← Packet.readInt32
  let charsetNumber ← Packet.readInt8
  let encoding := charsetNumber.bind runtime.charsetToEncoding
  Packet.skip 23
  let user ← Packet.readNullTerminatedString runtime.toDecoding encoding
  let authToken ← readAuthToken runtime encoding flags
  let database ← readIf (hasFlag flags CONNECT_WITH_DB)
    (Packet.readNullTerminatedString runtime.toDecoding encoding)
  let authPluginName ← readIf (hasFlag flags PLUGIN_AUTH)
    (Packet.readNullTerminatedString runtime.toDecoding encoding)
  let connectAttributes ← readIf (hasFlag flags CONNECT_ATTRS)
    (readConnectAttributes runtime encoding)
  return {
    clientFlags := clientFlags
    maxPacketSize := maxPacketSize
    charsetNumber := charsetNumber
    encoding := encoding
    user := user
    authToken := authToken
    database := database
    authPluginName := authPluginName
    connectAttributes := connectAttributes }

end Mysql2.Auth

import Mysql2.Packets.Packet

/-!
# Reading packets

The readers of the `Packet` class that the commands use.  They move the read
position and throw where the source does: `buffer[i]` behind the end of the
buffer is `undefined`, while the multi-byte reads of `Buffer` check their range.
A reader can see bytes behind the window of its packet, because the window is
cut from a larger buffer.
-/

namespace Mysql2.Packets

/-- `error.code`: a name, or the number of a server error. -/
inductive ErrorCode
  | name (text : String)
  | number (value : Nat)
  deriving DecidableEq, Repr

/-- The properties of an `Error` object that the driver sets. -/
structure JsError where
  message : String
  code : Option ErrorCode
  errno : Option Nat
  sqlState : Option String
  sql : Option String
  fatal : Bool
  deriving DecidableEq, Repr

namespace JsError

/-- `new Error(message)`. -/
def new (message : String) : JsError :=
  { message := message
    code := none
    errno := none
    sqlState := none
    sql := none
    fatal := false }

/-- The error of a read outside a buffer. -/
def rangeError : JsError :=
  { new "Attempt to access memory outside buffer bounds" with
    code := some (.name "ERR_BUFFER_OUT_OF_BOUNDS") }

/-- The error of a property access on `undefined`. -/
def typeError : JsError :=
  new "Cannot read properties of undefined"

end JsError

/-- Parts of the runtime that decode server data: `StringParser.decode` for an
encoding that may be unknown, and the tables from error numbers to names and
from character sets to encodings. -/
structure Decoding where
  decode : Option String → Bytes → Except JsError String
  errorCodeToName : Nat → Option String
  charsetToEncoding : Nat → Option String

/-- A computation that moves the read position of a packet and can throw. -/
abbrev Reader :=
  StateT Packet (Except JsError)

namespace Packet

/-- `buffer[offset]`, with `none` for `undefined`. -/
def peekByte (packet : Packet) : Option Nat :=
  packet.buffer[packet.offset]?.map UInt8.toNat

/-- `isEOF()`. -/
def isEOF (packet : Packet) : Bool :=
  packet.peekByte = some 0xfe ∧ packet.length < 13

/-- `isError()`. -/
def isError (packet : Packet) : Bool :=
  packet.peekByte = some 0xff

/-- The two bytes at a position, as `readUInt16LE` returns them. -/
def readUInt16LE (packet : Packet) (position : Nat) : Except JsError Nat :=
  if position + 2 ≤ packet.buffer.length then
    .ok (byteAt packet.buffer position + 256 * byteAt packet.buffer (position + 1))
  else
    .error .rangeError

/-- `eofStatusFlags()`.  The source reads the two bytes as a signed number,
which has the same bits. -/
def eofStatusFlags (packet : Packet) : Except JsError Nat :=
  packet.readUInt16LE (packet.offset + 3)

/-- `haveMoreData()`. -/
def haveMoreData (packet : Packet) : Bool :=
  packet.offset < packet.endOffset

/-- `reset()`. -/
def reset : Reader Unit :=
  modify fun packet => { packet with offset := packet.start + 4 }

/-- `skip(num)`. -/
def skip (num : Nat) : Reader Unit :=
  modify fun packet => { packet with offset := packet.offset + num }

/-- `readInt8()`, with `none` for `undefined`. -/
def readInt8 : Reader (Option Nat) := do
  let packet ← get
  skip 1
  return packet.peekByte

/-- `readInt16()`. -/
def readInt16 : Reader Nat := do
  let packet ← get
  skip 2
  packet.readUInt16LE packet.offset

/-- `readInt24()`. -/
def readInt24 : Reader Nat := do
  let low ← readInt16
  let high ← readInt8
  return low + high.getD 0 <<< 16

/-- `readInt32()`. -/
def readInt32 : Reader Nat := do
  let packet ← get
  skip 4
  if packet.offset + 4 ≤ packet.buffer.length then
    return byteAt packet.buffer packet.offset + 256 * byteAt packet.buffer (packet.offset + 1) +
      65536 * byteAt packet.buffer (packet.offset + 2) +
      16777216 * byteAt packet.buffer (packet.offset + 3)
  else
    throw .rangeError

/-- `readBuffer(len)`. -/
def readBuffer (len : Nat) : Reader Bytes := do
  let packet ← get
  skip len
  return slice packet.buffer packet.offset (packet.offset + len)

/-- What `readLengthCodedNumber` returns: `null`, a number, or the decimal
string of a number outside the range of safe integers. -/
inductive LengthCoded
  | null
  | number (value : Int)
  | string (value : Int)
  deriving DecidableEq, Repr

/-- The value as the source uses it in `offset + len`. -/
def LengthCoded.toNat : LengthCoded → Nat
  | .null => 0
  | .number value => value.toNat
  | .string value => value.toNat

/-- The eight-byte form of `readLengthCodedNumberExt`. -/
def lengthCoded64 (word0 word1 : Nat) (bigNumberStrings signed : Bool) : LengthCoded :=
  if word1 = 0 then
    .number word0
  else if word1 < 2097152 then
    -- at most 53 bits
    .number (word1 * 4294967296 + word0)
  else
    let unsigned : Int := word1 * 4294967296 + word0
    let value := if signed ∧ 2147483648 ≤ word1 then unsigned - 18446744073709551616 else unsigned
    if bigNumberStrings ∨ 9007199254740991 < value ∨ value < -9007199254740991 then
      .string value
    else
      .number value

/-- `readLengthCodedNumber(bigNumberStrings, signed)`.  The two- and three-byte
forms read their bytes with `readInt8`.  Missing higher bytes count as zero, and so
does a missing low byte here, which makes the number of the source `NaN`. -/
def readLengthCodedNumber (bigNumberStrings signed : Bool) : Reader LengthCoded := do
  match ← readInt8 with
  | none => throw (.new "Should not reach here: undefined")
  | some byte1 =>
      if byte1 < 251 then
        return .number byte1
      else if byte1 = 0xfb then
        return .null
      else if byte1 = 0xfc then
        let low ← readInt8
        let high ← readInt8
        return .number (low.getD 0 + high.getD 0 <<< 8)
      else if byte1 = 0xfd then
        let low ← readInt8
        let middle ← readInt8
        let high ← readInt8
        return .number (low.getD 0 + middle.getD 0 <<< 8 + high.getD 0 <<< 16)
      else if byte1 = 0xfe then
        let word0 ← readInt32
        let word1 ← readInt32
        return lengthCoded64 word0 word1 bigNumberStrings signed
      else
        throw (.new s!"Should not reach here: {byte1}")

/-- `readString(undefined, encoding)`: the rest of the packet. -/
def readString (decoding : Decoding) (encoding : Option String) : Reader String := do
  let packet ← get
  let bytes ← readBuffer (packet.endOffset - packet.offset)
  decoding.decode encoding bytes

/-- `readLengthCodedString(encoding)`, with `none` for `null`. -/
def readLengthCodedString (decoding : Decoding) (encoding : Option String) :
    Reader (Option String) := do
  match ← readLengthCodedNumber false false with
  | .null => return none
  | len =>
      let bytes ← readBuffer len.toNat
      return some (← decoding.decode encoding bytes)

/-- The bytes up to a zero byte or the end of the packet. -/
def nullTerminated (packet : Packet) : Bytes :=
  (slice packet.buffer packet.offset packet.endOffset).takeWhile (· ≠ 0)

/-- `readNullTerminatedString(encoding)`. -/
def readNullTerminatedString (decoding : Decoding) (encoding : Option String) :
    Reader String := do
  let bytes := (← get).nullTerminated
  skip (bytes.length + 1)
  decoding.decode encoding bytes

/-- `asError(encoding)`. -/
def asError (decoding : Decoding) (encoding : Option String) : Reader JsError := do
  reset
  let _ ← readInt8
  let errorCode ← readInt16
  let mut sqlState := ""
  if (← get).peekByte = some 0x23 then
    skip 1
    sqlState ← decoding.decode (some "utf8") (← readBuffer 5)
  let message ← readString decoding encoding
  return {
    message := message
    code := (decoding.errorCodeToName errorCode).map .name
    errno := some errorCode
    sqlState := some sqlState
    sql := none
    fatal := false }

end Packet

/-- `Packets.Error.fromPacket(packet)`, which reads an error without a sequence
id and with another string reader. -/
def errorFromPacket (decoding : Decoding) : Reader JsError := do
  let _ ← Packet.readInt8
  let code ← Packet.readInt16
  let _ ← Packet.readBuffer 1
  let _ ← Packet.readBuffer 5
  let message ← Packet.readNullTerminatedString decoding (some "utf8")
  return { JsError.new message with code := some (.number code) }

end Mysql2.Packets

import Mysql2.Packets.Cursor
import Mysql2.Script.Number
import Mysql2.Script.Objects

/-!
# Values of columns

The readers of the `Packet` class that make a column's value, in the text and in
the binary protocol.  Floating point numbers, parsed JSON and geometries are
values of a type `α` that the runtime makes.
-/

namespace Mysql2.Packets

/-- What a reader of a column returns. -/
inductive Value (α : Type)
  | undefined
  | null
  /-- A double that holds an integer. -/
  | number (value : Int)
  | nan
  | string (text : String)
  | buffer (bytes : Bytes)
  /-- The time value of a `Date`, without one for an invalid date. -/
  | date (time : Option Int)
  | array (elements : List α)
  | other (value : α)
  deriving DecidableEq, Repr

/-- Arguments of a `Date` constructor, with `none` for `NaN`.  Months count from
one here, and the fraction of a second is in microseconds. -/
structure DateArguments where
  year : Option Int
  month : Option Int
  day : Option Int
  hours : Option Int
  minutes : Option Int
  seconds : Option Int
  microseconds : Option Int
  deriving DecidableEq, Repr

/-- Every byte is the code of a character. -/
def latin1 (bytes : Bytes) : String :=
  String.ofList (bytes.map fun byte => Char.ofNat byte.toNat)

/-- Every byte without its highest bit is the code of a character. -/
def ascii (bytes : Bytes) : String :=
  String.ofList (bytes.map fun byte => Char.ofNat (byte.toNat % 128))

/-- The parts of the runtime that make values. -/
structure Runtime (α : Type) extends Decoding where
  decode_binary (bytes : Bytes) : decode (some "binary") bytes = .ok (latin1 bytes)
  /-- `Number(text)`. -/
  toNumber : String → Value α
  /-- The number that `parseFloat` accumulates, or parses from the text. -/
  decimal : Bytes → Value α
  readFloatLE : Bytes → α
  readDoubleLE : Bytes → α
  /-- `parseGeometry` on the bytes of a value. -/
  geometry : Bytes → Except JsError (Value α)
  /-- `JSON.parse(text, jsonBigNumberReviver)` or `JSON.parse(text)`, where the
  text may be `null`. -/
  jsonParse : Bool → Option String → Except JsError (Value α)
  /-- `JSON.parse(null)`. -/
  jsonParse_null (revive : Bool) : jsonParse revive none = .ok .null
  jsonSourceAccessSupported : Bool
  /-- The time value of local wall time, as `localDate` finds it. -/
  localTime : DateArguments → Option Int
  /-- `Date.UTC(..)`. -/
  utcTime : DateArguments → Option Int
  /-- The time value of `new Date(text)`. -/
  dateParse : Script.JsString → Option Int
  /-- Which of its values are objects, and which count as true. -/
  isObject : α → Bool
  truthy : α → Bool

/-- What the language does with the values of columns. -/
def Runtime.primitives {α : Type} (runtime : Runtime α) : Script.Primitives (Value α) where
  undefined := .undefined
  truthy
    | .undefined | .null | .nan => false
    | .number value => value ≠ 0
    | .string text => text ≠ ""
    | .other value => runtime.truthy value
    | _ => true
  isNull value := value matches .null
  isObject
    | .buffer _ | .date _ | .array _ => true
    | .other value => runtime.isObject value
    | _ => false
  number length := .number length
  toLength
    | .number value => if 0 ≤ value ∧ value < 4294967296 then some value.toNat else none
    | _ => none

namespace Packet

variable {α : Type}

/-- A string that may be `null`. -/
def stringValue : Option String → Value α
  | none => .null
  | some text => .string text

/-- `readLengthCodedString(encoding)`, as a value. -/
def readStringValue (runtime : Runtime α) (encoding : Option String) : Reader (Value α) := do
  return stringValue (← readLengthCodedString runtime.toDecoding encoding)

/-- `readLengthCodedBuffer()`. -/
def readLengthCodedBuffer : Reader (Value α) := do
  match ← readLengthCodedNumber false false with
  | .null => return .null
  | len => return .buffer (← readBuffer len.toNat)

/-- `readFloat()`. -/
def readFloat (runtime : Runtime α) : Reader α := do
  let packet ← get
  if packet.offset + 4 ≤ packet.buffer.length then
    return runtime.readFloatLE (← readBuffer 4)
  else
    throw .rangeError

/-- `readDouble()`. -/
def readDouble (runtime : Runtime α) : Reader α := do
  let packet ← get
  if packet.offset + 8 ≤ packet.buffer.length then
    return runtime.readDoubleLE (← readBuffer 8)
  else
    throw .rangeError

theorem readLengthCodedBuffer_run {packet : Packet} {bytes rest : Bytes}
    (aheadEq : packet.ahead = writeLengthCodedBuffer bytes ++ rest)
    (safe : bytes.length < 9007199254740992) :
    (readLengthCodedBuffer (α := α)).run packet =
      .ok (.buffer bytes, packet.advance (writeLengthCodedBuffer bytes).length) := by
  rw [writeLengthCodedBuffer, List.append_assoc] at aheadEq
  have lengthRun := readLengthCodedNumber_run false false aheadEq safe
  have bytesAhead := ahead_advance_of_append _ aheadEq (length_writeLengthCodedNumber bytes.length)
  rw [readLengthCodedBuffer, run_bind_of_ok lengthRun]
  show StateT.run (readBuffer (LengthCoded.number bytes.length).toNat >>= _) _ = _
  rw [toNat_number, run_bind_of_ok (readBuffer_run bytesAhead), advance_advance,
    length_writeLengthCodedBuffer]
  rfl

theorem readDouble_run (runtime : Runtime α) {packet : Packet} {bytes rest : Bytes}
    (aheadEq : packet.ahead = bytes ++ rest) (lengthEq : bytes.length = 8) :
    (readDouble runtime).run packet = .ok (runtime.readDoubleLE bytes, packet.advance 8) := by
  have nonempty : bytes ≠ [] := by
    rintro rfl
    cases lengthEq
  have inside := offset_add_le aheadEq nonempty
  have bufferRun := readBuffer_run aheadEq
  rw [lengthEq] at inside bufferRun
  rw [readDouble, run_get_bind, if_pos inside, run_bind_of_ok bufferRun]
  rfl

/-- `parseGeometryValue()`. -/
def parseGeometryValue (runtime : Runtime α) : Reader (Value α) := do
  match ← readLengthCodedBuffer (α := α) with
  | .buffer [] => return .null
  | .buffer bytes => runtime.geometry bytes
  | value => return value

/-- The loop of `parseVector`.  Every round moves the read position by four
bytes, so `vectorEnd` rounds are enough. -/
def readFloats (runtime : Runtime α) (vectorEnd : Nat) : Nat → Reader (List α)
  | 0 => return []
  | fuel + 1 => do
      let packet ← get
      if packet.offset < vectorEnd ∧ packet.offset < packet.endOffset then
        let element ← readFloat runtime
        return element :: (← readFloats runtime vectorEnd fuel)
      else
        return []

/-- `parseVector()`. -/
def parseVector (runtime : Runtime α) : Reader (Value α) := do
  let bufLen ← readLengthCodedNumber false false
  let vectorEnd := (← get).offset + bufLen.toNat
  return .array (← readFloats runtime vectorEnd vectorEnd)

/-- `/\d{16}/`, on what is left of a text behind a number of digits. -/
def hasBigNumeral : Nat → List Char → Bool
  | digits, [] => 16 ≤ digits
  | digits, char :: text =>
      16 ≤ digits || hasBigNumeral (if char.isDigit then digits + 1 else 0) text

/-- `parseJson(encoding, supportBigNumbers)`. -/
def parseJson (runtime : Runtime α) (encoding : Option String) (supportBigNumbers : Bool) :
    Reader (Value α) := do
  let text ← readLengthCodedString runtime.toDecoding encoding
  let bigNumeral := text.any fun text => hasBigNumeral 0 text.toList
  runtime.jsonParse (supportBigNumbers && runtime.jsonSourceAccessSupported && bigNumeral) text

/-- The character codes of the signs. -/
def minus : Nat := 0x2d

def plus : Nat := 0x2b

/-- `this.buffer[this.offset] === sign`, and the step behind it. -/
def skipSign (sign : Nat) : Reader Bool := do
  if (← get).peekByte = some sign then
    skip 1
    return true
  else
    return false

theorem skipSign_run_of_eq {sign : Nat} {packet : Packet} (isSign : packet.peekByte = some sign) :
    (skipSign sign).run packet = .ok (true, packet.advance 1) := by
  show StateT.run (if packet.peekByte = some sign then _ else _) packet = _
  rw [if_pos isSign]
  rfl

theorem skipSign_run_of_ne {sign : Nat} {packet : Packet} (notSign : packet.peekByte ≠ some sign) :
    (skipSign sign).run packet = .ok (false, packet) := by
  show StateT.run (if packet.peekByte = some sign then _ else _) packet = _
  rw [if_neg notSign]
  rfl

/-- `parseFloat(len)`.  The number depends on the bytes only, and the read
position moves behind them.  A sign is skipped first, behind a text of one sign
also another. -/
def parseFloat (runtime : Runtime α) (len : LengthCoded) : Reader (Value α) := do
  match len with
  | .null => return .null
  | len =>
      let len := len.toNat
      if len = 0 then
        return .number 0
      else if 17 < len then
        return runtime.decimal (← readBuffer len)
      else
        let packet ← get
        let last := packet.offset + len
        let _ ← skipSign minus
        let _ ← skipSign plus
        modify fun packet => { packet with offset := max packet.offset last }
        return runtime.decimal (slice packet.buffer packet.offset last)

/-- `parseLengthCodedFloat()`. -/
def parseLengthCodedFloat (runtime : Runtime α) : Reader (Value α) := do
  parseFloat runtime (← readLengthCodedNumber false false)

end Packet

end Mysql2.Packets

import Mysql2.Packets.Encodings
import Mysql2.Packets.ServerPackets
import Mysql2.Packets.Types

/-!
# Parameters of statements

What `toParameter` makes of a value: a type, the bytes that its writer appends,
and the length that is predicted for them.  It throws for values that no
parameter type can carry.

A value is given by what the serializer distinguishes: a number by its bits and,
if it is a safe integer, its value; a date by its fields in a time zone; an
object by what `JSON.stringify` makes of it.
-/

namespace Mysql2.Packets

open Mysql2.Script

/-- `INTEGER_BYTES`, with the names of the types. -/
def INTEGER_BYTES : Types → Option (Nat × String)
  | .TINY => some (1, "TINY")
  | .SHORT => some (2, "SHORT")
  | .YEAR => some (2, "YEAR")
  | .INT24 => some (4, "INT24")
  | .LONG => some (4, "LONG")
  | .LONGLONG => some (8, "LONGLONG")
  | _ => none

/-- `HINT_UPGRADABLE`, by code, with the width in bytes. -/
def HINT_UPGRADABLE : Nat → Option (Types × Nat)
  | 0x01 => some (.TINY, 1)
  | 0x02 => some (.SHORT, 2)
  | 0x03 => some (.LONG, 4)
  | 0x08 => some (.LONGLONG, 8)
  | _ => none

/-- `wireType(type, jsonAsString)`. -/
def wireType (type : Types) (jsonAsString : Bool) : Types :=
  match type with
  | .JSON => if jsonAsString then .VAR_STRING else .JSON
  | .INT24 => .LONG
  | .YEAR => .SHORT
  | .ENUM => .STRING
  | .SET => .STRING
  | .VECTOR => .BLOB
  | type => type

/-- Fields of a date in a time zone. -/
structure DateFields where
  year : Int
  month : Nat
  day : Nat
  hours : Nat
  minutes : Nat
  seconds : Nat
  milliseconds : Nat
  deriving DecidableEq, Repr

/-- A number that a writer gets.  Whole numbers are large or small. -/
inductive WholeNumber
  | nan
  | finite (value : Nat)
  | infinity
  deriving DecidableEq, Repr

/-- Whether a number is neither zero nor `NaN`. -/
def WholeNumber.truthy : WholeNumber → Bool
  | .nan => false
  | .finite value => value ≠ 0
  | .infinity => true

/-- What `toTimeParts` makes of a value. -/
structure TimeParts where
  negative : Bool
  days : WholeNumber
  hours : WholeNumber
  minutes : WholeNumber
  seconds : WholeNumber
  microseconds : WholeNumber
  deriving DecidableEq, Repr

/-- What `lengthCodedEncoder` gets: a `Buffer`, or what `String` makes of another
value. -/
inductive TextValue
  | buffer (bytes : Bytes)
  | string (text : Except JsError JsString)

/-- The kinds of encoders, with the size and the name of an integer type. -/
inductive EncoderKind
  | integer (bytes : Nat) (name : String)
  | double
  | float
  | temporal
  | time
  | text
  deriving DecidableEq, Repr

/-- The encoder that `encoderFor(type, encoding, timezone)` chooses.  The one for
JSON is the one for texts, behind `JSON.stringify`. -/
def encoderKind (type : Types) : Option EncoderKind :=
  match INTEGER_BYTES type with
  | some (bytes, name) => some (.integer bytes name)
  | none =>
      match type with
      | .DOUBLE => some .double
      | .FLOAT => some .float
      | .DATE | .DATETIME | .TIMESTAMP => some .temporal
      | .TIME => some .time
      | .JSON | .DECIMAL | .NEWDECIMAL | .VARCHAR | .VAR_STRING | .STRING | .ENUM | .SET | .VECTOR
      | .TINY_BLOB | .MEDIUM_BLOB | .LONG_BLOB | .BLOB => some .text
      | _ => none

/-- The value of a typed parameter, as its encoder takes it: what `toInteger`,
`Number`, `toDate`, `toTimeParts`, or `String` and `JSON.stringify` make of it. -/
inductive TypedValue
  | null
  | integer (toInteger : Except JsError Int)
  | double (number : Except JsError UInt64)
  | float (number : Except JsError UInt32)
  | date (toDate : Except JsError (String → DateFields))
  | time (toTimeParts : Except JsError TimeParts)
  | text (value : TextValue)

/-- Whether an encoder takes a value.  No value is looked at without one. -/
def TypedValue.fits : TypedValue → Option EncoderKind → Bool
  | .null, _ | _, none => true
  | .integer _, some (.integer ..) | .double _, some .double | .float _, some .float
  | .date _, some .temporal | .time _, some .time | .text _, some .text => true
  | _, _ => false

/-- `TypedParameter`.  Its value is given as the encoder of its type takes it. -/
structure TypedParameter where
  type : Types
  value : TypedValue
  unsigned : Bool
  fits : value.fits (encoderKind type) = true

/-- A JavaScript value.  `string` are the strings, and the values that become
strings by `toString`. -/
inductive JsValue
  | undefined
  | null
  | number (double : UInt64) (safeInteger : Option Int)
  | boolean (value : Bool)
  | bigint (value : Int)
  | string (text : Except JsError JsString)
  /-- Without fields for an invalid date. -/
  | date (fields : String → Option DateFields)
  | json (stringify : Except JsError JsString)
  | buffer (bytes : Bytes)
  /-- Another object, with what `Buffer.from` makes of it. -/
  | object (bytes : Except JsError Bytes)
  | typed (parameter : TypedParameter)

/-- What `toParameter` returns.  `length` is predicted, `write` is what the writer
appends, or throws. -/
structure Parameter where
  type : Types
  unsigned : Bool
  isNull : Bool
  length : Nat
  write : Except JsError Bytes

/-- What serialization depends on in a connection: the encoding of its charset,
whether query attributes are negotiated, its time zone, and whether JSON is sent
as a string; and in the runtime: whether buffers have `utf8Write`. -/
structure RequestSettings where
  encoding : Encoding
  hasFastUtf8Write : Bool
  queryAttributes : Bool
  timezone : String
  jsonAsString : Bool

/-- `StringParser.encode(string, encoding)`. -/
def RequestSettings.encode (settings : RequestSettings) (string : JsString) : Except JsError Bytes :=
  settings.encoding.encode string

/-- The test for the fast path of strings. -/
def RequestSettings.fastUtf8 (settings : RequestSettings) : Bool :=
  settings.hasFastUtf8Write && settings.encoding.isUtf8

/-- `lengthCodedNumberLength(n)`. -/
def lengthCodedNumberLength (n : Nat) : Nat :=
  if n < 0xfb then 1
  else if n < 0xffff then 3
  else if n < 0xffffff then 4
  else 9

/-- The lowest `bytes` bytes of a number, in little-endian order. -/
def writeUIntLE (n : Nat) : Nat → Bytes
  | 0 => []
  | bytes + 1 => toByte n :: writeUIntLE (n / 256) bytes

/-- `writeLengthCodedNumber(n)`. -/
def writeLengthCodedNumber (n : Nat) : Bytes :=
  if n < 0xfb then [toByte n]
  else if n < 0xffff then 0xfc :: writeUIntLE n 2
  else if n < 0xffffff then 0xfd :: writeUIntLE n 3
  else 0xfe :: writeUIntLE n 8

/-- `writeLengthCodedBuffer(b)`. -/
def writeLengthCodedBuffer (bytes : Bytes) : Bytes :=
  writeLengthCodedNumber bytes.length ++ bytes

/-- The error of a number, given by its text, that a write to a buffer does not
accept. -/
def notAcceptedError (received : String) : JsError :=
  { JsError.new ("The value of \"value\" is out of range. Received " ++ received) with
    code := some (.name "ERR_OUT_OF_RANGE") }

/-- The error of an integer that a write to a buffer does not accept. -/
def outOfRangeError (value : Int) : JsError :=
  notAcceptedError (toString value)

/-- `writeLengthCodedUtf8String(string, byteLength)`. -/
def writeLengthCodedUtf8String (string : JsString) (byteLength : Nat) : Bytes :=
  writeLengthCodedNumber byteLength ++ (utf8 string).take byteLength

/-- A write of an unsigned integer to a buffer, which checks its range.  `NaN` is
written as zero. -/
def writeWhole (bytes : Nat) : WholeNumber → Except JsError Bytes
  | .nan => .ok (writeUIntLE 0 bytes)
  | .finite value =>
      if value < 256 ^ bytes then .ok (writeUIntLE value bytes)
      else .error (outOfRangeError value)
  | .infinity => .error (notAcceptedError "Infinity")

/-- `timeLength(parts)`. -/
def timeLength (parts : TimeParts) : Nat :=
  if !parts.days.truthy && !parts.hours.truthy && !parts.minutes.truthy && !parts.seconds.truthy &&
      !parts.microseconds.truthy then
    1
  else if parts.microseconds.truthy then 13
  else 9

/-- The last part of a time, which is there if it is not zero. -/
def writeMicroseconds (microseconds : WholeNumber) : Except JsError Bytes :=
  if microseconds.truthy then writeWhole 4 microseconds else .ok []

/-- `writeTime(parts)`. -/
def writeTime (parts : TimeParts) : Except JsError Bytes :=
  if !parts.days.truthy && !parts.hours.truthy && !parts.minutes.truthy && !parts.seconds.truthy &&
      !parts.microseconds.truthy then
    .ok [0]
  else do
    let days ← writeWhole 4 parts.days
    let hours ← writeWhole 1 parts.hours
    let minutes ← writeWhole 1 parts.minutes
    let seconds ← writeWhole 1 parts.seconds
    let microseconds ← writeMicroseconds parts.microseconds
    return [if parts.microseconds.truthy then 12 else 8, if parts.negative then 1 else 0] ++ days ++
      hours ++ minutes ++ seconds ++ microseconds

/-- `writeDate(d, timezone)`.  Writes accept the `NaN` of an invalid date, as
zero. -/
def writeDate : Option DateFields → Except JsError Bytes
  | none => .ok (11 :: List.replicate 11 0)
  | some fields =>
      if fields.year < 0 ∨ 0xffff < fields.year then
        .error (outOfRangeError fields.year)
      else
        .ok (11 :: writeUIntLE fields.year.toNat 2 ++
          [toByte fields.month, toByte fields.day, toByte fields.hours, toByte fields.minutes,
            toByte fields.seconds] ++ writeUIntLE (fields.milliseconds * 1000) 4)

/-- A parameter that is sent as a length-coded buffer. -/
def lengthCodedParameter (type : Types) (bytes : Bytes) : Parameter :=
  { type := type
    unsigned := false
    isNull := false
    length := lengthCodedNumberLength bytes.length + bytes.length
    write := .ok (writeLengthCodedBuffer bytes) }

/-- The least and the greatest value of an integer type. -/
def integerRange (bytes : Nat) (unsigned : Bool) : Int × Int :=
  if unsigned then (0, 2 ^ (8 * bytes) - 1) else (-2 ^ (8 * bytes - 1), 2 ^ (8 * bytes - 1) - 1)

/-- The error of an integer outside the range of its type. -/
def integerRangeError (value : Int) (name : String) (range : Int × Int) (unsigned : Bool) :
    JsError :=
  let sign := if unsigned then " UNSIGNED" else ""
  .new s!"{name}{sign} parameter out of range: {value} is not within {range.1}..{range.2}"

/-- `checkedInteger(value, type, bytes, unsigned)`. -/
def checkedInteger (toInteger : Except JsError Int) (name : String) (bytes : Nat)
    (unsigned : Bool) : Except JsError Int := do
  let value ← toInteger
  let range := integerRange bytes unsigned
  if value < range.1 ∨ range.2 < value then
    throw (integerRangeError value name range unsigned)
  else
    return value

/-- What an encoder returns: the length that it predicts, and its writer. -/
abbrev Encoded :=
  Nat × Except JsError Bytes

/-- The value and the writer of a string: one that is sized first, or one that is
encoded first. -/
def encodeString (settings : RequestSettings) (string : JsString) : Except JsError Encoded :=
  if settings.fastUtf8 then
    let byteLength := utf8ByteLength string
    .ok (lengthCodedNumberLength byteLength + byteLength,
      .ok (writeLengthCodedUtf8String string byteLength))
  else
    (settings.encode string).map fun bytes =>
      (lengthCodedNumberLength bytes.length + bytes.length, .ok (writeLengthCodedBuffer bytes))

/-- `lengthCodedEncoder(encoding)`. -/
def lengthCodedEncoder (settings : RequestSettings) : TextValue → Except JsError Encoded
  | .buffer bytes =>
      .ok (lengthCodedNumberLength bytes.length + bytes.length, .ok (writeLengthCodedBuffer bytes))
  | .string text => do encodeString settings (← text)

/-- The error of a type that no encoder serves. -/
def noEncoderError (type : Types) : JsError :=
  .new ("No parameter encoder for MySQL type 0x" ++ String.ofList (Nat.toDigits 16 type.toNat))

/-- `encoderFor(type, encoding, timezone)(value, unsigned)`. -/
def encodeTyped (settings : RequestSettings) (timezone : String) (parameter : TypedParameter) :
    Except JsError Encoded :=
  match encoderKind parameter.type, parameter.value with
  | some (.integer bytes name), .integer toInteger =>
      (checkedInteger toInteger name bytes parameter.unsigned).map fun value =>
        (bytes, .ok (writeUIntLE (value % 2 ^ (8 * bytes)).toNat bytes))
  | some .double, .double number => number.map fun bits => (8, .ok (writeUIntLE bits.toNat 8))
  | some .float, .float number => number.map fun bits => (4, .ok (writeUIntLE bits.toNat 4))
  | some .temporal, .date toDate => toDate.map fun fields => (12, writeDate (some (fields timezone)))
  | some .time, .time toTimeParts => toTimeParts.map fun parts => (timeLength parts, writeTime parts)
  | some .text, .text value => lengthCodedEncoder settings value
  | _, _ => .error (noEncoderError parameter.type)

/-- `encodeTypedParameter(parameter, encoding, timezone, jsonAsString)`. -/
def encodeTypedParameter (settings : RequestSettings) (timezone : String) (jsonAsString : Bool)
    (parameter : TypedParameter) : Except JsError Parameter :=
  let type := wireType parameter.type jsonAsString
  match parameter.type, parameter.value with
  | .NULL, _ | _, .null => .ok ⟨type, parameter.unsigned, true, 0, .ok []⟩
  | _, _ =>
      (encodeTyped settings timezone parameter).map fun (length, write) =>
        ⟨type, parameter.unsigned, false, length, write⟩

/-- A type that a server's hint may be. -/
theorem fits_hint {code : Nat} {type : Types} {bytes : Nat}
    (upgradable : HINT_UPGRADABLE code = some (type, bytes)) (toInteger : Except JsError Int) :
    (TypedValue.integer toInteger).fits (encoderKind type) = true := by
  unfold HINT_UPGRADABLE at upgradable
  split at upgradable <;> cases upgradable <;> rfl

/-- `integerHint`: the type the server reports for a parameter, if the value is
an integer that fits. -/
def integerHint (value : JsValue) (hint : ColumnDefinition) : Option TypedParameter :=
  let unsigned := hasFlag hint.flags 0x20
  let integer :=
    match value with
    | .bigint value => some value
    | .boolean value => some (if value then 1 else 0)
    | .number _ safeInteger => safeInteger
    | _ => none
  match integer, upgradable : hint.columnType.bind HINT_UPGRADABLE with
  | some integer, some (type, bytes) =>
      let range := integerRange bytes unsigned
      if integer < range.1 ∨ range.2 < integer then
        none
      else
        some ⟨type, .integer (.ok integer), unsigned, by
          obtain ⟨code, _, found⟩ := Option.bind_eq_some_iff.mp upgradable
          exact fits_hint found _⟩
  | _, _ => none

/-- The error of an undefined parameter. -/
def undefinedParameterError : JsError :=
  .new "Bind parameters must not contain undefined"

/-- A parameter of a string. -/
def stringParameter (settings : RequestSettings) (type : Types) (string : JsString) :
    Except JsError Parameter :=
  (encodeString settings string).map fun (length, write) => ⟨type, false, false, length, write⟩

/-- The part of `toParameter` that infers the type from the value. -/
def inferParameter (settings : RequestSettings) (timezone : String) (jsonAsString : Bool) :
    JsValue → Except JsError Parameter
  | .undefined => .error undefinedParameterError
  | .null => .ok ⟨.NULL, false, true, 0, .ok []⟩
  | .number double _ => .ok ⟨.DOUBLE, false, false, 8, .ok (writeUIntLE double.toNat 8)⟩
  | .boolean value => .ok ⟨.TINY, false, false, 1, .ok [if value then 1 else 0]⟩
  | .bigint value => stringParameter settings .VAR_STRING (units (toString value))
  | .string text => do stringParameter settings .VAR_STRING (← text)
  | .date fields => .ok ⟨.DATETIME, false, false, 12, writeDate (fields timezone)⟩
  | .json stringify => do
      stringParameter settings (if jsonAsString then .VAR_STRING else .JSON) (← stringify)
  | .buffer bytes => .ok (lengthCodedParameter .BLOB bytes)
  | .object bytes => bytes.map (lengthCodedParameter .VAR_STRING)
  | .typed parameter => encodeTypedParameter settings timezone jsonAsString parameter

/-- `toParameter(value, encoding, timezone, jsonAsString, hint)`. -/
def toParameter (settings : RequestSettings) (timezone : String) (jsonAsString : Bool)
    (value : JsValue) (hint : Option ColumnDefinition) : Except JsError Parameter :=
  match hint.bind (integerHint value) with
  | some hinted => encodeTypedParameter settings timezone jsonAsString hinted
  | none => inferParameter settings timezone jsonAsString value

end Mysql2.Packets

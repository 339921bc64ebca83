import Mysql2.Packets.Dates

/-!
# Reading one column

What a row parser reads for a column: the two code generators, whose code is
given by the call it makes, and the two static twins, which make the call
themselves.
-/

namespace Mysql2.Parsers

open Mysql2.Packets Mysql2.Script

/-- A column definition, as far as row parsers use it. -/
structure Field where
  columnType : Nat
  flags : Nat
  characterSet : Nat
  decimals : Nat
  columnLength : Nat
  encoding : Option String
  schema : JsString
  table : JsString
  name : JsString
  extendedTypeName : Option JsString
  extendedFormat : Option JsString
  deriving DecidableEq, Repr

/-- The `typeCast` option: `undefined`, `true`, `false` or a function. -/
inductive TypeCast (φ : Type)
  | absent
  | true
  | false
  | function (typeCast : φ)
  deriving DecidableEq, Repr

/-- The `nestTables` option: falsy, `true`, another truthy value that is no
string, or a separator. -/
inductive NestTables
  | absent
  | true
  | truthy
  | separator (text : JsString)
  deriving DecidableEq, Repr

/-- The `dateStrings` option: falsy, truthy, or a list of type names. -/
inductive DateStrings
  | falsy
  | truthy
  | list (names : List JsString)
  deriving DecidableEq, Repr

/-- Options of a query. -/
structure Options (φ : Type) where
  rowsAsArray : Bool
  nestTables : NestTables
  typeCast : TypeCast φ
  timezone : Option JsString
  dateStrings : DateStrings
  supportBigNumbers : Bool
  bigNumberStrings : Bool
  decimalNumbers : Bool
  deriving DecidableEq, Repr

/-- Options of a connection. -/
structure Config (φ : Type) where
  typeCast : TypeCast φ
  timezone : Option JsString
  dateStrings : DateStrings
  supportBigNumbers : Bool
  bigNumberStrings : Bool
  decimalNumbers : Bool
  jsonStrings : Bool
  deriving DecidableEq, Repr

/-- `typeof typeCast === 'function'`. -/
def TypeCast.isFunction {φ : Type} : TypeCast φ → Bool
  | .function _ => Bool.true
  | _ => Bool.false

section Settings

variable {φ : Type} (options : Options φ) (config : Config φ)

/-- `Boolean(options.supportBigNumbers || config.supportBigNumbers)`. -/
def supportBigNumbers : Bool :=
  options.supportBigNumbers || config.supportBigNumbers

/-- `Boolean(options.bigNumberStrings || config.bigNumberStrings)`. -/
def bigNumberStrings : Bool :=
  options.bigNumberStrings || config.bigNumberStrings

/-- `options.timezone || config.timezone`. -/
def timezone : Option JsString :=
  match options.timezone with
  | none | some [] => config.timezone
  | some text => some text

/-- `options.dateStrings || config.dateStrings`. -/
def dateStrings : DateStrings :=
  match options.dateStrings with
  | .falsy => config.dateStrings
  | value => value

end Settings

/-- `Charsets.BINARY`. -/
def Charsets.BINARY : Nat :=
  63

/-- `field.flags & FieldFlags.UNSIGNED`. -/
def Field.unsigned (field : Field) : Bool :=
  hasFlag field.flags 0x20

/-- `field.extendedFormat === 'json'`. -/
def Field.isJsonFormat (field : Field) : Bool :=
  field.extendedFormat = some (units "json")

/-- `helpers.typeMatch(type, list, Types)`. -/
def typeMatch (type : Nat) : DateStrings → Bool
  | .falsy => false
  | .truthy => true
  | .list names => names.any fun name => Types.named.any fun named =>
      named.toNat = type ∧ named.name.map units = some name

/-- An encoding in generated code: a literal, or `fields[index].encoding`. -/
inductive EncodingExpr
  | literal (encoding : String)
  | ofField (index : Nat)
  deriving DecidableEq, Repr

/-- A call of generated code, on the packet that carries the row.  A time zone
is a string literal. -/
inductive PacketCall
  | null
  | readInt8
  | readSInt8
  | readInt16
  | readSInt16
  | readInt32
  | readSInt32
  | readInt64JSNumber
  | readSInt64JSNumber
  | readInt64String
  | readSInt64String
  | readInt64
  | readSInt64
  | readFloat
  | readDouble
  | readDateTimeString (decimals columnType : Nat)
  | readDateTime (timezone : JsString)
  | readTimeString
  | parseLengthCodedIntNoBigCheck
  | parseLengthCodedIntString
  | parseLengthCodedInt (supportBigNumbers : Bool)
  | parseLengthCodedFloat
  | readLengthCodedNumber
  | readLengthCodedString (encoding : EncodingExpr)
  | readLengthCodedBuffer
  | parseDate (timezone : JsString)
  | parseDateTime (timezone : JsString)
  | parseGeometryValue
  | parseVector
  | parseJson (encoding : EncodingExpr) (supportBigNumbers : Bool)
  deriving DecidableEq, Repr

/-- Generated code for a value: a call, and whether the code ends it with a
semicolon. -/
structure ReadCode where
  call : PacketCall
  semicolon : Bool
  deriving DecidableEq, Repr

/-- The value of a string literal that `helpers.srcEscape(timezone)` makes. -/
def timezoneLiteral (timezone : Option JsString) : JsString :=
  timezone.getD (units "undefined")

section Generators

variable {φ : Type}

/-- `readCodeFor(field, encodingExpr, config, options)` of the text protocol. -/
def textReadCodeFor (field : Field) (encodingExpr : EncodingExpr) (config : Config φ)
    (options : Options φ) : PacketCall :=
  let bigNumbers := supportBigNumbers options config
  let zone := timezoneLiteral (timezone options config)
  let strings := typeMatch field.columnType (dateStrings options config)
  if field.isJsonFormat then
    if config.jsonStrings then .readLengthCodedString encodingExpr
    else .parseJson encodingExpr bigNumbers
  else
    match Types.ofNat field.columnType with
    | .TINY | .SHORT | .LONG | .INT24 | .YEAR => .parseLengthCodedIntNoBigCheck
    | .LONGLONG =>
        if bigNumbers ∧ bigNumberStrings options config then .parseLengthCodedIntString
        else .parseLengthCodedInt bigNumbers
    | .FLOAT | .DOUBLE => .parseLengthCodedFloat
    | .NULL => .readLengthCodedNumber
    | .DECIMAL | .NEWDECIMAL =>
        if config.decimalNumbers then .parseLengthCodedFloat
        else .readLengthCodedString (.literal "ascii")
    | .DATE => if strings then .readLengthCodedString (.literal "ascii") else .parseDate zone
    | .DATETIME | .TIMESTAMP =>
        if strings then .readLengthCodedString (.literal "ascii") else .parseDateTime zone
    | .TIME => .readLengthCodedString (.literal "ascii")
    | .GEOMETRY => .parseGeometryValue
    | .VECTOR => .parseVector
    | .JSON =>
        if config.jsonStrings then .readLengthCodedString (.literal "utf8")
        else .parseJson (.literal "utf8") bigNumbers
    | _ =>
        if field.characterSet = Charsets.BINARY then .readLengthCodedBuffer
        else .readLengthCodedString encodingExpr

/-- `readCodeFor(field, config, options, fieldNum)` of the binary protocol. -/
def binaryReadCodeFor (field : Field) (config : Config φ) (options : Options φ) (fieldNum : Nat) :
    ReadCode :=
  let bigNumbers := supportBigNumbers options config
  let zone := timezoneLiteral (timezone options config)
  let strings := typeMatch field.columnType (dateStrings options config)
  let unsigned := field.unsigned
  if field.isJsonFormat then
    if config.jsonStrings then ⟨.readLengthCodedString (.ofField fieldNum), false⟩
    else ⟨.parseJson (.ofField fieldNum) bigNumbers, true⟩
  else
    match Types.ofNat field.columnType with
    | .TINY => ⟨if unsigned then .readInt8 else .readSInt8, true⟩
    | .SHORT => ⟨if unsigned then .readInt16 else .readSInt16, true⟩
    | .LONG | .INT24 => ⟨if unsigned then .readInt32 else .readSInt32, true⟩
    | .YEAR => ⟨.readInt16, false⟩
    | .FLOAT => ⟨.readFloat, true⟩
    | .DOUBLE => ⟨.readDouble, true⟩
    | .NULL => ⟨.null, true⟩
    | .DATE | .DATETIME | .TIMESTAMP | .NEWDATE =>
        if strings then ⟨.readDateTimeString field.decimals field.columnType, true⟩
        else ⟨.readDateTime zone, true⟩
    | .TIME => ⟨.readTimeString, false⟩
    | .DECIMAL | .NEWDECIMAL =>
        if config.decimalNumbers then ⟨.parseLengthCodedFloat, true⟩
        else ⟨.readLengthCodedString (.literal "ascii"), true⟩
    | .GEOMETRY => ⟨.parseGeometryValue, true⟩
    | .VECTOR => ⟨.parseVector, false⟩
    | .JSON =>
        if config.jsonStrings then ⟨.readLengthCodedString (.literal "utf8"), false⟩
        else ⟨.parseJson (.literal "utf8") bigNumbers, true⟩
    | .LONGLONG =>
        if ¬bigNumbers then
          ⟨if unsigned then .readInt64JSNumber else .readSInt64JSNumber, true⟩
        else if bigNumberStrings options config then
          ⟨if unsigned then .readInt64String else .readSInt64String, true⟩
        else
          ⟨if unsigned then .readInt64 else .readSInt64, true⟩
    | _ =>
        if field.characterSet = Charsets.BINARY then ⟨.readLengthCodedBuffer, true⟩
        else ⟨.readLengthCodedString (.ofField fieldNum), false⟩

end Generators

/-! ## Running a call -/

variable {α φ : Type}

/-- A byte as a value. -/
def byteValue : Option Nat → Value α
  | none => .undefined
  | some byte => .number byte

/-- A length-coded number as a value. -/
def lengthCodedValue : Packet.LengthCoded → Value α
  | .null => .null
  | .number value => .number value
  | .string value => .string (toString value)

/-- The encoding an expression stands for. -/
def EncodingExpr.encoding (fields : List Field) : EncodingExpr → Option String
  | .literal encoding => some encoding
  | .ofField index => fields[index]?.bind Field.encoding

/-- What a call reads from the packet. -/
def PacketCall.run (runtime : Runtime α) (fields : List Field) : PacketCall → Reader (Value α)
  | .null => return .null
  | .readInt8 => return byteValue (← Packet.readInt8)
  | .readSInt8 => return .number (← Packet.readSInt8)
  | .readInt16 => return .number (← Packet.readInt16)
  | .readSInt16 => return .number (← Packet.readSInt16)
  | .readInt32 => return .number (← Packet.readInt32)
  | .readSInt32 => return .number (← Packet.readSInt32)
  | .readInt64JSNumber => Packet.readInt64JSNumber
  | .readSInt64JSNumber => Packet.readSInt64JSNumber
  | .readInt64String => Packet.readInt64String
  | .readSInt64String => Packet.readSInt64String
  | .readInt64 => Packet.readInt64
  | .readSInt64 => Packet.readSInt64
  | .readFloat => return .other (← Packet.readFloat runtime)
  | .readDouble => return .other (← Packet.readDouble runtime)
  | .readDateTimeString decimals columnType =>
      return .string (← Packet.readDateTimeString decimals " " (some columnType))
  | .readDateTime timezone => Packet.readDateTime runtime (some timezone)
  | .readTimeString => return .string (← Packet.readTimeString)
  | .parseLengthCodedIntNoBigCheck => Packet.parseLengthCodedIntNoBigCheck
  | .parseLengthCodedIntString => Packet.parseLengthCodedIntString runtime
  | .parseLengthCodedInt supportBigNumbers => Packet.parseLengthCodedInt runtime supportBigNumbers
  | .parseLengthCodedFloat => Packet.parseLengthCodedFloat runtime
  | .readLengthCodedNumber => return lengthCodedValue (← Packet.readLengthCodedNumber false false)
  | .readLengthCodedString encoding => Packet.readStringValue runtime (encoding.encoding fields)
  | .readLengthCodedBuffer => Packet.readLengthCodedBuffer
  | .parseDate timezone => Packet.parseDate runtime (some timezone)
  | .parseDateTime timezone => Packet.parseDateTime runtime (some timezone)
  | .parseGeometryValue => Packet.parseGeometryValue runtime
  | .parseVector => Packet.parseVector runtime
  | .parseJson encoding supportBigNumbers =>
      Packet.parseJson runtime (encoding.encoding fields) supportBigNumbers

/-! ## Static parsers -/

/-- `readField({ packet, field, type, charset, encoding, config, options })`. -/
def readField (runtime : Runtime α) (field : Field) (config : Config φ) (options : Options φ) :
    Reader (Value α) :=
  let bigNumbers := supportBigNumbers options config
  let zone := timezone options config
  let strings := typeMatch field.columnType (dateStrings options config)
  if field.isJsonFormat then
    if config.jsonStrings then Packet.readStringValue runtime field.encoding
    else Packet.parseJson runtime field.encoding bigNumbers
  else
    match Types.ofNat field.columnType with
    | .TINY | .SHORT | .LONG | .INT24 | .YEAR => Packet.parseLengthCodedIntNoBigCheck
    | .LONGLONG =>
        if bigNumbers ∧ bigNumberStrings options config then
          Packet.parseLengthCodedIntString runtime
        else
          Packet.parseLengthCodedInt runtime bigNumbers
    | .FLOAT | .DOUBLE => Packet.parseLengthCodedFloat runtime
    -- `NULL` falls through to the decimal types here
    | .NULL | .DECIMAL | .NEWDECIMAL =>
        if config.decimalNumbers then Packet.parseLengthCodedFloat runtime
        else Packet.readStringValue runtime (some "ascii")
    | .DATE =>
        if strings then Packet.readStringValue runtime (some "ascii")
        else Packet.parseDate runtime zone
    | .DATETIME | .TIMESTAMP =>
        if strings then Packet.readStringValue runtime (some "ascii")
        else Packet.parseDateTime runtime zone
    | .TIME => Packet.readStringValue runtime (some "ascii")
    | .GEOMETRY => Packet.parseGeometryValue runtime
    | .VECTOR => Packet.parseVector runtime
    | .JSON =>
        if config.jsonStrings then Packet.readStringValue runtime (some "utf8")
        else Packet.parseJson runtime (some "utf8") bigNumbers
    | _ =>
        if field.characterSet = Charsets.BINARY then Packet.readLengthCodedBuffer
        else Packet.readStringValue runtime field.encoding

/-- `readCode(field, config, options, fieldNum, packet)`. -/
def readCode (runtime : Runtime α) (fields : List Field) (field : Field) (config : Config φ)
    (options : Options φ) (fieldNum : Nat) : Reader (Value α) :=
  let bigNumbers := supportBigNumbers options config
  let zone := timezone options config
  let strings := typeMatch field.columnType (dateStrings options config)
  let unsigned := field.unsigned
  if field.isJsonFormat then
    if config.jsonStrings then Packet.readStringValue runtime field.encoding
    else Packet.parseJson runtime field.encoding bigNumbers
  else
    match Types.ofNat field.columnType with
    | .TINY =>
        if unsigned then return byteValue (← Packet.readInt8)
        else return .number (← Packet.readSInt8)
    | .SHORT =>
        if unsigned then return .number (← Packet.readInt16)
        else return .number (← Packet.readSInt16)
    | .LONG | .INT24 =>
        if unsigned then return .number (← Packet.readInt32)
        else return .number (← Packet.readSInt32)
    | .YEAR => return .number (← Packet.readInt16)
    | .FLOAT => return .other (← Packet.readFloat runtime)
    | .DOUBLE => return .other (← Packet.readDouble runtime)
    | .NULL => return .null
    | .DATE | .DATETIME | .TIMESTAMP | .NEWDATE =>
        if strings then
          return .string (← Packet.readDateTimeString field.decimals " " (some field.columnType))
        else
          Packet.readDateTime runtime zone
    | .TIME => return .string (← Packet.readTimeString)
    | .DECIMAL | .NEWDECIMAL =>
        if config.decimalNumbers then Packet.parseLengthCodedFloat runtime
        else Packet.readStringValue runtime (some "ascii")
    | .GEOMETRY => Packet.parseGeometryValue runtime
    | .VECTOR => Packet.parseVector runtime
    | .JSON =>
        if config.jsonStrings then Packet.readStringValue runtime (some "utf8")
        else Packet.parseJson runtime (some "utf8") bigNumbers
    | .LONGLONG =>
        if ¬bigNumbers then
          if unsigned then Packet.readInt64JSNumber else Packet.readSInt64JSNumber
        else if bigNumberStrings options config then
          if unsigned then Packet.readInt64String else Packet.readSInt64String
        else
          if unsigned then Packet.readInt64 else Packet.readSInt64
    | _ =>
        if field.characterSet = Charsets.BINARY then Packet.readLengthCodedBuffer
        else Packet.readStringValue runtime (fields[fieldNum]?.bind Field.encoding)

end Mysql2.Parsers

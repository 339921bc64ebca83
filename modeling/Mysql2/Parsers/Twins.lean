import Mysql2.Parsers.Integers
import Mysql2.Parsers.Rows

/-!
# Values of the generated and of the static parsers

Without a `typeCast` that is `false` or a function, both parsers of a protocol
read the same values, if a time zone is set or no column is read with one.  An
unset time zone is the text `undefined` for the generated parsers, and local
time for the static ones.
-/

namespace Mysql2.Parsers

open Mysql2.Packets Mysql2.Packets.Packet Mysql2.Script

variable {α φ : Type}

/-! ## Reading the columns of a row -/

/-- The values of columns up to one that throws, and the packet behind them. -/
def readAll : List (Column α) → Packet → List (Value α) × Except JsError Packet
  | [], packet => ([], .ok packet)
  | column :: columns, packet =>
      match column.read.run packet with
      | .error error => ([], .error error)
      | .ok (value, after) =>
          let read := readAll columns after
          (value :: read.1, read.2)

theorem readAll_cons_of_ok {column : Column α} {packet after : Packet} {value : Value α}
    (run : column.read.run packet = .ok (value, after)) (columns : List (Column α)) :
    readAll (column :: columns) packet =
      (value :: (readAll columns after).1, (readAll columns after).2) := by
  rw [readAll, run]

theorem readAll_cons_of_error {column : Column α} {packet : Packet} {error : JsError}
    (run : column.read.run packet = .error error) (columns : List (Column α)) :
    readAll (column :: columns) packet = ([], .error error) := by
  rw [readAll, run]

/-- Columns of the text protocol, from an index on. -/
def textColumns (column : Nat → Field → Column α) : Nat → List Field → List (Column α)
  | _, [] => []
  | index, field :: fields => column index field :: textColumns column (index + 1) fields

/-- Columns of the binary protocol, from an index and a bit on. -/
def binaryColumns (column : Nat → NullBit → Field → Column α) :
    Nat → NullBit → List Field → List (Column α)
  | _, _, [] => []
  | index, nullBit, field :: fields =>
      column index nullBit field :: binaryColumns column (index + 1) nullBit.next fields

section Columns

variable (runtime : Runtime α) (fields : List Field) (options : Options (TypeCastFunction α))
  (config : Config (TypeCastFunction α))

/-- A column of the generated text parser. -/
def compiledTextColumn (index : Nat) (field : Field) : Column α :=
  let code := textReadCodeFor field (.ofField index) config options
  (valueCode options ⟨code, false⟩).column runtime fields options .text index

/-- A column of the generated binary parser. -/
def compiledBinaryColumn (nullBytes : List (Option Nat)) (index : Nat) (nullBit : NullBit)
    (field : Field) : Column α :=
  let code := valueCode options (binaryReadCodeFor field config options index)
  if nullBit.isSet nullBytes then code.nullColumn fields options index
  else code.column runtime fields options .binary index

/-- What the generated parser reads from a row packet. -/
def compiledValues (protocol : Protocol) (packet : Packet) :
    List (Value α) × Except JsError Packet :=
  let options := withConfigTypeCast options config
  match protocol with
  | .text => readAll (textColumns (compiledTextColumn runtime fields options config) 0 fields) packet
  | .binary =>
      match (readNullBitmap (nullBitmapLength fields)).run packet with
      | .error error => ([], .error error)
      | .ok (nullBytes, after) =>
          readAll (binaryColumns (compiledBinaryColumn runtime fields options config nullBytes)
            0 .first fields) after

/-- What the static parser reads from a row packet. -/
def staticValues (protocol : Protocol) (packet : Packet) :
    List (Value α) × Except JsError Packet :=
  match protocol with
  | .text =>
      readAll (textColumns (fun _ => staticTextColumn runtime options config) 0 fields) packet
  | .binary =>
      match (readNullBitmap (nullBitmapLength fields)).run packet with
      | .error error => ([], .error error)
      | .ok (nullBytes, after) =>
          readAll (binaryColumns (fun index nullBit field =>
            staticBinaryColumn runtime fields options config nullBytes field index nullBit)
            0 .first fields) after

end Columns

/-! ## One column -/

/-- A column of type `NULL`. -/
def Field.isNullColumn (field : Field) : Bool :=
  !field.isJsonFormat && Types.ofNat field.columnType = .NULL

/-- Whether the value of a column depends on the time zone. -/
def readsTimezone (protocol : Protocol) (field : Field) (options : Options φ)
    (config : Config φ) : Bool :=
  !field.isJsonFormat &&
    (match Types.ofNat field.columnType with
      | .DATE | .DATETIME | .TIMESTAMP => true
      | .NEWDATE => protocol = .binary
      | _ => false) &&
    !typeMatch field.columnType (dateStrings options config)

/-- Neither `false` nor a function. -/
def TypeCast.isPlain : TypeCast φ → Bool
  | .absent | .true => Bool.true
  | .false | .function _ => Bool.false

/-- The generated text read code does what the static parser does. -/
theorem textReadCodeFor_run_eq (runtime : Runtime α) {fields : List Field} {index : Nat}
    {field : Field} {options : Options φ} {config : Config φ} (fieldAt : fields[index]? = some field)
    (zone : timezone options config ≠ none ∨ readsTimezone .text field options config = false)
    (notNull : field.isNullColumn = false) :
    (textReadCodeFor field (.ofField index) config options).run runtime fields =
      readField runtime field config options := by
  have encodingEq : (EncodingExpr.ofField index).encoding fields = field.encoding := by
    simp [EncodingExpr.encoding, fieldAt]
  cases json : field.isJsonFormat with
  | true =>
      cases strings : config.jsonStrings <;>
        simp [textReadCodeFor, readField, json, strings, PacketCall.run, encodingEq]
  | false =>
      simp only [readsTimezone, json, Bool.not_false, Bool.true_and] at zone
      simp only [Field.isNullColumn, json, Bool.not_false, Bool.true_and,
        decide_eq_false_iff_not] at notNull
      cases typeEq : Types.ofNat field.columnType with
      | NULL => exact absurd typeEq notNull
      | DATE | DATETIME | TIMESTAMP =>
          simp only [textReadCodeFor, readField, json, Bool.false_eq_true, if_false, typeEq]
          cases strings : typeMatch field.columnType (dateStrings options config) with
          | true => rfl
          | false =>
              simp only [typeEq, strings] at zone
              obtain ⟨text, zoneEq⟩ := Option.ne_none_iff_exists'.mp (zone.resolve_right (by decide))
              rw [zoneEq]
              rfl
      | LONGLONG =>
          simp only [textReadCodeFor, readField, json, Bool.false_eq_true, if_false, typeEq]
          split <;> rfl
      | DECIMAL | NEWDECIMAL | JSON =>
          simp only [textReadCodeFor, readField, json, Bool.false_eq_true, if_false, typeEq]
          split <;> rfl
      | TINY | SHORT | LONG | FLOAT | DOUBLE | INT24 | TIME | YEAR | VECTOR | GEOMETRY =>
          simp only [textReadCodeFor, readField, json, Bool.false_eq_true, if_false, typeEq]
          rfl
      | _ =>
          simp only [textReadCodeFor, readField, json, Bool.false_eq_true, if_false, typeEq]
          split
          · rfl
          · rw [PacketCall.run, encodingEq]

/-- The generated binary read code does what the static parser does. -/
theorem binaryReadCodeFor_run_eq (runtime : Runtime α) {fields : List Field} {index : Nat}
    {field : Field} {options : Options φ} {config : Config φ} (fieldAt : fields[index]? = some field)
    (zone : timezone options config ≠ none ∨ readsTimezone .binary field options config = false) :
    (binaryReadCodeFor field config options index).call.run runtime fields =
      readCode runtime fields field config options index := by
  have encodingEq : (EncodingExpr.ofField index).encoding fields = field.encoding := by
    simp [EncodingExpr.encoding, fieldAt]
  cases json : field.isJsonFormat with
  | true =>
      cases strings : config.jsonStrings <;>
        simp [binaryReadCodeFor, readCode, json, strings, PacketCall.run, encodingEq]
  | false =>
      simp only [readsTimezone, json, Bool.not_false, Bool.true_and] at zone
      cases typeEq : Types.ofNat field.columnType with
      | DATE | DATETIME | TIMESTAMP | NEWDATE =>
          simp only [binaryReadCodeFor, readCode, json, Bool.false_eq_true, if_false, typeEq]
          cases strings : typeMatch field.columnType (dateStrings options config) with
          | true => rfl
          | false =>
              simp only [typeEq, strings] at zone
              obtain ⟨text, zoneEq⟩ := Option.ne_none_iff_exists'.mp (zone.resolve_right (by decide))
              rw [zoneEq]
              rfl
      | LONGLONG =>
          simp only [binaryReadCodeFor, readCode, json, Bool.false_eq_true, if_false, typeEq]
          cases field.unsigned <;> cases supportBigNumbers options config <;>
            cases bigNumberStrings options config <;> rfl
      | TINY | SHORT | LONG | INT24 =>
          simp only [binaryReadCodeFor, readCode, json, Bool.false_eq_true, if_false, typeEq]
          cases field.unsigned <;> rfl
      | DECIMAL | NEWDECIMAL | JSON =>
          simp only [binaryReadCodeFor, readCode, json, Bool.false_eq_true, if_false, typeEq]
          split <;> rfl
      | FLOAT | DOUBLE | NULL | TIME | YEAR | VECTOR | GEOMETRY =>
          simp only [binaryReadCodeFor, readCode, json, Bool.false_eq_true, if_false, typeEq]
          rfl
      | _ =>
          simp only [binaryReadCodeFor, readCode, json, Bool.false_eq_true, if_false, typeEq]
          split
          · rfl
          · rw [PacketCall.run, EncodingExpr.encoding]

/-! ## NULL in the text protocol -/

theorem readLengthCodedNumber_null {packet : Packet} (isNull : packet.peekByte = some 0xfb)
    (bigNumberStrings signed : Bool) :
    (readLengthCodedNumber bigNumberStrings signed).run packet = .ok (.null, packet.advance 1) := by
  have byteRun : readInt8.run packet = .ok (some 0xfb, packet.advance 1) := by
    rw [readInt8_run, ← peekByte_eq, isNull]
  rw [readLengthCodedNumber, run_bind_of_ok byteRun]
  rfl

theorem readStringValue_null (runtime : Runtime α) (encoding : Option String) {packet : Packet}
    (isNull : packet.peekByte = some 0xfb) :
    (readStringValue runtime encoding).run packet = .ok (.null, packet.advance 1) := by
  rw [readStringValue, readLengthCodedString, bind_assoc,
    run_bind_of_ok (readLengthCodedNumber_null isNull false false)]
  rfl

theorem parseLengthCodedFloat_null (runtime : Runtime α) {packet : Packet}
    (isNull : packet.peekByte = some 0xfb) :
    (parseLengthCodedFloat runtime).run packet = .ok (.null, packet.advance 1) := by
  rw [parseLengthCodedFloat, run_bind_of_ok (readLengthCodedNumber_null isNull false false)]
  rfl

theorem parseVector_null (runtime : Runtime α) {packet : Packet}
    (isNull : packet.peekByte = some 0xfb) :
    (parseVector runtime).run packet = .ok (.array [], packet.advance 1) := by
  have none : (readFloats runtime (packet.advance 1).offset (packet.advance 1).offset).run
      (packet.advance 1) = .ok ([], packet.advance 1) := by
    cases offsetEq : (packet.advance 1).offset with
    | zero => rfl
    | succ fuel =>
        rw [readFloats, run_get_bind, if_neg (by omega)]
        rfl
  rw [parseVector, run_bind_of_ok (readLengthCodedNumber_null isNull false false), run_get_bind]
  show StateT.run (readFloats runtime _ _ >>= _) _ = _
  rw [show (packet.advance 1).offset + LengthCoded.null.toNat = (packet.advance 1).offset from rfl,
    run_bind_of_ok none]
  rfl

/-- The calls that read a length first. -/
def PacketCall.isLengthCoded : PacketCall → Bool
  | .parseLengthCodedIntNoBigCheck | .parseLengthCodedIntString | .parseLengthCodedInt _
  | .parseLengthCodedFloat | .readLengthCodedNumber | .readLengthCodedString _
  | .readLengthCodedBuffer | .parseDate _ | .parseDateTime _ | .parseGeometryValue | .parseVector
  | .parseJson _ _ => true
  | _ => false

/-- What a call returns for `NULL`. -/
def PacketCall.nullValue : PacketCall → Value α
  | .parseVector => .array []
  | _ => .null

/-- They take one byte for `NULL`. -/
theorem null_run_of_isLengthCoded (runtime : Runtime α) (fields : List Field) {call : PacketCall}
    (lengthCoded : call.isLengthCoded = true) {packet : Packet}
    (isNull : packet.peekByte = some 0xfb) :
    (call.run runtime fields).run packet = .ok (call.nullValue, packet.advance 1) := by
  have lengthRun := readLengthCodedNumber_null isNull false false
  have bufferRun : (Packet.readLengthCodedBuffer (α := α)).run packet =
      .ok (.null, packet.advance 1) := by
    rw [Packet.readLengthCodedBuffer, run_bind_of_ok lengthRun]
    rfl
  cases call with
  | parseLengthCodedIntNoBigCheck =>
      rw [PacketCall.run, Packet.parseLengthCodedIntNoBigCheck, run_bind_of_ok lengthRun]
      rfl
  | parseLengthCodedIntString => exact readStringValue_null runtime _ isNull
  | parseLengthCodedInt bigNumbers =>
      rw [PacketCall.run, Packet.parseLengthCodedInt, run_bind_of_ok lengthRun]
      rfl
  | parseLengthCodedFloat => exact parseLengthCodedFloat_null runtime isNull
  | readLengthCodedNumber =>
      rw [PacketCall.run, run_bind_of_ok lengthRun]
      rfl
  | readLengthCodedString encoding => exact readStringValue_null runtime _ isNull
  | readLengthCodedBuffer => exact bufferRun
  | parseDate zone =>
      rw [PacketCall.run, Packet.parseDate, run_bind_of_ok lengthRun]
      rfl
  | parseDateTime zone =>
      rw [PacketCall.run, Packet.parseDateTime, run_bind_of_ok lengthRun]
      rfl
  | parseGeometryValue =>
      rw [PacketCall.run, Packet.parseGeometryValue, run_bind_of_ok bufferRun]
      rfl
  | parseVector => exact parseVector_null runtime isNull
  | parseJson encoding bigNumbers =>
      have stringRun : (readLengthCodedString runtime.toDecoding (encoding.encoding fields)).run
          packet = .ok (none, packet.advance 1) := by
        rw [Packet.readLengthCodedString, run_bind_of_ok lengthRun]
        rfl
      rw [PacketCall.run, Packet.parseJson, run_bind_of_ok stringRun]
      dsimp only
      rw [runtime.jsonParse_null]
      rfl
  | _ => exact absurd lengthCoded Bool.false_ne_true

/-- Generated text code makes such calls only. -/
theorem isLengthCoded_textReadCodeFor (field : Field) (encodingExpr : EncodingExpr)
    (config : Config φ) (options : Options φ) :
    (textReadCodeFor field encodingExpr config options).isLengthCoded = true := by
  cases json : field.isJsonFormat with
  | true => cases strings : config.jsonStrings <;>
      simp [textReadCodeFor, json, strings, PacketCall.isLengthCoded]
  | false =>
      simp only [textReadCodeFor, json, Bool.false_eq_true, if_false]
      cases Types.ofNat field.columnType <;> dsimp only <;> first | rfl | (split <;> rfl)

/-- A column of type `NULL` that carries `NULL`. -/
theorem nullColumn_run (runtime : Runtime α) (fields : List Field) {field : Field}
    (encodingExpr : EncodingExpr) (config : Config φ) (options : Options φ) {packet : Packet}
    (nullColumn : field.isNullColumn = true) (isNull : packet.peekByte = some 0xfb) :
    ((textReadCodeFor field encodingExpr config options).run runtime fields).run packet =
        .ok (.null, packet.advance 1) ∧
      (readField runtime field config options).run packet = .ok (.null, packet.advance 1) := by
  simp only [Field.isNullColumn, Bool.and_eq_true, Bool.not_eq_true', decide_eq_true_eq] at nullColumn
  obtain ⟨json, typeEq⟩ := nullColumn
  constructor
  · simp only [textReadCodeFor, json, Bool.false_eq_true, if_false, typeEq]
    rw [PacketCall.run, run_bind_of_ok (readLengthCodedNumber_null isNull false false)]
    rfl
  · simp only [readField, json, Bool.false_eq_true, if_false, typeEq]
    split
    · exact parseLengthCodedFloat_null runtime isNull
    · exact readStringValue_null runtime _ isNull

theorem parseDate_unset (runtime : Runtime α) :
    parseDate runtime none = parseDate runtime (some (units "local")) := by
  have localEq : isLocal (some (units "local")) = true := by decide
  simp only [parseDate, localEq, show isLocal none = true from rfl, if_true]

theorem parseDateTime_unset (runtime : Runtime α) :
    parseDateTime runtime none = parseDateTime runtime (some (units "local")) := by
  have localEq : isLocal (some (units "local")) = true := by decide
  simp only [parseDateTime, dateTimeValue, parsedDate, localEq, show isLocal none = true from rfl,
    if_true]

/-- The options of a connection in local time. -/
def inLocalTime (config : Config φ) : Config φ :=
  { config with timezone := some (units "local") }

/-- The static parser takes an unset time zone for local time. -/
theorem readField_unset (runtime : Runtime α) (field : Field) {config : Config φ}
    {options : Options φ} (unset : timezone options config = none) :
    readField runtime field config options =
      readField runtime field (inLocalTime config) { options with timezone := none } := by
  have zoneEq : timezone { options with timezone := none } (inLocalTime config) =
      some (units "local") := rfl
  simp only [readField, unset, zoneEq, parseDate_unset, parseDateTime_unset]
  rfl

/-- A call without its time zone and its encoding. -/
def PacketCall.shape : PacketCall → PacketCall
  | .parseDate _ => .parseDate []
  | .parseDateTime _ => .parseDateTime []
  | .readDateTime _ => .readDateTime []
  | .readLengthCodedString _ => .readLengthCodedString (.literal "")
  | .parseJson _ supportBigNumbers => .parseJson (.literal "") supportBigNumbers
  | call => call

/-- The shape of generated code depends neither on the time zone nor on the encoding. -/
theorem shape_textReadCodeFor (field : Field) (encodingExpr other : EncodingExpr)
    (config : Config φ) (options : Options φ) :
    (textReadCodeFor field encodingExpr (inLocalTime config)
        { options with timezone := none }).shape =
      (textReadCodeFor field other config options).shape := by
  have strings : dateStrings { options with timezone := none } (inLocalTime config) =
      dateStrings options config := rfl
  have numbers : supportBigNumbers { options with timezone := none } (inLocalTime config) =
      supportBigNumbers options config := rfl
  have texts : bigNumberStrings { options with timezone := none } (inLocalTime config) =
      bigNumberStrings options config := rfl
  have json : (inLocalTime config).jsonStrings = config.jsonStrings := rfl
  have decimals : (inLocalTime config).decimalNumbers = config.decimalNumbers := rfl
  simp only [textReadCodeFor, strings, numbers, texts, json, decimals]
  cases field.isJsonFormat with
  | true => cases config.jsonStrings <;> rfl
  | false =>
      simp only [Bool.false_eq_true, if_false]
      cases Types.ofNat field.columnType <;> dsimp only <;> first | rfl | (split <;> rfl)

/-- The static parser makes a call of the generated code, with its own time zone. -/
theorem exists_call_readField (runtime : Runtime α) {field : Field} (config : Config φ)
    (options : Options φ) (notNull : field.isNullColumn = false) (encodingExpr : EncodingExpr) :
    ∃ call : PacketCall, readField runtime field config options = call.run runtime [field] ∧
      call.isLengthCoded = true ∧
        call.shape = (textReadCodeFor field encodingExpr config options).shape := by
  cases zoneEq : timezone options config with
  | none =>
      refine ⟨_, ?_, isLengthCoded_textReadCodeFor .., shape_textReadCodeFor field (.ofField 0) ..⟩
      rw [readField_unset runtime field zoneEq]
      exact (textReadCodeFor_run_eq runtime (show [field][0]? = some field from rfl)
        (.inl (by rintro ⟨⟩)) notNull).symm
  | some zone =>
      refine ⟨textReadCodeFor field (.ofField 0) config options, ?_,
        isLengthCoded_textReadCodeFor .., ?_⟩
      · exact (textReadCodeFor_run_eq runtime (show [field][0]? = some field from rfl)
          (.inl (by rw [zoneEq]; rintro ⟨⟩)) notNull).symm
      · rw [← shape_textReadCodeFor field (.ofField 0) (.ofField 0),
          shape_textReadCodeFor field (.ofField 0) encodingExpr]

/-! ## Columns without `typeCast` -/

theorem withConfigTypeCast_plain {options : Options φ} {config : Config φ}
    (plain : config.typeCast.isPlain = true) : withConfigTypeCast options config = options := by
  cases typeCast : config.typeCast <;>
    simp_all [withConfigTypeCast, TypeCast.isFunction, TypeCast.isPlain]

theorem valueCode_plain {options : Options φ} (plain : options.typeCast.isPlain = true)
    (code : ReadCode) : valueCode options code = .read code := by
  cases typeCast : options.typeCast <;> simp_all [valueCode, TypeCast.isPlain]

section Plain

variable (runtime : Runtime α) (fields : List Field) {options : Options (TypeCastFunction α)}
  {config : Config (TypeCastFunction α)}

theorem compiledTextColumn_plain (plain : options.typeCast.isPlain = true) (index : Nat)
    (field : Field) :
    compiledTextColumn runtime fields options config index field =
      ⟨false, (textReadCodeFor field (.ofField index) config options).run runtime fields⟩ := by
  rw [compiledTextColumn, valueCode_plain plain]
  rfl

theorem staticTextColumn_plain (plain : options.typeCast.isPlain = true)
    (configPlain : config.typeCast.isPlain = true) (field : Field) :
    staticTextColumn runtime options config field =
      ⟨false, readField runtime field config options⟩ := by
  unfold staticTextColumn
  cases typeCast : options.typeCast <;> cases configTypeCast : config.typeCast <;>
    simp_all [TypeCast.isPlain]

theorem compiledBinaryColumn_plain (plain : options.typeCast.isPlain = true)
    (nullBytes : List (Option Nat)) (index : Nat) (nullBit : NullBit) (field : Field) :
    compiledBinaryColumn runtime fields options config nullBytes index nullBit field =
      if nullBit.isSet nullBytes then ⟨false, return .null⟩
      else ⟨false, (binaryReadCodeFor field config options index).call.run runtime fields⟩ := by
  rw [compiledBinaryColumn, valueCode_plain plain]
  rfl

theorem staticBinaryColumn_plain (plain : options.typeCast.isPlain = true)
    (configPlain : config.typeCast.isPlain = true) (nullBytes : List (Option Nat)) (index : Nat)
    (nullBit : NullBit) (field : Field) :
    staticBinaryColumn runtime fields options config nullBytes field index nullBit =
      if nullBit.isSet nullBytes then ⟨false, return .null⟩
      else ⟨false, readCode runtime fields field config options index⟩ := by
  unfold staticBinaryColumn
  cases typeCast : options.typeCast <;> cases configTypeCast : config.typeCast <;>
    simp_all [TypeCast.isPlain]

end Plain

/-! ## Rows -/

/-- A row packet in which every column of type `NULL` carries `NULL`: the static
parser finds the byte of `NULL` where it comes to such a column. -/
def CarriesNull (column : Field → Column α) : List Field → Packet → Prop
  | [], _ => True
  | field :: fields, packet =>
      (field.isNullColumn = true → packet.peekByte = some 0xfb) ∧
        ∀ value after, (column field).read.run packet = .ok (value, after) →
          CarriesNull column fields after

/-- The bit of a field. -/
def NullBit.ofField (index : Nat) : NullBit :=
  ⟨2 ^ ((index + 2) % 8), (index + 2) / 8⟩

theorem NullBit.first_eq : NullBit.first = .ofField 0 := rfl

theorem NullBit.next_ofField (index : Nat) : (NullBit.ofField index).next = .ofField (index + 1) := by
  have small : (index + 2) % 8 < 8 := Nat.mod_lt _ (by decide)
  have twice : 2 ^ ((index + 2) % 8) * 2 = 2 ^ ((index + 2) % 8 + 1) := (Nat.pow_succ ..).symm
  rw [NullBit.next, NullBit.ofField]
  dsimp only
  rw [twice]
  by_cases last : (index + 2) % 8 = 7
  · rw [last, if_pos (by decide), NullBit.ofField, show (index + 1 + 2) % 8 = 0 by omega,
      show (index + 1 + 2) / 8 = (index + 2) / 8 + 1 by omega, Nat.pow_zero]
  · have notLast : 2 ^ ((index + 2) % 8 + 1) ≠ 0x100 := by
      intro equal
      have eight : (index + 2) % 8 + 1 = 8 := Nat.pow_right_injective (by decide) equal
      omega
    rw [if_neg notLast, NullBit.ofField, show (index + 1 + 2) % 8 = (index + 2) % 8 + 1 by omega,
      show (index + 1 + 2) / 8 = (index + 2) / 8 by omega]

/-- The row packets of a protocol, in which a column of type `NULL` carries
`NULL`: its byte in the text protocol, its bit in the binary one. -/
def RowPacket (runtime : Runtime α) (fields : List Field) (options : Options (TypeCastFunction α))
    (config : Config (TypeCastFunction α)) (protocol : Protocol) (packet : Packet) : Prop :=
  match protocol with
  | .text => CarriesNull (staticTextColumn runtime options config) fields packet
  | .binary =>
      ∀ nullBytes after, (readNullBitmap (nullBitmapLength fields)).run packet =
        .ok (nullBytes, after) → ∀ index field, fields[index]? = some field →
          field.isNullColumn = true → (NullBit.ofField index).isSet nullBytes = true

/-- The columns from an index on are the rest of the fields. -/
def RestFrom (fields rest : List Field) (index : Nat) : Prop :=
  ∀ offset field, rest[offset]? = some field → fields[index + offset]? = some field

theorem RestFrom.self (fields : List Field) : RestFrom fields fields 0 := by
  intro offset field found
  rwa [Nat.zero_add]

theorem RestFrom.head {fields rest : List Field} {field : Field} {index : Nat}
    (from_ : RestFrom fields (field :: rest) index) : fields[index]? = some field :=
  from_ 0 field rfl

theorem RestFrom.tail {fields rest : List Field} {field : Field} {index : Nat}
    (from_ : RestFrom fields (field :: rest) index) : RestFrom fields rest (index + 1) := by
  intro offset other found
  rw [Nat.add_assoc, Nat.add_comm 1]
  exact from_ (offset + 1) other found

/-- Readers that agree where a row is read make the same values. -/
theorem readAll_text_eq {first : Nat → Field → Column α} {second : Field → Column α}
    {fields rest : List Field} {index : Nat} {packet : Packet}
    (restFrom : RestFrom fields rest index) (carries : CarriesNull second rest packet)
    (agree : ∀ index field, fields[index]? = some field → ∀ packet : Packet,
      (field.isNullColumn = true → packet.peekByte = some 0xfb) →
        (first index field).read.run packet = (second field).read.run packet) :
    readAll (textColumns first index rest) packet =
      readAll (textColumns (fun _ => second) index rest) packet := by
  induction rest generalizing index packet with
  | nil => rfl
  | cons field rest ih =>
      obtain ⟨isNull, next⟩ := carries
      have headEq := agree index field restFrom.head packet isNull
      rw [textColumns, textColumns]
      cases run : (second field).read.run packet with
      | error error =>
          rw [readAll_cons_of_error run, readAll_cons_of_error (headEq.trans run)]
      | ok read =>
          obtain ⟨value, after⟩ := read
          rw [readAll_cons_of_ok run, readAll_cons_of_ok (headEq.trans run),
            ih restFrom.tail (next value after run)]

theorem readAll_binary_eq {first second : Nat → NullBit → Field → Column α}
    {fields rest : List Field} {index : Nat} {nullBit : NullBit} {packet : Packet}
    (restFrom : RestFrom fields rest index)
    (agree : ∀ index nullBit field, fields[index]? = some field →
      (first index nullBit field).read = (second index nullBit field).read) :
    readAll (binaryColumns first index nullBit rest) packet =
      readAll (binaryColumns second index nullBit rest) packet := by
  induction rest generalizing index nullBit packet with
  | nil => rfl
  | cons field rest ih =>
      have headEq := agree index nullBit field restFrom.head
      rw [binaryColumns, binaryColumns]
      cases run : (second index nullBit field).read.run packet with
      | error error =>
          rw [readAll_cons_of_error run, readAll_cons_of_error (by rw [headEq, run])]
      | ok read =>
          obtain ⟨value, after⟩ := read
          rw [readAll_cons_of_ok run, readAll_cons_of_ok (by rw [headEq, run]), ih restFrom.tail]

/-- With a time zone, or without columns that need one, both parsers of a
protocol read the same values. -/
theorem compiledValues_eq (runtime : Runtime α) {fields : List Field}
    {options : Options (TypeCastFunction α)} {config : Config (TypeCastFunction α)}
    {protocol : Protocol} {packet : Packet} (plain : options.typeCast.isPlain = true)
    (configPlain : config.typeCast.isPlain = true)
    (zone : timezone options config ≠ none ∨
      ∀ field ∈ fields, readsTimezone protocol field options config = false)
    (row : RowPacket runtime fields options config protocol packet) :
    compiledValues runtime fields options config protocol packet =
      staticValues runtime fields options config protocol packet := by
  have zoneAt : ∀ index field, fields[index]? = some field → timezone options config ≠ none ∨
      readsTimezone protocol field options config = false :=
    fun index field found => zone.imp_right fun none => none field (List.mem_of_getElem? found)
  simp only [compiledValues, staticValues, withConfigTypeCast_plain configPlain]
  cases protocol with
  | text =>
      apply readAll_text_eq (RestFrom.self fields) row
      intro index field found packet isNull
      rw [compiledTextColumn_plain runtime fields plain,
        staticTextColumn_plain runtime plain configPlain]
      cases nullColumn : field.isNullColumn with
      | true =>
          obtain ⟨first, second⟩ := nullColumn_run runtime fields (.ofField index) config options
            nullColumn (isNull nullColumn)
          rw [first, second]
      | false =>
          rw [textReadCodeFor_run_eq runtime found (zoneAt index field found) nullColumn]
  | binary =>
      cases header : (readNullBitmap (nullBitmapLength fields)).run packet with
      | error error => rfl
      | ok read =>
          apply readAll_binary_eq (RestFrom.self fields)
          intro index nullBit field found
          rw [compiledBinaryColumn_plain runtime fields plain,
            staticBinaryColumn_plain runtime fields plain configPlain,
            binaryReadCodeFor_run_eq runtime found (zoneAt index field found)]

end Mysql2.Parsers

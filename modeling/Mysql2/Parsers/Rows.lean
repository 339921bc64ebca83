import Mysql2.Parsers.Columns

/-!
# Row parsers

The two code generators and their static twins.  A generated parser is given by
its statements, which run as the generated code does.

A value is read before its place in the row is looked at.  In the source the
object of an assignment comes first, which makes no difference, because reading
does not touch rows.
-/

namespace Mysql2.Parsers

open Mysql2.Packets Mysql2.Script

variable {α φ : Type}

/-! ## Errors and keys -/

/-- `helpers.privateObjectProps`. -/
def privateObjectProps : List String :=
  ["__defineGetter__", "__defineSetter__", "__lookupGetter__", "__lookupSetter__", "__proto__"]

/-- Whether a key is one of them. -/
def isPrivate (key : JsString) : Bool :=
  privateObjectProps.any fun name => units name = key

/-- The error of a field name that is a private property. -/
def privateError (key : JsString) : JsError :=
  let name := (privateObjectProps.find? fun name => units name = key).getD ""
  .new ("The field name (" ++ name ++ ") can't be the same as an object's private property.")

/-- The check of `helpers.fieldEscape(field, isEval)`, which returns the field or
a literal that evaluates to it. -/
def fieldEscape (field : JsString) : Except JsError JsString :=
  if isPrivate field then .error (privateError field) else .ok field

/-- What an assignment throws, as an error object. -/
def thrownError : Thrown → JsError
  | .typeError => .new "Cannot assign to read only property"
  | .rangeError => .new "Invalid array length"

/-! ## `typeCast` -/

/-- The data of the field that a `typeCast` function gets. -/
structure FieldMetadata where
  type : Option String
  extendedTypeName : Option JsString
  extendedFormat : Option JsString
  length : Nat
  db : JsString
  table : JsString
  name : JsString
  deriving DecidableEq, Repr

/-- The field that a `typeCast` function gets.  `string` is called with an
encoding or without. -/
structure FieldWrapper (α : Type) where
  metadata : FieldMetadata
  string : Option (Option String) → Reader (Value α)
  buffer : Reader (Value α)
  geometry : Reader (Value α)

/-- A `typeCast` function.  It gets a field and `next`. -/
abbrev TypeCastFunction (α : Type) :=
  FieldWrapper α → Reader (Value α) → Reader (Value α)

/-- `fieldMetadata(field)`. -/
def fieldMetadata (field : Field) : FieldMetadata where
  type := (Types.ofNat field.columnType).name
  extendedTypeName := field.extendedTypeName
  extendedFormat := field.extendedFormat
  length := field.columnLength
  db := field.schema
  table := field.table
  name := field.name

/-- `wrap(field, _this)` of the text protocol, and `createTypecastField(field,
packet)` of its static twin. -/
def textWrap (runtime : Runtime α) (field : Field) : FieldWrapper α where
  metadata := fieldMetadata field
  string encoding := Packet.readStringValue runtime (encoding.getD field.encoding)
  buffer := Packet.readLengthCodedBuffer
  geometry := Packet.parseGeometryValue runtime

/-- `field.string(encoding)` of the binary protocol. -/
def binaryString (runtime : Runtime α) (field : Field) (encoding : Option String) :
    Reader (Value α) := do
  match Types.ofNat field.columnType with
  | .DATETIME | .NEWDATE | .TIMESTAMP | .DATE =>
      return .string (← Packet.readDateTimeString field.decimals " " (some field.columnType))
  | .TINY =>
      if field.unsigned then
        match ← Packet.readInt8 with
        | none => return .string "undefined"
        | some byte => return .string (toString byte)
      else
        return .string (toString (← Packet.readSInt8))
  | .TIME => return .string (← Packet.readTimeString)
  | _ => Packet.readStringValue runtime encoding

/-- `wrap(field, packet)` of the binary protocol, and the object that its static
twin makes. -/
def binaryWrap (runtime : Runtime α) (field : Field) : FieldWrapper α where
  metadata := fieldMetadata field
  string encoding := binaryString runtime field (encoding.getD field.encoding)
  buffer := Packet.readLengthCodedBuffer
  geometry := Packet.parseGeometryValue runtime

/-- `wrapNull(field)`, of both parsers of the binary protocol. -/
def wrapNull (field : Field) : FieldWrapper α where
  metadata := fieldMetadata field
  string _ := return .null
  buffer := return .null
  geometry := return .null

/-! ## Columns -/

/-- How the value of a column is read, and whether that calls `typeCast`. -/
structure Column (α : Type) where
  calls : Bool
  read : Reader (Value α)

/-- The loop variables `currentFieldNullBit` and `nullByteIndex`. -/
structure NullBit where
  bit : Nat
  byteIndex : Nat
  deriving DecidableEq, Repr

/-- The bit of the first field. -/
def NullBit.first : NullBit :=
  ⟨4, 0⟩

/-- The bit of the next field. -/
def NullBit.next (position : NullBit) : NullBit :=
  if position.bit * 2 = 0x100 then ⟨1, position.byteIndex + 1⟩
  else ⟨position.bit * 2, position.byteIndex⟩

/-- `nullBitmaskBytes[nullByteIndex] & currentFieldNullBit`. -/
def NullBit.isSet (position : NullBit) (nullBytes : List (Option Nat)) : Bool :=
  hasFlag ((nullBytes[position.byteIndex]?.bind id).getD 0) position.bit

/-- `Math.floor((fields.length + 7 + 2) / 8)`. -/
def nullBitmapLength (fields : List Field) : Nat :=
  (fields.length + 7 + 2) / 8

/-- A number of bytes. -/
def readBytes : Nat → Reader (List (Option Nat))
  | 0 => return []
  | count + 1 => do
      let byte ← Packet.readInt8
      return byte :: (← readBytes count)

/-- The status byte and the null bitmap. -/
def readNullBitmap (count : Nat) : Reader (List (Option Nat)) := do
  let _ ← Packet.readInt8
  readBytes count

/-! ## Building rows -/

/-- What a row parser works on: the packet, all objects, and the columns for
which `typeCast` has been called. -/
structure RowState (α : Type) where
  packet : Packet
  heap : Heap (Value α)
  calls : List Nat

/-- A step of a row parser.  Its effects stay when it throws. -/
abbrev RowM (α β : Type) :=
  ExceptT JsError (StateM (RowState α)) β

/-- A reader of the packet. -/
def readPacket {β : Type} (reader : Reader β) : RowM α β := do
  match reader.run (← get).packet with
  | .ok (value, packet) =>
      modify fun state => { state with packet := packet }
      return value
  | .error error => throw error

/-- The value of a column. -/
def readColumn (index : Nat) (column : Column α) : RowM α (Value α) := do
  if column.calls then
    modify fun state => { state with calls := state.calls ++ [index] }
  readPacket column.read

/-- A computation that only throws. -/
def orThrow {β : Type} : Except JsError β → RowM α β
  | .ok value => return value
  | .error error => throw error

/-- A new object. -/
def allocate (object : Object (Value α)) : RowM α Ref := do
  let (heap, ref) := (← get).heap.allocate object
  modify fun state => { state with heap := heap }
  return ref

/-- `object[key] = slot`. -/
def assign (runtime : Runtime α) (ref : Ref) (key : JsString) (slot : Slot (Value α)) :
    RowM α Unit := do
  match (← get).heap.assign runtime.primitives ref key slot with
  | .ok heap => modify fun state => { state with heap := heap }
  | .error thrown => throw (thrownError thrown)

/-- `if (!result[table]) result[table] = {};`. -/
def ensureTable (runtime : Runtime α) (realm : Realm (Value α)) (result : Ref)
    (table : JsString) : RowM α Unit := do
  let slot := (← get).heap.get runtime.primitives result table
  if ¬Heap.truthy runtime.primitives slot then
    let ref ← allocate realm.newObject
    assign runtime result table (.object ref)

/-- `result[table][name] = value`, where a table that is no object throws. -/
def assignNested (runtime : Runtime α) (result : Ref) (table name : JsString)
    (value : Value α) : RowM α Unit := do
  match (← get).heap.get runtime.primitives result table with
  | .object ref => assign runtime ref name (.value value)
  | .value _ => throw (thrownError .typeError)

/-! ## Generated parsers -/

/-- The protocols of row packets. -/
inductive Protocol
  | text
  | binary
  deriving DecidableEq, Repr

/-- Where generated code puts a value. -/
inductive Lvalue
  | index (index : Nat)
  | key (key : JsString)
  | nested (table name : JsString)
  deriving DecidableEq, Repr

/-- The right side of an assignment: the raw value, the read code, or a call of
`options.typeCast` with it. -/
inductive ValueCode
  | readLengthCodedBuffer
  | read (code : ReadCode)
  | typeCast (code : ReadCode)
  deriving DecidableEq, Repr

/-- Statements of generated code: `result[table] = {};`, `if (!result[table])
result[table] = {};`, and the assignment of a column, which in the binary
protocol tests a bit of the null bitmap first. -/
inductive Statement
  | initTable (table : JsString)
  | ensureTable (table : JsString)
  | column (index : Nat) (nullBit : Option NullBit) (target : Lvalue) (value : ValueCode)
  deriving DecidableEq, Repr

/-- A generated row parser. -/
structure RowProgram where
  protocol : Protocol
  /-- Whether the constructor calls `LocalDate.checkTimezone()`. -/
  checksTimezone : Bool
  /-- Whether the constructor wraps the fields for `typeCast`. -/
  wraps : Bool
  /-- The length of an array that is the result. -/
  arrayLength : Option Nat
  nullBitmapLength : Nat
  body : List Statement
  deriving DecidableEq, Repr

/-- `LocalDate.usesLocalDate(field, options, config)`. -/
def usesLocalDate (field : Field) (options : Options φ) (config : Config φ) : Bool :=
  isLocal (timezone options config) &&
    (match Types.ofNat field.columnType with
      | .DATE | .DATETIME | .TIMESTAMP | .NEWDATE => true
      | _ => false) &&
    !typeMatch field.columnType (dateStrings options config)

/-- The options after both generators have replaced `options.typeCast`. -/
def withConfigTypeCast (options : Options φ) (config : Config φ) : Options φ :=
  if config.typeCast.isFunction ∧ ¬options.typeCast.isFunction then
    { options with typeCast := config.typeCast }
  else
    options

/-- The right side of a column in generated code. -/
def valueCode (options : Options φ) (code : ReadCode) : ValueCode :=
  match options.typeCast with
  | .false => .readLengthCodedBuffer
  | .function _ => .typeCast code
  | _ => .read code

/-- Statements up to a column's assignment, and its left side. -/
def compileTarget (options : Options φ) (field : Field) (index : Nat) :
    Except JsError (List Statement × Lvalue) := do
  let fieldName ← fieldEscape field.name
  match options.nestTables with
  | .separator separator =>
      return ([], .key (← fieldEscape (field.table ++ separator ++ field.name)))
  | .true =>
      let tableName ← fieldEscape field.table
      return ([.ensureTable tableName], .nested tableName fieldName)
  | _ =>
      return ([], if options.rowsAsArray then .index index else .key fieldName)

/-- The loop over fields of the text generator. -/
def compileTextFields (options : Options φ) (config : Config φ) :
    Nat → List Field → Except JsError (List Statement)
  | _, [] => .ok []
  | index, field :: fields => do
      let (before, target) ← compileTarget options field index
      let code := textReadCodeFor field (.ofField index) config options
      let rest ← compileTextFields options config (index + 1) fields
      return before ++ [.column index none target (valueCode options ⟨code, false⟩)] ++ rest

/-- The loop over fields of the binary generator. -/
def compileBinaryFields (options : Options φ) (config : Config φ) :
    Nat → NullBit → List Field → Except JsError (List Statement)
  | _, _, [] => .ok []
  | index, nullBit, field :: fields => do
      let (before, target) ← compileTarget options field index
      let code := binaryReadCodeFor field config options index
      let rest ← compileBinaryFields options config (index + 1) nullBit.next fields
      return before ++ [.column index (some nullBit) target (valueCode options code)] ++ rest

/-- `Object.keys(resultTables)`, for tables that the assignment of a number has
made keys: array indices in order, then the other names.  An assignment to
`__proto__` makes no key. -/
def resultTables (fields : List Field) : List JsString :=
  let tables := ((fields.map Field.table).filter (· ≠ protoKey)).eraseDups
  let indices := tables.filter fun table => (toIndex table).isSome
  indices.mergeSort (fun first second => (toIndex first).getD 0 ≤ (toIndex second).getD 0) ++
    tables.filter fun table => (toIndex table).isNone

/-- `compile(fields, options, config)` of the text protocol. -/
def compileText (fields : List Field) (options : Options φ) (config : Config φ) :
    Except JsError RowProgram := do
  let options := withConfigTypeCast options config
  let tables := if options.nestTables = .true then resultTables fields else []
  let inits ← tables.mapM fun table => return Statement.initTable (← fieldEscape table)
  let columns ← compileTextFields options config 0 fields
  return {
    protocol := .text
    checksTimezone := fields.any fun field => usesLocalDate field options config
    wraps := options.typeCast.isFunction
    arrayLength := if options.rowsAsArray then some fields.length else none
    nullBitmapLength := 0
    body := inits ++ columns }

/-- `compile(fields, options, config)` of the binary protocol. -/
def compileBinary (fields : List Field) (options : Options φ) (config : Config φ) :
    Except JsError RowProgram := do
  let options := withConfigTypeCast options config
  let columns ← compileBinaryFields options config 0 .first fields
  return {
    protocol := .binary
    checksTimezone := fields.any fun field => usesLocalDate field options config
    wraps := false
    arrayLength := if options.rowsAsArray then some fields.length else none
    nullBitmapLength := nullBitmapLength fields
    body := columns }

/-- `compile(fields, options, config)` of a protocol. -/
def compile (protocol : Protocol) (fields : List Field) (options : Options φ)
    (config : Config φ) : Except JsError RowProgram :=
  match protocol with
  | .text => compileText fields options config
  | .binary => compileBinary fields options config

/-! ## Running generated parsers -/

section Generated

variable (runtime : Runtime α) (realm : Realm (Value α)) (fields : List Field)
  (options : Options (TypeCastFunction α))

/-- A call of `options.typeCast`. -/
def callTypeCast (wrapper : FieldWrapper α) (next : Reader (Value α)) : Reader (Value α) :=
  match options.typeCast with
  | .function typeCast => typeCast wrapper next
  | _ => throw .typeError

/-- How the right side of a column reads a value. -/
def ValueCode.column (protocol : Protocol) (index : Nat) : ValueCode → Column α
  | .readLengthCodedBuffer => ⟨false, Packet.readLengthCodedBuffer⟩
  | .read code => ⟨false, code.call.run runtime fields⟩
  | .typeCast code =>
      let wrap := match protocol with
        | .text => textWrap runtime
        | .binary => binaryWrap runtime
      ⟨true, match fields[index]? with
        | some field => callTypeCast options (wrap field) (code.call.run runtime fields)
        | none => throw .typeError⟩

/-- How the right side of a column behaves for `NULL`. -/
def ValueCode.nullColumn (index : Nat) : ValueCode → Column α
  | .typeCast _ =>
      ⟨true, match fields[index]? with
        | some field => callTypeCast options (wrapNull field) (return .null)
        | none => throw .typeError⟩
  | _ => ⟨false, return .null⟩

/-- `lvalue = value`. -/
def assignTo (result : Ref) (value : Value α) : Lvalue → RowM α Unit
  | .index index => assign runtime result (indexKey index) (.value value)
  | .key key => assign runtime result key (.value value)
  | .nested table name => assignNested runtime result table name value

/-- One statement. -/
def Statement.run (protocol : Protocol) (nullBytes : List (Option Nat)) (result : Ref) :
    Statement → RowM α Unit
  | .initTable table => do
      let ref ← allocate realm.newObject
      assign runtime result table (.object ref)
  | .ensureTable table => Parsers.ensureTable runtime realm result table
  | .column index nullBit target code => do
      let isNull := nullBit.any (·.isSet nullBytes)
      let column := if isNull then code.nullColumn fields options index
        else code.column runtime fields options protocol index
      assignTo runtime result (← readColumn index column) target

/-- The statements of a body, in order. -/
def runBody (protocol : Protocol) (nullBytes : List (Option Nat)) (result : Ref) :
    List Statement → RowM α Unit
  | [] => return
  | statement :: body => do
      statement.run runtime realm fields options protocol nullBytes result
      runBody protocol nullBytes result body

/-- The result that a row starts from. -/
def newResult (arrayLength : Option Nat) : Object (Value α) :=
  match arrayLength with
  | some length => realm.newArray runtime.primitives length
  | none => realm.newObject

/-- `next(packet, fields, options)` of a generated parser. -/
def RowProgram.next (program : RowProgram) : RowM α Ref := do
  let result ← allocate (newResult runtime realm program.arrayLength)
  let nullBytes ← match program.protocol with
    | .text => pure []
    | .binary => readPacket (readNullBitmap program.nullBitmapLength)
  runBody runtime realm fields options program.protocol nullBytes result program.body
  return result

/-- Compiling a parser and parsing a row with it. -/
def compiledNext (protocol : Protocol) (config : Config (TypeCastFunction α)) : RowM α Ref := do
  let program ← orThrow (compile protocol fields options config)
  program.next runtime realm fields (withConfigTypeCast options config)

end Generated

/-! ## Static parsers -/

section Static

variable (runtime : Runtime α) (realm : Realm (Value α)) (fields : List Field)
  (options : Options (TypeCastFunction α)) (config : Config (TypeCastFunction α))

/-- The value of a column in `getTextParser`. -/
def staticTextColumn (field : Field) : Column α :=
  let next := readField runtime field config options
  let typeCast := match options.typeCast with
    | .absent | .false => config.typeCast
    | typeCast => typeCast
  match options.typeCast, typeCast with
  | .false, _ => ⟨false, Packet.readLengthCodedBuffer⟩
  | _, .function typeCast => ⟨true, typeCast (textWrap runtime field) next⟩
  | _, _ => ⟨false, next⟩

/-- The value of a column in `BinaryRow.next`. -/
def staticBinaryColumn (nullBytes : List (Option Nat)) (field : Field) (index : Nat)
    (nullBit : NullBit) : Column α :=
  let typeCast := match options.typeCast with
    | .absent => config.typeCast
    | typeCast => typeCast
  if nullBit.isSet nullBytes then
    match typeCast with
    | .function typeCast => ⟨true, typeCast (wrapNull field) (return .null)⟩
    | _ => ⟨false, return .null⟩
  else
    let next := readCode runtime fields field config options index
    match options.typeCast, typeCast with
    | .false, _ => ⟨false, Packet.readLengthCodedBuffer⟩
    | _, .function typeCast => ⟨true, typeCast (binaryWrap runtime field) next⟩
    | _, _ => ⟨false, next⟩

/-- `result.push(value)`. -/
def push (result : Ref) (value : Value α) : RowM α Unit := do
  let length := ((← get).heap[result]?.map (Object.arrayLength runtime.primitives)).getD 0
  assign runtime result (indexKey length) (.value value)

/-- A nested table, and the column in it. -/
def placeNested (result : Ref) (field : Field) (value : Value α) : RowM α Unit := do
  let tableName ← orThrow (fieldEscape field.table)
  Parsers.ensureTable runtime realm result tableName
  let fieldName ← orThrow (fieldEscape field.name)
  assignNested runtime result tableName fieldName value

/-- Where `getTextParser` puts a value. -/
def placeText (result : Ref) (field : Field) (value : Value α) : RowM α Unit := do
  if options.rowsAsArray then
    push runtime result value
  else
    match options.nestTables with
    | .separator separator =>
        let tableName ← orThrow (fieldEscape field.table)
        let fieldName ← orThrow (fieldEscape field.name)
        assign runtime result (tableName ++ separator ++ fieldName) (.value value)
    | .true | .truthy => placeNested runtime realm result field value
    | .absent =>
        let fieldName ← orThrow (fieldEscape field.name)
        assign runtime result fieldName (.value value)

/-- Where `BinaryRow.next` puts a value. -/
def placeBinary (result : Ref) (field : Field) (index : Nat) (value : Value α) :
    RowM α Unit := do
  if options.rowsAsArray then
    assign runtime result (indexKey index) (.value value)
  else
    match options.nestTables with
    | .separator separator =>
        let key ← orThrow (fieldEscape (field.table ++ separator ++ field.name))
        assign runtime result key (.value value)
    | .true => placeNested runtime realm result field value
    | .truthy | .absent =>
        let key ← orThrow (fieldEscape field.name)
        assign runtime result key (.value value)

/-- The loop of `getTextParser`. -/
def nextText (result : Ref) : Nat → List Field → RowM α Unit
  | _, [] => return
  | index, field :: rest => do
      let value ← readColumn index (staticTextColumn runtime options config field)
      placeText runtime realm options result field value
      nextText result (index + 1) rest

/-- The loop of `BinaryRow.next`. -/
def nextBinary (nullBytes : List (Option Nat)) (result : Ref) :
    Nat → NullBit → List Field → RowM α Unit
  | _, _, [] => return
  | index, nullBit, field :: rest => do
      let column := staticBinaryColumn runtime fields options config nullBytes field index nullBit
      let value ← readColumn index column
      placeBinary runtime realm options result field index value
      nextBinary nullBytes result (index + 1) nullBit.next rest

/-- `next(packet, fields, options)` of the static parser of a protocol. -/
def staticNext (protocol : Protocol) : RowM α Ref := do
  match protocol with
  | .text =>
      let length := if options.rowsAsArray then some 0 else none
      let result ← allocate (newResult runtime realm length)
      nextText runtime realm options config result 0 fields
      return result
  | .binary =>
      let nullBytes ← readPacket (readNullBitmap (nullBitmapLength fields))
      let length := if options.rowsAsArray then some fields.length else none
      let result ← allocate (newResult runtime realm length)
      nextBinary runtime realm fields options config nullBytes result 0 .first fields
      return result

end Static

end Mysql2.Parsers

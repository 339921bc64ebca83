import Mysql2.Packets.Parameters

/-!
# Packets of a client's requests

Serialization of commands and their parameters.
-/

namespace Mysql2.Packets

open Mysql2.Script

/-- The null bitmap, one bit a parameter: the loop with `bitmap` and
`bitValue`. -/
def nullBitmap (bitmap bitValue : Nat) : List Parameter → Bytes
  | [] => if bitValue ≠ 1 then [toByte bitmap] else []
  | parameter :: parameters =>
      let bitmap := if parameter.isNull then bitmap ||| bitValue else bitmap
      if bitValue * 2 = 256 then toByte bitmap :: nullBitmap 0 1 parameters
      else nullBitmap bitmap (bitValue * 2) parameters

/-- The type of a parameter, its `unsigned` byte and its length-coded name. -/
def typeEntry (parameter : Parameter) (name : Bytes) : Except JsError Bytes := do
  return (← writeWhole 1 (.finite parameter.type.toNat)) ++
    [if parameter.unsigned then 0x80 else 0] ++ name

/-- The loop over types and names. -/
def writeTypes : List Parameter → List Bytes → Except JsError Bytes
  | parameter :: parameters, name :: names => do
      let entry ← typeEntry parameter name
      return entry ++ (← writeTypes parameters names)
  | _, _ => .ok []

/-- The value of a parameter that is not null. -/
def writeValue (parameter : Parameter) : Except JsError Bytes :=
  if parameter.isNull then .ok [] else parameter.write

/-- The loop over values. -/
def writeValues : List Parameter → Except JsError Bytes
  | [] => .ok []
  | parameter :: parameters => do
      let value ← writeValue parameter
      return value ++ (← writeValues parameters)

/-- The null bitmap, `new_params_bind_flag`, types and values of parameters,
whose names are already length-coded. -/
def writeParameters (parameters : List Parameter) (names : List Bytes) : Except JsError Bytes := do
  let types ← writeTypes parameters names
  let values ← writeValues parameters
  return nullBitmap 0 1 parameters ++ [1] ++ types ++ values

/-- The same for parameters of which there may be none. -/
def writeOptionalParameters (parameters : List Parameter) (names : List Bytes) :
    Except JsError Bytes :=
  if 0 < parameters.length then writeParameters parameters names else .ok []

/-- The length that is predicted for a value. -/
def valueLength (parameter : Parameter) : Nat :=
  if parameter.isNull then 0 else parameter.length

/-- The space of parameters in a packet. -/
def parametersLength (parameters : List Parameter) (names : List Bytes) : Nat :=
  (parameters.length + 7) / 8 + 1 + parameters.length * 2 + (names.map List.length).sum +
    (parameters.map valueLength).sum

/-- The greatest length of a buffer. -/
def kMaxLength : Nat :=
  9007199254740991

/-- `Buffer.allocUnsafe(length)`. -/
def allocUnsafe (length : Nat) : Except JsError Unit :=
  if length ≤ kMaxLength then .ok ()
  else .error (outOfRangeError length)

/-- The error of a packet that does not fill its buffer. -/
def lengthError (name : String) (written expected : Nat) : JsError :=
  .new s!"Internal error: {name} serialized {written} bytes, expected {expected}"

/-- A packet with the given bytes behind its header, if they fill the buffer
that has been allocated for it. -/
def filledPacket (name : String) (length : Nat) (bytes : Bytes) : Except JsError Packet :=
  if bytes.length + 4 = length then
    .ok (.new 0 ([0, 0, 0, 0] ++ bytes) 0 length)
  else
    .error (lengthError name bytes.length (length - 4))

/-- `toQueryPacket(buffer, headerLength, length)`, for a buffer whose header has
room for the command, or for the command and no attributes. -/
def toQueryPacket (queryAttributes : Bool) (sqlBuffer : Bytes) (length : Nat) : Packet :=
  .new 0 ([0, 0, 0, 0] ++ (if queryAttributes then [3, 0, 1] else [3]) ++ sqlBuffer) 0 length

/-- The fast path of `Query.toPacket()`. -/
def fastQueryPacket (settings : RequestSettings) (sql : JsString) : Except JsError Packet := do
  let headerLength := if settings.queryAttributes then 7 else 5
  if settings.fastUtf8 then
    let length := headerLength + utf8ByteLength sql
    allocUnsafe length
    return toQueryPacket settings.queryAttributes ((utf8 sql).take (length - headerLength)) length
  else if settings.encoding.isEncoding then
    let length := headerLength + settings.encoding.byteLength sql
    allocUnsafe length
    let sqlBuffer ← settings.encode sql
    return toQueryPacket settings.queryAttributes (sqlBuffer.take (length - headerLength)) length
  else
    let sqlBuffer ← settings.encode sql
    let length := headerLength + sqlBuffer.length
    allocUnsafe length
    return toQueryPacket settings.queryAttributes sqlBuffer length

/-- The loop of `Query.toPacket()` over attributes: their parameters, and their
length-coded names. -/
def queryAttributes (settings : RequestSettings) :
    List (JsString × JsValue) → Except JsError (List (Parameter × Bytes))
  | [] => .ok []
  | (name, value) :: attributes => do
      let parameter ← toParameter settings "local" false value none
      let nameBuffer ← settings.encode name
      return (parameter, writeLengthCodedBuffer nameBuffer) :: (← queryAttributes settings attributes)

/-- The length of the packet of `Query.toPacket()` with attributes. -/
def queryLength (parameters : List Parameter) (names : List Bytes) (sqlBuffer : Bytes) : Nat :=
  5 + lengthCodedNumberLength parameters.length + 1 + parametersLength parameters names +
    sqlBuffer.length

/-- `Query.toPacket()` with attributes. -/
def generalQueryPacket (settings : RequestSettings) (sql : JsString)
    (attributes : List (JsString × JsValue)) : Except JsError Packet := do
  let written ← queryAttributes settings attributes
  let parameters := written.map Prod.fst
  let names := written.map Prod.snd
  let sqlBuffer ← settings.encode sql
  let length := queryLength parameters names sqlBuffer
  allocUnsafe length
  let block ← writeParameters parameters names
  filledPacket "COM_QUERY" length
    ([3] ++ writeLengthCodedNumber parameters.length ++ writeLengthCodedNumber 1 ++ block ++ sqlBuffer)

/-- `Query.toPacket()`. -/
def queryToPacket (settings : RequestSettings) (sql : JsString)
    (attributes : List (JsString × JsValue)) : Except JsError Packet :=
  if settings.queryAttributes ∧ attributes ≠ [] then generalQueryPacket settings sql attributes
  else fastQueryPacket settings sql

/-- The bind parameters of `Execute.toPacket()`, from an index on. -/
def bindParameters (settings : RequestSettings) (definitions : List ColumnDefinition) :
    Nat → List JsValue → Except JsError (List Parameter)
  | _, [] => .ok []
  | index, value :: values => do
      let parameter ← toParameter settings settings.timezone settings.jsonAsString value
        definitions[index]?
      return parameter :: (← bindParameters settings definitions (index + 1) values)

/-- The parameters of attributes. -/
def attributeParameters (settings : RequestSettings) :
    List (JsString × JsValue) → Except JsError (List Parameter)
  | [] => .ok []
  | (_, value) :: attributes => do
      let parameter ← toParameter settings settings.timezone false value none
      return parameter :: (← attributeParameters settings attributes)

/-- The length-coded names of attributes. -/
def attributeNames (settings : RequestSettings) :
    List (JsString × JsValue) → Except JsError (List Bytes)
  | [] => .ok []
  | (name, _) :: attributes => do
      let nameBuffer ← settings.encode name
      return writeLengthCodedBuffer nameBuffer :: (← attributeNames settings attributes)

/-- All parameters of `Execute.toPacket()`, with the names that are sent for
them: a bind parameter has an empty one. -/
def executeParameters (settings : RequestSettings) (definitions : List ColumnDefinition)
    (values : List JsValue) (attributes : List (JsString × JsValue)) :
    Except JsError (List Parameter × List Bytes) := do
  let attributes := if settings.queryAttributes then attributes else []
  let parameters ← bindParameters settings definitions 0 values
  let attributeParameters ← attributeParameters settings attributes
  let attributeNames ← attributeNames settings attributes
  let bindName : Bytes := if settings.queryAttributes then [0] else []
  return (parameters ++ attributeParameters,
    List.replicate values.length bindName ++ attributeNames)

/-- The length of the packet of `Execute.toPacket()`. -/
def executeLength (settings : RequestSettings) (parameters : List Parameter) (names : List Bytes) :
    Nat :=
  14 + (if settings.queryAttributes then lengthCodedNumberLength parameters.length else 0) +
    (if 0 < parameters.length then parametersLength parameters names else 0)

/-- `Execute.toPacket()`. -/
def executeToPacket (settings : RequestSettings) (statementId : Nat)
    (definitions : List ColumnDefinition) (values : List JsValue)
    (attributes : List (JsString × JsValue)) : Except JsError Packet := do
  let (parameters, names) ← executeParameters settings definitions values attributes
  let length := executeLength settings parameters names
  allocUnsafe length
  let id ← writeWhole 4 (.finite statementId)
  let count := if settings.queryAttributes then writeLengthCodedNumber parameters.length else []
  let header : Bytes :=
    [0x17] ++ id ++ [if settings.queryAttributes then 8 else 0] ++ writeUIntLE 1 4 ++ count
  let block ← writeOptionalParameters parameters names
  filledPacket "COM_STMT_EXECUTE" length (header ++ block)

/-- `PrepareStatement.toPacket()`. -/
def prepareStatementToPacket (settings : RequestSettings) (sql : JsString) :
    Except JsError Packet :=
  (settings.encode sql).map fun bytes => .new 0 ([0, 0, 0, 0, 0x16] ++ bytes) 0 (5 + bytes.length)

/-- `CloseStatement.toPacket()`. -/
def closeStatementToPacket (statementId : Nat) : Packet :=
  .new 0 ([0, 0, 0, 0, 0x19] ++ writeUIntLE statementId 4) 0 9

/-- `ResetConnection.toPacket()`. -/
def resetConnectionToPacket : Packet :=
  .new 0 [0, 0, 0, 0, 0x1f] 0 5

end Mysql2.Packets

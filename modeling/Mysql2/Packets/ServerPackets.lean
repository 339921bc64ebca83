import Mysql2.Packets.Reader
import Mysql2.Script.Number

/-!
# Packets of a server's response

The headers of OK packets, result sets and prepared statements, and column
definitions.
-/

namespace Mysql2.Packets

/-- What reading packets depends on in a connection: the encodings of both
sides, the capabilities of the server's handshake and settings. -/
structure ReadConfig extends Decoding where
  clientEncoding : Option String
  serverEncoding : Option String
  capabilityFlags : Nat
  bigNumberStrings : Bool
  mariadbExtendedMetadata : Bool

/-- `PROTOCOL_41`. -/
def PROTOCOL_41 : Nat :=
  0x200

/-- `TRANSACTIONS`. -/
def TRANSACTIONS : Nat :=
  0x2000

/-- `SESSION_TRACK`. -/
def SESSION_TRACK : Nat :=
  0x800000

/-- `SERVER_MORE_RESULTS_EXISTS`. -/
def SERVER_MORE_RESULTS_EXISTS : Nat :=
  8

/-- `SERVER_SESSION_STATE_CHANGED`. -/
def SERVER_SESSION_STATE_CHANGED : Nat :=
  0x4000

/-- `status & flag`, as a condition. -/
def hasFlag (status flag : Nat) : Bool :=
  status &&& flag ≠ 0

theorem hasFlag_two_pow (flags bit : Nat) : hasFlag flags (2 ^ bit) = flags.testBit bit := by
  rw [hasFlag]
  cases set : flags.testBit bit with
  | false =>
      have zero : flags &&& 2 ^ bit = 0 := by
        apply Nat.eq_of_testBit_eq
        intro other
        rw [Nat.testBit_and, Nat.testBit_two_pow, Nat.zero_testBit]
        by_cases same : bit = other
        · rw [← same, set, Bool.false_and]
        · rw [decide_eq_false same, Bool.and_false]
      rw [zero]
      rfl
  | true =>
      apply decide_eq_true
      intro zero
      have atBit := congrArg (Nat.testBit · bit) zero
      simp [set] at atBit

/-- An object of strings, the order of its properties left aside.  Its prototype is the
usual one until `null` is assigned to `__proto__`. -/
structure SystemVariables where
  properties : List (String × Option String)
  inherits : Bool
  deriving DecidableEq, Repr

/-- `systemVariables[key] = value`. -/
def SystemVariables.assign (object : SystemVariables) (key : String) (value : Option String) :
    SystemVariables :=
  if key = "__proto__" ∧ object.inherits = true then
    -- the accessor of the prototype ignores strings
    { object with inherits := value.isSome }
  else
    { object with
      properties := (key, value) :: object.properties.filter fun property => property.1 ≠ key }

/-- `stateChanges` of an OK packet. -/
structure StateChanges where
  systemVariables : SystemVariables
  schema : Option String
  gtids : List String
  trackStateChange : Option String
  deriving DecidableEq, Repr

/-- One session state change. -/
def StateChanges.read (config : ReadConfig) (changes : StateChanges) (type : Option Nat) :
    Reader StateChanges := do
  let encoding := config.serverEncoding
  match type with
  | some 0 =>
      let key ← Packet.readLengthCodedString config.toDecoding encoding
      let value ← Packet.readLengthCodedString config.toDecoding encoding
      return { changes with
        systemVariables := changes.systemVariables.assign (key.getD "null") value }
  | some 1 =>
      return { changes with
        schema := ← Packet.readLengthCodedString config.toDecoding encoding }
  | some 2 =>
      return { changes with
        trackStateChange := ← Packet.readLengthCodedString config.toDecoding encoding }
  | some 3 =>
      let _ ← Packet.readLengthCodedString config.toDecoding encoding
      match ← Packet.readLengthCodedString config.toDecoding encoding with
      | none => throw .typeError
      | some gtid => return { changes with gtids := gtid.splitOn "," }
  | _ => return changes

/-- The loop over session state changes up to `last`.  Every iteration moves the
read position by at least two bytes, so `last` iterations are enough. -/
def readStateChanges (config : ReadConfig) (last : Nat) :
    Nat → StateChanges → Reader StateChanges
  | 0, changes => return changes
  | fuel + 1, changes => do
      if (← get).offset < last then
        let type ← Packet.readInt8
        let len ← Packet.readLengthCodedNumber false false
        let stateEnd := (← get).offset + len.toNat
        let changes ← changes.read config type
        modify fun packet => { packet with offset := stateEnd }
        readStateChanges config last fuel changes
      else
        return changes

/-- What `/\schanged:\s*(\d+)/i` captures. -/
def changedDigits : List Char → Option (List Char)
  | [] => none
  | char :: text =>
      let digits := ((text.drop 8).dropWhile Script.isWhitespace).takeWhile Char.isDigit
      if Script.isWhitespace char ∧ (text.take 8).map Char.toLower = "changed:".toList ∧
          digits ≠ [] then
        some digits
      else
        changedDigits text

/-- `changedRows`, which is found in the info text. -/
def changedRows (info : String) : Int :=
  match changedDigits info.toList with
  | some digits => (Script.parseInt digits).getD 0
  | none => 0

/-- Properties of an OK packet. -/
structure OkPacket where
  affectedRows : Packet.LengthCoded
  insertId : Packet.LengthCoded
  serverStatus : Option Nat
  warningStatus : Option Nat
  info : String
  stateChanges : Option StateChanges
  changedRows : Int
  deriving DecidableEq, Repr

/-- `rs.serverStatus & SERVER_MORE_RESULTS_EXISTS`. -/
def OkPacket.moreResults (ok : OkPacket) : Bool :=
  hasFlag (ok.serverStatus.getD 0) SERVER_MORE_RESULTS_EXISTS

/-- `new ResultSetHeader(packet, connection)`: an OK packet, the number of
columns of a result set, or the file name of a LOCAL INFILE request. -/
inductive ResultSetHeader
  | ok (header : OkPacket)
  | columns (fieldCount : Packet.LengthCoded)
  | infile (infileName : String)
  deriving DecidableEq, Repr

/-- `serverStatus` and `warningStatus`. -/
def OkPacket.readStatus (config : ReadConfig) : Reader (Option Nat × Option Nat) := do
  if hasFlag config.capabilityFlags PROTOCOL_41 then
    let serverStatus ← Packet.readInt16
    let warningStatus ← Packet.readInt16
    return (some serverStatus, some warningStatus)
  else if hasFlag config.capabilityFlags TRANSACTIONS then
    let serverStatus ← Packet.readInt16
    return (some serverStatus, none)
  else
    return (none, none)

/-- `stateChanges`, where the status tells that there are some. -/
def OkPacket.readStateChanges (config : ReadConfig) : Reader (Option StateChanges) := do
  if (← get).haveMoreData then
    let len ← Packet.readLengthCodedNumber false false
    if 0 < len.toNat then
      let last := (← get).offset + len.toNat
      return some (← Packets.readStateChanges config last last ⟨⟨[], true⟩, none, [], none⟩)
    else
      return none
  else
    return none

/-- `info`, which is `null` for `none`, and `stateChanges`. -/
def OkPacket.readInfo (config : ReadConfig) (serverStatus : Option Nat) :
    Reader (Option String × Option StateChanges) := do
  if hasFlag config.capabilityFlags SESSION_TRACK && (← get).haveMoreData then
    let info ← Packet.readLengthCodedString config.toDecoding config.serverEncoding
    if hasFlag (serverStatus.getD 0) SERVER_SESSION_STATE_CHANGED then
      let stateChanges ← OkPacket.readStateChanges config
      return (info, stateChanges)
    else
      return (info, none)
  else
    let info ← Packet.readString config.toDecoding config.serverEncoding
    return (some info, none)

/-- The fields of an OK packet behind its marker. -/
def OkPacket.read (config : ReadConfig) : Reader OkPacket := do
  let affectedRows ← Packet.readLengthCodedNumber config.bigNumberStrings false
  let insertId ← Packet.readLengthCodedNumber config.bigNumberStrings true
  let (serverStatus, warningStatus) ← OkPacket.readStatus config
  let (info, stateChanges) ← OkPacket.readInfo config serverStatus
  match info with
  | some info =>
      return {
        affectedRows := affectedRows
        insertId := insertId
        serverStatus := serverStatus
        warningStatus := warningStatus
        info := info
        stateChanges := stateChanges
        changedRows := Packets.changedRows info }
  | none =>
      -- `this.info.match` on `null`
      throw .typeError

/-- `new ResultSetHeader(packet, connection)`. -/
def ResultSetHeader.read (config : ReadConfig) : Reader ResultSetHeader := do
  if (← get).peekByte ≠ some 0 then
    match ← Packet.readLengthCodedNumber false false with
    | .null => return .infile (← Packet.readString config.toDecoding config.serverEncoding)
    | fieldCount => return .columns fieldCount
  else
    Packet.skip 1
    return .ok (← OkPacket.read config)

/-- `new PreparedStatementHeader(packet)`. -/
structure PreparedStatementHeader where
  id : Nat
  fieldCount : Nat
  parameterCount : Nat
  warningCount : Nat
  deriving DecidableEq, Repr

/-- `new PreparedStatementHeader(packet)`. -/
def PreparedStatementHeader.read : Reader PreparedStatementHeader := do
  Packet.skip 1
  let id ← Packet.readInt32
  let fieldCount ← Packet.readInt16
  let parameterCount ← Packet.readInt16
  Packet.skip 1
  let warningCount ← Packet.readInt16
  return { id, fieldCount, parameterCount, warningCount }

/-- A column definition.  The strings that the source decodes on first use are
kept as the bytes they are decoded from. -/
structure ColumnDefinition where
  catalog : Bytes
  schema : Bytes
  table : Bytes
  orgTable : Bytes
  name : String
  orgName : Bytes
  characterSet : Nat
  encoding : Option String
  columnLength : Nat
  columnType : Option Nat
  flags : Nat
  decimals : Option Nat
  extendedTypeName : Option String
  extendedFormat : Option String
  deriving DecidableEq, Repr

/-- A length-coded range of the buffer, which the read position skips. -/
def readRange : Reader Bytes := do
  let len ← Packet.readLengthCodedNumber false false
  Packet.readBuffer len.toNat

/-- The entries of `_parseMariadbExtendedMetadata`: the type name and the
format, as far as they occur.  Every iteration moves the read position by at
least two bytes. -/
def readExtendedMetadata (config : ReadConfig) (last : Nat) :
    Nat → Option String × Option String → Reader (Option String × Option String)
  | 0, found => return found
  | fuel + 1, found => do
      if (← get).offset < last then
        let id ← Packet.readInt8
        let value ← Packet.readLengthCodedString config.toDecoding (some "ascii")
        let found :=
          if id = some 0 then (value, found.2)
          else if id = some 1 then (found.1, value)
          else found
        readExtendedMetadata config last fuel found
      else
        return found

/-- `_parseMariadbExtendedMetadata(packet)`. -/
def parseMariadbExtendedMetadata (config : ReadConfig) :
    Reader (Option String × Option String) := do
  let length ← Packet.readLengthCodedNumber false false
  let packet ← get
  let last := min (packet.offset + length.toNat) packet.endOffset
  let found ← readExtendedMetadata config last last (none, none)
  modify fun packet => { packet with offset := last }
  return found

/-- `new ColumnDefinition(packet, clientEncoding, mariadbExtendedMetadata)`. -/
def ColumnDefinition.read (config : ReadConfig) : Reader ColumnDefinition := do
  let catalog ← readRange
  let schema ← readRange
  let table ← readRange
  let orgTable ← readRange
  let nameBytes ← readRange
  let orgName ← readRange
  let mut extended := (none, none)
  if config.mariadbExtendedMetadata then
    extended ← parseMariadbExtendedMetadata config
  Packet.skip 1
  let characterSet ← Packet.readInt16
  let encoding := config.charsetToEncoding characterSet
  let name ← config.decode (if encoding = some "binary" then config.clientEncoding else encoding)
    nameBytes
  let columnLength ← Packet.readInt32
  let columnType ← Packet.readInt8
  let flags ← Packet.readInt16
  let decimals ← Packet.readInt8
  return {
    catalog := catalog
    schema := schema
    table := table
    orgTable := orgTable
    name := name
    orgName := orgName
    characterSet := characterSet
    encoding := encoding
    columnLength := columnLength
    columnType := columnType
    flags := flags
    decimals := decimals
    extendedTypeName := extended.1
    extendedFormat := extended.2 }

end Mysql2.Packets

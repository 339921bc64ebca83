import Mathlib.Data.List.Forall2
import Mysql2.Packets.ServerPackets
import Mysql2.Packets.Writer

/-!
# Column definitions of the server side

`ColumnDefinition.toPacket` writes the names of a column in the encoding of its character set.
They are read in that encoding too, but for the binary character set, whose names are read in the
encoding of the client.
-/

namespace Mysql2.Packets

open Mysql2.Script

/-! ## Writing -/

/-- A column that is sent. -/
structure ServerColumn where
  catalog : JsString
  schema : JsString
  table : JsString
  orgTable : JsString
  name : JsString
  orgName : JsString
  characterSet : Nat
  columnLength : Nat
  columnType : Nat
  flags : Nat
  decimals : Nat
  deriving DecidableEq, Repr

namespace ServerColumn

/-- The strings, in the order of `fields`. -/
def names (column : ServerColumn) : List JsString :=
  [column.catalog, column.schema, column.table, column.orgTable, column.name, column.orgName]

/-- The numbers fit their fields. -/
structure InRange (column : ServerColumn) : Prop where
  characterSet : column.characterSet < 65536
  columnLength : column.columnLength < 4294967296
  columnType : column.columnType < 256
  flags : column.flags < 65536
  decimals : column.decimals < 256

end ServerColumn

section Writing

variable (codecs : Codecs) (encoding : Option String)

/-- The length that is predicted for strings. -/
def namesLength : List JsString → Except JsError Nat
  | [] => .ok 0
  | name :: names => do
      let length ← lengthCodedStringLength codecs name encoding
      return length + (← namesLength names)

/-- Strings one behind the other. -/
def writeNames : List JsString → Writer Unit
  | [] => return
  | name :: names => do
      Outgoing.writeLengthCodedString codecs name encoding
      writeNames names

end Writing

/-- `ColumnDefinition.toPacket(column, sequenceId)`. -/
def ColumnDefinition.toPacket (codecs : Codecs) (charsetToEncoding : Nat → Option String)
    (column : ServerColumn) : Except JsError Outgoing := do
  let encoding := charsetToEncoding column.characterSet
  let length ← namesLength codecs encoding column.names
  Outgoing.written (17 + length) do
    writeNames codecs encoding column.names
    Outgoing.writeInt8 0x0c
    Outgoing.writeInt16 column.characterSet
    Outgoing.writeInt32 column.columnLength
    Outgoing.writeInt8 column.columnType
    Outgoing.writeInt16 column.flags
    Outgoing.writeInt8 column.decimals
    Outgoing.writeInt16 0

/-! ## Reading -/

/-- A column definition without extended metadata.  Strings that are decoded on first use are kept
as their bytes. -/
structure ClientColumn where
  clientEncoding : Option String
  catalog : Bytes
  schema : Bytes
  table : Bytes
  orgTable : Bytes
  name : JsString
  orgName : Bytes
  characterSet : Nat
  encoding : Option String
  columnLength : Nat
  columnType : Option Nat
  flags : Nat
  decimals : Option Nat
  deriving DecidableEq, Repr

/-- `encoding === 'binary' ? clientEncoding : encoding`. -/
def readEncoding (encoding clientEncoding : Option String) : Option String :=
  if encoding = some "binary" then clientEncoding else encoding

theorem lift_map_bind {α β γ : Type} (result : Except JsError α) (f : α → β) (next : β → Reader γ) :
    (liftM (result.map f) >>= next : Reader γ) = liftM result >>= fun value => next (f value) := by
  cases result <;> rfl

namespace ClientColumn

/-- `new ColumnDefinition(packet, clientEncoding)`. -/
def read (codecs : Codecs) (charsetToEncoding : Nat → Option String)
    (clientEncoding : Option String) : Reader ClientColumn := do
  let catalog ← readRange
  let schema ← readRange
  let table ← readRange
  let orgTable ← readRange
  let nameBytes ← readRange
  let orgName ← readRange
  Packet.skip 1
  let characterSet ← Packet.readInt16
  let encoding := charsetToEncoding characterSet
  let name ← codecs.decodeShort nameBytes (readEncoding encoding clientEncoding) 0 nameBytes.length
  let columnLength ← Packet.readInt32
  let columnType ← Packet.readInt8
  let flags ← Packet.readInt16
  let decimals ← Packet.readInt8
  return {
    clientEncoding := clientEncoding
    catalog := catalog
    schema := schema
    table := table
    orgTable := orgTable
    name := name
    orgName := orgName
    characterSet := characterSet
    encoding := encoding
    columnLength := columnLength
    columnType := columnType
    flags := flags
    decimals := decimals }

/-- The getter of a string, given its bytes. -/
def get (codecs : Codecs) (column : ClientColumn) (bytes : Bytes) : Except JsError JsString :=
  codecs.decode bytes (readEncoding column.encoding column.clientEncoding) 0 bytes.length

/-- The column with the text of its name. -/
def toDefinition (column : ClientColumn) : ColumnDefinition where
  catalog := column.catalog
  schema := column.schema
  table := column.table
  orgTable := column.orgTable
  name := textOf column.name
  orgName := column.orgName
  characterSet := column.characterSet
  encoding := column.encoding
  columnLength := column.columnLength
  columnType := column.columnType
  flags := column.flags
  decimals := column.decimals
  extendedTypeName := none
  extendedFormat := none

/-- All strings and numbers are those that were sent. -/
structure Shows (codecs : Codecs) (definition : ClientColumn) (column : ServerColumn) : Prop where
  catalog : definition.get codecs definition.catalog = .ok column.catalog
  schema : definition.get codecs definition.schema = .ok column.schema
  table : definition.get codecs definition.table = .ok column.table
  orgTable : definition.get codecs definition.orgTable = .ok column.orgTable
  name : definition.name = column.name
  orgName : definition.get codecs definition.orgName = .ok column.orgName
  characterSet : definition.characterSet = column.characterSet
  columnLength : definition.columnLength = column.columnLength
  columnType : definition.columnType = some column.columnType
  flags : definition.flags = column.flags
  decimals : definition.decimals = some column.decimals

/-- Constructing a column definition reads what connections read. -/
theorem read_eq (codecs : Codecs) (config : ReadConfig)
    (sameDecode : config.decode = codecs.decodeText)
    (noMetadata : config.mariadbExtendedMetadata = false) :
    ColumnDefinition.read config = (do
      return (← read codecs config.charsetToEncoding config.clientEncoding).toDefinition) := by
  simp only [ColumnDefinition.read, read, noMetadata, Codecs.decodeShort_eq, sameDecode,
    Codecs.decodeText, bind_assoc, pure_bind, Bool.false_eq_true, if_false, lift_map_bind]
  rfl

end ClientColumn

/-- The packet fills its buffer, and whatever that held before, constructing a column definition
from it gives all strings and numbers back. -/
def ColumnDefinition.RoundTrips (codecs : Codecs) (charsetToEncoding : Nat → Option String)
    (clientEncoding : Option String) (column : ServerColumn) : Prop :=
  ∃ packet payload, ColumnDefinition.toPacket codecs charsetToEncoding column = .ok packet ∧
    packet.Fills payload ∧ ∀ allocated : Bytes, allocated.length = packet.size →
      ∃ definition after, (ClientColumn.read codecs charsetToEncoding clientEncoding).run
        (packet.toPacket allocated) = .ok (definition, after) ∧ definition.Shows codecs column

/-! ## What is written -/

/-- A string in the encoding that it is written in. -/
def IsEncoded (codecs : Codecs) (encoding : Option String) (name : JsString) (bytes : Bytes) :
    Prop :=
  codecs.encode name encoding = .ok bytes ∧ bytes.length < 9007199254740992 ∧
    codecs.decode bytes encoding 0 bytes.length = .ok name

section Names

variable {codecs : Codecs} {encoding : Option String} {names : List JsString}
  {contents : List Bytes}

theorem exists_encoded (encodable : ∀ name ∈ names, codecs.Survives encoding name) :
    ∃ contents, List.Forall₂ (IsEncoded codecs encoding) names contents := by
  induction names with
  | nil => exact ⟨[], .nil⟩
  | cons name names ih =>
      obtain ⟨bytes, isEncoded⟩ := encodable name List.mem_cons_self
      obtain ⟨contents, others⟩ :=
        ih fun other member => encodable other (List.mem_cons_of_mem _ member)
      exact ⟨bytes :: contents, .cons isEncoded others⟩

variable (encoded : List.Forall₂ (IsEncoded codecs encoding) names contents)

include encoded

/-- What holds of names and their bytes. -/
theorem forall₂_iff_of_encoded {property : JsString → Bytes → Prop} :
    List.Forall₂ property names contents ↔
      ∀ name ∈ names, ∃ bytes, codecs.encode name encoding = .ok bytes ∧ property name bytes := by
  induction encoded with
  | nil => simp
  | @cons name bytes names contents head _ ih =>
      rw [List.forall₂_cons, ih, List.forall_mem_cons]
      apply and_congr_left
      intro _
      constructor
      · exact fun holds => ⟨bytes, head.1, holds⟩
      · rintro ⟨other, encoded, holds⟩
        rw [head.1] at encoded
        cases encoded
        exact holds

theorem namesLength_eq :
    namesLength codecs encoding names = .ok (contents.flatMap writeLengthCodedBuffer).length := by
  induction encoded with
  | nil => rfl
  | cons head _ ih =>
      rw [namesLength, lengthCodedStringLength, head.1, ih, List.flatMap_cons, List.length_append,
        Packet.length_writeLengthCodedBuffer]
      rfl

theorem writes_names :
    Writes (writeNames codecs encoding names) (contents.flatMap writeLengthCodedBuffer) := by
  induction encoded with
  | nil => exact Writes.nothing
  | @cons name bytes names contents head _ ih =>
      have short : bytes.length < 18446744073709551616 := Nat.lt_trans head.2.1 (by decide)
      have string : Writes (Outgoing.writeLengthCodedString codecs name encoding)
          (writeLengthCodedBuffer bytes) :=
        Writes.lift head.1 (Writes.writeLengthCodedBuffer short)
      exact string.bind ih

end Names

namespace ServerColumn

variable {column : ServerColumn}

/-- The numbers behind the names, and two bytes that fill up. -/
def numberBytes (column : ServerColumn) : Bytes :=
  0x0c :: (writeUIntLE column.characterSet 2 ++ (writeUIntLE column.columnLength 4 ++
    (toByte column.columnType :: (writeUIntLE column.flags 2 ++ [toByte column.decimals]))))

theorem toPacket_eq {codecs : Codecs} {charsetToEncoding : Nat → Option String}
    {contents : List Bytes} (inRange : column.InRange)
    (encoded : List.Forall₂ (IsEncoded codecs (charsetToEncoding column.characterSet)) column.names
      contents) (payload : Bytes) :
    (∃ packet, ColumnDefinition.toPacket codecs charsetToEncoding column = .ok packet ∧
        packet.Fills payload) ↔
      payload = contents.flatMap writeLengthCodedBuffer ++ (column.numberBytes ++ [0, 0]) := by
  have numbers : Writes (do
        Outgoing.writeInt8 0x0c
        Outgoing.writeInt16 column.characterSet
        Outgoing.writeInt32 column.columnLength
        Outgoing.writeInt8 column.columnType
        Outgoing.writeInt16 column.flags
        Outgoing.writeInt8 column.decimals
        Outgoing.writeInt16 0) (column.numberBytes ++ [0, 0]) := by
    have writes := (Writes.writeInt8 (show 0x0c < 256 by decide)).bind
      ((Writes.writeInt16 inRange.characterSet).bind ((Writes.writeInt32 inRange.columnLength).bind
        ((Writes.writeInt8 inRange.columnType).bind ((Writes.writeInt16 inRange.flags).bind
          ((Writes.writeInt8 inRange.decimals).bind
            (Writes.writeInt16 (show 0 < 65536 by decide)))))))
    exact writes
  have long : (column.numberBytes ++ [0, 0]).length = 13 := by
    simp [numberBytes, length_writeUIntLE]
  rw [ColumnDefinition.toPacket, namesLength_eq encoded]
  show (∃ packet, Outgoing.written _ _ = .ok packet ∧ _) ↔ _
  rw [((writes_names encoded).bind numbers).fills_iff]
  rw [List.length_append, long]
  constructor
  · exact And.left
  · exact fun payloadEq => ⟨payloadEq, by omega⟩

end ServerColumn

/-! ## What is read -/

namespace Reads

theorem readRange {content : Bytes} (short : content.length < 9007199254740992) :
    Reads Packets.readRange (writeLengthCodedBuffer content) (.ok content) :=
  column (isCell_writeLengthCodedBuffer short) (readBuffer content)

theorem readNumber {width n : Nat} {reader : Reader Nat} (inRange : n < 256 ^ width)
    (reads : Reads reader (writeUIntLE n width) (.ok (uintLE (writeUIntLE n width)))) :
    Reads reader (writeUIntLE n width) (.ok n) := by
  rwa [uintLE_writeUIntLE_of_lt inRange] at reads

/-- Two bytes with a number, read as it. -/
theorem readInt16_of_lt {n : Nat} (inRange : n < 65536) :
    Reads Packet.readInt16 (writeUIntLE n 2) (.ok n) :=
  readNumber inRange (readInt16 (length_writeUIntLE n 2))

/-- Four bytes with a number, read as it. -/
theorem readInt32_of_lt {n : Nat} (inRange : n < 4294967296) :
    Reads Packet.readInt32 (writeUIntLE n 4) (.ok n) :=
  readNumber inRange (readInt32 (length_writeUIntLE n 4))

theorem readByte {n : Nat} (inRange : n < 256) :
    Reads Packet.readInt8 [toByte n] (.ok (some n)) := by
  have reads := readInt8 (toByte n)
  rwa [toNat_toByte_of_lt inRange] at reads

/-- A result that may be an error, and what is read behind it. -/
theorem lift_bind {β γ : Type} {result : Except JsError β} {next : β → Reader γ} {f : β → γ}
    {bytes : Bytes} (reads : ∀ value, Reads (next value) bytes (.ok (f value))) :
    Reads (liftM result >>= next) bytes (result.map f) := by
  cases result with
  | error error => exact fun packet rest aheadEq inside => rfl
  | ok value => exact reads value

end Reads

namespace ClientColumn

/-- A column as it is read, but for its name. -/
def ofBytes (charsetToEncoding : Nat → Option String) (clientEncoding : Option String)
    (column : ServerColumn) (catalog schema table orgTable orgName : Bytes) (name : JsString) :
    ClientColumn where
  clientEncoding := clientEncoding
  catalog := catalog
  schema := schema
  table := table
  orgTable := orgTable
  name := name
  orgName := orgName
  characterSet := column.characterSet
  encoding := charsetToEncoding column.characterSet
  columnLength := column.columnLength
  columnType := some column.columnType
  flags := column.flags
  decimals := some column.decimals

theorem reads (codecs : Codecs) (charsetToEncoding : Nat → Option String)
    (clientEncoding : Option String) {column : ServerColumn} (inRange : column.InRange)
    {catalog schema table orgTable name orgName : Bytes}
    (short : ∀ bytes ∈ [catalog, schema, table, orgTable, name, orgName],
      bytes.length < 9007199254740992) :
    Reads (read codecs charsetToEncoding clientEncoding)
      ([catalog, schema, table, orgTable, name, orgName].flatMap writeLengthCodedBuffer ++
        column.numberBytes)
      ((codecs.decode name (readEncoding (charsetToEncoding column.characterSet) clientEncoding) 0
        name.length).map
          (ofBytes charsetToEncoding clientEncoding column catalog schema table orgTable
            orgName)) := by
  have characterSet : Reads Packet.readInt16 (writeUIntLE column.characterSet 2)
      (.ok column.characterSet) :=
    Reads.readInt16_of_lt inRange.characterSet
  have columnLength : Reads Packet.readInt32 (writeUIntLE column.columnLength 4)
      (.ok column.columnLength) :=
    Reads.readInt32_of_lt inRange.columnLength
  have flags : Reads Packet.readInt16 (writeUIntLE column.flags 2) (.ok column.flags) :=
    Reads.readInt16_of_lt inRange.flags
  have skip : Reads (Packet.skip 1) [0x0c] (.ok ()) := Reads.skip [0x0c]
  simp only [List.flatMap_cons, List.flatMap_nil, List.append_nil, List.append_assoc]
  refine (Reads.readRange (short _ (by simp))).bind ((Reads.readRange (short _ (by simp))).bind
    ((Reads.readRange (short _ (by simp))).bind ((Reads.readRange (short _ (by simp))).bind
      ((Reads.readRange (short _ (by simp))).bind ((Reads.readRange (short _ (by simp))).bind
        (skip.bind (characterSet.bind ?_)))))))
  dsimp only
  rw [Codecs.decodeShort_eq]
  apply Reads.lift_bind
  intro text
  exact columnLength.bind ((Reads.readByte inRange.columnType).bind
    (flags.bind ((Reads.readByte inRange.decimals).map _)))

end ClientColumn

namespace ColumnDefinition

variable {codecs : Codecs} {charsetToEncoding : Nat → Option String}
  {clientEncoding : Option String} {column : ServerColumn}

/-- A column round-trips if the bytes of all its names decode to them as they are read. -/
theorem roundTrips_iff_decode (inRange : column.InRange) {contents : List Bytes}
    (encoded : List.Forall₂ (IsEncoded codecs (charsetToEncoding column.characterSet)) column.names
      contents) :
    RoundTrips codecs charsetToEncoding clientEncoding column ↔
      List.Forall₂ (fun name bytes => codecs.decode bytes
        (readEncoding (charsetToEncoding column.characterSet) clientEncoding) 0 bytes.length =
          .ok name) column.names contents := by
  have filled := ServerColumn.toPacket_eq inRange encoded
  obtain ⟨catalog, schema, table, orgTable, name, orgName, rfl⟩ : ∃ catalog schema table orgTable
      name orgName, contents = [catalog, schema, table, orgTable, name, orgName] := by
    match contents, encoded.length_eq with
    | [catalog, schema, table, orgTable, name, orgName], _ => exact ⟨_, _, _, _, _, _, rfl⟩
  have short : ∀ bytes ∈ [catalog, schema, table, orgTable, name, orgName],
      bytes.length < 9007199254740992 := by
    simp only [ServerColumn.names, List.forall₂_cons] at encoded
    obtain ⟨first, second, third, fourth, fifth, sixth, -⟩ := encoded
    simp only [List.forall_mem_cons]
    exact ⟨first.2.1, second.2.1, third.2.1, fourth.2.1, fifth.2.1, sixth.2.1, by simp⟩
  have reads := ClientColumn.reads codecs charsetToEncoding clientEncoding inRange short
  have readRun {packet : Outgoing} {payload allocated : Bytes} (fills : packet.Fills payload)
      (payloadEq : payload = [catalog, schema, table, orgTable, name, orgName].flatMap
        writeLengthCodedBuffer ++ (column.numberBytes ++ [0, 0]))
      (lengthEq : allocated.length = packet.size) := by
    obtain ⟨aheadEq, endEq⟩ := fills.ahead_append lengthEq
    rw [List.append_nil, payloadEq, ← List.append_assoc] at aheadEq
    exact reads _ _ aheadEq (by rw [endEq, payloadEq]; simp)
  simp only [ServerColumn.names, List.forall₂_cons, List.Forall₂.nil, and_true]
  constructor
  · rintro ⟨packet, payload, written, fills, roundTrip⟩
    have payloadEq := (filled payload).mp ⟨packet, written, fills⟩
    obtain ⟨definition, after, run, shows⟩ :=
      roundTrip (List.replicate packet.size 0) List.length_replicate
    rw [readRun fills payloadEq List.length_replicate, Script.map_eq_ok_iff] at run
    obtain ⟨read, decoded, result⟩ := run
    cases result
    rw [Script.map_eq_ok_iff] at decoded
    obtain ⟨text, decoded, rfl⟩ := decoded
    obtain rfl : text = column.name := shows.name
    exact ⟨shows.catalog, shows.schema, shows.table, shows.orgTable, decoded, shows.orgName⟩
  · rintro ⟨catalogEq, schemaEq, tableEq, orgTableEq, nameEq, orgNameEq⟩
    obtain ⟨packet, written, fills⟩ := (filled _).mpr rfl
    refine ⟨packet, _, written, fills, fun allocated lengthEq => ?_⟩
    have run := readRun fills rfl lengthEq
    rw [nameEq] at run
    exact ⟨_, _, run, catalogEq, schemaEq, tableEq, orgTableEq, rfl, orgNameEq, rfl, rfl, rfl, rfl,
      rfl⟩

theorem roundTrips_iff_names (inRange : column.InRange)
    (encodable : ∀ name ∈ column.names,
      codecs.Survives (charsetToEncoding column.characterSet) name) :
    RoundTrips codecs charsetToEncoding clientEncoding column ↔
      ∀ name ∈ column.names, ∃ bytes,
        codecs.encode name (charsetToEncoding column.characterSet) = .ok bytes ∧
          codecs.decode bytes
            (readEncoding (charsetToEncoding column.characterSet) clientEncoding) 0
            bytes.length = .ok name := by
  obtain ⟨contents, encoded⟩ := exists_encoded encodable
  rw [roundTrips_iff_decode inRange encoded, forall₂_iff_of_encoded encoded]

/-- Columns round-trip whose names are read in the encoding that they are written in, and those
of the binary character set whose names the client's encoding decodes from Latin-1. -/
theorem roundTrips_iff (inRange : column.InRange)
    (encodable : ∀ name ∈ column.names,
      codecs.Survives (charsetToEncoding column.characterSet) name) :
    RoundTrips codecs charsetToEncoding clientEncoding column ↔
      charsetToEncoding column.characterSet ≠ some "binary" ∨
        ∀ name ∈ column.names, ∃ bytes, codecs.encode name (some "binary") = .ok bytes ∧
          codecs.decode bytes clientEncoding 0 bytes.length = .ok name := by
  rw [roundTrips_iff_names inRange encodable]
  by_cases isBinary : charsetToEncoding column.characterSet = some "binary"
  · rw [isBinary, readEncoding, if_pos rfl]
    simp
  · rw [readEncoding, if_neg isBinary]
    constructor
    · exact fun _ => .inl isBinary
    · intro _ name member
      obtain ⟨bytes, isEncoded, -, decodes⟩ := encodable name member
      exact ⟨bytes, isEncoded, decodes⟩

end ColumnDefinition

/-- Character sets, as far as they are used below. -/
def someCharsets : Nat → Option String
  | 33 => some "utf8"
  | 63 => some "binary"
  | _ => none

/-- A column with a name of one character that is not in ASCII. -/
def accentedColumn (characterSet : Nat) : ServerColumn where
  catalog := units "def"
  schema := []
  table := []
  orgTable := []
  name := [0xe9]
  orgName := []
  characterSet := characterSet
  columnLength := 20
  columnType := 253
  flags := 0
  decimals := 0

theorem survives_accentedColumn {characterSet : Nat}
    (known : characterSet = 33 ∨ characterSet = 63) :
    ∀ name ∈ (accentedColumn characterSet).names,
      Codecs.unknown.Survives (someCharsets characterSet) name := by
  have all : (accentedColumn characterSet).names = [units "def", [], [], [], [0xe9], []] := rfl
  rw [all]
  simp only [List.forall_mem_cons]
  rcases known with rfl | rfl
  · have utf8 {name : JsString} (wellFormed : IsWellFormed name)
        (short : utf8ByteLength name < 9007199254740992) :
        Codecs.unknown.Survives (someCharsets 33) name :=
      Codecs.survives_utf8 _ rfl wellFormed short
    exact ⟨utf8 (by decide) (by decide), utf8 rfl (by decide), utf8 rfl (by decide),
      utf8 rfl (by decide), utf8 (by decide) (by decide), utf8 rfl (by decide), by simp⟩
  · exact ⟨⟨_, rfl, by decide, rfl⟩, ⟨_, rfl, by decide, rfl⟩, ⟨_, rfl, by decide, rfl⟩,
      ⟨_, rfl, by decide, rfl⟩, ⟨_, rfl, by decide, rfl⟩, ⟨_, rfl, by decide, rfl⟩, by simp⟩

namespace ColumnDefinition

theorem inRange_accentedColumn {characterSet : Nat} (small : characterSet < 65536) :
    (accentedColumn characterSet).InRange :=
  ⟨small, show 20 < 4294967296 by decide, show 253 < 256 by decide, show 0 < 65536 by decide,
    show 0 < 256 by decide⟩

theorem roundTrips_iff_accented :
    RoundTrips .unknown someCharsets (some "utf8") (accentedColumn 33) ↔
      someCharsets 33 ≠ some "binary" ∨ ∀ name ∈ (accentedColumn 33).names, ∃ bytes,
        Codecs.unknown.encode name (some "binary") = .ok bytes ∧
          Codecs.unknown.decode bytes (some "utf8") 0 bytes.length = .ok name :=
  roundTrips_iff (inRange_accentedColumn (by decide)) (survives_accentedColumn (.inl rfl))

/-- A name of a binary column that is written in Latin-1 and read in UTF-8. -/
theorem not_roundTrips_accented :
    ¬∀ (codecs : Codecs) (charsetToEncoding : Nat → Option String)
      (clientEncoding : Option String) (column : ServerColumn), column.InRange →
      (∀ name ∈ column.names, codecs.Survives (charsetToEncoding column.characterSet) name) →
        RoundTrips codecs charsetToEncoding clientEncoding column := by
  intro all
  have inRange := inRange_accentedColumn (show 63 < 65536 by decide)
  have survives := survives_accentedColumn (.inr (rfl : (63 : Nat) = 63))
  have roundTrips := all .unknown someCharsets (some "utf8") (accentedColumn 63) inRange survives
  obtain ⟨bytes, encoded, decoded⟩ := (roundTrips_iff_names inRange survives).mp roundTrips [0xe9]
    (by simp [accentedColumn, ServerColumn.names])
  cases encoded
  exact absurd decoded (by decide)

end ColumnDefinition

end Mysql2.Packets

import Mysql2.Packets.ColumnWriter
import Mysql2.Parsers.ServerRows
import Mysql2.Script.Triples

/-!
# Results of the server side

The methods with which the server side of a connection answers a query: a header, the columns, the
rows, and EOF packets behind columns and rows.
-/

namespace Mysql2.Packets

/-- `ResultSetHeader.toPacket(fieldCount, insertId)`. -/
def ResultSetHeader.toPacket (fieldCount : Nat) (insertId : Option Nat) :
    Except JsError Outgoing :=
  let length := 4 + lengthCodedNumberLength fieldCount
  match insertId with
  | none => Outgoing.written length (Outgoing.writeLengthCodedNumber fieldCount)
  | some insertId =>
      Outgoing.written (length + lengthCodedNumberLength insertId) do
        Outgoing.writeLengthCodedNumber fieldCount
        Outgoing.writeLengthCodedNumber insertId

/-- `EOF.toPacket(warnings, statusFlags)`. -/
def EOF.toPacket (warnings statusFlags : Option Nat) : Except JsError Outgoing :=
  Outgoing.written 9 do
    Outgoing.writeInt8 0xfe
    Outgoing.writeInt16 (warnings.getD 0)
    Outgoing.writeInt16 (statusFlags.getD 0)

theorem ResultSetHeader.toPacket_fills {fieldCount : Nat}
    (short : fieldCount < 18446744073709551616) :
    ∃ packet, ResultSetHeader.toPacket fieldCount none = .ok packet ∧
      packet.Fills (writeLengthCodedNumber fieldCount) := by
  have size : 4 + lengthCodedNumberLength fieldCount =
      4 + (writeLengthCodedNumber fieldCount).length := by
    rw [Packet.length_writeLengthCodedNumber]
  exact (Writes.writeLengthCodedNumber short).fills_iff.mpr ⟨rfl, size⟩

/-- An EOF packet without warnings and flags. -/
def plainEOF : Bytes :=
  [0xfe, 0, 0, 0, 0]

theorem EOF.toPacket_fills :
    ∃ packet, EOF.toPacket none none = .ok packet ∧ packet.Fills plainEOF :=
  ((Writes.writeInt8 (show 0xfe < 256 by decide)).bind
    ((Writes.writeInt16 (show 0 < 65536 by decide)).bind
      (Writes.writeInt16 (show 0 < 65536 by decide)))).fills_iff.mpr ⟨rfl, rfl⟩

end Mysql2.Packets

namespace Mysql2.Connection

open Mysql2.Packets Mysql2.Parsers Mysql2.Script

/-! ## Writing -/

/-- What the server side knows of its client: its character set, by `serverConfig.encoding`. -/
structure ServerConfig where
  codecs : Codecs
  charsetToEncoding : Nat → Option String
  encoding : Option String

/-- Calls of `writePacket`.  What has been written stays when the next packet cannot be made. -/
abbrev Writing :=
  ExceptT JsError (StateM (List Outgoing)) PUnit

/-- `this.writePacket(packet)`. -/
def writeOutgoing (packet : Except JsError Outgoing) : Writing :=
  match packet with
  | .ok packet => modify fun written => written ++ [packet]
  | .error error => throw error

/-- A row, by the names of columns. -/
abbrev ServerRow :=
  JsString → RowValue

/-- The elements that `forEach` visits, which leaves out holes. -/
def visited (array : List (Option RowValue)) : List RowValue :=
  array.filterMap id

/-- The array that a row is pushed to, which has holes for all columns. -/
def arrayRow (columns : List ServerColumn) (row : ServerRow) : List (Option RowValue) :=
  List.replicate columns.length none ++ columns.map fun column => some (row column.name)

section Methods

variable (config : ServerConfig)

/-- `writeEof(warnings, statusFlags)`. -/
def writeEof (warnings statusFlags : Option Nat) : Writing :=
  writeOutgoing (EOF.toPacket warnings statusFlags)

/-- The loop of `writeColumns`. -/
def writeColumnDefinitions : List ServerColumn → Writing
  | [] => return
  | column :: columns => do
      writeOutgoing (ColumnDefinition.toPacket config.codecs config.charsetToEncoding column)
      writeColumnDefinitions columns

/-- `writeColumns(columns)`. -/
def writeColumns (columns : List ServerColumn) : Writing := do
  writeOutgoing (ResultSetHeader.toPacket columns.length none)
  writeColumnDefinitions config columns
  writeEof none none

/-- `writeTextRow(column)`. -/
def writeTextRow (row : List (Option RowValue)) : Writing :=
  writeOutgoing (TextRow.toPacket config.codecs config.encoding (visited row))

/-- `writeBinaryRow(column)`. -/
def writeBinaryRow (row : List (Option RowValue)) : Writing :=
  writeOutgoing (BinaryRow.toPacket config.codecs config.encoding (visited row))

/-- The loop of `writeTextResult`. -/
def writeRows (columns : List ServerColumn) (binary : Bool) : List ServerRow → Writing
  | [] => return
  | row :: rows => do
      if binary then writeBinaryRow config (arrayRow columns row)
      else writeTextRow config (arrayRow columns row)
      writeRows columns binary rows

/-- `writeTextResult(rows, columns, binary)`. -/
def writeTextResult (rows : List ServerRow) (columns : List ServerColumn) (binary : Bool) :
    Writing := do
  writeColumns config columns
  writeRows config columns binary rows
  writeEof none none

end Methods

/-! ## What is written -/

theorem visited_arrayRow (columns : List ServerColumn) (row : ServerRow) :
    visited (arrayRow columns row) = columns.map fun column => row column.name := by
  rw [visited, arrayRow, List.filterMap_append, List.filterMap_replicate_of_none rfl,
    List.nil_append, List.filterMap_map]
  show List.filterMap (some ∘ fun column : ServerColumn => row column.name) columns = _
  rw [List.filterMap_eq_map]

/-- The computation writes packets with these payloads, whatever has been written before. -/
def WritesPackets (writing : Writing) (payloads : List Bytes) : Prop :=
  ∃ packets, List.Forall₂ Outgoing.Fills packets payloads ∧
    ∀ written, outcome writing written = (.ok ⟨⟩, written ++ packets)

namespace WritesPackets

theorem nothing : WritesPackets (pure ⟨⟩) [] :=
  ⟨[], .nil, fun written => by rw [List.append_nil]; rfl⟩

theorem bind {first next : Writing} {payloads more : List Bytes}
    (writes : WritesPackets first payloads) (writesMore : WritesPackets next more) :
    WritesPackets (first >>= fun _ => next) (payloads ++ more) := by
  obtain ⟨packets, fills, run⟩ := writes
  obtain ⟨morePackets, moreFills, moreRun⟩ := writesMore
  refine ⟨packets ++ morePackets, List.rel_append fills moreFills, fun written => ?_⟩
  rw [outcome_bind, run]
  dsimp only
  rw [moreRun, List.append_assoc]

theorem packet {packet : Except JsError Outgoing} {payload : Bytes}
    (fills : ∃ filled, packet = .ok filled ∧ filled.Fills payload) :
    WritesPackets (writeOutgoing packet) [payload] := by
  obtain ⟨filled, rfl, fills⟩ := fills
  exact ⟨[filled], .cons fills .nil, fun written => rfl⟩

end WritesPackets

/-- What the client sees of a value: one that the row lacks arrives as the empty string. -/
def arriving : RowValue → Option JsString
  | .null => none
  | .undefined => some []
  | .text string => some string

/-- The value gets through the encoding. -/
def Sends (codecs : Codecs) (encoding : Option String) : RowValue → Prop
  | .null => True
  | .undefined => codecs.encode [] encoding = .ok []
  | .text string => codecs.Survives encoding string

/-- The column gets through its encoding, which is the one of the rows. -/
structure IsTextColumn (config : ServerConfig) (column : ServerColumn) : Prop where
  inRange : column.InRange
  encodable : ∀ name ∈ column.names, config.codecs.Survives config.encoding name
  encoding : config.charsetToEncoding column.characterSet = config.encoding
  notBinary : column.characterSet ≠ Charsets.BINARY
  type : Types.ofNat column.columnType ∈ stringTypes

/-- The payload of a column. -/
def ColumnSent (config : ServerConfig) (column : ServerColumn) (payload : Bytes) : Prop :=
  ∃ contents, List.Forall₂ (IsEncoded config.codecs config.encoding) column.names contents ∧
    payload = contents.flatMap writeLengthCodedBuffer ++ (column.numberBytes ++ [0, 0])

/-- The payload of a row. -/
def RowSent (config : ServerConfig) (columns : List ServerColumn) (row : ServerRow)
    (payload : Bytes) : Prop :=
  ∃ cells, List.Forall₂ (ColumnBytes config.codecs config.encoding)
    (columns.map fun column => arriving (row column.name)) cells ∧ payload = cells.flatten

section Sent

variable {config : ServerConfig} {columns : List ServerColumn} {column : ServerColumn}
  {row : ServerRow} {rows : List ServerRow}

theorem writes_columnDefinition (isText : IsTextColumn config column) :
    ∃ payload, WritesPackets
        (writeOutgoing (ColumnDefinition.toPacket config.codecs config.charsetToEncoding column))
        [payload] ∧ ColumnSent config column payload := by
  obtain ⟨contents, encoded⟩ := exists_encoded isText.encodable
  have filled := encoded
  rw [← isText.encoding] at filled
  exact ⟨_, .packet ((ServerColumn.toPacket_eq isText.inRange filled _).mpr rfl), contents,
    encoded, rfl⟩

theorem writes_columnDefinitions (areText : ∀ column ∈ columns, IsTextColumn config column) :
    ∃ payloads, WritesPackets (writeColumnDefinitions config columns) payloads ∧
      List.Forall₂ (ColumnSent config) columns payloads := by
  induction columns with
  | nil => exact ⟨[], .nothing, .nil⟩
  | cons column columns ih =>
      obtain ⟨first, others⟩ := List.forall_mem_cons.mp areText
      obtain ⟨payload, writes, sent⟩ := writes_columnDefinition first
      obtain ⟨payloads, writesOthers, sentOthers⟩ := ih others
      exact ⟨payload :: payloads, writes.bind writesOthers, .cons sent sentOthers⟩

/-- The empty string is written as its length. -/
theorem writeLengthCodedString_empty {codecs : Codecs} {encoding : Option String}
    (empty : codecs.encode [] encoding = .ok []) :
    Outgoing.writeLengthCodedString codecs [] encoding = Outgoing.writeInt8 0 := by
  have nothing : Outgoing.writeBuffer [] = pure PUnit.unit := by
    funext packet
    show Except.ok ((), packet.put []) = .ok ((), packet)
    rw [Outgoing.put_nil]
  rw [Outgoing.writeLengthCodedString, empty]
  show (do Outgoing.writeLengthCodedNumber 0; Outgoing.writeBuffer []) = _
  rw [nothing, bind_pure_unit]
  exact if_pos (by decide)

/-- A row that lacks values is written as one that has empty strings there. -/
theorem TextRow.toPacket_arriving {codecs : Codecs} {encoding : Option String}
    {values : List RowValue} (sends : ∀ value ∈ values, Sends codecs encoding value) :
    TextRow.toPacket codecs encoding values =
      TextRow.toPacket codecs encoding ((values.map arriving).map .ofColumn) := by
  have same : rowLength codecs encoding values =
      rowLength codecs encoding ((values.map arriving).map .ofColumn) ∧
        writeRow codecs encoding values =
          writeRow codecs encoding ((values.map arriving).map .ofColumn) := by
    induction values with
    | nil => exact ⟨rfl, rfl⟩
    | cons value values ih =>
        obtain ⟨first, others⟩ := List.forall_mem_cons.mp sends
        obtain ⟨lengthEq, writeEq⟩ := ih others
        rw [List.map_cons, List.map_cons]
        cases value with
        | null => exact ⟨by rw [rowLength, lengthEq]; rfl, by rw [writeRow, writeEq]; rfl⟩
        | text string =>
            exact ⟨by rw [rowLength, lengthEq]; rfl, by rw [writeRow, writeEq]; rfl⟩
        | undefined =>
            have empty : codecs.encode [] encoding = .ok [] := first
            constructor
            · rw [rowLength, lengthEq, arriving, RowValue.ofColumn, rowLength,
                lengthCodedStringLength, empty]
              rfl
            · rw [writeRow, writeEq, arriving, RowValue.ofColumn, writeRow,
                writeLengthCodedString_empty empty]
  rw [TextRow.toPacket, TextRow.toPacket, same.1, same.2]

theorem exists_cells {codecs : Codecs} {encoding : Option String} {values : List RowValue}
    (sends : ∀ value ∈ values, Sends codecs encoding value) :
    ∃ cells, List.Forall₂ (ColumnBytes codecs encoding) (values.map arriving) cells := by
  apply exists_columnBytes
  intro string member
  obtain ⟨value, isValue, isArriving⟩ := List.mem_map.mp member
  have sent := sends value isValue
  cases value with
  | null => cases isArriving
  | text text =>
      cases isArriving
      exact sent
  | undefined =>
      cases isArriving
      exact ⟨[], sent, by decide, rfl⟩

theorem writes_textRow (sends : ∀ column ∈ columns,
      Sends config.codecs config.encoding (row column.name)) :
    ∃ payload, WritesPackets (writeTextRow config (arrayRow columns row)) [payload] ∧
      RowSent config columns row payload := by
  have all : ∀ value ∈ columns.map (fun column => row column.name),
      Sends config.codecs config.encoding value := by
    intro value member
    obtain ⟨column, isColumn, rfl⟩ := List.mem_map.mp member
    exact sends column isColumn
  obtain ⟨cells, encoded⟩ := exists_cells all
  refine ⟨cells.flatten, .packet ?_, cells, ?_, rfl⟩
  · rw [visited_arrayRow, TextRow.toPacket_arriving all, TextRow.toPacket, rowLength_eq encoded]
    exact (writes_row encoded).fills_iff.mpr ⟨rfl, Nat.add_comm _ _⟩
  · rwa [List.map_map] at encoded

theorem writes_textRows (sends : ∀ row ∈ rows, ∀ column ∈ columns,
      Sends config.codecs config.encoding (row column.name)) :
    ∃ payloads, WritesPackets (writeRows config columns false rows) payloads ∧
      List.Forall₂ (RowSent config columns) rows payloads := by
  induction rows with
  | nil => exact ⟨[], .nothing, .nil⟩
  | cons row rows ih =>
      obtain ⟨first, others⟩ := List.forall_mem_cons.mp sends
      obtain ⟨payload, writes, sent⟩ := writes_textRow first
      obtain ⟨payloads, writesOthers, sentOthers⟩ := ih others
      exact ⟨payload :: payloads, writes.bind writesOthers, .cons sent sentOthers⟩

/-- The payloads of a result. -/
def resultPayloads (count : Nat) (columnPayloads rowPayloads : List Bytes) : List Bytes :=
  writeLengthCodedNumber count :: (columnPayloads ++ plainEOF :: (rowPayloads ++ [plainEOF]))

/-- A result of text columns is written. -/
theorem writes_textResult (areText : ∀ column ∈ columns, IsTextColumn config column)
    (few : columns.length < 4294967296)
    (sends : ∀ row ∈ rows, ∀ column ∈ columns,
      Sends config.codecs config.encoding (row column.name)) :
    ∃ columnPayloads rowPayloads,
      WritesPackets (writeTextResult config rows columns false)
        (resultPayloads columns.length columnPayloads rowPayloads) ∧
      List.Forall₂ (ColumnSent config) columns columnPayloads ∧
      List.Forall₂ (RowSent config columns) rows rowPayloads := by
  obtain ⟨columnPayloads, writesColumns, columnsSent⟩ := writes_columnDefinitions areText
  obtain ⟨rowPayloads, writesRows, rowsSent⟩ := writes_textRows sends
  have header : WritesPackets (writeOutgoing (ResultSetHeader.toPacket columns.length none))
      [writeLengthCodedNumber columns.length] :=
    .packet (ResultSetHeader.toPacket_fills (by omega))
  have eof : WritesPackets (writeEof none none) [plainEOF] := .packet EOF.toPacket_fills
  have whole := (header.bind (writesColumns.bind eof)).bind (writesRows.bind eof)
  refine ⟨columnPayloads, rowPayloads, ?_, columnsSent, rowsSent⟩
  rw [List.append_assoc, List.append_assoc] at whole
  exact whole

end Sent

end Mysql2.Connection

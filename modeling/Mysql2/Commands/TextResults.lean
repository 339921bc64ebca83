import Mysql2.Commands.Assembly
import Mysql2.Connection.ServerResults
import Mysql2.Connection.Transport
import Mysql2.Parser.Windows
import Mysql2.Parsers.RowBuilding

/-!
# Results of a server that arrive at a query

A server writes a result with columns and rows, the socket cuts the bytes into chunks, and the
packet parser of the client hands packets to the query.  The callback gets the rows.
-/

namespace Mysql2.Commands

open Mysql2.Packets
open Mysql2.Parsers
open Mysql2.Connection
open Mysql2.Script
open Mysql2.Parser
open Mysql2.Transition

/-! ## Packets that arrive -/

/-- A whole packet with a payload carries it. -/
theorem carries_of_isWhole {packet : Packet} (whole : IsWhole packet) :
    Carries packet (packet.payload 4) where
  unread := whole.unread
  window := rfl
  ends := by
    have header := whole.header
    rw [Packet.payload, length_slice whole.inside]
    omega

theorem allArrivals_payloads {payloads : List Bytes} (sequenceId : Nat)
    (sizes : ∀ payload ∈ payloads, payload.length % MAX_PACKET_LENGTH ≤ MAX_PACKET_LENGTH - 4) :
    (allArrivals sequenceId payloads).map Delivery.payload = payloads := by
  induction payloads generalizing sequenceId with
  | nil => rfl
  | cons payload payloads ih =>
      obtain ⟨first, others⟩ := List.forall_mem_cons.mp sizes
      rw [allArrivals, List.map_append, ih _ others, payloadArrivals, if_pos first]
      rfl

/-- Packets that are cut into chunks are delivered with their payloads. -/
theorem deliveries_carry {packets : List Packet} (fills : ∀ packet ∈ packets, FillsBuffer packet)
    (sizes : ∀ packet ∈ packets,
      (payloadOf packet).length % MAX_PACKET_LENGTH ≤ MAX_PACKET_LENGTH - 4)
    {sequenceId : Nat} (idShort : sequenceId < 256) (compressedSequenceId : Nat)
    {chunks : List Bytes} (nonempty : ∀ chunk ∈ chunks, chunk ≠ [])
    (stream : chunks.flatten =
      (writePackets ⟨sequenceId, compressedSequenceId, []⟩ packets).written.flatten) :
    List.Forall₂ Carries (run PacketParser.executeChunk (.new plainHeader) chunks).2
      (packets.map payloadOf) := by
  have arrive := writePackets_arriveInOrder fills idShort compressedSequenceId nonempty
    (stream ▸ List.prefix_rfl)
  have payloadsEq := congrArg (List.map Delivery.payload) (arrive.complete stream).1
  rw [allArrivals_payloads _ (List.forall_mem_map.mpr sizes), List.map_map] at payloadsEq
  rw [← payloadsEq, List.forall₂_map_right_iff]
  apply List.forall₂_same.mpr
  intro packet member
  exact carries_of_isWhole
    (PacketParser.run_executeChunk_isWhole plainHeader nonempty packet member)

/-! ## What the client reads -/

theorem Carries.exists_ahead {packet : Packet} {payload : Bytes}
    (carries : Carries packet payload) : (∃ rest, packet.ahead = payload ++ rest) ∧
      packet.offset + payload.length = packet.endOffset := by
  refine ⟨⟨packet.ahead.drop payload.length, ?_⟩, by rw [carries.unread, carries.ends]⟩
  have window := carries.window
  rw [slice, carries.ends, Nat.add_sub_cancel_left, ← carries.unread] at window
  have split := List.take_append_drop payload.length packet.ahead
  rw [Packet.ahead, window] at split
  exact split.symm

/-- A reader of the payload. -/
theorem Carries.run {β : Type} {packet : Packet} {payload more : Bytes} {reader : Reader β}
    {value : β} (carries : Carries packet (payload ++ more))
    (reads : Reads reader payload (.ok value)) :
    reader.run packet = .ok (value, packet.advance payload.length) := by
  obtain ⟨⟨rest, aheadEq⟩, ends⟩ := carries.exists_ahead
  rw [List.append_assoc] at aheadEq
  rw [List.length_append] at ends
  exact reads packet _ aheadEq (by omega)

/-- A length does not begin like an ERR packet, and behind the byte of an EOF packet it has eight
more. -/
theorem exists_first_of_isLength {n : Nat} {header : Bytes} (isLength : IsLength n header) :
    ∃ first rest, header = first :: rest ∧ first ≠ 0xff ∧ (first = 0xfe → rest.length = 8) ∧
      (n ≠ 0 → first ≠ 0) := by
  rcases isLength with ⟨small, rfl⟩ | ⟨_, rfl⟩ | ⟨_, rfl⟩ | ⟨_, rfl⟩
  · have toNat : (toByte n).toNat = n := by
      rw [toByte_toNat, Nat.mod_eq_of_lt (by omega)]
    have notByte {byte : UInt8} (different : n ≠ byte.toNat) : toByte n ≠ byte := by
      rintro rfl
      exact different toNat.symm
    have isSmall {byte : UInt8} (large : 251 ≤ byte.toNat) : toByte n ≠ byte :=
      notByte (by omega)
    exact ⟨_, [], rfl, isSmall (by decide), fun same => absurd same (isSmall (by decide)),
      fun positive => notByte positive⟩
  · exact ⟨_, _, rfl, by decide, fun same => absurd same (by decide), fun _ => by decide⟩
  · exact ⟨_, _, rfl, by decide, fun same => absurd same (by decide), fun _ => by decide⟩
  · exact ⟨_, _, rfl, by decide, fun _ => length_writeUIntLE n 8, fun _ => by decide⟩

theorem not_isError_of_carries {packet : Packet} {first : UInt8} {rest : Bytes}
    (carries : Carries packet (first :: rest)) (notError : first ≠ 0xff) :
    packet.isError = false := by
  rw [Packet.isError, carries.peekByte]
  apply decide_eq_false
  intro isFirst
  exact notError (UInt8.toNat_inj.mp (Option.some.inj isFirst))

/-- What begins with a length is no ERR packet. -/
theorem not_isError_of_isLength {packet : Packet} {n : Nat} {header rest : Bytes}
    (isLength : IsLength n header) (carries : Carries packet (header ++ rest)) :
    packet.isError = false := by
  obtain ⟨first, more, rfl, notError, -⟩ := exists_first_of_isLength isLength
  exact not_isError_of_carries carries notError

/-- What begins with a length that the payload contains is no EOF packet. -/
theorem not_isEOF_of_isLength {packet : Packet} {n : Nat} {header rest : Bytes}
    (isLength : IsLength n header) (carries : Carries packet (header ++ rest)) :
    packet.isEOF = false := by
  obtain ⟨first, more, rfl, -, long, -⟩ := exists_first_of_isLength isLength
  rw [Packet.isEOF, Carries.peekByte carries, carries.length]
  apply decide_eq_false
  rintro ⟨isFirst, short⟩
  have isLong := long (UInt8.toNat_inj.mp (Option.some.inj isFirst))
  rw [List.cons_append, List.length_cons, List.length_append, isLong] at short
  omega

theorem isLength_writeLengthCodedNumber {n : Nat} (safe : n < 9007199254740992) :
    IsLength n (writeLengthCodedNumber n) := by
  have lengthEq : (List.replicate n (0 : UInt8)).length = n := List.length_replicate
  obtain ⟨header, isLength, sameCell⟩ :=
    @isCell_writeLengthCodedBuffer (List.replicate n 0) (by rwa [lengthEq])
  rw [writeLengthCodedBuffer, lengthEq] at sameCell
  rw [lengthEq] at isLength
  rwa [List.append_cancel_right sameCell]

/-! ### The header -/

theorem headerPacket_reads (read : ReadConfig) {packet : Packet} {count : Nat}
    (carries : Carries packet (writeLengthCodedNumber count)) (positive : count ≠ 0)
    (safe : count < 9007199254740992) :
    packet.isError = false ∧ ∃ rest,
      ResultSetHeader.read read packet = .ok (.columns (.number count), rest) := by
  have isLength := isLength_writeLengthCodedNumber safe
  have whole := carries
  rw [← List.append_nil (writeLengthCodedNumber count)] at whole
  refine ⟨not_isError_of_isLength isLength whole, ?_⟩
  obtain ⟨first, more, headerEq, -, -, notZero⟩ := exists_first_of_isLength isLength
  have peek : packet.peekByte ≠ some 0 := by
    rw [headerEq] at carries
    rw [carries.peekByte]
    intro isFirst
    exact notZero positive (UInt8.toNat_inj.mp (Option.some.inj isFirst))
  obtain ⟨⟨rest, aheadEq⟩, -⟩ := carries.exists_ahead
  have lengthRun : (Packet.readLengthCodedNumber false false).run packet =
      .ok (.number count, packet.advance (lengthCodedNumberLength count)) :=
    Packet.readLengthCodedNumber_run _ _ aheadEq safe
  refine ⟨packet.advance (lengthCodedNumberLength count), ?_⟩
  show (ResultSetHeader.read read).run packet = _
  rw [ResultSetHeader.read, run_get_bind, if_pos peek, run_bind_of_ok lengthRun]
  rfl

theorem plainEOF_isEOF {packet : Packet} (carries : Carries packet plainEOF) :
    EOFPacket 0 packet :=
  ⟨0, 0, 0, 0, rfl, carries⟩

/-! ### Columns -/

variable {α V γ : Type}

/-- A column definition as row parsers use it, where it has been read completely. -/
def fieldOf (codecs : Codecs) (clientEncoding : Option String) (definition : ColumnDefinition) :
    Option Field := do
  let get (bytes : Bytes) : Option JsString :=
    (codecs.decode bytes (readEncoding definition.encoding clientEncoding) 0 bytes.length).toOption
  let columnType ← definition.columnType
  let decimals ← definition.decimals
  let schema ← get definition.schema
  let table ← get definition.table
  return {
    columnType := columnType
    flags := definition.flags
    characterSet := definition.characterSet
    decimals := decimals
    columnLength := definition.columnLength
    encoding := definition.encoding
    schema := schema
    table := table
    name := units definition.name
    extendedTypeName := definition.extendedTypeName.map units
    extendedFormat := definition.extendedFormat.map units }

/-- The field of a column that the server sends. -/
def columnField (server : ServerConfig) (column : ServerColumn) : Field where
  columnType := column.columnType
  flags := column.flags
  characterSet := column.characterSet
  decimals := column.decimals
  columnLength := column.columnLength
  encoding := server.encoding
  schema := column.schema
  table := column.table
  name := units (textOf column.name)
  extendedTypeName := none
  extendedFormat := none

/-- The client reads with the same encodings as the server writes. -/
structure ReadsLike (read : ReadConfig) (server : ServerConfig) : Prop where
  decode : read.decode = server.codecs.decodeText
  charsets : read.charsetToEncoding = server.charsetToEncoding
  noMetadata : read.mariadbExtendedMetadata = false

theorem fieldOf_of_shows {server : ServerConfig} {definition : ClientColumn}
    {column : ServerColumn} {clientEncoding : Option String}
    (shows : definition.Shows server.codecs column)
    (sameClient : definition.clientEncoding = clientEncoding)
    (encodingEq : definition.encoding = server.encoding) :
    fieldOf server.codecs clientEncoding definition.toDefinition =
      some (columnField server column) := by
  have schema := shows.schema
  have table := shows.table
  rw [ClientColumn.get, encodingEq, sameClient] at schema table
  simp only [fieldOf, ClientColumn.toDefinition, encodingEq, schema, table, shows.columnType,
    shows.decimals, shows.flags, shows.characterSet, shows.columnLength, shows.name]
  rfl

theorem columnPacket_reads {read : ReadConfig} {server : ServerConfig}
    (readsLike : ReadsLike read server) (notBinary : server.encoding ≠ some "binary")
    {column : ServerColumn} (isText : IsTextColumn server column) {payload : Bytes}
    (sent : ColumnSent server column payload) {packet : Packet}
    (carries : Carries packet payload) :
    ∃ definition : ClientColumn, ColumnPacket read packet definition.toDefinition ∧
      definition.Shows server.codecs column ∧
      fieldOf server.codecs read.clientEncoding definition.toDefinition =
        some (columnField server column) := by
  obtain ⟨contents, encoded, rfl⟩ := sent
  obtain ⟨catalog, schema, table, orgTable, name, orgName, rfl⟩ : ∃ catalog schema table orgTable
      name orgName, contents = [catalog, schema, table, orgTable, name, orgName] := by
    match contents, encoded.length_eq with
    | [catalog, schema, table, orgTable, name, orgName], _ => exact ⟨_, _, _, _, _, _, rfl⟩
  simp only [ServerColumn.names, List.forall₂_cons] at encoded
  obtain ⟨first, second, third, fourth, fifth, sixth, -⟩ := encoded
  have short : ∀ bytes ∈ [catalog, schema, table, orgTable, name, orgName],
      bytes.length < 9007199254740992 := by
    simp only [List.forall_mem_cons]
    exact ⟨first.2.1, second.2.1, third.2.1, fourth.2.1, fifth.2.1, sixth.2.1, by simp⟩
  have sameEncoding : readEncoding server.encoding read.clientEncoding = server.encoding :=
    if_neg notBinary
  have reads := ClientColumn.reads server.codecs server.charsetToEncoding read.clientEncoding
    isText.inRange short
  rw [isText.encoding, sameEncoding, fifth.2.2] at reads
  let definition := ClientColumn.ofBytes server.charsetToEncoding read.clientEncoding column catalog
    schema table orgTable orgName column.name
  have encodingEq : definition.encoding = server.encoding := isText.encoding
  -- the strings are decoded in the encoding that they were written in
  have get {bytes : Bytes} {string : JsString} (isEncoded : IsEncoded server.codecs server.encoding
      string bytes) : definition.get server.codecs bytes = .ok string := by
    rw [ClientColumn.get, encodingEq]
    show server.codecs.decode bytes (readEncoding server.encoding read.clientEncoding) 0 _ = _
    rw [sameEncoding]
    exact isEncoded.2.2
  rw [← List.append_assoc] at carries
  obtain ⟨rest, run⟩ : ∃ rest, (ClientColumn.read server.codecs server.charsetToEncoding
      read.clientEncoding).run packet = .ok (definition, rest) :=
    ⟨_, carries.run reads⟩
  have readsDefinition : ∃ rest, (ColumnDefinition.read read).run packet =
      .ok (definition.toDefinition, rest) := by
    refine ⟨rest, ?_⟩
    rw [ClientColumn.read_eq server.codecs read readsLike.decode readsLike.noMetadata,
      readsLike.charsets, run_bind_of_ok run]
    rfl
  have notError : packet.isError = false := by
    obtain ⟨header, isLength, cellEq⟩ := isCell_writeLengthCodedBuffer first.2.1
    rw [List.flatMap_cons, cellEq, List.append_assoc, List.append_assoc, List.append_assoc]
      at carries
    exact not_isError_of_isLength isLength carries
  have shows : definition.Shows server.codecs column :=
    ⟨get first, get second, get third, get fourth, rfl, get sixth, rfl, rfl, rfl, rfl, rfl⟩
  exact ⟨definition, ⟨notError, readsDefinition⟩, shows, fieldOf_of_shows shows rfl encodingEq⟩

/-! ### Rows -/

section Rows

variable {codecs : Codecs} {encoding : Option String} {values : List (Option JsString)}
  {cells : List Bytes} {packet : Packet}

theorem rowPacket_not_special (row : List.Forall₂ (ColumnBytes codecs encoding) values cells)
    (nonempty : values ≠ []) (carries : Carries packet cells.flatten) :
    packet.isEOF = false ∧ packet.isError = false := by
  cases row with
  | nil => exact absurd rfl nonempty
  | @cons value cell values cells head _ =>
      rw [List.flatten_cons] at carries
      cases value with
      | none =>
          obtain rfl : cell = [0xfb] := head
          have notEOF : packet.isEOF = false := by
            rw [Packet.isEOF, carries.peekByte]
            exact decide_eq_false fun isEOF => absurd isEOF.1 (by decide)
          exact ⟨notEOF, not_isError_of_carries carries (by decide)⟩
      | some string =>
          obtain ⟨bytes, -, short, -, rfl⟩ := head
          obtain ⟨header, isLength, cellEq⟩ := isCell_writeLengthCodedBuffer short
          rw [cellEq, List.append_assoc] at carries
          exact ⟨not_isEOF_of_isLength isLength carries, not_isError_of_isLength isLength carries⟩

/-- A packet that carries the row is parsed to the end. -/
theorem parsesAs_of_carries (row : List.Forall₂ (ColumnBytes codecs encoding) values cells)
    (carries : Carries packet cells.flatten) :
    ParsesAs codecs encoding values .text packet := by
  obtain ⟨⟨rest, aheadEq⟩, ends⟩ := carries.exists_ahead
  have atEnd : (packet.advance cells.flatten.length).offset = packet.endOffset := by
    rw [Packet.offset_advance, ends]
  apply parsesAs_of_static atEnd
  intro α runtime fields options castConfig sameDecode plain configPlain lengthEq strings
  rw [staticValues]
  refine readAll_strings runtime sameDecode ?_ row ((length_textColumns _ _).trans lengthEq)
    aheadEq (Nat.le_of_eq ends)
  apply of_mem_textColumns fun reader : Column α =>
    reader.read = Packet.readStringValue runtime encoding
  intro field member index
  rw [staticTextColumn_plain runtime plain configPlain]
  exact readField_string (strings field member) runtime castConfig options

end Rows

/-- What a row of the server holds at the client. -/
def rowContents (options : Options (TypeCastFunction α)) (server : ServerConfig)
    (columns : List ServerColumn) (row : ServerRow) : Contents α :=
  .ofValues options (columns.map (columnField server))
    (columns.map fun column => columnValue (arriving (row column.name)))

/-- A row that a parser has made, in the heap that holds it. -/
structure RowObject (α : Type) where
  heap : Heap (Value α)
  row : Ref

/-- The row parser of a connection, and the heap that it adds rows to. -/
structure RowParsing (α : Type) where
  parser : RowParser
  runtime : Runtime α
  realm : Realm (Value α)
  options : Options (TypeCastFunction α)
  config : Config (TypeCastFunction α)
  heap : Heap (Value α)
  isRealm : realm.heap <+: heap

namespace RowParsing

variable (parsing : RowParsing α)

/-- Making the parser, which throws for names that it cannot generate code for. -/
def build (fields : List Field) : Except JsError Unit :=
  match parsing.parser with
  | .compiled => (compileText fields parsing.options parsing.config).map fun _ => ()
  | .static => .ok ()

/-- Parsing a row. -/
def parse (fields : List Field) (packet : Packet) : Except JsError (RowObject α) :=
  let next := parsing.parser.next parsing.runtime parsing.realm fields parsing.options
    parsing.config .text
  let (result, state) := outcome next ⟨packet, parsing.heap, []⟩
  result.map fun row => ⟨state.heap, row⟩

/-- A query builds its parser from its columns, and parses its rows with it. -/
structure Serves (codecs : Codecs) (clientEncoding : Option String)
    (behaviour : Behaviour V (RowObject α)) : Prop where
  builds : ∀ {definitions fields},
    List.Forall₂ (fun definition field => fieldOf codecs clientEncoding definition = some field)
      definitions fields →
    behaviour.buildParser .query definitions = parsing.build fields
  parses : ∀ {definitions fields},
    List.Forall₂ (fun definition field => fieldOf codecs clientEncoding definition = some field)
      definitions fields →
    ∀ packet, behaviour.parseRow .query definitions definitions packet = parsing.parse fields packet

/-- Strings are decoded as they have been encoded, and values are not cast. -/
structure ReadsText (codecs : Codecs) : Prop where
  decode : parsing.runtime.decode = codecs.decodeText
  plain : parsing.options.typeCast.isPlain = true
  configPlain : parsing.config.typeCast.isPlain = true

/-- Each column gets a place of its name. -/
structure Places (fields : List Field) : Prop where
  options : PlainOptions parsing.options
  names : PlainNames parsing.realm parsing.runtime fields parsing.options
  few : fields.length < 4294967296

variable {parsing} {fields : List Field}

theorem build_eq (places : parsing.Places fields) : parsing.build fields = .ok () := by
  rw [build]
  split
  · obtain ⟨columns, compiled, -⟩ := exists_compileText places.options places.names
      parsing.isRealm places.few parsing.config
    rw [compiled]
    rfl
  · rfl

/-- A row that holds the values of a row of the server. -/
def Holds (parsing : RowParsing α) (server : ServerConfig) (columns : List ServerColumn)
    (row : ServerRow) (object : RowObject α) : Prop :=
  HoldsRow parsing.realm parsing.heap parsing.options columns.length object.heap object.row
    (rowContents parsing.options server columns row)

end RowParsing

theorem isString_columnField {server : ServerConfig} {column : ServerColumn}
    (isText : IsTextColumn server column) :
    (columnField server column).IsString server.encoding where
  type := isText.type
  notBinary := isText.notBinary
  notJson := rfl
  encoding := rfl

/-- A row that arrives is parsed. -/
theorem parse_of_rowSent {server : ServerConfig} {columns : List ServerColumn}
    (areText : ∀ column ∈ columns, IsTextColumn server column) {parsing : RowParsing α}
    (readsText : parsing.ReadsText server.codecs)
    (places : parsing.Places (columns.map (columnField server))) {row : ServerRow}
    {payload : Bytes} (sent : RowSent server columns row payload) {packet : Packet}
    (carries : Carries packet payload) : ∃ object : RowObject α,
      parsing.parse (columns.map (columnField server)) packet = .ok object ∧
        parsing.Holds server columns row object := by
  obtain ⟨cells, encoded, rfl⟩ := sent
  have strings : ∀ field ∈ columns.map (columnField server),
      field.IsString server.encoding :=
    List.forall_mem_map.mpr fun column member => isString_columnField (areText column member)
  obtain ⟨after, -, compiled, static⟩ := parsesAs_of_carries encoded carries parsing.runtime
    (columns.map (columnField server)) parsing.options parsing.config readsText.decode
    readsText.plain readsText.configPlain (by rw [List.length_map, List.length_map]) strings
  have values : parsing.parser.values parsing.runtime (columns.map (columnField server))
      parsing.options parsing.config .text packet =
        (columns.map fun column => columnValue (arriving (row column.name)), .ok after) := by
    rw [List.map_map] at compiled static
    cases parsing.parser with
    | compiled => exact compiled
    | static => exact static
  have builds : Builds parsing.realm parsing.options (columns.map (columnField server)) parsing.heap
      (parsing.parser.values parsing.runtime (columns.map (columnField server)) parsing.options
        parsing.config .text packet)
      (outcome (parsing.parser.next parsing.runtime parsing.realm
        (columns.map (columnField server)) parsing.options parsing.config .text)
          ⟨packet, parsing.heap, []⟩) := by
    cases parsing.parser with
    | compiled =>
        exact @compiledNext_text_builds _ _ _ _ _ places.options ⟨packet, parsing.heap, []⟩
          places.names parsing.isRealm places.few parsing.config
    | static =>
        exact @staticNext_text_builds _ _ _ _ _ places.options ⟨packet, parsing.heap, []⟩
          places.names parsing.isRealm places.few parsing.config
  cases run : outcome (parsing.parser.next parsing.runtime parsing.realm
      (columns.map (columnField server)) parsing.options parsing.config .text)
        ⟨packet, parsing.heap, []⟩ with
  | mk returned state =>
      rw [Builds, values, run] at builds
      obtain ⟨result, rfl, -, holds⟩ := builds
      refine ⟨⟨state.heap, result⟩, ?_, ?_⟩
      · rw [RowParsing.parse, run]
        rfl
      · rw [List.length_map] at holds
        exact holds

/-! ## Whole results -/

/-- The first packets carry the first payloads. -/
theorem exists_append_of_carries {received : List Packet} {first second : List Bytes}
    (carries : List.Forall₂ Carries received (first ++ second)) :
    ∃ early late, received = early ++ late ∧ List.Forall₂ Carries early first ∧
      List.Forall₂ Carries late second :=
  ⟨_, _, (List.take_append_drop _ _).symm, List.forall₂_take_append _ _ _ carries,
    List.forall₂_drop_append _ _ _ carries⟩

section Results

variable {config : CommandConfig V γ} {server : ServerConfig} {columns : List ServerColumn}
  {parsing : RowParsing α} {behaviour : Behaviour V (RowObject α)}

theorem columnPackets_read (readsLike : ReadsLike config.read server)
    (notBinary : server.encoding ≠ some "binary")
    (areText : ∀ column ∈ columns, IsTextColumn server column) {payloads : List Bytes}
    (sent : List.Forall₂ (ColumnSent server) columns payloads) {packets : List Packet}
    (carries : List.Forall₂ Carries packets payloads) :
    ∃ definitions : List ClientColumn,
      List.Forall₂ (ColumnPacket config.read) packets
        (definitions.map ClientColumn.toDefinition) ∧
      List.Forall₂ (ClientColumn.Shows server.codecs) definitions columns ∧
      List.Forall₂ (fun definition field =>
          fieldOf server.codecs config.read.clientEncoding definition = some field)
        (definitions.map ClientColumn.toDefinition) (columns.map (columnField server)) := by
  induction sent generalizing packets with
  | nil =>
      cases carries
      exact ⟨[], .nil, .nil, .nil⟩
  | cons head _ ih =>
      obtain ⟨first, others⟩ := List.forall_mem_cons.mp areText
      cases carries with
      | cons carriesHead carries =>
          obtain ⟨definition, read, shows, isField⟩ :=
            columnPacket_reads readsLike notBinary first head carriesHead
          obtain ⟨definitions, areRead, areShown, areFields⟩ := ih others carries
          exact ⟨definition :: definitions, .cons read areRead, .cons shows areShown,
            .cons isField areFields⟩

theorem rowPackets_parse (nonempty : columns ≠ [])
    (areText : ∀ column ∈ columns, IsTextColumn server column)
    (readsText : parsing.ReadsText server.codecs)
    (places : parsing.Places (columns.map (columnField server))) {rows : List ServerRow}
    {payloads : List Bytes} (sent : List.Forall₂ (RowSent server columns) rows payloads)
    {packets : List Packet} (carries : List.Forall₂ Carries packets payloads) :
    (∀ packet ∈ packets, packet.isEOF = false ∧ packet.isError = false) ∧
      ∃ objects : List (RowObject α), List.Forall₂ (parsing.Holds server columns) rows objects ∧
        List.Forall₂ (fun packet object =>
          parsing.parse (columns.map (columnField server)) packet = .ok object)
            packets objects := by
  induction sent generalizing packets with
  | nil =>
      cases carries
      exact ⟨List.forall_mem_nil _, [], .nil, .nil⟩
  | cons head _ ih =>
      cases carries with
      | cons carriesHead carries =>
          obtain ⟨areRows, objects, hold, parse⟩ := ih carries
          obtain ⟨object, parsed, holds⟩ := parse_of_rowSent areText readsText places head carriesHead
          obtain ⟨cells, encoded, rfl⟩ := head
          have special := rowPacket_not_special encoded
            (fun isEmpty => nonempty (List.map_eq_nil_iff.mp isEmpty)) carriesHead
          exact ⟨List.forall_mem_cons.mpr ⟨special, areRows⟩, object :: objects,
            .cons holds hold, .cons parsed parse⟩

/-- Packets that carry the payloads of a result lead a query to its end. -/
theorem ResultSetCommand.exists_leads (readsLike : ReadsLike config.read server)
    (notBinary : server.encoding ≠ some "binary") (nonempty : columns ≠ [])
    (areText : ∀ column ∈ columns, IsTextColumn server column)
    (readsText : parsing.ReadsText server.codecs)
    (places : parsing.Places (columns.map (columnField server)))
    (serves : parsing.Serves server.codecs config.read.clientEncoding behaviour)
    {columnPayloads rowPayloads : List Bytes} {rows : List ServerRow}
    (columnsSent : List.Forall₂ (ColumnSent server) columns columnPayloads)
    (rowsSent : List.Forall₂ (RowSent server columns) rows rowPayloads)
    {received : List Packet}
    (carries : List.Forall₂ Carries received
      (resultPayloads columns.length columnPayloads rowPayloads)) :
    ∃ packets last definitions objects, received = packets ++ [last] ∧
      List.Forall₂ (ClientColumn.Shows server.codecs) definitions columns ∧
      List.Forall₂ (parsing.Holds server columns) rows objects ∧
      ∀ {command waiting : ResultSetCommand V (RowObject α)}, command.protocol = .query →
        AtHeader command [] waiting → ∃ between early late,
          Reaches config behaviour waiting packets early between ∧
          early ++ late = responseEvents command.id command.onResult 0
            [(.rows objects, some (definitions.map ClientColumn.toDefinition))] ∧
          Ends config behaviour between last (late ++ ending command.id command.onResult
            (kept command.onResult
              [(.rows objects, some (definitions.map ClientColumn.toDefinition))])) := by
  obtain ⟨header, rest, carriesHeader, carriesRest, rfl⟩ := List.forall₂_cons_right_iff.mp carries
  obtain ⟨columnPackets, behind, rfl, carriesColumns, carriesBehind⟩ :=
    exists_append_of_carries carriesRest
  obtain ⟨eof, later, carriesEOF, carriesLater, rfl⟩ := List.forall₂_cons_right_iff.mp carriesBehind
  obtain ⟨rowPackets, end_, rfl, carriesRows, carriesEnd⟩ := exists_append_of_carries carriesLater
  obtain ⟨last, nothing, carriesLast, carriesNothing, rfl⟩ :=
    List.forall₂_cons_right_iff.mp carriesEnd
  obtain rfl := List.forall₂_nil_right_iff.mp carriesNothing
  obtain ⟨definitions, columnsRead, shows, areFields⟩ :=
    columnPackets_read readsLike notBinary areText columnsSent carriesColumns
  obtain ⟨areRows, objects, hold, parses⟩ :=
    rowPackets_parse nonempty areText readsText places rowsSent carriesRows
  have countEq : (definitions.map ClientColumn.toDefinition).length = columns.length := by
    rw [List.length_map, shows.length_eq]
  have some_ : columns.length ≠ 0 := fun none => nonempty (List.length_eq_zero_iff.mp none)
  have few := places.few
  rw [List.length_map] at few
  obtain ⟨notError, afterHeader, headerRead⟩ :=
    headerPacket_reads config.read carriesHeader some_ (by omega)
  refine ⟨header :: (columnPackets ++ eof :: rowPackets), last, definitions, objects, by simp,
    shows, hold, ?_⟩
  intro command waiting isQuery atHeader
  rw [← countEq] at headerRead
  have defined : definitions.map ClientColumn.toDefinition ≠ [] := by
    intro isEmpty
    rw [isEmpty] at countEq
    exact some_ countEq.symm
  have built : behaviour.buildParser command.protocol
      (definitions.map ClientColumn.toDefinition) = .ok () := by
    rw [isQuery, serves.builds areFields, RowParsing.build_eq places]
  have parsed : List.Forall₂ (fun packet object =>
      behaviour.parseRow command.protocol (definitions.map ClientColumn.toDefinition)
        (definitions.map ClientColumn.toDefinition) packet = .ok object) rowPackets objects := by
    rw [isQuery]
    refine parses.imp fun packet object isParsed => ?_
    rw [serves.parses areFields, isParsed]
  obtain ⟨between, reaches, atRow⟩ := atHeader.reaches_rows defined notError headerRead columnsRead
    (plainEOF_isEOF carriesEOF) areRows built parsed
  refine ⟨between, _, [], reaches, ?_, atRow.ends (plainEOF_isEOF carriesLast) (by decide)⟩
  rw [List.append_nil, responseEvents, responseEvents, List.append_nil]
  rfl

end Results

/-! ## From the server to the callback -/

/-- The packet in its buffer, whatever that held before. -/
def Made (outgoing : Outgoing) (packet : Packet) : Prop :=
  ∃ allocated : Bytes, allocated.length = outgoing.size ∧ packet = outgoing.toPacket allocated

/-- The packets are written one after the other, their bytes are cut into chunks, and the packet
parser delivers what it finds.  No packet is so long that an empty one arrives behind it. -/
inductive Arrives (outgoing : List Outgoing) : List Packet → Prop
  | mk {packets : List Packet} {sequenceId compressedSequenceId : Nat} {chunks : List Bytes}
      (made : List.Forall₂ Made outgoing packets)
      (sizes : ∀ packet ∈ packets,
        (payloadOf packet).length % MAX_PACKET_LENGTH ≤ MAX_PACKET_LENGTH - 4)
      (idShort : sequenceId < 256) (nonempty : ∀ chunk ∈ chunks, chunk ≠ [])
      (stream : chunks.flatten =
        (writePackets ⟨sequenceId, compressedSequenceId, []⟩ packets).written.flatten) :
      Arrives outgoing (run PacketParser.executeChunk (.new plainHeader) chunks).2

theorem Made.payload {outgoing : Outgoing} {packet : Packet} (made : Made outgoing packet)
    {payload : Bytes} (fills : outgoing.Fills payload) :
    FillsBuffer packet ∧ payloadOf packet = payload := by
  obtain ⟨allocated, lengthEq, rfl⟩ := made
  obtain ⟨header, short, packetEq⟩ := fills.toPacket_eq lengthEq
  have long : (header ++ payload).length = 4 + payload.length := by
    rw [List.length_append, short]
  rw [packetEq]
  refine ⟨⟨rfl, long.symm, ?_⟩, List.drop_left' short⟩
  show 4 ≤ (header ++ payload).length
  omega

theorem Arrives.carries {outgoing : List Outgoing} {received : List Packet}
    (arrives : Arrives outgoing received) {payloads : List Bytes}
    (fills : List.Forall₂ Outgoing.Fills outgoing payloads) :
    List.Forall₂ Carries received payloads := by
  obtain ⟨made, sizes, idShort, nonempty, stream⟩ := arrives
  rename_i packets sequenceId compressedSequenceId chunks
  have written : (∀ packet ∈ packets, FillsBuffer packet) ∧ packets.map payloadOf = payloads := by
    clear sizes stream
    induction made generalizing payloads with
    | nil =>
        cases fills
        exact ⟨nofun, rfl⟩
    | cons madeHead _ ih =>
        cases fills with
        | cons fillsHead fills =>
            obtain ⟨areFull, payloadsEq⟩ := ih fills
            obtain ⟨isFull, payloadEq⟩ := madeHead.payload fillsHead
            exact ⟨List.forall_mem_cons.mpr ⟨isFull, areFull⟩, by
              rw [List.map_cons, payloadEq, payloadsEq]⟩
  rw [← written.2]
  exact deliveries_carry written.1 sizes idShort compressedSequenceId nonempty stream

section EndToEnd

variable {config : CommandConfig V γ} {server : ServerConfig} {columns : List ServerColumn}
  {rows : List ServerRow} {parsing : RowParsing α} {behaviour : Behaviour V (RowObject α)}
  {command : ResultSetCommand V (RowObject α)} {store : Store γ} {requestPacket : Packet}
  {inputs : List (CommandInput V (RowObject α))}

end EndToEnd

/-! ## A server in UTF-8 -/

/-- A byte is the code of its character. -/
theorem characters_latin1Slice (bytes : Bytes) :
    characters (latin1Slice bytes) = bytes.map fun byte => Char.ofNat byte.toNat := by
  have code (byte : UInt8) : (UInt16.ofNat byte.toNat).toNat = byte.toNat := by
    rw [UInt16.toNat_ofNat', Nat.mod_eq_of_lt (Nat.lt_trans byte.toNat_lt (by decide))]
  have small (byte : UInt8) : UInt16.ofNat byte.toNat < 0xd800 := by
    have := byte.toNat_lt
    rw [UInt16.lt_iff_toNat_lt, code]
    exact Nat.lt_trans this (by decide)
  have notLead (byte : UInt8) : ¬isLead (UInt16.ofNat byte.toNat) = true :=
    fun isLead => absurd (of_decide_eq_true isLead).1 (UInt16.not_le.mpr (small byte))
  have notTrail (byte : UInt8) : ¬isTrail (UInt16.ofNat byte.toNat) = true := fun isTrail =>
    absurd (of_decide_eq_true isTrail).1
      (UInt16.not_le.mpr (UInt16.lt_trans (small byte) (by decide)))
  have char (byte : UInt8) : unitChar (UInt16.ofNat byte.toNat) = Char.ofNat byte.toNat := by
    rw [unitChar, if_neg (not_or.mpr ⟨notLead byte, notTrail byte⟩), code]
  rw [latin1Slice]
  induction bytes with
  | nil => rfl
  | cons first bytes ih =>
      cases bytes with
      | nil =>
          rw [List.map_cons, List.map_nil, characters, char]
          rfl
      | cons second rest =>
          rw [List.map_cons, List.map_cons] at ih ⊢
          rw [characters, if_neg fun pair => notLead first pair.1, char, ih]
          rfl

/-- Decoding as the codecs do. -/
def codecsRuntime (codecs : Codecs) : Runtime Unit :=
  { utcRuntime with
    decode := codecs.decodeText
    decode_binary := by
      intro bytes
      have whole : codecs.decode bytes (some "binary") 0 bytes.length = .ok (latin1Slice bytes) :=
        @Codecs.decode_of_native codecs _ .latin1 rfl bytes
      rw [Codecs.decodeText, whole, Except.map, textOf, characters_latin1Slice]
      rfl }

/-- Parsing with the fields of column definitions. -/
def RowParsing.behaviour (parsing : RowParsing α) (codecs : Codecs)
    (clientEncoding : Option String) : Behaviour V (RowObject α) :=
  { buildParser := fun _ definitions =>
      match definitions.mapM (fieldOf codecs clientEncoding) with
      | some fields => parsing.build fields
      | none => .error .typeError
    parseRow := fun _ definitions _ packet =>
      match definitions.mapM (fieldOf codecs clientEncoding) with
      | some fields => parsing.parse fields packet
      | none => .error .typeError
    openStream := fun _ => .error .typeError
    calls := []
    written := []
    handshakeError := none
    result := .ok false }

theorem RowParsing.behaviour_serves {V : Type} (parsing : RowParsing α) (codecs : Codecs)
    (clientEncoding : Option String) :
    parsing.Serves codecs clientEncoding
      (parsing.behaviour codecs clientEncoding : Behaviour V (RowObject α)) := by
  have mapped {definitions : List ColumnDefinition} {fields : List Field}
      (areFields : List.Forall₂ (fun definition field =>
        fieldOf codecs clientEncoding definition = some field) definitions fields) :
      definitions.mapM (fieldOf codecs clientEncoding) = some fields := by
    induction areFields with
    | nil => rfl
    | cons head _ ih =>
        rw [List.mapM_cons, head, ih]
        rfl
  constructor
  · intro definitions fields areFields
    simp only [RowParsing.behaviour, mapped areFields]
  · intro definitions fields areFields packet
    simp only [RowParsing.behaviour, mapped areFields]

/-- A server whose strings are in UTF-8. -/
def utf8Server : ServerConfig where
  codecs := .unknown
  charsetToEncoding := someCharsets
  encoding := some "utf8"

/-- A client of it. -/
def utf8Client : CommandConfig JsValue Entries :=
  { defaultConfig false with
    read := {
      decode := Codecs.unknown.decodeText
      errorCodeToName := fun _ => none
      charsetToEncoding := someCharsets
      clientEncoding := some "utf8"
      serverEncoding := some "utf8"
      capabilityFlags := 0x200
      bigNumberStrings := false
      mariadbExtendedMetadata := false } }

/-- Its row parser. -/
def utf8Parsing : RowParsing Unit where
  parser := .static
  runtime := codecsRuntime .unknown
  realm := Realm.small
  options := noOptions
  config := noConfig
  heap := Realm.small.heap
  isRealm := List.prefix_rfl

/-- A value, one that is missing, and `NULL`. -/
def accentedRows : List ServerRow :=
  [fun _ => .text [0xe9], fun _ => .undefined, fun _ => .null]

/-- What the server writes. -/
def accentedOutgoing : List Outgoing :=
  (outcome (writeTextResult utf8Server accentedRows [accentedColumn 33] false) []).2

/-- The packets, in new buffers. -/
def accentedPackets : List Packet :=
  accentedOutgoing.map fun outgoing => outgoing.toPacket (List.replicate outgoing.size 0)

/-- Their bytes, one by one. -/
def accentedChunks : List Bytes :=
  (writePackets ⟨1, 0, []⟩ accentedPackets).written.flatten.map fun byte => [byte]

/-- The packets that arrive. -/
def accentedReceived : List Packet :=
  (run PacketParser.executeChunk (.new plainHeader) accentedChunks).2

theorem arrives_accented : Arrives accentedOutgoing accentedReceived := by
  have made : List.Forall₂ Made accentedOutgoing accentedPackets :=
    List.forall₂_map_right_iff.mpr (List.forall₂_same.mpr fun outgoing _ =>
      ⟨_, List.length_replicate, rfl⟩)
  have nonempty : ∀ chunk ∈ accentedChunks, chunk ≠ [] :=
    List.forall_mem_map.mpr fun byte _ => List.cons_ne_nil byte []
  have sizes : ∀ packet ∈ accentedPackets,
      (payloadOf packet).length % MAX_PACKET_LENGTH ≤ MAX_PACKET_LENGTH - 4 := by
    rw [MAX_PACKET_LENGTH_eq]
    decide
  have stream (bytes : Bytes) : (bytes.map fun byte => [byte]).flatten = bytes := by
    rw [← List.flatMap_def, List.flatMap_singleton']
  exact .mk made sizes (show 1 < 256 by decide) nonempty (stream _)

/-- A query for the rows. -/
def selectAccented : ResultSetCommand JsValue (RowObject Unit) :=
  .new 1 .query (some "SELECT 1") .linked [] [] true false 0 false

theorem isTextColumn_accented : IsTextColumn utf8Server (accentedColumn 33) where
  inRange := ColumnDefinition.inRange_accentedColumn (by decide)
  encodable := survives_accentedColumn (.inl rfl)
  encoding := rfl
  notBinary := by decide
  type := by decide

theorem sends_accentedRows : ∀ row ∈ accentedRows, ∀ column ∈ [accentedColumn 33],
    Sends .unknown (some "utf8") (row column.name) := by
  intro row member column isColumn
  obtain rfl := List.mem_singleton.mp isColumn
  simp only [accentedRows, List.mem_cons, List.not_mem_nil, or_false] at member
  rcases member with rfl | rfl | rfl
  · exact Codecs.survives_utf8 _ rfl (by decide) (by decide)
  · exact rfl
  · exact trivial

theorem places_accented :
    utf8Parsing.Places ([accentedColumn 33].map (columnField utf8Server)) where
  options := ⟨fun array => absurd array Bool.false_ne_true, by rintro ⟨⟩⟩
  names := by
    have name := inherited_small Unit (columnField utf8Server (accentedColumn 33)).name (by decide)
      (by decide)
    refine ⟨List.forall_mem_singleton.mpr (by decide), fun nests => absurd rfl nests,
      fun _ nests => absurd nests (by rintro ⟨⟩), ?_, ?_⟩
    · intro index field key fieldAt place
      obtain rfl := List.mem_singleton.mp (List.mem_of_getElem? fieldAt)
      cases place
      intro property own
      cases name.symm.trans own
    · intro index field table name' fieldAt place
      cases place
  few := by decide

end Mysql2.Commands

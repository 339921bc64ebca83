import Mysql2.Packets.Writer
import Mysql2.Parsers.BinaryRows

/-!
# Rows of the server side

`TextRow.toPacket` and `BinaryRow.toPacket` predict the length of a row and write it.  Rows of the
text protocol are read back by the row parsers.  Those of the binary protocol have a null bitmap
of another form than the one that is read.
-/

namespace Mysql2.Parsers

open Mysql2.Packets Mysql2.Packets.Packet Mysql2.Script

variable {α φ : Type}

/-! ## Writing rows -/

/-- A value of a row: `text` are the strings, and the values without a `type` that become strings
by `toString(10)`. -/
inductive RowValue
  | null
  | undefined
  | text (string : JsString)
  deriving DecidableEq, Repr

/-- A column that is a string or `null`. -/
def RowValue.ofColumn : Option JsString → RowValue
  | none => .null
  | some string => .text string

section Writing

variable (codecs : Codecs) (encoding : Option String)

/-- The length that is predicted for the values of a row. -/
def rowLength : List RowValue → Except JsError Nat
  | [] => .ok 0
  | .null :: columns | .undefined :: columns => do return 1 + (← rowLength columns)
  | .text string :: columns => do
      let length ← lengthCodedStringLength codecs string encoding
      return length + (← rowLength columns)

/-- The values of a row. -/
def writeRow : List RowValue → Writer Unit
  | [] => return
  | .null :: columns => do
      Outgoing.writeNull
      writeRow columns
  | .undefined :: columns => do
      Outgoing.writeInt8 0
      writeRow columns
  | .text string :: columns => do
      Outgoing.writeLengthCodedString codecs string encoding
      writeRow columns

/-- `TextRow.toPacket(columns, encoding)`. -/
def TextRow.toPacket (columns : List RowValue) : Except JsError Outgoing := do
  let length ← rowLength codecs encoding columns
  Outgoing.written (length + 4) (writeRow codecs encoding columns)

/-- The null bitmap of `BinaryRow.toPacket`.  Neither `null` nor `undefined` has a `type`, and
those of the other values are not `Types.NULL`. -/
def writeBitmap : List RowValue → Nat → Nat → Writer Unit
  | [], bitmap, bitValue => if bitValue ≠ 1 then Outgoing.writeInt8 bitmap else return
  | .null :: _, _, _ | .undefined :: _, _, _ => throw .typeError
  | .text _ :: columns, bitmap, bitValue => do
      if bitValue * 2 = 256 then
        Outgoing.writeInt8 bitmap
        writeBitmap columns 0 1
      else
        writeBitmap columns bitmap (bitValue * 2)

/-- `BinaryRow.toPacket(columns, encoding)`. -/
def BinaryRow.toPacket (columns : List RowValue) : Except JsError Outgoing := do
  let length ← rowLength codecs encoding columns
  Outgoing.written (length + 2 + 4) do
    Outgoing.writeInt8 0
    writeBitmap columns 0 1
    writeRow codecs encoding columns

end Writing

/-! ## Reading rows -/

/-- The types of columns that are read as strings. -/
def stringTypes : List Types :=
  [.VARCHAR, .ENUM, .SET, .TINY_BLOB, .MEDIUM_BLOB, .LONG_BLOB, .BLOB, .VAR_STRING, .STRING]

/-- A field of a string type, in an encoding. -/
structure Field.IsString (field : Field) (encoding : Option String) : Prop where
  type : Types.ofNat field.columnType ∈ stringTypes
  notBinary : field.characterSet ≠ Charsets.BINARY
  notJson : field.isJsonFormat = false
  encoding : field.encoding = encoding

/-- The value of a column as the row parsers return it. -/
def columnValue (column : Option JsString) : Value α :=
  stringValue (column.map textOf)

/-- Both row parsers read the columns, and end at the end of the packet. -/
def ParsesAs (codecs : Codecs) (encoding : Option String) (columns : List (Option JsString))
    (protocol : Protocol) (packet : Packet) : Prop :=
  ∀ {α : Type} (runtime : Runtime α) (fields : List Field)
    (options : Options (TypeCastFunction α)) (config : Config (TypeCastFunction α)),
    runtime.decode = codecs.decodeText → options.typeCast.isPlain = true →
    config.typeCast.isPlain = true → fields.length = columns.length →
    (∀ field ∈ fields, field.IsString encoding) →
      ∃ after, after.offset = packet.endOffset ∧
        compiledValues runtime fields options config protocol packet =
          (columns.map columnValue, .ok after) ∧
        staticValues runtime fields options config protocol packet =
          (columns.map columnValue, .ok after)

section Strings

variable (codecs : Codecs) (encoding : Option String)

/-- The strings of a text row, as the calls of the row parsers read them. -/
def readTextStrings : Nat → Reader (List (Option JsString))
  | 0 => return []
  | count + 1 => do
      let column ← codecs.readLengthCodedString encoding
      return column :: (← readTextStrings count)

/-- The strings of a binary row behind its null bitmap. -/
def readNotNull (nullBytes : List (Option Nat)) : Nat → NullBit → Reader (List (Option JsString))
  | 0, _ => return []
  | count + 1, nullBit => do
      let column ← if nullBit.isSet nullBytes then pure none
        else codecs.readLengthCodedString encoding
      return column :: (← readNotNull nullBytes count nullBit.next)

/-- The strings of a binary row. -/
def readBinaryStrings (count : Nat) : Reader (List (Option JsString)) := do
  let nullBytes ← readNullBitmap ((count + 7 + 2) / 8)
  readNotNull codecs encoding nullBytes count .first

/-- The strings of a row of either protocol. -/
def readStrings (protocol : Protocol) (count : Nat) : Reader (List (Option JsString)) :=
  match protocol with
  | .text => readTextStrings codecs encoding count
  | .binary => readBinaryStrings codecs encoding count

/-- The row fills its buffer, whatever that held before, and is read back to its end: by the
calls that the row parsers make, and by both of these. -/
def RoundTrips (protocol : Protocol) (row : Except JsError Outgoing)
    (columns : List (Option JsString)) : Prop :=
  ∃ packet payload, row = .ok packet ∧ packet.Fills payload ∧
    ∀ allocated : Bytes, allocated.length = packet.size →
      (∃ after, after.offset = packet.size ∧
        (readStrings codecs encoding protocol columns.length).run (packet.toPacket allocated) =
          .ok (columns, after)) ∧
      ParsesAs codecs encoding columns protocol (packet.toPacket allocated)

end Strings

/-! ## Bytes of columns -/

/-- What a row holds for a column. -/
def ColumnBytes (codecs : Codecs) (encoding : Option String) : Option JsString → Bytes → Prop
  | none, cell => cell = [0xfb]
  | some string, cell => ∃ bytes, codecs.encode string encoding = .ok bytes ∧
      bytes.length < 9007199254740992 ∧
      codecs.decode bytes encoding 0 bytes.length = .ok string ∧
      cell = writeLengthCodedBuffer bytes

section Columns

variable {codecs : Codecs} {encoding : Option String} {columns : List (Option JsString)}

theorem exists_columnBytes
    (survive : ∀ string, some string ∈ columns → codecs.Survives encoding string) :
    ∃ cells, List.Forall₂ (ColumnBytes codecs encoding) columns cells := by
  induction columns with
  | nil => exact ⟨[], .nil⟩
  | cons column columns ih =>
      obtain ⟨cells, others⟩ :=
        ih fun string member => survive string (List.mem_cons_of_mem _ member)
      cases column with
      | none => exact ⟨[0xfb] :: cells, .cons rfl others⟩
      | some string =>
          obtain ⟨bytes, encoded, short, decoded⟩ := survive string List.mem_cons_self
          exact ⟨_ :: cells, .cons ⟨bytes, encoded, short, decoded, rfl⟩ others⟩

variable {cells : List Bytes} (row : List.Forall₂ (ColumnBytes codecs encoding) columns cells)

include row

/-- The predicted length is that of the bytes. -/
theorem rowLength_eq :
    rowLength codecs encoding (columns.map .ofColumn) = .ok cells.flatten.length := by
  induction row with
  | nil => rfl
  | @cons column cell columns cells head _ ih =>
      rw [List.map_cons, List.flatten_cons, List.length_append]
      cases column with
      | none =>
          obtain rfl : cell = [0xfb] := head
          rw [RowValue.ofColumn, rowLength, ih]
          rfl
      | some string =>
          obtain ⟨bytes, encoded, -, -, rfl⟩ := head
          rw [RowValue.ofColumn, rowLength, lengthCodedStringLength, encoded, ih,
            length_writeLengthCodedBuffer]
          rfl

theorem flatten_ne_nil (nonempty : columns ≠ []) : cells.flatten ≠ [] := by
  cases row with
  | nil => exact absurd rfl nonempty
  | @cons column cell columns cells head _ =>
      have notNil : cell ≠ [] := by
        cases column with
        | none =>
            obtain rfl : cell = [0xfb] := head
            exact List.cons_ne_nil _ _
        | some string =>
            obtain ⟨bytes, -, short, -, rfl⟩ := head
            exact (isCell_writeLengthCodedBuffer short).ne_nil
      exact List.append_ne_nil_of_left_ne_nil notNil _

theorem writes_row : Writes (writeRow codecs encoding (columns.map .ofColumn)) cells.flatten := by
  induction row with
  | nil => exact Writes.nothing
  | @cons column cell columns cells head _ ih =>
      rw [List.map_cons, List.flatten_cons]
      cases column with
      | none =>
          obtain rfl : cell = [0xfb] := head
          exact Writes.writeNull.bind ih
      | some string =>
          obtain ⟨bytes, encoded, short, -, rfl⟩ := head
          have string : Writes (Outgoing.writeLengthCodedString codecs string encoding)
              (writeLengthCodedBuffer bytes) :=
            Writes.lift encoded (Writes.writeLengthCodedBuffer (by omega))
          exact string.bind ih

end Columns

/-- The call of the row parsers reads a column. -/
theorem reads_column {codecs : Codecs} {encoding : Option String} {column : Option JsString}
    {cell : Bytes} (columnBytes : ColumnBytes codecs encoding column cell) :
    Reads (codecs.readLengthCodedString encoding) cell (.ok column) := by
  cases column with
  | none =>
      obtain rfl : cell = [0xfb] := columnBytes
      intro packet rest aheadEq inside
      have isNull : packet.peekByte = some 0xfb := by rw [peekByte_eq, aheadEq]; rfl
      rw [Codecs.readLengthCodedString, run_bind_of_ok (readLengthCodedNumber_null isNull _ _)]
      rfl
  | some string =>
      obtain ⟨bytes, -, short, decoded, rfl⟩ := columnBytes
      have reads :=
        Reads.readLengthCodedStringOf codecs (isCell_writeLengthCodedBuffer short) encoding
      rwa [decoded] at reads

theorem reads_textStrings {codecs : Codecs} {encoding : Option String}
    {columns : List (Option JsString)} {cells : List Bytes}
    (row : List.Forall₂ (ColumnBytes codecs encoding) columns cells) :
    Reads (readTextStrings codecs encoding columns.length) cells.flatten (.ok columns) := by
  induction row with
  | nil => exact Reads.pure _
  | cons head _ ih => exact (reads_column head).bind (ih.map _)

/-! ## String columns of the row parsers -/

section Fields

variable {field : Field} {encoding : Option String}

theorem readField_string (isString : field.IsString encoding) (runtime : Runtime α)
    (config : Config φ) (options : Options φ) :
    readField runtime field config options = readStringValue runtime encoding := by
  have type := isString.type
  simp only [stringTypes, List.mem_cons, List.not_mem_nil, or_false] at type
  rcases type with type | type | type | type | type | type | type | type | type <;>
    simp [readField, isString.notJson, type, isString.notBinary, isString.encoding]

theorem readCode_string (isString : field.IsString encoding) (runtime : Runtime α)
    {fields : List Field} {index : Nat} (fieldAt : fields[index]? = some field)
    (config : Config φ) (options : Options φ) :
    readCode runtime fields field config options index = readStringValue runtime encoding := by
  have type := isString.type
  simp only [stringTypes, List.mem_cons, List.not_mem_nil, or_false] at type
  rcases type with type | type | type | type | type | type | type | type | type <;>
    simp [readCode, isString.notJson, type, isString.notBinary, isString.encoding, fieldAt]

theorem not_isNullColumn (isString : field.IsString encoding) : field.isNullColumn = false := by
  have type := isString.type
  simp only [stringTypes, List.mem_cons, List.not_mem_nil, or_false] at type
  rcases type with type | type | type | type | type | type | type | type | type <;>
    simp [Field.isNullColumn, type]

theorem not_readsTimezone (isString : field.IsString encoding) (protocol : Protocol)
    (options : Options φ) (config : Config φ) :
    readsTimezone protocol field options config = false := by
  have type := isString.type
  simp only [stringTypes, List.mem_cons, List.not_mem_nil, or_false] at type
  rcases type with type | type | type | type | type | type | type | type | type <;>
    simp [readsTimezone, type]

end Fields

/-- Rows without columns of type `NULL` carry nothing for them. -/
theorem carriesNull_of_none {column : Field → Column α} {fields : List Field}
    (none : ∀ field ∈ fields, field.isNullColumn = false) (packet : Packet) :
    CarriesNull column fields packet := by
  induction fields generalizing packet with
  | nil => trivial
  | cons field fields ih =>
      refine ⟨fun isNull => ?_, fun value after run => ?_⟩
      · rw [none field List.mem_cons_self] at isNull
        cases isNull
      · exact ih (fun other member => none other (List.mem_cons_of_mem _ member)) after

section Readers

variable {fields : List Field}

theorem length_textColumns (column : Nat → Field → Column α) (index : Nat) :
    (textColumns column index fields).length = fields.length := by
  induction fields generalizing index with
  | nil => rfl
  | cons field fields ih => rw [textColumns, List.length_cons, ih, List.length_cons]

theorem length_binaryColumns (column : Nat → NullBit → Field → Column α) (index : Nat)
    (nullBit : NullBit) : (binaryColumns column index nullBit fields).length = fields.length := by
  induction fields generalizing index nullBit with
  | nil => rfl
  | cons field fields ih => rw [binaryColumns, List.length_cons, ih, List.length_cons]

theorem of_mem_textColumns (property : Column α → Prop) {column : Nat → Field → Column α}
    (holds : ∀ field ∈ fields, ∀ index, property (column index field)) (index : Nat) :
    ∀ reader ∈ textColumns column index fields, property reader := by
  induction fields generalizing index with
  | nil => exact fun reader member => absurd member List.not_mem_nil
  | cons field fields ih =>
      intro reader member
      rcases List.mem_cons.mp member with rfl | member
      · exact holds field List.mem_cons_self index
      · exact ih (fun other inside => holds other (List.mem_cons_of_mem _ inside)) (index + 1)
          reader member

theorem of_mem_binaryColumns (property : Column α → Prop)
    {column : Nat → NullBit → Field → Column α} {rest : List Field}
    (holds : ∀ index nullBit field, fields[index]? = some field →
      property (column index nullBit field)) {index : Nat} (restFrom : RestFrom fields rest index)
    (nullBit : NullBit) : ∀ reader ∈ binaryColumns column index nullBit rest, property reader := by
  induction rest generalizing index nullBit with
  | nil => exact fun reader member => absurd member List.not_mem_nil
  | cons field rest ih =>
      intro reader member
      rcases List.mem_cons.mp member with rfl | member
      · exact holds index nullBit field restFrom.head
      · exact ih restFrom.tail nullBit.next reader member

end Readers

section Parsers

variable {codecs : Codecs} {encoding : Option String} (runtime : Runtime α)
  (sameDecode : runtime.decode = codecs.decodeText)

include sameDecode

theorem reads_columnValue {column : Option JsString} {cell : Bytes}
    (columnBytes : ColumnBytes codecs encoding column cell) :
    Reads (readStringValue runtime encoding) cell (.ok (columnValue column)) := by
  intro packet rest aheadEq inside
  have stringRun := @Codecs.readLengthCodedString_run codecs runtime.toDecoding sameDecode encoding
    packet
  rw [reads_column columnBytes packet rest aheadEq inside] at stringRun
  rw [readStringValue, run_bind_of_ok stringRun]
  rfl

/-- Columns that are read as strings are read one behind the other. -/
theorem readAll_strings {readers : List (Column α)}
    (readersEq : ∀ reader ∈ readers, reader.read = readStringValue runtime encoding)
    {columns : List (Option JsString)} {cells : List Bytes}
    (row : List.Forall₂ (ColumnBytes codecs encoding) columns cells)
    (lengthEq : readers.length = columns.length) {packet : Packet} {rest : Bytes}
    (aheadEq : packet.ahead = cells.flatten ++ rest)
    (inside : packet.offset + cells.flatten.length ≤ packet.endOffset) :
    readAll readers packet =
      (columns.map columnValue, .ok (packet.advance cells.flatten.length)) := by
  induction row generalizing packet readers with
  | nil =>
      obtain rfl := List.length_eq_zero_iff.mp lengthEq
      rfl
  | @cons column cell columns cells head _ ih =>
      cases readers with
      | nil => cases lengthEq
      | cons reader readers =>
          rw [List.flatten_cons, List.append_assoc] at aheadEq
          rw [List.flatten_cons, List.length_append] at inside ⊢
          have headRun : reader.read.run packet =
              .ok (columnValue column, packet.advance cell.length) := by
            rw [readersEq reader List.mem_cons_self]
            exact reads_columnValue runtime sameDecode head packet _ aheadEq (by omega)
          have behind := ahead_advance_of_append _ aheadEq rfl
          rw [readAll_cons_of_ok headRun,
            ih (fun other member => readersEq other (List.mem_cons_of_mem _ member))
              (Nat.succ.inj lengthEq) behind (by rw [offset_advance, endOffset_advance]; omega),
            advance_advance, List.map_cons]

end Parsers

/-- What the static parser reads, the generated one reads too. -/
theorem parsesAs_of_static {codecs : Codecs} {encoding : Option String}
    {columns : List (Option JsString)} {protocol : Protocol} {packet after : Packet}
    (ends : after.offset = packet.endOffset)
    (static : ∀ {α : Type} (runtime : Runtime α) (fields : List Field)
      (options : Options (TypeCastFunction α)) (config : Config (TypeCastFunction α)),
      runtime.decode = codecs.decodeText → options.typeCast.isPlain = true →
      config.typeCast.isPlain = true → fields.length = columns.length →
      (∀ field ∈ fields, field.IsString encoding) →
        staticValues runtime fields options config protocol packet =
          (columns.map columnValue, .ok after)) :
    ParsesAs codecs encoding columns protocol packet := by
  intro α runtime fields options config sameDecode plain configPlain lengthEq strings
  have staticEq :=
    static runtime fields options config sameDecode plain configPlain lengthEq strings
  have row : RowPacket runtime fields options config protocol packet := by
    cases protocol with
    | text =>
        exact carriesNull_of_none (fun field member => not_isNullColumn (strings field member)) _
    | binary =>
        intro nullBytes after run index field fieldAt isNull
        rw [not_isNullColumn (strings field (List.mem_of_getElem? fieldAt))] at isNull
        cases isNull
  refine ⟨after, ends, ?_, staticEq⟩
  rw [compiledValues_eq runtime plain configPlain (.inr fun field member =>
    not_readsTimezone (strings field member) protocol options config) row]
  exact staticEq

/-! ## The text protocol -/

/-- A row of the text protocol fills its buffer and is read back to its end. -/
theorem textRow_roundTrips (codecs : Codecs) (encoding : Option String)
    (columns : List (Option JsString))
    (survive : ∀ string, some string ∈ columns → codecs.Survives encoding string) :
    RoundTrips codecs encoding .text
      (TextRow.toPacket codecs encoding (columns.map .ofColumn)) columns := by
  obtain ⟨cells, row⟩ := exists_columnBytes survive
  obtain ⟨packet, written, fills⟩ :
      ∃ packet, Outgoing.written (cells.flatten.length + 4)
        (writeRow codecs encoding (columns.map .ofColumn)) = .ok packet ∧
          packet.Fills cells.flatten :=
    (writes_row row).fills_iff.mpr ⟨rfl, Nat.add_comm _ _⟩
  refine ⟨packet, _, ?_, fills, fun allocated lengthEq => ?_⟩
  · rw [TextRow.toPacket, rowLength_eq row]
    exact written
  · obtain ⟨aheadEq, endEq⟩ := fills.ahead_append lengthEq
    have ends : ((packet.toPacket allocated).advance cells.flatten.length).offset =
        (packet.toPacket allocated).endOffset := by
      rw [offset_advance, endEq]
    refine ⟨⟨_, ends, reads_textStrings row _ _ aheadEq (Nat.le_of_eq endEq.symm)⟩, ?_⟩
    apply parsesAs_of_static ends
    intro α runtime fields options config sameDecode plain configPlain lengthEq strings
    rw [staticValues]
    refine readAll_strings runtime sameDecode ?_ row ((length_textColumns _ _).trans lengthEq)
      aheadEq (Nat.le_of_eq endEq.symm)
    apply of_mem_textColumns fun reader : Column α =>
      reader.read = readStringValue runtime encoding
    intro field member index
    rw [staticTextColumn_plain runtime plain configPlain]
    exact readField_string (strings field member) runtime config options

/-- `[null, 'é', '']` -/
def accentedColumns : List (Option JsString) :=
  [none, some (units "é"), some []]

theorem textRow_roundTrips_accented :
    RoundTrips .unknown (some "utf8") .text
      (TextRow.toPacket .unknown (some "utf8") (accentedColumns.map .ofColumn))
      accentedColumns := by
  apply textRow_roundTrips
  intro string member
  have cases : string = units "é" ∨ string = [] := by simpa [accentedColumns] using member
  rcases cases with rfl | rfl
  · exact Codecs.survives_utf8 _ rfl (by decide) (by decide)
  · exact Codecs.survives_utf8 _ rfl (by decide) (by decide)

/-! ## The binary protocol -/

/-- A byte for eight columns, and one for those that are left. -/
theorem writes_bitmap (strings : List JsString) {power : Nat} (small : power < 8) :
    Writes (writeBitmap (strings.map .text) 0 (2 ^ power))
      (List.replicate ((power + strings.length + 7) / 8) 0) := by
  have byte : Writes (Outgoing.writeInt8 0) [0] := Writes.writeInt8 (by decide)
  induction strings generalizing power with
  | nil =>
      rw [List.map_nil, writeBitmap, List.length_nil]
      by_cases first : power = 0
      · subst first
        exact Writes.nothing
      · have notOne : 2 ^ power ≠ 1 := by
          intro one
          exact first (Nat.pow_right_injective (Nat.le_refl 2) one)
        rw [if_pos notOne, show (power + 0 + 7) / 8 = 1 by omega]
        exact byte
  | cons string strings ih =>
      rw [List.map_cons, writeBitmap, List.length_cons, ← Nat.pow_succ]
      by_cases last : power = 7
      · subst last
        rw [if_pos (by decide),
          show (7 + (strings.length + 1) + 7) / 8 = (0 + strings.length + 7) / 8 + 1 by omega]
        exact byte.bind (ih (show 0 < 8 by decide))
      · have notLast : 2 ^ (power + 1) ≠ 256 := by
          intro eight
          have := Nat.pow_right_injective (Nat.le_refl 2) (eight.trans (show 256 = 2 ^ 8 by decide))
          omega
        rw [if_neg notLast, show power + (strings.length + 1) = power + 1 + strings.length by omega]
        exact ih (by omega)

/-- `null` has no `type`. -/
theorem writeBitmap_null {columns : List RowValue} (null : RowValue.null ∈ columns)
    (bitmap bitValue : Nat) (packet : Outgoing) :
    ∃ error, (writeBitmap columns bitmap bitValue).run packet = .error error := by
  induction columns generalizing bitmap bitValue packet with
  | nil => exact absurd null List.not_mem_nil
  | cons column columns ih =>
      cases column with
      | null => exact ⟨_, rfl⟩
      | undefined => exact ⟨_, rfl⟩
      | text string =>
          have null : RowValue.null ∈ columns := by simpa using null
          rw [writeBitmap]
          split
          case isTrue =>
            cases byteRun : (Outgoing.writeInt8 bitmap).run packet with
            | error error =>
                refine ⟨error, ?_⟩
                rw [StateT.run_bind, byteRun]
                rfl
            | ok result =>
                rw [Script.run_bind_of_returns byteRun]
                exact ih null 0 1 result.2
          case isFalse => exact ih null bitmap (bitValue * 2) packet

section Binary

variable {codecs : Codecs} {encoding : Option String} {strings : List JsString} {cells : List Bytes}
  (row : List.Forall₂ (ColumnBytes codecs encoding) (strings.map some) cells)

include row

theorem writes_binaryRow :
    Writes (do
        Outgoing.writeInt8 0
        writeBitmap (strings.map .text) 0 1
        writeRow codecs encoding (strings.map .text))
      (0 :: (List.replicate ((strings.length + 7) / 8) 0 ++ cells.flatten)) := by
  have bitmap := writes_bitmap strings (show 0 < 8 by decide)
  have values := writes_row row
  rw [Nat.zero_add] at bitmap
  rw [List.map_map] at values
  exact (Writes.writeInt8 (by decide)).bind (bitmap.bind values)

/-- One byte is reserved for the bitmap, whatever its size. -/
theorem binaryRow_fills_iff (payload : Bytes) :
    (∃ packet, BinaryRow.toPacket codecs encoding (strings.map .text) = .ok packet ∧
        packet.Fills payload) ↔
      payload = 0 :: (List.replicate ((strings.length + 7) / 8) 0 ++ cells.flatten) ∧
        1 ≤ strings.length ∧ strings.length ≤ 8 := by
  have lengthEq := rowLength_eq row
  rw [List.map_map] at lengthEq
  have lengthEq : rowLength codecs encoding (strings.map .text) = .ok cells.flatten.length :=
    lengthEq
  have toPacketEq : BinaryRow.toPacket codecs encoding (strings.map .text) =
      Outgoing.written (cells.flatten.length + 2 + 4) (do
        Outgoing.writeInt8 0
        writeBitmap (strings.map .text) 0 1
        writeRow codecs encoding (strings.map .text)) := by
    rw [BinaryRow.toPacket, lengthEq]
    rfl
  rw [toPacketEq, (writes_binaryRow row).fills_iff]
  apply and_congr_right
  intro _
  rw [List.length_cons, List.length_append, List.length_replicate]
  omega

end Binary

theorem isSet_zeros (nullBit : NullBit) : nullBit.isSet (nullBytesOf [0]) = false := by
  rw [NullBit.isSet]
  have noBits : ((nullBytesOf [0])[nullBit.byteIndex]?.bind id).getD 0 = 0 := by
    cases nullBit.byteIndex <;> rfl
  rw [noBits, hasFlag, Nat.zero_and]
  rfl

section UpToSix

variable {codecs : Codecs} {encoding : Option String} {columns : List (Option JsString)}
  {cells : List Bytes} (row : List.Forall₂ (ColumnBytes codecs encoding) columns cells)

include row

theorem reads_notNull (nullBit : NullBit) :
    Reads (readNotNull codecs encoding (nullBytesOf [0]) columns.length nullBit) cells.flatten
      (.ok columns) := by
  induction row generalizing nullBit with
  | nil => exact Reads.pure _
  | cons head _ ih =>
      rw [List.length_cons, readNotNull, isSet_zeros]
      exact (reads_column head).bind ((ih nullBit.next).map _)

/-- Behind one byte of zeros all values are read. -/
theorem binaryRow_reads {payload : Bytes} (payloadEq : payload = 0 :: ([0] ++ cells.flatten))
    (oneByte : (columns.length + 7 + 2) / 8 = 1) {packet : Packet}
    (aheadEq : packet.ahead = payload ++ [])
    (endEq : packet.endOffset = packet.offset + payload.length) :
    (∃ after, after.offset = packet.endOffset ∧
        (readStrings codecs encoding .binary columns.length).run packet = .ok (columns, after)) ∧
      ParsesAs codecs encoding columns .binary packet := by
  subst payloadEq
  have headerRun : (readNullBitmap 1).run packet = .ok (nullBytesOf [0], packet.advance 2) :=
    @readNullBitmap_run 0 [0] _ _ aheadEq
  have behind : (packet.advance 2).ahead = cells.flatten ++ [] :=
    ahead_advance_of_append [0, 0] aheadEq rfl
  have inside : (packet.advance 2).endOffset =
      (packet.advance 2).offset + cells.flatten.length := by
    rw [endOffset_advance, offset_advance, endEq, List.length_cons, List.length_append]
    show packet.offset + (1 + cells.flatten.length + 1) = _
    omega
  have ends : ((packet.advance 2).advance cells.flatten.length).offset = packet.endOffset :=
    inside.symm
  constructor
  · refine ⟨_, ends, ?_⟩
    rw [readStrings, readBinaryStrings, oneByte, run_bind_of_ok headerRun]
    exact reads_notNull row .first _ _ behind (Nat.le_of_eq inside.symm)
  · apply parsesAs_of_static ends
    intro α runtime fields options config sameDecode plain configPlain lengthEq strings
    rw [staticValues, nullBitmapLength, lengthEq, oneByte, headerRun]
    refine readAll_strings runtime sameDecode ?_ row ((length_binaryColumns _ _ _).trans lengthEq)
      behind (Nat.le_of_eq inside.symm)
    refine of_mem_binaryColumns (fun reader : Column α =>
      reader.read = readStringValue runtime encoding) ?_ (RestFrom.self fields) _
    intro index nullBit field fieldAt
    rw [staticBinaryColumn_plain runtime fields plain configPlain, isSet_zeros]
    exact readCode_string (strings field (List.mem_of_getElem? fieldAt)) runtime fieldAt config
      options

end UpToSix

theorem readInt32_after {packet after : Packet} {word : Nat}
    (run : readInt32.run packet = .ok (word, after)) : after = packet.advance 4 := by
  have run : StateT.run (if packet.offset + 4 ≤ packet.buffer.length then _ else _)
    (packet.advance 4) = Except.ok (word, after) := run
  split at run
  · cases run
    rfl
  · cases run

/-- The sizes of the forms of a length, and what they can hold. -/
theorem readLengthCodedNumber_sizes {packet after : Packet} {len : LengthCoded}
    (run : (readLengthCodedNumber false false).run packet = .ok (len, after))
    (notNull : len ≠ .null) :
    packet.ahead ≠ [] ∧ ∃ size, after = packet.advance size ∧
      (size = 1 ∧ len.toNat < 251 ∨ size = 3 ∧ len.toNat < 65536 ∨
        size = 4 ∧ len.toNat < 16777216 ∨ size = 9) := by
  have byteLt (packet : Packet) : (packet.ahead.head?.map UInt8.toNat).getD 0 < 256 := by
    cases packet.ahead.head? with
    | none => decide
    | some byte => exact byte.toNat_lt
  rw [readLengthCodedNumber, run_bind_of_ok (readInt8_run packet)] at run
  cases aheadEq : packet.ahead with
  | nil =>
      rw [aheadEq] at run
      cases run
  | cons marker rest =>
      rw [aheadEq] at run
      refine ⟨List.cons_ne_nil _ _, ?_⟩
      dsimp only [List.head?_cons, Option.map_some] at run
      split at run
      case isTrue one =>
        cases run
        exact ⟨1, rfl, .inl ⟨rfl, one⟩⟩
      case isFalse =>
        split at run
        case isTrue =>
          cases run
          exact absurd rfl notNull
        case isFalse =>
          split at run
          case isTrue =>
            rw [run_bind_of_ok (readInt8_run _), run_bind_of_ok (readInt8_run _)] at run
            have low := byteLt (packet.advance 1)
            have high := byteLt ((packet.advance 1).advance 1)
            cases run
            refine ⟨3, rfl, .inr (.inl ⟨rfl, ?_⟩)⟩
            rw [LengthCoded.toNat, Nat.shiftLeft_eq]
            omega
          case isFalse =>
            split at run
            case isTrue =>
              rw [run_bind_of_ok (readInt8_run _), run_bind_of_ok (readInt8_run _),
                run_bind_of_ok (readInt8_run _)] at run
              have low := byteLt (packet.advance 1)
              have middle := byteLt ((packet.advance 1).advance 1)
              have high := byteLt (((packet.advance 1).advance 1).advance 1)
              cases run
              refine ⟨4, rfl, .inr (.inr (.inl ⟨rfl, ?_⟩))⟩
              rw [LengthCoded.toNat, Nat.shiftLeft_eq, Nat.shiftLeft_eq]
              omega
            case isFalse =>
              split at run
              case isTrue =>
                rw [StateT.run_bind, Script.bind_eq_ok_iff] at run
                obtain ⟨⟨word0, second⟩, firstRun, run⟩ := run
                rw [StateT.run_bind, Script.bind_eq_ok_iff] at run
                obtain ⟨⟨word1, third⟩, secondRun, run⟩ := run
                obtain rfl := readInt32_after firstRun
                obtain rfl := readInt32_after secondRun
                cases run
                exact ⟨9, rfl, .inr (.inr (.inr rfl))⟩
              case isFalse => cases run

section Utf16

variable {codecs : Codecs} {encoding : Option String}
  (isUcs2 : nativeEncoding encoding = some .ucs2)

include isUcs2

/-- In UTF-16 no string is read of fewer bytes than it is written in. -/
theorem readLengthCodedString_cost {packet after : Packet} {string : JsString}
    (run : (codecs.readLengthCodedString encoding).run packet = .ok (some string, after)) :
    after.ahead.length + (lengthCodedNumberLength (2 * string.length) + 2 * string.length) ≤
      packet.ahead.length := by
  cases lengthRun : (readLengthCodedNumber false false).run packet with
  | error error =>
      rw [Codecs.readLengthCodedString, run_bind_of_error lengthRun] at run
      cases run
  | ok read =>
      obtain ⟨len, behind⟩ := read
      by_cases null : len = .null
      · subst null
        rw [Codecs.readLengthCodedString, run_bind_of_ok lengthRun] at run
        cases run
      · obtain ⟨nonempty, size, rfl, forms⟩ := readLengthCodedNumber_sizes lengthRun null
        have positive := List.length_pos_iff.mpr nonempty
        rw [codecs.readLengthCodedString_of_length encoding lengthRun null,
          Script.map_eq_ok_iff] at run
        obtain ⟨decoded, decodeEq, result⟩ := run
        cases result
        -- what is decoded are bytes ahead, as many as the length tells or as there are
        have content : slice (packet.advance size).buffer (packet.advance size).offset
            ((packet.advance size).offset + len.toNat) =
              (packet.ahead.drop size).take len.toNat := by
          rw [slice, Nat.add_sub_cancel_left, ← ahead_advance]
          rfl
        have long : 2 * string.length ≤ min len.toNat (packet.ahead.length - size) := by
          rw [Codecs.decode_eq, content, Codecs.decodeBytes, isUcs2] at decodeEq
          have bound := length_ucs2Slice ((packet.ahead.drop size).take len.toNat)
          rw [List.length_take, List.length_drop] at bound
          split at decodeEq
          case isTrue =>
            cases decodeEq
            exact Nat.zero_le _
          case isFalse =>
            cases decodeEq
            exact bound
        rw [ahead_advance, ahead_advance, List.length_drop, List.length_drop,
          lengthCodedNumberLength]
        split
        · omega
        · split
          · omega
          · split
            · omega
            · omega

/-- Neither is a row of values that are not `NULL`. -/
theorem readNotNull_cost {strings : List JsString} {cells : List Bytes}
    (row : List.Forall₂ (ColumnBytes codecs encoding) (strings.map some) cells)
    {nullBytes : List (Option Nat)} {nullBit : NullBit} {packet after : Packet}
    (run : (readNotNull codecs encoding nullBytes strings.length nullBit).run packet =
      .ok (strings.map some, after)) : cells.flatten.length ≤ packet.ahead.length := by
  induction strings generalizing cells nullBit packet after with
  | nil =>
      cases row
      exact Nat.zero_le _
  | cons string strings ih =>
      cases row with
      | @cons _ cell _ cells head others =>
          obtain ⟨bytes, encoded, -, -, rfl⟩ := head
          rw [codecs.encode_ucs2 isUcs2] at encoded
          cases encoded
          rw [List.length_cons, readNotNull] at run
          split at run
          case isTrue =>
            rw [pure_bind, StateT.run_bind, Script.bind_eq_ok_iff] at run
            obtain ⟨⟨columns, last⟩, restRun, result⟩ := run
            cases result
          case isFalse =>
            rw [StateT.run_bind, Script.bind_eq_ok_iff] at run
            obtain ⟨⟨column, behind⟩, stringRun, run⟩ := run
            rw [StateT.run_bind, Script.bind_eq_ok_iff] at run
            obtain ⟨⟨columns, last⟩, restRun, result⟩ := run
            cases result
            have headCost := readLengthCodedString_cost isUcs2 stringRun
            have restCost : cells.flatten.length ≤ behind.ahead.length := ih others restRun
            rw [List.flatten_cons, List.length_append, length_writeLengthCodedBuffer, length_ucs2]
            omega

end Utf16

section Iff

variable {codecs : Codecs} {encoding : Option String}

/-- A row with `null` is not written. -/
theorem binaryRow_null {columns : List (Option JsString)} (null : none ∈ columns) :
    ∃ error, BinaryRow.toPacket codecs encoding (columns.map .ofColumn) = .error error := by
  rw [BinaryRow.toPacket]
  cases rowLength codecs encoding (columns.map .ofColumn) with
  | error error => exact ⟨error, rfl⟩
  | ok length =>
      have isNull : RowValue.null ∈ columns.map .ofColumn := List.mem_map.mpr ⟨none, null, rfl⟩
      have header : (Outgoing.writeInt8 0).run (.alloc (length + 2 + 4)) =
          .ok ((), (Outgoing.alloc (length + 2 + 4)).put [0]) := by
        rcases Writes.writeInt8 (show 0 < 256 by decide) (.alloc (length + 2 + 4)) with
          run | ⟨full, -⟩
        · exact run
        · have full : length + 2 + 4 < 4 + 1 := full
          omega
      obtain ⟨error, bitmapRun⟩ :=
        writeBitmap_null isNull 0 1 ((Outgoing.alloc (length + 2 + 4)).put [0])
      refine ⟨error, ?_⟩
      show Outgoing.written (length + 2 + 4) _ = _
      rw [Outgoing.written, Script.run_bind_of_returns header, StateT.run_bind, bitmapRun]
      rfl

theorem exists_strings {columns : List (Option JsString)} (noNull : none ∉ columns) :
    ∃ strings : List JsString, columns = strings.map some := by
  induction columns with
  | nil => exact ⟨[], rfl⟩
  | cons column columns ih =>
      cases column with
      | none => exact absurd List.mem_cons_self noNull
      | some string =>
          obtain ⟨strings, rfl⟩ := ih fun member => noNull (List.mem_cons_of_mem _ member)
          exact ⟨string :: strings, rfl⟩

/-- In every encoding, a row of the binary protocol is only written without `null`, and only
fills its buffer if the bitmap has one byte. -/
theorem binaryRow_fills {columns : List (Option JsString)}
    (survive : ∀ string, some string ∈ columns → codecs.Survives encoding string)
    (roundTrips : RoundTrips codecs encoding .binary
      (BinaryRow.toPacket codecs encoding (columns.map .ofColumn)) columns) :
    none ∉ columns ∧ 1 ≤ columns.length ∧ columns.length ≤ 8 := by
  obtain ⟨packet, payload, written, fills, -⟩ := roundTrips
  have noNull : none ∉ columns := by
    intro null
    obtain ⟨error, thrown⟩ := @binaryRow_null codecs encoding columns null
    rw [thrown] at written
    cases written
  obtain ⟨strings, rfl⟩ := exists_strings noNull
  obtain ⟨cells, row⟩ := exists_columnBytes survive
  rw [List.map_map] at written
  have filled := (binaryRow_fills_iff row payload).mp ⟨packet, written, fills⟩
  rw [List.length_map]
  exact ⟨noNull, filled.2⟩

/-- Rows of one to six strings without `null` round-trip in every encoding, and no other rows in
all of them. -/
theorem binaryRow_roundTrips_iff (columns : List (Option JsString))
    (short : ∀ string, some string ∈ columns → string.length < 4503599627370496) :
    (∀ (codecs : Codecs) (encoding : Option String),
      (∀ string, some string ∈ columns → codecs.Survives encoding string) →
        RoundTrips codecs encoding .binary
          (BinaryRow.toPacket codecs encoding (columns.map .ofColumn)) columns) ↔
      none ∉ columns ∧ 1 ≤ columns.length ∧ columns.length ≤ 6 := by
  constructor
  · intro all
    have survive : ∀ string, some string ∈ columns →
        Codecs.unknown.Survives (some "ucs2") string :=
      fun string member => Codecs.survives_ucs2 _ rfl (short string member)
    have roundTrips := all .unknown (some "ucs2") survive
    obtain ⟨noNull, nonempty, small⟩ := binaryRow_fills survive roundTrips
    refine ⟨noNull, nonempty, Nat.le_of_not_lt fun seven => ?_⟩
    obtain ⟨strings, rfl⟩ := exists_strings noNull
    rw [List.length_map] at nonempty small seven
    obtain ⟨cells, row⟩ := exists_columnBytes survive
    obtain ⟨packet, payload, written, fills, reads⟩ := roundTrips
    rw [List.map_map] at written
    obtain ⟨payloadEq, -⟩ := (binaryRow_fills_iff row payload).mp ⟨packet, written, fills⟩
    rw [show (strings.length + 7) / 8 = 1 by omega] at payloadEq
    obtain ⟨⟨after, -, run⟩, -⟩ := reads (List.replicate packet.size 0) List.length_replicate
    obtain ⟨aheadEq, -⟩ := fills.ahead_append (List.length_replicate (a := (0 : UInt8)))
    -- the second byte of the bitmap that is read is the first one of the values
    have twoBytes : (strings.length + 7 + 2) / 8 = 2 := by omega
    rw [readStrings, readBinaryStrings, List.length_map, twoBytes] at run
    subst payloadEq
    have notEmpty : strings.map some ≠ [] := by
      rintro empty
      rw [List.map_eq_nil_iff.mp empty] at nonempty
      exact absurd nonempty (by decide)
    obtain ⟨first, rest, flatEq⟩ := List.exists_cons_of_ne_nil (flatten_ne_nil row notEmpty)
    rw [flatEq] at aheadEq
    have headerRun : (readNullBitmap 2).run (packet.toPacket (List.replicate packet.size 0)) =
        .ok (nullBytesOf [0, first],
          (packet.toPacket (List.replicate packet.size 0)).advance 3) :=
      @readNullBitmap_run 0 [0, first] _ _ aheadEq
    rw [run_bind_of_ok headerRun] at run
    have cost := readNotNull_cost rfl row run
    have behind : ((packet.toPacket (List.replicate packet.size 0)).advance 3).ahead = rest ++ [] :=
      ahead_advance_of_append [0, 0, first] aheadEq rfl
    rw [behind, flatEq, List.length_cons, List.append_nil] at cost
    omega
  · rintro ⟨noNull, nonempty, small⟩ codecs encoding survive
    obtain ⟨strings, rfl⟩ := exists_strings noNull
    rw [List.length_map] at nonempty small
    obtain ⟨cells, row⟩ := exists_columnBytes survive
    obtain ⟨packet, written, fills⟩ := (binaryRow_fills_iff row _).mpr ⟨rfl, nonempty, by omega⟩
    refine ⟨packet, _, by rw [List.map_map]; exact written, fills, fun allocated lengthEq => ?_⟩
    obtain ⟨aheadEq, endEq⟩ := fills.ahead_append lengthEq
    refine binaryRow_reads row ?_ ?_ aheadEq endEq
    · rw [show (strings.length + 7) / 8 = 1 by omega]
      rfl
    · rw [List.length_map]
      omega

end Iff

/-- Seven strings do not round-trip in every encoding. -/
theorem binaryRow_roundTrips_iff_seven :
    (∀ (codecs : Codecs) (encoding : Option String),
      (∀ string, some string ∈ List.replicate 7 (some (units "a")) →
        codecs.Survives encoding string) →
        RoundTrips codecs encoding .binary (BinaryRow.toPacket codecs encoding
          ((List.replicate 7 (some (units "a"))).map .ofColumn))
          (List.replicate 7 (some (units "a")))) ↔
      none ∉ List.replicate 7 (some (units "a")) ∧
        1 ≤ (List.replicate 7 (some (units "a"))).length ∧
        (List.replicate 7 (some (units "a"))).length ≤ 6 :=
  binaryRow_roundTrips_iff _ fun string member => by
    obtain rfl := Option.some.inj (List.eq_of_mem_replicate member)
    decide

/-- A row of one `null` is not written. -/
theorem not_roundTrips_null :
    ¬∀ (codecs : Codecs) (encoding : Option String) (columns : List (Option JsString)),
      (∀ string, some string ∈ columns → codecs.Survives encoding string) →
        RoundTrips codecs encoding .binary
          (BinaryRow.toPacket codecs encoding (columns.map .ofColumn)) columns := by
  intro all
  have roundTrips := all .unknown (some "utf8") [none] (by simp)
  exact (binaryRow_fills (by simp) roundTrips).1 List.mem_cons_self

end Mysql2.Parsers

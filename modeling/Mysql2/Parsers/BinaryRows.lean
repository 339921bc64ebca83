import Mysql2.Packets.BinaryReads
import Mysql2.Parsers.TextColumns

/-!
# Rows of the binary protocol

A row is a status byte, a null bitmap and the encodings of the values that are
not `NULL`.  Both parsers read it to its end.  The induction over the columns
keeps the bit of a field at its place in the bitmap.
-/

namespace Mysql2.Parsers

open Mysql2.Packets Mysql2.Packets.Packet Mysql2.Script

variable {α φ : Type}

/-! ## Encodings -/

/-- The encodings that a call reads. -/
def PacketCall.Encodes : PacketCall → Bytes → Prop
  | .null, bytes => bytes = []
  | .readInt8, bytes | .readSInt8, bytes => bytes.length = 1
  | .readInt16, bytes | .readSInt16, bytes => bytes.length = 2
  | .readInt32, bytes | .readSInt32, bytes | .readFloat, bytes => bytes.length = 4
  | .readInt64JSNumber, bytes | .readSInt64JSNumber, bytes | .readInt64String, bytes
  | .readSInt64String, bytes | .readInt64, bytes | .readSInt64, bytes | .readDouble, bytes =>
      bytes.length = 8
  | .readDateTimeString _ _, bytes | .readDateTime _, bytes => IsPackedDate bytes
  | .readTimeString, bytes => IsPackedTime bytes
  | call, bytes => ∃ content, IsCell content bytes ∧ call.EndsBehind content

theorem encodes_shape (call : PacketCall) (bytes : Bytes) :
    call.shape.Encodes bytes ↔ call.Encodes bytes := by
  cases call <;> exact Iff.rfl

/-- A call for a text is read from its column. -/
theorem encodes_iff_of_isLengthCoded {call : PacketCall} (lengthCoded : call.isLengthCoded = true)
    (bytes : Bytes) :
    call.Encodes bytes ↔ ∃ content, IsCell content bytes ∧ call.EndsBehind content := by
  cases call <;> first | exact Iff.rfl | exact absurd lengthCoded Bool.false_ne_true

/-- A call for a number, a date or a time does not throw. -/
theorem returns_of_encodes (runtime : Runtime α) (fields : List Field) {call : PacketCall}
    {bytes : Bytes} (encodes : call.Encodes bytes) (notLengthCoded : call.isLengthCoded = false) :
    Returns (call.run runtime fields) bytes := by
  cases call with
  | null =>
      obtain rfl : bytes = [] := encodes
      exact Returns.pure _
  | readInt8 => exact (Returns.readInt8 encodes).map byteValue
  | readSInt8 => exact (Returns.readSInt8 encodes).map Value.number
  | readInt16 => exact (Returns.readInt16 encodes).map fun value : Nat => Value.number (value : Int)
  | readSInt16 =>
      exact ((Returns.readInt16 encodes).map (toSigned 16)).map Value.number
  | readInt32 => exact (Returns.readInt32 encodes).map fun value : Nat => Value.number (value : Int)
  | readSInt32 =>
      exact ((Returns.readInt32 encodes).map (toSigned 32)).map Value.number
  | readInt64JSNumber => exact Returns.words encodes fun word0 word1 => Returns.pure _
  | readSInt64JSNumber => exact Returns.words encodes fun word0 word1 => Returns.pure _
  | readInt64String => exact Returns.words encodes fun word0 word1 => Returns.pure _
  | readSInt64String => exact Returns.words encodes fun word0 word1 => Returns.pure _
  | readInt64 =>
      refine Returns.words encodes fun word0 word1 => ?_
      dsimp only
      split <;> exact Returns.pure _
  | readSInt64 =>
      refine Returns.words encodes fun word0 word1 => ?_
      dsimp only
      split <;> exact Returns.pure _
  | readFloat => exact (Returns.readFloat runtime encodes).map Value.other
  | readDouble => exact (Returns.readDouble runtime encodes).map Value.other
  | readDateTimeString decimals columnType =>
      exact (Returns.readDateTimeString encodes decimals " " (some columnType)).map Value.string
  | readDateTime timezone => exact Returns.readDateTime encodes runtime (some timezone)
  | readTimeString => exact (Returns.readTimeString encodes).map Value.string
  | _ => cases notLengthCoded

/-- A reader takes just some bytes, and throws exactly if they are a text that a conversion throws
for. -/
def ReadsBy (runtime : Runtime α) (conversion : Conversion) (reader : Reader (Value α))
    (bytes : Bytes) : Prop :=
  ∃ result, Reads reader bytes result ∧ ((∃ error, result = .error error) ↔
    ∃ content, IsCell content bytes ∧ conversion.ThrowsFor runtime content)

/-- A call takes its encoding, and throws exactly if its conversion does. -/
theorem reads_of_encodes (runtime : Runtime α) (fields : List Field) {call : PacketCall}
    {bytes : Bytes} (encodes : call.Encodes bytes) :
    ReadsBy runtime (call.conversion fields) (call.run runtime fields) bytes := by
  cases lengthCoded : call.isLengthCoded with
  | true =>
      obtain ⟨content, isCell, ends⟩ := (encodes_iff_of_isLengthCoded lengthCoded bytes).mp encodes
      obtain ⟨result, reads, throws⟩ := reads_of_endsBehind runtime fields isCell lengthCoded ends
      refine ⟨result, reads, throws.trans ⟨fun throwsFor => ⟨content, isCell, throwsFor⟩, ?_⟩⟩
      rintro ⟨other, isOther, throwsFor⟩
      rwa [isCell.unique isOther]
  | false =>
      obtain ⟨value, reads⟩ := returns_of_encodes runtime fields encodes lengthCoded
      have safe : call.conversion fields = .safe := by
        cases call <;> first | rfl | cases lengthCoded
      refine ⟨.ok value, reads, ?_, ?_⟩
      · rintro ⟨error, throws⟩
        cases throws
      · rintro ⟨content, -, throwsFor⟩
        rw [safe] at throwsFor
        exact throwsFor.elim

/-- A call takes its encoding. -/
theorem takes_of_encodes (runtime : Runtime α) (fields : List Field) {call : PacketCall}
    {bytes : Bytes} (encodes : call.Encodes bytes) : Takes (call.run runtime fields) bytes := by
  obtain ⟨result, reads, -⟩ := reads_of_encodes runtime fields encodes
  exact ⟨result, reads⟩

/-- Whether the encoding of a column begins with its length. -/
def Field.isLengthCoded (field : Field) : Bool :=
  field.isJsonFormat ||
    match Types.ofNat field.columnType with
    | .NULL | .TINY | .SHORT | .YEAR | .LONG | .INT24 | .FLOAT | .LONGLONG | .DOUBLE | .DATE
    | .DATETIME | .TIMESTAMP | .NEWDATE | .TIME => false
    | _ => true

/-- The encodings of a column, by its type.  A decimal is more than a sign, and the elements of a
vector have four bytes each. -/
def Field.Encodes (field : Field) (bytes : Bytes) : Prop :=
  if field.isJsonFormat then ∃ content, IsCell content bytes
  else
    match Types.ofNat field.columnType with
    | .NULL => bytes = []
    | .TINY => bytes.length = 1
    | .SHORT | .YEAR => bytes.length = 2
    | .LONG | .INT24 | .FLOAT => bytes.length = 4
    | .LONGLONG | .DOUBLE => bytes.length = 8
    | .DATE | .DATETIME | .TIMESTAMP | .NEWDATE => IsPackedDate bytes
    | .TIME => IsPackedTime bytes
    | .DECIMAL | .NEWDECIMAL => ∃ content, IsCell content bytes ∧ content ≠ [0x2d]
    | .VECTOR => ∃ content, IsCell content bytes ∧ 4 ∣ content.length
    | _ => ∃ content, IsCell content bytes

/-- The encodings that a column is read from.  Without a cast each column is read as a text. -/
def Field.EncodesWith (options : Options φ) (field : Field) (bytes : Bytes) : Prop :=
  field.Encodes bytes ∧ (options.typeCast = .false → field.isLengthCoded = true)

theorem Field.Encodes.isCell {field : Field} {bytes : Bytes} (encodes : field.Encodes bytes)
    (lengthCoded : field.isLengthCoded = true) : ∃ content, IsCell content bytes := by
  rw [Field.Encodes] at encodes
  rw [Field.isLengthCoded] at lengthCoded
  cases json : field.isJsonFormat with
  | true =>
      rw [json, if_pos rfl] at encodes
      exact encodes
  | false =>
      rw [json, if_neg Bool.false_ne_true] at encodes
      rw [json, Bool.false_or] at lengthCoded
      cases typeEq : Types.ofNat field.columnType <;> simp only [typeEq] at encodes lengthCoded <;>
        first
        | exact encodes
        | exact absurd lengthCoded Bool.false_ne_true
        | exact ⟨encodes.choose, encodes.choose_spec.1⟩

/-- The call of the generated code reads the encodings of its column. -/
theorem encodes_binaryReadCodeFor {field : Field} (config : Config φ) (options : Options φ)
    (index : Nat) {bytes : Bytes} (encodes : field.Encodes bytes) :
    (binaryReadCodeFor field config options index).call.Encodes bytes := by
  -- a length-coded text behind which every call but a few ends
  have text {call : PacketCall} (ends : ∀ content, call.EndsBehind content)
      (isText : ∃ content, IsCell content bytes)
      (isCall : call.Encodes bytes = ∃ content, IsCell content bytes ∧ call.EndsBehind content) :
      call.Encodes bytes := by
    obtain ⟨content, isCell⟩ := isText
    rw [isCall]
    exact ⟨content, isCell, ends content⟩
  rw [Field.Encodes] at encodes
  cases json : field.isJsonFormat with
  | true =>
      rw [json, if_pos rfl] at encodes
      simp only [binaryReadCodeFor, json, if_true]
      split <;> exact text (fun _ => trivial) encodes rfl
  | false =>
      rw [json, if_neg Bool.false_ne_true] at encodes
      simp only [binaryReadCodeFor, json, Bool.false_eq_true, if_false]
      cases typeEq : Types.ofNat field.columnType <;> simp only [typeEq] at encodes ⊢
      case DECIMAL | NEWDECIMAL =>
        obtain ⟨content, isCell, isDecimal⟩ := encodes
        split
        · exact ⟨content, isCell, isDecimal⟩
        · exact ⟨content, isCell, trivial⟩
      case VECTOR => exact encodes
      case LONGLONG =>
        cases supportBigNumbers options config <;> cases bigNumberStrings options config <;>
          cases field.unsigned <;> exact encodes
      case TINY | SHORT | LONG | INT24 => cases field.unsigned <;> exact encodes
      case DATE | DATETIME | TIMESTAMP | NEWDATE => split <;> exact encodes
      case NULL | YEAR | FLOAT | DOUBLE | TIME => exact encodes
      case GEOMETRY => exact text (fun _ => trivial) encodes rfl
      all_goals split <;> exact text (fun _ => trivial) encodes rfl

/-! ## The static parser's calls -/

theorem readDateTime_unset (runtime : Runtime α) :
    readDateTime runtime none = readDateTime runtime (some (units "local")) := by
  have localEq : isLocal (some (units "local")) = true := by decide
  have notUTC : isUTC (some (units "local")) = false := by decide
  simp only [readDateTime, localEq, notUTC, show isLocal none = true from rfl,
    show isUTC none = false from rfl, true_or, if_true]

theorem readCode_unset (runtime : Runtime α) (fields : List Field) (field : Field)
    {config : Config φ} {options : Options φ} (unset : timezone options config = none)
    (index : Nat) :
    readCode runtime fields field config options index =
      readCode runtime fields field (inLocalTime config) { options with timezone := none } index := by
  have zoneEq : timezone { options with timezone := none } (inLocalTime config) =
      some (units "local") := rfl
  simp only [readCode, unset, zoneEq, readDateTime_unset]
  rfl

theorem shape_binaryReadCodeFor (field : Field) (index other : Nat) (config : Config φ)
    (options : Options φ) :
    (binaryReadCodeFor field (inLocalTime config) { options with timezone := none }
        index).call.shape = (binaryReadCodeFor field config options other).call.shape := by
  have strings : dateStrings { options with timezone := none } (inLocalTime config) =
      dateStrings options config := rfl
  have numbers : supportBigNumbers { options with timezone := none } (inLocalTime config) =
      supportBigNumbers options config := rfl
  have texts : bigNumberStrings { options with timezone := none } (inLocalTime config) =
      bigNumberStrings options config := rfl
  have json : (inLocalTime config).jsonStrings = config.jsonStrings := rfl
  have decimals : (inLocalTime config).decimalNumbers = config.decimalNumbers := rfl
  simp only [binaryReadCodeFor, strings, numbers, texts, json, decimals]
  cases field.isJsonFormat with
  | true => cases config.jsonStrings <;> rfl
  | false =>
      simp only [Bool.false_eq_true, if_false]
      cases Types.ofNat field.columnType with
      | LONGLONG =>
          cases supportBigNumbers options config <;> cases bigNumberStrings options config <;>
            cases field.unsigned <;> rfl
      | TINY | SHORT | LONG | INT24 => cases field.unsigned <;> rfl
      | _ => dsimp only <;> first | rfl | (split <;> rfl)

/-- The static parser makes a call of the generated code, with its own time zone. -/
theorem exists_call_readCode (runtime : Runtime α) {fields : List Field} {index : Nat}
    {field : Field} (fieldAt : fields[index]? = some field) (config : Config φ)
    (options : Options φ) (other : Nat) :
    ∃ call : PacketCall,
      readCode runtime fields field config options index = call.run runtime fields ∧
        call.shape = (binaryReadCodeFor field config options other).call.shape := by
  cases zoneEq : timezone options config with
  | none =>
      refine ⟨_, ?_, shape_binaryReadCodeFor field index other config options⟩
      rw [readCode_unset runtime fields field zoneEq]
      exact (binaryReadCodeFor_run_eq runtime fieldAt (.inl (by rintro ⟨⟩))).symm
  | some zone =>
      refine ⟨(binaryReadCodeFor field config options index).call, ?_, ?_⟩
      · exact (binaryReadCodeFor_run_eq runtime fieldAt (.inl (by rw [zoneEq]; rintro ⟨⟩))).symm
      · rw [← shape_binaryReadCodeFor field index index, shape_binaryReadCodeFor field index other]

/-! ## Columns -/

section Columns

variable (runtime : Runtime α) (fields : List Field) (options : Options (TypeCastFunction α))
  (config : Config (TypeCastFunction α))

/-- What the generated parser reads a column with. -/
def compiledReader (index : Nat) (field : Field) : Reader (Value α) :=
  match options.typeCast with
  | .false => Packet.readLengthCodedBuffer
  | _ => (binaryReadCodeFor field config options index).call.run runtime fields

/-- What the static parser reads a column with. -/
def staticReader (index : Nat) (field : Field) : Reader (Value α) :=
  match options.typeCast with
  | .false => Packet.readLengthCodedBuffer
  | _ => readCode runtime fields field config options index

variable {options config}

theorem compiledReader_takes (index : Nat) {field : Field} {bytes : Bytes}
    (encodes : field.Encodes bytes) (cast : options.typeCast = .false → field.isLengthCoded = true) :
    Takes (compiledReader runtime fields options config index field) bytes := by
  rw [compiledReader]
  split
  · next uncast =>
      obtain ⟨content, isCell⟩ := encodes.isCell (cast uncast)
      exact ⟨_, Reads.readLengthCodedBuffer isCell⟩
  · exact takes_of_encodes runtime fields (encodes_binaryReadCodeFor config options index encodes)

theorem staticReader_takes {index : Nat} {field : Field} (fieldAt : fields[index]? = some field)
    {bytes : Bytes} (encodes : field.Encodes bytes)
    (cast : options.typeCast = .false → field.isLengthCoded = true) :
    Takes (staticReader runtime fields options config index field) bytes := by
  rw [staticReader]
  split
  · next uncast =>
      obtain ⟨content, isCell⟩ := encodes.isCell (cast uncast)
      exact ⟨_, Reads.readLengthCodedBuffer isCell⟩
  · obtain ⟨call, callEq, shape⟩ := exists_call_readCode runtime fieldAt config options index
    rw [callEq]
    apply takes_of_encodes
    rw [← encodes_shape, shape, encodes_shape]
    exact encodes_binaryReadCodeFor config options index encodes

section NoFunction

variable (noFunction : options.typeCast.isFunction = false)

include noFunction

theorem compiledBinaryColumn_eq (nullBytes : List (Option Nat)) (index : Nat) (nullBit : NullBit)
    (field : Field) :
    compiledBinaryColumn runtime fields options config nullBytes index nullBit field =
      if nullBit.isSet nullBytes then ⟨false, return .null⟩
      else ⟨false, compiledReader runtime fields options config index field⟩ := by
  rw [compiledBinaryColumn, compiledReader, valueCode]
  cases typeCast : options.typeCast with
  | function typeCast' => rw [typeCast] at noFunction; cases noFunction
  | _ => rfl

theorem staticBinaryColumn_eq (configNoFunction : config.typeCast.isFunction = false)
    (nullBytes : List (Option Nat)) (index : Nat) (nullBit : NullBit) (field : Field) :
    staticBinaryColumn runtime fields options config nullBytes field index nullBit =
      if nullBit.isSet nullBytes then ⟨false, return .null⟩
      else ⟨false, staticReader runtime fields options config index field⟩ := by
  unfold staticBinaryColumn
  rw [staticReader]
  cases typeCast : options.typeCast with
  | function typeCast' => rw [typeCast] at noFunction; cases noFunction
  | absent =>
      cases configTypeCast : config.typeCast with
      | function typeCast' => rw [configTypeCast] at configNoFunction; cases configNoFunction
      | _ => rfl
  | _ => rfl

end NoFunction

end Columns

/-! ## Rows -/

/-- A value of a row: `NULL`, or an encoding and what is read of it. -/
abbrev Cell (α : Type) :=
  Option (Bytes × Value α)

namespace Cell

/-- The encoding of a value that is not `NULL`. -/
def bytes : Cell α → Bytes
  | none => []
  | some (bytes, _) => bytes

/-- The value that is read. -/
def value : Cell α → Value α
  | none => .null
  | some (_, value) => value

/-- An encoding, and what a reader makes of it alone. -/
def IsOf (reader : Reader (Value α)) (encodes : Bytes → Prop) : Cell α → Prop
  | none => True
  | some (bytes, value) => encodes bytes ∧ ∃ after, reader.run (packetOf bytes) = .ok (value, after)

theorem IsOf.reads {reader : Reader (Value α)} {encodes : Bytes → Prop} {bytes : Bytes}
    {value : Value α} (isOf : IsOf reader encodes (some (bytes, value)))
    (takes : encodes bytes → Takes reader bytes) : Reads reader bytes (.ok value) := by
  obtain ⟨encoded, after, run⟩ := isOf
  obtain ⟨result, reads⟩ := takes encoded
  rw [reads (packetOf bytes) [] (ahead_packetOf bytes) (Nat.le_refl _)] at run
  cases result with
  | error error => cases run
  | ok other =>
      cases run
      exact reads

end Cell

/-- The values of a row, one for each field. -/
def IsRow (reader : Nat → Field → Reader (Value α)) (encodes : Field → Bytes → Prop)
    (fields : List Field) (cells : List (Cell α)) : Prop :=
  cells.length = fields.length ∧ ∀ (index : Nat) (field : Field) (cell : Cell α),
    fields[index]? = some field → cells[index]? = some cell →
      cell.IsOf (reader index field) (encodes field)

/-- A null bitmap: of every value, the bit tells whether it is `NULL`. -/
def IsNullBitmap {β : Type} (bitmap : Bytes) (cells : List (Option β)) : Prop :=
  bitmap.length = (cells.length + 9) / 8 ∧ ∀ (index : Nat) (cell : Option β), cells[index]? = some cell →
    (byteAt bitmap ((index + 2) / 8)).testBit ((index + 2) % 8) = cell.isNone

/-- The encoding of a row, with its status byte. -/
def rowBytes (bitmap : Bytes) (cells : List (Cell α)) : Bytes :=
  0 :: (bitmap ++ cells.flatMap Cell.bytes)

theorem isSet_ofField (bitmap : Bytes) (index : Nat) :
    (NullBit.ofField index).isSet (nullBytesOf bitmap) =
      (byteAt bitmap ((index + 2) / 8)).testBit ((index + 2) % 8) := by
  rw [NullBit.isSet, NullBit.ofField]
  dsimp only
  rw [hasFlag_two_pow, nullBytesOf, List.getElem?_map, byteAt, List.getD_eq_getElem?_getD]
  cases bitmap[(index + 2) / 8]? <;> rfl

/-- The columns from a field on, each with the bit of its field. -/
theorem forall₂_binaryColumns {column : Nat → NullBit → Field → Column α} {fields : List Field}
    {cells : List (Cell α)} (index : Nat) (lengthEq : cells.length = fields.length)
    (reads : ∀ offset field cell, fields[offset]? = some field → cells[offset]? = some cell →
      Reads (column (index + offset) (.ofField (index + offset)) field).read cell.bytes
        (.ok cell.value)) :
    List.Forall₂ (fun column (cell : Cell α) => Reads column.read cell.bytes (.ok cell.value))
      (binaryColumns column index (.ofField index) fields) cells := by
  induction fields generalizing cells index with
  | nil =>
      obtain rfl := List.length_eq_zero_iff.mp lengthEq
      exact .nil
  | cons field fields ih =>
      cases cells with
      | nil => cases lengthEq
      | cons cell cells =>
          rw [binaryColumns, NullBit.next_ofField]
          refine .cons (reads 0 field cell rfl rfl) (ih (index + 1) (Nat.succ.inj lengthEq) ?_)
          intro offset other otherCell otherAt cellAt
          rw [Nat.add_assoc, Nat.add_comm 1]
          exact reads (offset + 1) other otherCell otherAt cellAt

theorem readAll_of_reads {columns : List (Column α)} {cells : List (Cell α)}
    (reads : List.Forall₂ (fun column (cell : Cell α) =>
      Reads column.read cell.bytes (.ok cell.value)) columns cells)
    {packet : Packet} {rest : Bytes} (aheadEq : packet.ahead = cells.flatMap Cell.bytes ++ rest)
    (inside : packet.offset + (cells.flatMap Cell.bytes).length ≤ packet.endOffset) :
    readAll columns packet =
      (cells.map Cell.value, .ok (packet.advance (cells.flatMap Cell.bytes).length)) := by
  induction reads generalizing packet with
  | nil => rfl
  | @cons column cell columns cells headReads _ ih =>
      rw [List.flatMap_cons, List.append_assoc] at aheadEq
      rw [List.flatMap_cons, List.length_append] at inside ⊢
      have headRun : column.read.run packet =
          .ok (cell.value, packet.advance cell.bytes.length) :=
        headReads packet _ aheadEq (by omega)
      have behind := ahead_advance_of_append _ aheadEq rfl
      rw [readAll_cons_of_ok headRun,
        ih behind (by rw [offset_advance, endOffset_advance]; omega), advance_advance,
        List.map_cons]

section Rows

variable (runtime : Runtime α) (fields : List Field) {options : Options (TypeCastFunction α)}
  {config : Config (TypeCastFunction α)}

/-- The columns of a row read its values, if a column reads `NULL` where the bit of its field is
set, and else what its reader does. -/
theorem row_reads (column : List (Option Nat) → Nat → NullBit → Field → Column α)
    {reader : Nat → Field → Reader (Value α)} {encodes : Field → Bytes → Prop}
    (columnEq : ∀ nullBytes index nullBit field, column nullBytes index nullBit field =
      if nullBit.isSet nullBytes then ⟨false, return .null⟩ else ⟨false, reader index field⟩)
    (takes : ∀ index field bytes, fields[index]? = some field → encodes field bytes →
      Takes (reader index field) bytes)
    {cells : List (Cell α)} (row : IsRow reader encodes fields cells) {bitmap : Bytes}
    (isBitmap : IsNullBitmap bitmap cells) :
    List.Forall₂ (fun column (cell : Cell α) => Reads column.read cell.bytes (.ok cell.value))
      (binaryColumns (column (nullBytesOf bitmap)) 0 .first fields) cells := by
  rw [NullBit.first_eq]
  apply forall₂_binaryColumns 0 row.1
  intro index field cell fieldAt cellAt
  rw [columnEq, isSet_ofField, Nat.zero_add, isBitmap.2 index cell cellAt]
  have isOf := row.2 index field cell fieldAt cellAt
  cases cell with
  | none => exact Reads.pure Value.null
  | some cell => exact isOf.reads (takes index field cell.1 fieldAt)

theorem header_run {cells : List (Cell α)} (lengthEq : cells.length = fields.length)
    {bitmap : Bytes} (isBitmap : IsNullBitmap bitmap cells) {packet : Packet} {rest : Bytes}
    (aheadEq : packet.ahead = rowBytes bitmap cells ++ rest) :
    (readNullBitmap (nullBitmapLength fields)).run packet =
        .ok (nullBytesOf bitmap, packet.advance (1 + bitmap.length)) ∧
      (packet.advance (1 + bitmap.length)).ahead = cells.flatMap Cell.bytes ++ rest := by
  have count : nullBitmapLength fields = bitmap.length := by
    rw [nullBitmapLength, isBitmap.1, lengthEq]
  rw [rowBytes, List.cons_append, List.append_assoc] at aheadEq
  have behind := ahead_advance_of_append _ (ahead_advance_one aheadEq) rfl
  rw [advance_advance] at behind
  exact ⟨count ▸ readNullBitmap_run aheadEq, behind⟩

/-- Both parsers read `null` where a row has `NULL`, for every other column what its reader makes
of its encoding, and end at the end of the packet. -/
theorem binaryValues_read (noFunction : options.typeCast.isFunction = false)
    (configNoFunction : config.typeCast.isFunction = false) {cells : List (Cell α)}
    {bitmap : Bytes} (isBitmap : IsNullBitmap bitmap cells) {packet : Packet} {rest : Bytes}
    (aheadEq : packet.ahead = rowBytes bitmap cells ++ rest)
    (endEq : packet.endOffset = packet.offset + (rowBytes bitmap cells).length) :
    (IsRow (compiledReader runtime fields options config) (Field.EncodesWith options) fields
        cells →
      ∃ after, compiledValues runtime fields options config .binary packet =
        (cells.map Cell.value, .ok after) ∧ after.offset = packet.endOffset) ∧
      (IsRow (staticReader runtime fields options config) (Field.EncodesWith options) fields
          cells →
        ∃ after, staticValues runtime fields options config .binary packet =
          (cells.map Cell.value, .ok after) ∧ after.offset = packet.endOffset) := by
  have total : (rowBytes bitmap cells).length =
      1 + bitmap.length + (cells.flatMap Cell.bytes).length := by
    rw [rowBytes, List.length_cons, List.length_append]
    omega
  have inside : (packet.advance (1 + bitmap.length)).offset +
      (cells.flatMap Cell.bytes).length ≤ (packet.advance (1 + bitmap.length)).endOffset := by
    rw [offset_advance, endOffset_advance]
    omega
  have ends : (packet.advance (rowBytes bitmap cells).length).offset = packet.endOffset := by
    rw [offset_advance, endEq]
  constructor
  · intro row
    obtain ⟨headerRun, behind⟩ := header_run fields row.1 isBitmap aheadEq
    have reads := row_reads fields (compiledBinaryColumn runtime fields options config)
      (compiledBinaryColumn_eq runtime fields noFunction) (fun index field bytes _ =>
        fun encodes => compiledReader_takes runtime fields index encodes.1 encodes.2) row isBitmap
    have same : withConfigTypeCast options config = options := by
      rw [withConfigTypeCast, if_neg (by simp [configNoFunction])]
    refine ⟨_, ?_, ends⟩
    rw [compiledValues, same, headerRun]
    dsimp only
    rw [readAll_of_reads reads behind inside, advance_advance, total]
  · intro row
    obtain ⟨headerRun, behind⟩ := header_run fields row.1 isBitmap aheadEq
    have reads := row_reads fields
      (fun nullBytes index nullBit field =>
        staticBinaryColumn runtime fields options config nullBytes field index nullBit)
      (staticBinaryColumn_eq runtime fields noFunction configNoFunction)
      (fun index field bytes found encodes =>
        staticReader_takes runtime fields found encodes.1 encodes.2) row isBitmap
    refine ⟨_, ?_, ends⟩
    rw [staticValues, headerRun]
    dsimp only
    rw [readAll_of_reads reads behind inside, advance_advance, total]

end Rows

end Mysql2.Parsers

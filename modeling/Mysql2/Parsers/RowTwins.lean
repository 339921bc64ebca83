import Mysql2.Parsers.Conversions
import Mysql2.Parsers.NamedRows

/-!
# Rows of the generated and of the static parsers

Both parsers of a protocol make the same of every row if they reject the same column, or none.  A
static parser that rejects a column reads the columns in front of it, so that one of these may
throw first.
-/

namespace Mysql2.Parsers

open Mysql2.Packets Mysql2.Packets.Packet Mysql2.Script

variable {α φ : Type}

/-! ## Row packets -/

/-- The bytes of a column. -/
def cellBytes (protocol : Protocol) : Option Bytes → Bytes
  | some bytes => bytes
  | none =>
      match protocol with
      | .text => [0xfb]
      | .binary => []

/-- Whether a column carries a value: `NULL`, or an encoding.  A column of type `NULL` has no
other. -/
def Field.Carries (protocol : Protocol) (options : Options φ) (config : Config φ) (field : Field) :
    Option Bytes → Prop
  | none => True
  | some bytes => field.isNullColumn = false ∧
      match protocol with
      | .text => ∃ content, IsCell content bytes ∧ field.EndsBehind config options content
      | .binary => field.Encodes bytes

/-- Whether a column can carry a text that its decoder, `JSON.parse` or `parseGeometry` throws
for. -/
def MayThrow (runtime : Runtime α) (options : Options φ) (config : Config φ) (protocol : Protocol)
    (field : Field) : Prop :=
  ∃ content bytes, IsCell content bytes ∧ field.Carries protocol options config (some bytes) ∧
    (field.conversion protocol options config).ThrowsFor runtime content

/-- What is in front of the columns of a row. -/
def rowHeader (protocol : Protocol) (bitmap : Bytes) : Bytes :=
  match protocol with
  | .text => []
  | .binary => 0 :: bitmap

/-- A row packet that carries a value for each column. -/
def RowWith (protocol : Protocol) (options : Options φ) (config : Config φ) (fields : List Field)
    (cells : List (Option Bytes)) (packet : Packet) : Prop :=
  List.Forall₂ (Field.Carries protocol options config) fields cells ∧ ∃ bitmap rest,
    (protocol = .binary → IsNullBitmap bitmap cells) ∧
      packet.ahead =
        rowHeader protocol bitmap ++ ((cells.map (cellBytes protocol)).flatten ++ rest) ∧
      packet.offset + (rowHeader protocol bitmap ++
        (cells.map (cellBytes protocol)).flatten).length ≤ packet.endOffset

/-! ## Reading cell after cell -/

/-- The values of a row, or the first column that throws. -/
def rowResult : List (Except JsError (Value α)) → Except Nat (List (Value α))
  | [] => .ok []
  | .error _ :: _ => .error 0
  | .ok value :: results =>
      match rowResult results with
      | .ok values => .ok (value :: values)
      | .error index => .error (index + 1)

theorem rowResult_eq_error {results : List (Except JsError (Value α))} {index : Nat}
    {error : JsError} (throws : results[index]? = some (.error error))
    (early : ∀ before < index, ∃ value, results[before]? = some (.ok value)) :
    rowResult results = .error index := by
  induction results generalizing index with
  | nil => cases throws
  | cons result results ih =>
      cases index with
      | zero =>
          obtain rfl := Option.some.inj throws
          rfl
      | succ index =>
          obtain ⟨value, first⟩ := early 0 (Nat.succ_pos index)
          obtain rfl := Option.some.inj first
          have others := ih throws fun before less => early (before + 1) (Nat.succ_lt_succ less)
          rw [rowResult, others]

theorem rowResult_eq_ok {results : List (Except JsError (Value α))}
    (returns : ∀ index < results.length, ∃ value, results[index]? = some (.ok value)) :
    ∃ values, rowResult results = .ok values ∧ results = values.map .ok := by
  induction results with
  | nil => exact ⟨[], rfl, rfl⟩
  | cons result results ih =>
      obtain ⟨value, first⟩ := returns 0 (Nat.succ_pos _)
      obtain rfl := Option.some.inj first
      obtain ⟨values, others, rfl⟩ :=
        ih fun index less => returns (index + 1) (Nat.succ_lt_succ less)
      exact ⟨value :: values, by rw [rowResult, others], rfl⟩

/-- What the columns of a row make of its cells. -/
inductive ReadsCells (protocol : Protocol) (column : Nat → Field → Column α) :
    Nat → List Field → List (Option Bytes) → List (Except JsError (Value α)) → Prop
  | nil (index : Nat) : ReadsCells protocol column index [] [] []
  | cons {index : Nat} {field : Field} {fields : List Field} {cell : Option Bytes}
      {cells : List (Option Bytes)} {result : Except JsError (Value α)}
      {results : List (Except JsError (Value α))}
      (head : Reads (column index field).read (cellBytes protocol cell) result)
      (others : ReadsCells protocol column (index + 1) fields cells results) :
      ReadsCells protocol column index (field :: fields) (cell :: cells) (result :: results)

namespace ReadsCells

variable {protocol : Protocol} {column : Nat → Field → Column α} {index : Nat}
  {fields : List Field} {cells : List (Option Bytes)} {results : List (Except JsError (Value α))}

theorem length_eq (reads : ReadsCells protocol column index fields cells results) :
    results.length = fields.length := by
  induction reads with
  | nil => rfl
  | cons _ _ ih => rw [List.length_cons, List.length_cons, ih]

theorem get (reads : ReadsCells protocol column index fields cells results) {offset : Nat}
    {field : Field} {cell : Option Bytes} (fieldAt : fields[offset]? = some field)
    (cellAt : cells[offset]? = some cell) : ∃ result, results[offset]? = some result ∧
      Reads (column (index + offset) field).read (cellBytes protocol cell) result := by
  induction reads generalizing offset with
  | nil => cases fieldAt
  | @cons index field' fields cell' cells result results head _ ih =>
      cases offset with
      | zero =>
          obtain rfl := Option.some.inj fieldAt
          obtain rfl := Option.some.inj cellAt
          exact ⟨result, rfl, head⟩
      | succ offset =>
          obtain ⟨other, otherAt, otherReads⟩ := ih fieldAt cellAt
          refine ⟨other, otherAt, ?_⟩
          rwa [Nat.add_assoc, Nat.add_comm 1] at otherReads

theorem exists_of_takes {Carries : Field → Option Bytes → Prop}
    (row : List.Forall₂ Carries fields cells)
    (takes : ∀ offset field cell, fields[offset]? = some field → cells[offset]? = some cell →
      Carries field cell →
        Packets.Takes (column (index + offset) field).read (cellBytes protocol cell)) :
    ∃ results, ReadsCells protocol column index fields cells results := by
  induction row generalizing index with
  | nil => exact ⟨[], .nil index⟩
  | cons head _ ih =>
      obtain ⟨result, reads⟩ := takes 0 _ _ rfl rfl head
      obtain ⟨results, others⟩ := @ih (index + 1)
        fun offset field cell fieldAt cellAt carries => by
          rw [Nat.add_assoc, Nat.add_comm 1]
          exact takes (offset + 1) field cell fieldAt cellAt carries
      exact ⟨result :: results, .cons reads others⟩

/-- A row is what its columns make of its cells. -/
theorem rowOf_readAll (reads : ReadsCells protocol column index fields cells results)
    {packet : Packet} {rest : Bytes}
    (aheadEq : packet.ahead = (cells.map (cellBytes protocol)).flatten ++ rest)
    (inside : packet.offset + (cells.map (cellBytes protocol)).flatten.length ≤
      packet.endOffset) :
    rowOf (readAll (textColumns column index fields) packet) =
      (rowResult results).map fun values =>
        (values, packet.advance (cells.map (cellBytes protocol)).flatten.length) := by
  induction reads generalizing packet with
  | nil => rfl
  | @cons index field fields cell cells result results head _ ih =>
      rw [List.map_cons, List.flatten_cons, List.append_assoc] at aheadEq
      rw [List.map_cons, List.flatten_cons, List.length_append] at inside ⊢
      have run := head packet _ aheadEq (by omega)
      rw [textColumns]
      cases result with
      | error error =>
          rw [readAll_cons_of_error run]
          rfl
      | ok value =>
          have others := ih (ahead_advance_of_append _ aheadEq rfl)
            (by rw [offset_advance, endOffset_advance]; omega)
          rw [advance_advance] at others
          rw [readAll_cons_of_ok run, rowResult]
          cases read : readAll (textColumns column (index + 1) fields)
              (packet.advance (cellBytes protocol cell).length) with
          | mk values after =>
              rw [read] at others
              cases after with
              | error error =>
                  cases final : rowResult results with
                  | ok values' =>
                      rw [final] at others
                      cases others
                  | error last =>
                      rw [final] at others
                      obtain rfl : values.length = last := Except.error.inj others
                      rfl
              | ok behind =>
                  cases final : rowResult results with
                  | error last =>
                      rw [final] at others
                      cases others
                  | ok values' =>
                      rw [final] at others
                      cases others
                      rfl

end ReadsCells

/-! ## Columns of a row -/

section Columns

variable (runtime : Runtime α) (fields : List Field) (options : Options (TypeCastFunction α))
  (config : Config (TypeCastFunction α))

/-- What a parser reads a value with that is not `NULL`. -/
def RowParser.plainReader (parser : RowParser) (protocol : Protocol) (index : Nat)
    (field : Field) : Reader (Value α) :=
  match parser, protocol with
  | .compiled, .text => (textReadCodeFor field (.ofField index) config options).run runtime fields
  | .compiled, .binary => (binaryReadCodeFor field config options index).call.run runtime fields
  | .static, .text => readField runtime field config options
  | .static, .binary => readCode runtime fields field config options index

/-- What a parser reads a value with.  `NULL` takes no bytes of a binary row. -/
def RowParser.cellReader (parser : RowParser) (protocol : Protocol) (index : Nat) (field : Field)
    (cell : Option Bytes) : Reader (Value α) :=
  match protocol, cell with
  | .binary, none => return .null
  | _, _ => parser.plainReader runtime fields options config protocol index field

/-- A column of a row with these values.  A static parser looks at names behind each value. -/
def RowParser.cellColumn (parser : RowParser) (protocol : Protocol) (cells : List (Option Bytes))
    (index : Nat) (field : Field) : Column α :=
  let column : Column α := ⟨false,
    parser.cellReader runtime fields options config protocol index field cells[index]?.join⟩
  match parser with
  | .compiled => column
  | .static => column.named (nameError options protocol field)

/-- What a parser reads from a row packet, with the names that it looks at behind each value. -/
def RowParser.columnValues (parser : RowParser) (protocol : Protocol) (packet : Packet) :
    List (Value α) × Except JsError Packet :=
  match parser with
  | .compiled => compiledValues runtime fields options config protocol packet
  | .static => namedValues runtime fields options config protocol packet

variable {runtime fields options config} {protocol : Protocol} {cells : List (Option Bytes)}
  {packet : Packet}

/-- The columns of a row behind its header. -/
theorem RowWith.columnValues_eq (row : RowWith protocol options config fields cells packet)
    (parser : RowParser) (plain : options.typeCast.isPlain = true)
    (configPlain : config.typeCast.isPlain = true) : ∃ after rest,
      parser.columnValues runtime fields options config protocol packet =
        readAll (textColumns (parser.cellColumn runtime fields options config protocol cells) 0
          fields) after ∧
      after.ahead = (cells.map (cellBytes protocol)).flatten ++ rest ∧
      after.offset + (cells.map (cellBytes protocol)).flatten.length ≤ after.endOffset := by
  obtain ⟨carries, bitmap, rest, isBitmap, aheadEq, inside⟩ := row
  have same := @withConfigTypeCast_plain _ options _ configPlain
  cases protocol with
  | text =>
      refine ⟨packet, rest, ?_, aheadEq, inside⟩
      cases parser with
      | compiled =>
          dsimp only [RowParser.columnValues, compiledValues]
          rw [same]
          congr 1
          refine textColumns_congr fun offset field fieldAt => ?_
          rw [compiledTextColumn_plain runtime fields plain]
          rfl
      | static =>
          dsimp only [RowParser.columnValues, namedValues, namedColumns]
          congr 1
          refine textColumns_congr fun offset field fieldAt => ?_
          rw [staticTextColumn_plain runtime plain configPlain]
          rfl
  | binary =>
      have bitmapEq := isBitmap rfl
      have count : nullBitmapLength fields = bitmap.length := by
        rw [nullBitmapLength, bitmapEq.1, carries.length_eq]
      have header := readNullBitmap_run aheadEq
      have behind := ahead_advance_of_append _ aheadEq rfl
      rw [rowHeader, List.length_append, List.length_cons] at inside
      rw [rowHeader, List.length_cons, Nat.add_comm] at behind
      -- the bit of a column tells which cells are `NULL`
      have readerEq (parser : RowParser) (offset : Nat) (field : Field)
          (fieldAt : fields[offset]? = some field) :
          (if (NullBit.ofField offset).isSet (nullBytesOf bitmap) then ⟨false, return .null⟩
            else ⟨false, parser.plainReader runtime fields options config .binary offset field⟩ :
              Column α) =
            ⟨false, parser.cellReader runtime fields options config .binary offset field
              cells[offset]?.join⟩ := by
        have within : offset < cells.length := by
          rw [← carries.length_eq]
          exact (List.getElem?_eq_some_iff.mp fieldAt).1
        have cellAt := List.getElem?_eq_getElem within
        rw [isSet_ofField, bitmapEq.2 offset _ cellAt, cellAt]
        cases cells[offset] with
        | none => rfl
        | some bytes => rfl
      refine ⟨packet.advance (1 + bitmap.length), rest, ?_, behind, ?_⟩
      · cases parser with
        | compiled =>
            simp only [RowParser.columnValues, compiledValues, count, header, same]
            rw [NullBit.first_eq, binaryColumns_eq]
            congr 1
            refine textColumns_congr fun offset field fieldAt => ?_
            rw [compiledBinaryColumn_plain runtime fields plain, Nat.zero_add]
            exact readerEq .compiled offset field fieldAt
        | static =>
            simp only [RowParser.columnValues, namedValues, count, header, namedColumns]
            rw [NullBit.first_eq, binaryColumns_eq]
            congr 1
            refine textColumns_congr fun offset field fieldAt => ?_
            rw [staticBinaryColumn_plain runtime fields plain configPlain, Nat.zero_add]
            exact congrArg (Column.named · _) (readerEq .static offset field fieldAt)
      · rw [offset_advance, endOffset_advance]
        omega

/-- The static parser throws for a value exactly if the conversion of its column does. -/
theorem plainReader_readsBy (runtime : Runtime α) {index : Nat} {field : Field}
    (fieldAt : fields[index]? = some field) {bytes : Bytes}
    (carries : field.Carries protocol options config (some bytes)) :
    ReadsBy runtime (field.conversion protocol options config) (RowParser.static.plainReader runtime
      fields options config protocol index field) bytes := by
  obtain ⟨notNull, isEncoding⟩ := carries
  cases protocol with
  | text => exact readField_readsBy runtime notNull isEncoding
  | binary => exact readCode_readsBy runtime fieldAt isEncoding

/-- A column may throw if the static parser throws for one of its values. -/
theorem mayThrow_iff (runtime : Runtime α) {index : Nat} {field : Field}
    (fieldAt : fields[index]? = some field) :
    MayThrow runtime options config protocol field ↔
      ∃ bytes error, field.Carries protocol options config (some bytes) ∧
        Reads (RowParser.static.plainReader runtime fields options config protocol index field)
          bytes (.error error) := by
  constructor
  · rintro ⟨content, bytes, isCell, carries, throwsFor⟩
    obtain ⟨error, reads⟩ :=
      (plainReader_readsBy runtime fieldAt carries).throws_iff.mpr ⟨content, isCell, throwsFor⟩
    exact ⟨bytes, error, carries, reads⟩
  · rintro ⟨bytes, error, carries, reads⟩
    obtain ⟨content, isCell, throwsFor⟩ :=
      (plainReader_readsBy runtime fieldAt carries).throws_iff.mp ⟨error, reads⟩
    exact ⟨content, bytes, isCell, carries, throwsFor⟩

theorem plainReader_takes (parser : RowParser) (runtime : Runtime α) {index : Nat} {field : Field}
    (fieldAt : fields[index]? = some field) {bytes : Bytes}
    (carries : field.Carries protocol options config (some bytes)) :
    Packets.Takes (parser.plainReader runtime fields options config protocol index field)
      bytes := by
  cases parser with
  | static =>
      obtain ⟨result, reads, -⟩ := plainReader_readsBy runtime fieldAt carries
      exact ⟨result, reads⟩
  | compiled =>
      obtain ⟨-, isEncoding⟩ := carries
      cases protocol with
      | text =>
          obtain ⟨content, isCell, ends⟩ := isEncoding
          exact takes_of_endsBehind runtime fields isCell (isLengthCoded_textReadCodeFor ..)
            ((endsBehind_iff field config options _ content).mpr ends)
      | binary =>
          exact takes_of_encodes runtime fields
            (encodes_binaryReadCodeFor config options index isEncoding)

/-- `NULL` is read in both protocols. -/
theorem cellReader_null (parser : RowParser) (runtime : Runtime α) (fields : List Field)
    (options : Options (TypeCastFunction α)) (config : Config (TypeCastFunction α))
    (protocol : Protocol) (index : Nat) (field : Field) : ∃ value,
      Reads (parser.cellReader runtime fields options config protocol index field none)
        (cellBytes protocol none) (.ok value) := by
  cases protocol with
  | binary => exact ⟨Value.null, Reads.pure Value.null⟩
  | text =>
      refine ⟨field.nullValue, fun packet rest aheadEq inside => ?_⟩
      have isNull : packet.peekByte = some 0xfb := by
        rw [peekByte_eq, aheadEq]
        rfl
      cases parser with
      | compiled =>
          show ((textReadCodeFor field (.ofField index) config options).run runtime fields).run
            packet = _
          rw [null_run_of_isLengthCoded runtime fields (isLengthCoded_textReadCodeFor ..) isNull,
            nullValue_textReadCodeFor]
          rfl
      | static =>
          exact readField_null_run runtime field config options isNull

theorem cellReader_takes (parser : RowParser) (runtime : Runtime α) {index : Nat} {field : Field}
    (fieldAt : fields[index]? = some field) {cell : Option Bytes}
    (carries : field.Carries protocol options config cell) :
    Packets.Takes (parser.cellReader runtime fields options config protocol index field cell)
      (cellBytes protocol cell) := by
  cases cell with
  | none =>
      obtain ⟨value, reads⟩ :=
        cellReader_null parser runtime fields options config protocol index field
      exact ⟨.ok value, reads⟩
  | some bytes =>
      have takes := plainReader_takes parser runtime fieldAt carries
      cases protocol <;> exact takes

/-- What a column makes of its value, with the names that are looked at behind it. -/
def namedResult (error? : Option JsError) (result : Except JsError (Value α)) :
    Except JsError (Value α) :=
  result >>= fun value =>
    match error? with
    | none => .ok value
    | some error => .error error

theorem Column.named_reads {column : Column α} {bytes : Bytes}
    {result : Except JsError (Value α)} (reads : Reads column.read bytes result)
    (error? : Option JsError) :
    Reads (column.named error?).read bytes (namedResult error? result) := by
  apply reads.andThen
  intro value
  cases error? with
  | none => exact Reads.pure value
  | some error => exact Reads.throw error

/-- The error that a parser throws behind a value. -/
def RowParser.behindValue (parser : RowParser) (options : Options (TypeCastFunction α))
    (protocol : Protocol) (field : Field) : Option JsError :=
  match parser with
  | .compiled => none
  | .static => nameError options protocol field

theorem cellColumn_reads (parser : RowParser) {index : Nat} {field : Field} {cell : Option Bytes}
    (cellAt : cells[index]? = some cell) {result : Except JsError (Value α)}
    (reads : Reads (parser.cellReader runtime fields options config protocol index field cell)
      (cellBytes protocol cell) result) :
    Reads (parser.cellColumn runtime fields options config protocol cells index field).read
      (cellBytes protocol cell)
      (namedResult (parser.behindValue options protocol field) result) := by
  cases parser with
  | compiled =>
      have same : namedResult none result = result := by cases result <;> rfl
      rw [RowParser.cellColumn, cellAt, RowParser.behindValue, same]
      exact reads
  | static =>
      rw [RowParser.cellColumn, cellAt]
      exact Column.named_reads reads _

/-- What the columns of a row make of it: of each value what its reader does, unless its name is
rejected. -/
theorem RowWith.exists_results (row : RowWith protocol options config fields cells packet)
    (parser : RowParser) (runtime : Runtime α) (plain : options.typeCast.isPlain = true)
    (configPlain : config.typeCast.isPlain = true) :
    ∃ (results : List (Except JsError (Value α))) (after : Packet),
      rowOf (parser.columnValues runtime fields options config protocol packet) =
        (rowResult results).map (fun values => (values, after)) ∧
      results.length = fields.length ∧
      ∀ index field cell result, fields[index]? = some field → cells[index]? = some cell →
        Reads (parser.cellReader runtime fields options config protocol index field cell)
          (cellBytes protocol cell) result →
        results[index]? =
          some (namedResult (parser.behindValue options protocol field) result) := by
  obtain ⟨behind, rest, valuesEq, aheadEq, inside⟩ :=
    @RowWith.columnValues_eq _ runtime _ _ _ _ _ _ row parser plain configPlain
  obtain ⟨results, reads⟩ := @ReadsCells.exists_of_takes _ protocol
    (parser.cellColumn runtime fields options config protocol cells) 0 _ _ _ row.1 (by
      intro offset field cell fieldAt cellAt carries
      rw [Nat.zero_add]
      obtain ⟨result, reads⟩ := cellReader_takes parser runtime fieldAt carries
      exact ⟨_, cellColumn_reads parser cellAt reads⟩)
  refine ⟨results, _, by rw [valuesEq, reads.rowOf_readAll aheadEq inside], reads.length_eq, ?_⟩
  intro index field cell result fieldAt cellAt cellReads
  obtain ⟨other, otherAt, otherReads⟩ := reads.get fieldAt cellAt
  rw [Nat.zero_add] at otherReads
  rw [otherAt, otherReads.unique (cellColumn_reads parser cellAt cellReads)]

/-! ## Whole rows -/

/-- A parser that is compiled, or static, makes a row of its columns. -/
theorem RowParser.row_eq_columnValues (parser : RowParser) (runtime : Runtime α)
    (compiles : parser = .compiled → RowParser.compiled.rejected protocol options fields = none) :
    parser.row runtime fields options config protocol packet =
      rowOf (parser.columnValues runtime fields options config protocol packet) := by
  cases parser with
  | compiled =>
      rw [RowParser.row, compiles rfl]
      rfl
  | static => rfl

theorem behindValue_eq_none {parser : RowParser} {field : Field}
    (taken : parser.rejects protocol options field = false) :
    parser.behindValue options protocol field = none := by
  cases parser with
  | compiled => rfl
  | static => exact nameError_eq_none taken

theorem namedResult_none (result : Except JsError (Value α)) :
    namedResult none result = result := by
  cases result <;> rfl

/-- The static parser throws at the first column that it rejects, or whose reader throws. -/
theorem RowWith.static_row_eq_error (row : RowWith protocol options config fields cells packet)
    (runtime : Runtime α) (plain : options.typeCast.isPlain = true)
    (configPlain : config.typeCast.isPlain = true) {index : Nat} {field : Field}
    (fieldAt : fields[index]? = some field)
    (throws : RowParser.static.rejects protocol options field = true ∨
      ∃ bytes error, cells[index]? = some (some bytes) ∧ Reads (RowParser.static.plainReader
        runtime fields options config protocol index field) bytes (.error error))
    (early : ∀ before < index, ∀ other, fields[before]? = some other →
      RowParser.static.rejects protocol options other = false ∧
        ∀ bytes error, cells[before]? = some (some bytes) → ¬Reads (RowParser.static.plainReader
          runtime fields options config protocol before other) bytes (.error error)) :
    RowParser.static.row runtime fields options config protocol packet = .error index := by
  obtain ⟨results, after, rowEq, lengthEq, resultAt⟩ :=
    row.exists_results .static runtime plain configPlain
  -- what a column makes of its value
  have column (offset : Nat) (other : Field) (otherAt : fields[offset]? = some other) :
      ∃ cell result, cells[offset]? = some cell ∧
        Reads (RowParser.static.cellReader runtime fields options config protocol offset other cell)
          (cellBytes protocol cell) result ∧
        results[offset]? = some (namedResult (nameError options protocol other) result) := by
    have within : offset < cells.length := by
      rw [← row.1.length_eq]
      exact (List.getElem?_eq_some_iff.mp otherAt).1
    have cellAt := List.getElem?_eq_getElem within
    have carries : other.Carries protocol options config cells[offset] := by
      obtain ⟨inFields, rfl⟩ := List.getElem?_eq_some_iff.mp otherAt
      exact (List.forall₂_iff_get.mp row.1).2 offset inFields within
    obtain ⟨result, reads⟩ := cellReader_takes .static runtime otherAt carries
    exact ⟨_, result, cellAt, reads, resultAt offset other _ result otherAt cellAt reads⟩
  rw [RowParser.row_eq_columnValues .static runtime (by rintro ⟨⟩), rowEq]
  have thrown : ∃ error, results[index]? = some (.error error) := by
    obtain ⟨cell, result, cellAt, reads, found⟩ := column index field fieldAt
    cases result with
    | error error => exact ⟨error, found⟩
    | ok value =>
        rcases throws with rejects | ⟨bytes, error, cellAt', throws⟩
        · rw [RowParser.rejects, List.any_eq_true] at rejects
          obtain ⟨name, nameError_⟩ := Option.isSome_iff_exists.mp
            (List.find?_isSome.mpr rejects)
          rw [nameError, nameError_] at found
          exact ⟨_, found⟩
        · obtain rfl := Option.some.inj (cellAt.symm.trans cellAt')
          have same : Reads (RowParser.static.plainReader runtime fields options config protocol
              index field) bytes (.ok value) := by cases protocol <;> exact reads
          cases throws.unique same
  obtain ⟨error, thrown⟩ := thrown
  rw [rowResult_eq_error thrown]
  · rfl
  · intro before less
    have within : before < fields.length :=
      Nat.lt_trans less (List.getElem?_eq_some_iff.mp fieldAt).1
    have otherAt := List.getElem?_eq_getElem within
    obtain ⟨taken, returns⟩ := early before less _ otherAt
    obtain ⟨cell, result, cellAt, reads, found⟩ := column before _ otherAt
    rw [nameError_eq_none taken, namedResult_none] at found
    cases result with
    | ok value => exact ⟨value, found⟩
    | error error =>
        cases cell with
        | none =>
            obtain ⟨value, same⟩ :=
              cellReader_null .static runtime fields options config protocol before fields[before]
            cases reads.unique same
        | some bytes =>
            have same : Reads (RowParser.static.plainReader runtime fields options config protocol
                before fields[before]) bytes (.error error) := by cases protocol <;> exact reads
            exact absurd same (returns bytes error cellAt)

/-- A row whose values are all read, without a column that is rejected, is made. -/
theorem RowWith.row_eq_ok (row : RowWith protocol options config fields cells packet)
    (parser : RowParser) (runtime : Runtime α) (plain : options.typeCast.isPlain = true)
    (configPlain : config.typeCast.isPlain = true)
    (taken : parser.rejected protocol options fields = none)
    (returns : ∀ index field bytes, fields[index]? = some field →
      cells[index]? = some (some bytes) → ∃ value, Reads (parser.plainReader runtime fields options
        config protocol index field) bytes (.ok value)) :
    ∃ values after, parser.row runtime fields options config protocol packet =
        .ok (values, after) ∧
      ∀ index field bytes value, fields[index]? = some field → cells[index]? = some (some bytes) →
        Reads (parser.plainReader runtime fields options config protocol index field) bytes
          (.ok value) → values[index]? = some value := by
  obtain ⟨results, after, rowEq, lengthEq, resultAt⟩ :=
    row.exists_results parser runtime plain configPlain
  have named := rejected_eq_none_iff.mp taken
  have found (index : Nat) (field : Field) (cell : Option Bytes) (result : Except JsError (Value α))
      (fieldAt : fields[index]? = some field) (cellAt : cells[index]? = some cell)
      (reads : Reads (parser.cellReader runtime fields options config protocol index field cell)
        (cellBytes protocol cell) result) : results[index]? = some result := by
    have isResult := resultAt index field cell result fieldAt cellAt reads
    rwa [behindValue_eq_none (named field (List.mem_of_getElem? fieldAt)), namedResult_none]
      at isResult
  obtain ⟨values, valuesEq, resultsEq⟩ := @rowResult_eq_ok _ results (by
    intro index less
    rw [lengthEq] at less
    have fieldAt := List.getElem?_eq_getElem less
    have within : index < cells.length := by rwa [← row.1.length_eq]
    have cellAt := List.getElem?_eq_getElem within
    cases cell : cells[index] with
    | none =>
        rw [cell] at cellAt
        obtain ⟨value, reads⟩ :=
          cellReader_null parser runtime fields options config protocol index fields[index]
        exact ⟨value, found index _ none _ fieldAt cellAt reads⟩
    | some bytes =>
        rw [cell] at cellAt
        obtain ⟨value, reads⟩ := returns index _ bytes fieldAt cellAt
        exact ⟨value,
          found index _ (some bytes) _ fieldAt cellAt (by cases protocol <;> exact reads)⟩)
  refine ⟨values, after, ?_, ?_⟩
  · have compiles : parser = .compiled →
        RowParser.compiled.rejected protocol options fields = none := by
      rintro rfl
      exact taken
    rw [RowParser.row_eq_columnValues parser runtime compiles, rowEq, valuesEq]
    rfl
  · intro index field bytes value fieldAt cellAt reads
    have isResult := found index field (some bytes) (.ok value) fieldAt cellAt
      (by cases protocol <;> exact reads)
    rw [resultsEq, List.getElem?_map, Option.map_eq_some_iff] at isResult
    obtain ⟨other, otherAt, same⟩ := isResult
    rw [otherAt, Except.ok.inj same]

end Columns

/-! ## Rows with one value -/

section Examples

variable {options : Options (TypeCastFunction α)} {config : Config (TypeCastFunction α)}
  {fields : List Field} {protocol : Protocol}

/-- `NULL` in every column but one. -/
def oneCell (count index : Nat) (bytes : Bytes) : List (Option Bytes) :=
  (List.replicate count none).set index (some bytes)

theorem getElem?_oneCell {count clear index : Nat} (bytes : Bytes) (within : index < count) :
    (oneCell count clear bytes)[index]? =
      some (if clear = index then some bytes else none) := by
  rw [oneCell, List.getElem?_set]
  split
  · next same => rw [List.length_replicate, same, if_pos within]
  · rw [List.getElem?_replicate, if_pos within]

theorem isNullBitmap_oneCell (count clear : Nat) (bytes : Bytes) :
    IsNullBitmap (allNullBut ((count + 9) / 8) clear) (oneCell count clear bytes) := by
  have lengthEq : (oneCell count clear bytes).length = count := by
    rw [oneCell, List.length_set, List.length_replicate]
  refine ⟨by rw [allNullBut, List.length_map, List.length_range, lengthEq], ?_⟩
  intro index cell cellAt
  have within : index < count := by
    rw [← lengthEq]
    exact (List.getElem?_eq_some_iff.mp cellAt).1
  rw [getElem?_oneCell bytes within] at cellAt
  obtain rfl := Option.some.inj cellAt
  rw [← isSet_ofField, isSet_allNullBut (by omega)]
  split
  · next same => simp [same]
  · next different => simp [Ne.symm different]

/-- There is a packet of such a row. -/
theorem exists_rowWith_oneCell {clear : Nat} (bytes : Bytes)
    (carries : ∀ field, fields[clear]? = some field →
      field.Carries protocol options config (some bytes)) :
    ∃ packet,
      RowWith protocol options config fields (oneCell fields.length clear bytes) packet := by
  have lengthEq : fields.length = (oneCell fields.length clear bytes).length := by
    rw [oneCell, List.length_set, List.length_replicate]
  let bitmap := allNullBut ((fields.length + 9) / 8) clear
  let row := rowHeader protocol bitmap ++
    ((oneCell fields.length clear bytes).map (cellBytes protocol)).flatten
  refine ⟨packetOf row, List.forall₂_iff_get.mpr ⟨lengthEq, ?_⟩, bitmap, [],
    fun _ => isNullBitmap_oneCell fields.length clear bytes, ?_, Nat.le_refl _⟩
  · intro index inFields inCells
    have cellAt := @getElem?_oneCell _ clear _ bytes inFields
    rw [List.getElem?_eq_getElem inCells] at cellAt
    rw [List.get_eq_getElem, List.get_eq_getElem, Option.some.inj cellAt]
    split
    · next same =>
        obtain rfl := same
        exact carries _ (List.getElem?_eq_getElem inFields)
    · trivial
  · rw [ahead_packetOf, List.append_nil, List.append_nil]

/-- A row of `NULL` only. -/
theorem exists_rowWith_nulls : ∃ packet,
    RowWith protocol options config fields (oneCell fields.length fields.length []) packet :=
  exists_rowWith_oneCell [] fun field found => by
    rw [List.getElem?_eq_none (Nat.le_refl _)] at found
    cases found

theorem not_value_nulls {index : Nat} {field : Field} (fieldAt : fields[index]? = some field)
    {bytes : Bytes}
    (cellAt : (oneCell fields.length fields.length [])[index]? = some (some bytes)) :
    False := by
  have within := (List.getElem?_eq_some_iff.mp fieldAt).1
  rw [getElem?_oneCell [] within, if_neg (Nat.ne_of_gt within)] at cellAt
  cases Option.some.inj cellAt

end Examples

/-! ## Rows that both parsers read -/

section Twins

variable {options : Options (TypeCastFunction α)} {config : Config (TypeCastFunction α)}
  {fields : List Field} {protocol : Protocol} {cells : List (Option Bytes)} {packet : Packet}

theorem carriesNull_of_cells (runtime : Runtime α) (plain : options.typeCast.isPlain = true)
    (configPlain : config.typeCast.isPlain = true)
    (carries : List.Forall₂ (Field.Carries .text options config) fields cells) {rest : Bytes}
    (aheadEq : packet.ahead = (cells.map (cellBytes .text)).flatten ++ rest)
    (inside : packet.offset + (cells.map (cellBytes .text)).flatten.length ≤ packet.endOffset) :
    CarriesNull (staticTextColumn runtime options config) fields packet := by
  induction carries generalizing packet with
  | nil => trivial
  | @cons field cell fields cells head _ ih =>
      rw [List.map_cons, List.flatten_cons, List.append_assoc] at aheadEq
      rw [List.map_cons, List.flatten_cons, List.length_append] at inside
      constructor
      · intro isNull
        cases cell with
        | none =>
            rw [peekByte_eq, aheadEq]
            rfl
        | some bytes =>
            rw [head.1] at isNull
            cases isNull
      · intro value after run
        obtain ⟨result, reads⟩ := @cellReader_takes _ [field] options config .text .static runtime
          0 field rfl cell head
        have columnRun := reads packet _ aheadEq (by omega)
        rw [staticTextColumn_plain runtime plain configPlain] at run
        have same := run.symm.trans columnRun
        cases result with
        | error error => cases same
        | ok other =>
            obtain ⟨rfl, rfl⟩ := Prod.mk.inj (Except.ok.inj same)
            exact ih (ahead_advance_of_append _ aheadEq rfl)
              (by rw [offset_advance, endOffset_advance]; omega)

/-- Such a row is one that both parsers are compared for. -/
theorem RowWith.rowPacket (row : RowWith protocol options config fields cells packet)
    (runtime : Runtime α) (plain : options.typeCast.isPlain = true)
    (configPlain : config.typeCast.isPlain = true) :
    RowPacket runtime fields options config protocol packet := by
  obtain ⟨carries, bitmap, rest, isBitmap, aheadEq, inside⟩ := row
  cases protocol with
  | text => exact carriesNull_of_cells runtime plain configPlain carries aheadEq inside
  | binary =>
      have bitmapEq := isBitmap rfl
      have count : nullBitmapLength fields = bitmap.length := by
        rw [nullBitmapLength, bitmapEq.1, carries.length_eq]
      intro nullBytes after run index field fieldAt isNull
      rw [count, readNullBitmap_run aheadEq] at run
      obtain ⟨rfl, rfl⟩ := Prod.mk.inj (Except.ok.inj run)
      obtain ⟨inFields, rfl⟩ := List.getElem?_eq_some_iff.mp fieldAt
      have within : index < cells.length := by rwa [← carries.length_eq]
      have carriesCell := (List.forall₂_iff_get.mp carries).2 index inFields within
      rw [isSet_ofField, bitmapEq.2 index _ (List.getElem?_eq_getElem within)]
      rw [List.get_eq_getElem, List.get_eq_getElem] at carriesCell
      cases cell : cells[index] with
      | none => rfl
      | some bytes =>
          rw [cell] at carriesCell
          rw [carriesCell.1] at isNull
          cases isNull

/-- Both parsers of a protocol make the same of every row: the same values and the same packet, or
they throw at the same column. -/
def ReadSameRows (runtime : Runtime α) (fields : List Field)
    (options : Options (TypeCastFunction α)) (config : Config (TypeCastFunction α))
    (protocol : Protocol) : Prop :=
  ∀ cells packet, RowWith protocol options config fields cells packet →
    RowParser.compiled.row runtime fields options config protocol packet =
      RowParser.static.row runtime fields options config protocol packet

/-- Both parsers reject the same column, or none.  If none is rejected, a time zone is set or no
column is read with one.  If one is rejected, no column in front of it can throw. -/
structure RejectSame (runtime : Runtime α) (fields : List Field)
    (options : Options (TypeCastFunction α)) (config : Config (TypeCastFunction α))
    (protocol : Protocol) : Prop where
  same : RowParser.compiled.rejected protocol options fields =
    RowParser.static.rejected protocol options fields
  timezone : RowParser.compiled.rejected protocol options fields = none →
    timezone options config ≠ none ∨
      ∀ field ∈ fields, readsTimezone protocol field options config = false
  early : ∀ column, RowParser.compiled.rejected protocol options fields = some column →
    ∀ index < column, ∀ field, fields[index]? = some field →
      ¬MayThrow runtime options config protocol field

theorem rejected_static : RowParser.static.rejected protocol options fields =
    fields.findIdx? (RowParser.static.rejects protocol options) := by
  rw [RowParser.rejected, if_neg]
  rintro ⟨notCompiled, -⟩
  cases notCompiled

theorem rejects_of_rejected {column : Nat}
    (rejected : RowParser.static.rejected protocol options fields = some column) :
    (∃ field, fields[column]? = some field ∧
      RowParser.static.rejects protocol options field = true) ∧
      ∀ before < column, ∀ other, fields[before]? = some other →
        RowParser.static.rejects protocol options other = false := by
  rw [rejected_static, List.findIdx?_eq_some_iff_getElem] at rejected
  obtain ⟨within, rejects, early⟩ := rejected
  refine ⟨⟨_, List.getElem?_eq_getElem within, rejects⟩, ?_⟩
  intro before less other otherAt
  obtain ⟨_, rfl⟩ := List.getElem?_eq_some_iff.mp otherAt
  exact Bool.eq_false_iff.mpr (early before less)

/-- A row in which no value throws in front of the column that is rejected. -/
theorem RowWith.static_row_of_rejected
    (row : RowWith protocol options config fields cells packet) (runtime : Runtime α)
    (plain : options.typeCast.isPlain = true) (configPlain : config.typeCast.isPlain = true)
    {column : Nat} (rejected : RowParser.static.rejected protocol options fields = some column)
    (early : ∀ before < column, ∀ other, fields[before]? = some other →
      ∀ bytes error, cells[before]? = some (some bytes) → ¬Reads (RowParser.static.plainReader
        runtime fields options config protocol before other) bytes (.error error)) :
    RowParser.static.row runtime fields options config protocol packet = .error column := by
  obtain ⟨⟨field, fieldAt, rejects⟩, others⟩ := rejects_of_rejected rejected
  exact row.static_row_eq_error runtime plain configPlain fieldAt (.inl rejects)
    fun before less other otherAt =>
      ⟨others before less other otherAt, early before less other otherAt⟩

theorem RejectSame.readSameRows {runtime : Runtime α} (plain : options.typeCast.isPlain = true)
    (configPlain : config.typeCast.isPlain = true)
    (reject : RejectSame runtime fields options config protocol) :
    ReadSameRows runtime fields options config protocol := by
  intro cells packet row
  cases rejected : RowParser.compiled.rejected protocol options fields with
  | none =>
      have taken := reject.same.symm.trans rejected
      rw [RowParser.row_eq runtime config rejected, RowParser.row_eq runtime config taken]
      exact congrArg rowOf (compiledValues_eq runtime plain configPlain (reject.timezone rejected)
        (row.rowPacket runtime plain configPlain))
  | some column =>
      have compiled : RowParser.compiled.row runtime fields options config protocol packet =
          .error column := by
        rw [RowParser.row, rejected]
      rw [compiled, row.static_row_of_rejected runtime plain configPlain
        (reject.same.symm.trans rejected)]
      intro before less other otherAt bytes error cellAt throws
      obtain ⟨inFields, rfl⟩ := List.getElem?_eq_some_iff.mp otherAt
      obtain ⟨inCells, cellEq⟩ := List.getElem?_eq_some_iff.mp cellAt
      have carries := (List.forall₂_iff_get.mp row.1).2 before inFields inCells
      rw [List.get_eq_getElem, List.get_eq_getElem, cellEq] at carries
      exact reject.early column rejected before less _ otherAt
        ((mayThrow_iff runtime otherAt).mpr ⟨bytes, error, carries, throws⟩)

/-- A row of `NULL` only is read up to the column that is rejected. -/
theorem RowWith.row_nulls
    (row : RowWith protocol options config fields (oneCell fields.length fields.length []) packet)
    (parser : RowParser) (runtime : Runtime α) (plain : options.typeCast.isPlain = true)
    (configPlain : config.typeCast.isPlain = true) :
    (∀ column, parser.rejected protocol options fields = some column →
        parser.row runtime fields options config protocol packet = .error column) ∧
      (parser.rejected protocol options fields = none → ∃ read,
        parser.row runtime fields options config protocol packet = .ok read) := by
  constructor
  · intro column rejected
    cases parser with
    | compiled => rw [RowParser.row, rejected]
    | static =>
        refine row.static_row_of_rejected runtime plain configPlain rejected ?_
        intro before _ other otherAt bytes error cellAt _
        exact not_value_nulls otherAt cellAt
  · intro taken
    obtain ⟨values, after, rowEq, -⟩ := row.row_eq_ok parser runtime plain configPlain taken
      fun index field bytes fieldAt cellAt => (not_value_nulls fieldAt cellAt).elim
    exact ⟨_, rowEq⟩

theorem ReadSameRows.rejected_eq {runtime : Runtime α} (plain : options.typeCast.isPlain = true)
    (configPlain : config.typeCast.isPlain = true)
    (same : ReadSameRows runtime fields options config protocol) :
    RowParser.compiled.rejected protocol options fields =
      RowParser.static.rejected protocol options fields := by
  obtain ⟨packet, row⟩ := @exists_rowWith_nulls _ options config fields protocol
  obtain ⟨compiledThrows, compiledReads⟩ := row.row_nulls .compiled runtime plain configPlain
  obtain ⟨staticThrows, staticReads⟩ := row.row_nulls .static runtime plain configPlain
  have rowEq := same _ packet row
  cases compiled : RowParser.compiled.rejected protocol options fields with
  | none =>
      obtain ⟨read, readEq⟩ := compiledReads compiled
      cases static : RowParser.static.rejected protocol options fields with
      | none => rfl
      | some column =>
          rw [readEq, staticThrows column static] at rowEq
          cases rowEq
  | some column =>
      rw [compiledThrows column compiled] at rowEq
      cases static : RowParser.static.rejected protocol options fields with
      | none =>
          obtain ⟨read, readEq⟩ := staticReads static
          rw [readEq] at rowEq
          cases rowEq
      | some other =>
          rw [staticThrows other static] at rowEq
          rw [Except.error.inj rowEq]

/-- The bytes of a new year. -/
def newYearOf (protocol : Protocol) (field : Field) : Bytes :=
  match protocol with
  | .text => newYearCell field
  | .binary => newYearBytes

theorem carries_newYear {field : Field}
    (reads : readsTimezone protocol field options config = true) :
    field.Carries protocol options config (some (newYearOf protocol field)) := by
  refine ⟨isNullColumn_of_readsTimezone reads, ?_⟩
  simp only [readsTimezone, Bool.and_eq_true, Bool.not_eq_true'] at reads
  obtain ⟨⟨json, isDate⟩, strings⟩ := reads
  cases protocol with
  | text =>
      cases typeEq : Types.ofNat field.columnType with
      | DATE =>
          have cellEq : newYearCell field = 10 :: textBytes "2020-01-01" := if_pos typeEq
          refine ⟨textBytes "2020-01-01", ⟨[10], .inl ⟨by decide, rfl⟩, cellEq⟩, ?_⟩
          simp only [Field.EndsBehind, textReadCodeFor, json, strings, typeEq, Bool.false_eq_true,
            if_false]
          exact .inl rfl
      | DATETIME | TIMESTAMP =>
          have cellEq : newYearCell field = 19 :: textBytes "2020-01-01 00:00:00" :=
            if_neg (by rw [typeEq]; decide)
          refine ⟨textBytes "2020-01-01 00:00:00", ⟨[19], .inl ⟨by decide, rfl⟩, cellEq⟩, ?_⟩
          simp only [Field.EndsBehind, textReadCodeFor, json, strings, typeEq, Bool.false_eq_true,
            if_false]
          trivial
      | _ => simp [typeEq] at isDate
  | binary =>
      show field.Encodes newYearBytes
      cases typeEq : Types.ofNat field.columnType with
      | DATE | DATETIME | TIMESTAMP | NEWDATE =>
          simp only [Field.Encodes, json, typeEq, Bool.false_eq_true, if_false]
          exact ⟨4, by decide, [0xe4, 0x07, 1, 1], rfl, rfl⟩
      | _ => simp [typeEq] at isDate

/-- What both parsers read a new year with, if no time zone is set. -/
theorem plainReader_newYear {runtime : Runtime α} (knows : KnowsDates runtime) {field : Field}
    (index : Nat) (unset : timezone options config = none)
    (reads : readsTimezone protocol field options config = true) :
    Reads (RowParser.compiled.plainReader runtime fields options config protocol index field)
        (newYearOf protocol field) (.ok (.date none)) ∧
      Reads (RowParser.static.plainReader runtime fields options config protocol index field)
        (newYearOf protocol field) (.ok (.date (runtime.localTime newYear))) := by
  cases protocol with
  | text =>
      exact ⟨fun packet rest aheadEq _ =>
          (text_newYear knows fields (.ofField index) unset reads aheadEq).1,
        fun packet rest aheadEq _ =>
          (text_newYear knows fields (.ofField index) unset reads aheadEq).2⟩
  | binary =>
      exact ⟨fun packet rest aheadEq _ => (binary_newYear knows fields index unset reads aheadEq).1,
        fun packet rest aheadEq _ => (binary_newYear knows fields index unset reads aheadEq).2⟩

/-- A row with one new year tells the parsers apart, if no time zone is set. -/
theorem ReadSameRows.timezone_ne_none {runtime : Runtime α} (knows : KnowsDates runtime)
    (plain : options.typeCast.isPlain = true) (configPlain : config.typeCast.isPlain = true)
    (same : ReadSameRows runtime fields options config protocol)
    (taken : RowParser.compiled.rejected protocol options fields = none) {field : Field}
    (isField : field ∈ fields) (reads : readsTimezone protocol field options config = true) :
    timezone options config ≠ none := by
  intro unset
  obtain ⟨index, within, rfl⟩ := List.mem_iff_getElem.mp isField
  have fieldAt := List.getElem?_eq_getElem within
  obtain ⟨packet, row⟩ := @exists_rowWith_oneCell _ options config fields protocol index
    (newYearOf protocol fields[index]) (by
      intro other otherAt
      obtain rfl := Option.some.inj (fieldAt.symm.trans otherAt)
      exact carries_newYear reads)
  have cellAt :=
    @getElem?_oneCell fields.length index index (newYearOf protocol fields[index]) within
  rw [if_pos rfl] at cellAt
  obtain ⟨compiledReads, staticReads⟩ :=
    @plainReader_newYear _ _ _ fields protocol _ knows _ index unset reads
  -- the row has no other value
  have returns (parser : RowParser) {value : Value α} (valueReads : Reads (parser.plainReader
      runtime fields options config protocol index fields[index])
        (newYearOf protocol fields[index]) (.ok value)) (offset : Nat) (other : Field)
      (bytes : Bytes) (otherAt : fields[offset]? = some other)
      (bytesAt : (oneCell fields.length index (newYearOf protocol fields[index]))[offset]? =
        some (some bytes)) : ∃ value, Reads (parser.plainReader runtime fields options config
          protocol offset other) bytes (.ok value) := by
    rw [getElem?_oneCell _ (List.getElem?_eq_some_iff.mp otherAt).1] at bytesAt
    split at bytesAt
    · next isIndex =>
        obtain rfl := isIndex
        obtain rfl := Option.some.inj (fieldAt.symm.trans otherAt)
        obtain rfl := Option.some.inj (Option.some.inj bytesAt)
        exact ⟨value, valueReads⟩
    · cases Option.some.inj bytesAt
  obtain ⟨compiled, after, compiledEq, compiledAt⟩ :=
    row.row_eq_ok .compiled runtime plain configPlain taken (returns .compiled compiledReads)
  obtain ⟨static, behind, staticEq, staticAt⟩ := row.row_eq_ok .static runtime plain configPlain
    ((same.rejected_eq plain configPlain).symm.trans taken) (returns .static staticReads)
  have rowEq := same _ packet row
  rw [compiledEq, staticEq] at rowEq
  obtain ⟨rfl, -⟩ := Prod.mk.inj (Except.ok.inj rowEq)
  have valueEq := (compiledAt index _ _ _ fieldAt cellAt compiledReads).symm.trans
    (staticAt index _ _ _ fieldAt cellAt staticReads)
  exact knows.localNewYear (Value.date.inj (Option.some.inj valueEq)).symm

/-- A row with one value that throws in front of the column that is rejected tells the parsers
apart. -/
theorem ReadSameRows.not_mayThrow {runtime : Runtime α}
    (plain : options.typeCast.isPlain = true) (configPlain : config.typeCast.isPlain = true)
    (same : ReadSameRows runtime fields options config protocol) {column index : Nat}
    (rejected : RowParser.compiled.rejected protocol options fields = some column)
    (less : index < column) {field : Field} (fieldAt : fields[index]? = some field) :
    ¬MayThrow runtime options config protocol field := by
  intro mayThrow
  obtain ⟨bytes, error, carries, throws⟩ := (mayThrow_iff runtime fieldAt).mp mayThrow
  obtain ⟨packet, row⟩ := @exists_rowWith_oneCell _ options config fields protocol index bytes (by
    intro other otherAt
    obtain rfl := Option.some.inj (fieldAt.symm.trans otherAt)
    exact carries)
  have cellAt := @getElem?_oneCell fields.length index index bytes
    (List.getElem?_eq_some_iff.mp fieldAt).1
  rw [if_pos rfl] at cellAt
  have taken := (rejects_of_rejected
    ((same.rejected_eq plain configPlain).symm.trans rejected)).2
  have static := row.static_row_eq_error runtime plain configPlain fieldAt
    (.inr ⟨bytes, error, cellAt, throws⟩) (by
      intro before earlier other otherAt
      refine ⟨taken before (Nat.lt_trans earlier less) other otherAt, ?_⟩
      intro value _ valueAt _
      rw [getElem?_oneCell bytes (List.getElem?_eq_some_iff.mp otherAt).1,
        if_neg (Nat.ne_of_gt earlier)] at valueAt
      cases Option.some.inj valueAt)
  have rowEq := same _ packet row
  rw [static, RowParser.row, rejected] at rowEq
  exact Nat.ne_of_gt less (Except.error.inj rowEq)

/-- Options of rows that are arrays. -/
def arrayOptions {φ : Type} : Options φ :=
  { noOptions with rowsAsArray := true }

/-- What a connection is configured with if nothing is set. -/
def localConfig {φ : Type} : Config φ :=
  { noConfig with timezone := some (units "local") }

end Twins

end Mysql2.Parsers

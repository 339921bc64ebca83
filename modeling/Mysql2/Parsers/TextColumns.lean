import Mysql2.Packets.Reads
import Mysql2.Parsers.TimeZone

/-!
# Columns of a row, one behind the other

What the columns of a row make of `NULL`, and which columns of a text row end
where the next one starts, or throw.  Both parsers of a protocol are looked at, without a
`typeCast` that is `false` or a function.
-/

namespace Mysql2.Parsers

open Mysql2.Packets Mysql2.Packets.Packet Mysql2.Script

variable {α φ : Type}

/-! ## NULL -/

/-- A column of type `VECTOR`. -/
def Field.isVector (field : Field) : Bool :=
  !field.isJsonFormat && Types.ofNat field.columnType = .VECTOR

/-- What a text column returns for `NULL`. -/
def Field.nullValue (field : Field) : Value α :=
  if field.isVector then .array [] else .null

theorem nullValue_shape (call : PacketCall) :
    (call.shape.nullValue : Value α) = call.nullValue := by
  cases call <;> rfl

theorem nullValue_textReadCodeFor (field : Field) (encodingExpr : EncodingExpr)
    (config : Config φ) (options : Options φ) :
    ((textReadCodeFor field encodingExpr config options).nullValue : Value α) =
      field.nullValue := by
  rw [Field.nullValue, Field.isVector]
  cases json : field.isJsonFormat with
  | true =>
      simp only [textReadCodeFor, json, if_true]
      split <;> rfl
  | false =>
      simp only [textReadCodeFor, json, Bool.false_eq_true, if_false, Bool.not_false, Bool.true_and]
      cases Types.ofNat field.columnType <;> dsimp only <;> first | rfl | (split <;> rfl)

theorem readField_null_run (runtime : Runtime α) (field : Field) (config : Config φ)
    (options : Options φ) {packet : Packet} (isNull : packet.peekByte = some 0xfb) :
    (readField runtime field config options).run packet =
      .ok (field.nullValue, packet.advance 1) := by
  cases nullColumn : field.isNullColumn with
  | true =>
      have notVector : field.isVector = false := by
        simp_all [Field.isNullColumn, Field.isVector]
      rw [(nullColumn_run runtime [] (.ofField 0) config options nullColumn isNull).2,
        Field.nullValue, notVector]
      rfl
  | false =>
      obtain ⟨call, callEq, lengthCoded, shape⟩ :=
        exists_call_readField runtime config options nullColumn (.ofField 0)
      rw [callEq, null_run_of_isLengthCoded runtime [field] lengthCoded isNull, ← nullValue_shape,
        shape, nullValue_shape, nullValue_textReadCodeFor]

section Null

variable (runtime : Runtime α) (fields : List Field) {options : Options (TypeCastFunction α)}
  {config : Config (TypeCastFunction α)}

/-- Whether both parsers of both protocols read `null` where a column carries `NULL`, behind
its byte in a text row, and without taking a byte in a binary row. -/
def ReadsNull (options : Options (TypeCastFunction α)) (config : Config (TypeCastFunction α))
    (index : Nat) (field : Field) : Prop :=
  (∀ packet : Packet, packet.peekByte = some 0xfb →
    (compiledTextColumn runtime fields options config index field).read.run packet =
        .ok (.null, packet.advance 1) ∧
      (staticTextColumn runtime options config field).read.run packet =
        .ok (.null, packet.advance 1)) ∧
    ∀ (nullBytes : List (Option Nat)) (nullBit : NullBit), nullBit.isSet nullBytes = true →
      ∀ packet : Packet,
        (compiledBinaryColumn runtime fields options config nullBytes index nullBit field).read.run
            packet = .ok (.null, packet) ∧
          (staticBinaryColumn runtime fields options config nullBytes field index nullBit).read.run
            packet = .ok (.null, packet)

/-- Every column reads `null` but a vector. -/
theorem readsNull_iff (plain : options.typeCast.isPlain = true)
    (configPlain : config.typeCast.isPlain = true) (index : Nat) (field : Field) :
    ReadsNull runtime fields options config index field ↔ field.isVector = false := by
  have compiledRun : ∀ packet : Packet, packet.peekByte = some 0xfb →
      (compiledTextColumn runtime fields options config index field).read.run packet =
        .ok (field.nullValue, packet.advance 1) := by
    intro packet isNull
    rw [compiledTextColumn_plain runtime fields plain]
    dsimp only
    rw [null_run_of_isLengthCoded runtime fields (isLengthCoded_textReadCodeFor ..) isNull,
      nullValue_textReadCodeFor]
  constructor
  · intro reads
    -- a packet that holds the byte of `NULL`
    have isNull : (packetOf [0xfb]).peekByte = some 0xfb := rfl
    have read := (reads.1 _ isNull).1
    rw [compiledRun _ isNull, Field.nullValue] at read
    cases isVector : field.isVector with
    | false => rfl
    | true =>
        rw [isVector] at read
        cases read
  · intro notVector
    have nullValue : (field.nullValue : Value α) = .null := by
      rw [Field.nullValue, notVector]
      rfl
    constructor
    · intro packet isNull
      rw [compiledRun packet isNull, staticTextColumn_plain runtime plain configPlain, nullValue]
      refine ⟨rfl, ?_⟩
      dsimp only
      rw [readField_null_run runtime field config options isNull, nullValue]
    · intro nullBytes nullBit isSet packet
      rw [compiledBinaryColumn_plain runtime fields plain,
        staticBinaryColumn_plain runtime fields plain configPlain, if_pos isSet, if_pos isSet]
      exact ⟨rfl, rfl⟩

end Null

/-- A column of type `VECTOR`. -/
def vectorField : Field :=
  { dateField with columnType := Types.VECTOR.toNat }

theorem readsNull_iff_dateField :
    ReadsNull utcRuntime [dateField] noOptions noConfig 0 dateField ↔ dateField.isVector = false :=
  readsNull_iff utcRuntime [dateField] rfl rfl 0 dateField

theorem not_readsNull_vectorField :
    ¬ReadsNull utcRuntime [vectorField] noOptions noConfig 0 vectorField := by
  intro reads
  have read := (reads.1 (packetOf [0xfb]) rfl).1
  have array : (compiledTextColumn utcRuntime [vectorField] noOptions noConfig 0
      vectorField).read.run (packetOf [0xfb]) = .ok (.array [], (packetOf [0xfb]).advance 1) := rfl
  rw [array] at read
  cases read

/-! ## Where a column ends -/

/-- A column of a text row: `NULL`, or a length and a text. -/
def IsColumn (column : Bytes) : Prop :=
  column = [0xfb] ∨ ∃ content, IsCell content column

/-- A packet whose read position is at a column of a text row, which ends with the packet. -/
def InRow (packet : Packet) (column : Bytes) : Prop :=
  ∃ (columns : List Bytes) (more : Bytes), (∀ other ∈ columns, IsColumn other) ∧
    packet.ahead = column ++ columns.flatten ++ more ∧
      packet.endOffset = packet.offset + (column ++ columns.flatten).length

theorem inRow_packetOf {column : Bytes} {columns : List Bytes}
    (isColumn : ∀ other ∈ columns, IsColumn other) :
    InRow (packetOf (column ++ columns.flatten)) column :=
  ⟨columns, [], isColumn, ahead_packetOf _, rfl⟩

/-- Whatever the other columns of a row are, a reader that does not throw moves to the start of
the next one, and what it returns or throws depends on its own column only. -/
def StaysInColumn (reader : Reader (Value α)) (column : Bytes) : Prop :=
  (∀ packet, InRow packet column → ∀ value after, reader.run packet = .ok (value, after) →
    after.offset = packet.offset + column.length) ∧
    ∃ result : Except JsError (Value α), ∀ packet, InRow packet column →
      (reader.run packet).map Prod.fst = result

theorem StaysInColumn.of_reads {reader : Reader (Value α)} {column : Bytes}
    {result : Except JsError (Value α)} (reads : Reads reader column result) :
    StaysInColumn reader column := by
  have runEq : ∀ packet, InRow packet column →
      reader.run packet = result.map fun value => (value, packet.advance column.length) := by
    rintro packet ⟨columns, more, _, aheadEq, endEq⟩
    rw [List.append_assoc] at aheadEq
    rw [List.length_append] at endEq
    exact reads packet _ aheadEq (by omega)
  constructor
  · intro packet inRow value after run
    rw [runEq packet inRow] at run
    cases result with
    | error error => cases run
    | ok result =>
        cases run
        rfl
  · refine ⟨result, fun packet inRow => ?_⟩
    rw [runEq packet inRow]
    cases result <;> rfl

/-- A reader that ends elsewhere in a row does not stay in its column. -/
theorem StaysInColumn.eq_of_run {reader : Reader (Value α)} {column : Bytes}
    (stays : StaysInColumn reader column) {columns : List Bytes}
    (isColumn : ∀ other ∈ columns, IsColumn other) {value : Value α} {count : Nat}
    (run : reader.run (packetOf (column ++ columns.flatten)) =
      .ok (value, (packetOf (column ++ columns.flatten)).advance count)) :
    count = column.length := by
  have offsetEq := stays.1 _ (inRow_packetOf isColumn) _ _ run
  rw [offset_advance] at offsetEq
  omega

/-- The texts behind which a call ends.  A date of another length is not skipped, a vector is
read in steps of four bytes, the sign of the next column is taken for one behind a lone minus,
and of a column of type `NULL` only the length is read. -/
def PacketCall.EndsBehind : PacketCall → Bytes → Prop
  | .parseDate _, content => content.length = 10 ∨ content = []
  | .parseVector, content => 4 ∣ content.length
  | .parseLengthCodedIntNoBigCheck, content | .parseLengthCodedInt _, content
  | .parseLengthCodedFloat, content => content ≠ [0x2d]
  | .readLengthCodedNumber, content => content = []
  | _, _ => True

theorem endsBehind_shape (call : PacketCall) (content : Bytes) :
    call.shape.EndsBehind content ↔ call.EndsBehind content := by
  cases call <;> exact Iff.rfl

/-- What makes the value of a text, as far as it can throw: the decoder of an encoding, `JSON.parse`
behind one, or `parseGeometry`. -/
inductive Conversion
  | safe
  | decode (encoding : Option String)
  | json (encoding : Option String) (supportBigNumbers : Bool)
  | geometry
  deriving DecidableEq, Repr

/-- The texts that a conversion throws for.  An empty geometry is not parsed. -/
def Conversion.ThrowsFor (runtime : Runtime α) : Conversion → Bytes → Prop
  | .safe, _ => False
  | .decode encoding, content => ∃ error, runtime.decode encoding content = .error error
  | .json encoding supportBigNumbers, content => ∃ error,
      (runtime.decode encoding content >>= fun text =>
        runtime.jsonParse (supportBigNumbers && runtime.jsonSourceAccessSupported &&
          hasBigNumeral 0 text.toList) (some text)) = .error error
  | .geometry, content => content ≠ [] ∧ ∃ error, runtime.geometry content = .error error

/-- The conversion that a call ends with. -/
def PacketCall.conversion (fields : List Field) : PacketCall → Conversion
  | .readLengthCodedString encoding => .decode (encoding.encoding fields)
  | .parseJson encoding supportBigNumbers => .json (encoding.encoding fields) supportBigNumbers
  | .parseGeometryValue => .geometry
  | _ => .safe

section Calls

variable (runtime : Runtime α) (fields : List Field) {content cell : Bytes}
  (isCell : IsCell content cell)

include isCell

/-- A call takes just the column of such a text, and throws exactly if its conversion does. -/
theorem reads_of_endsBehind {call : PacketCall} (lengthCoded : call.isLengthCoded = true)
    (ends : call.EndsBehind content) : ∃ result, Reads (call.run runtime fields) cell result ∧
      ((∃ error, result = .error error) ↔ (call.conversion fields).ThrowsFor runtime content) := by
  -- a conversion that is safe
  have safe {reader : Reader (Value α)} (returns : Returns reader cell) :
      ∃ result, Reads reader cell result ∧ ((∃ error, result = .error error) ↔ False) := by
    obtain ⟨value, reads⟩ := returns
    refine ⟨.ok value, reads, ?_, False.elim⟩
    rintro ⟨error, throws⟩
    cases throws
  cases call with
  | parseLengthCodedIntNoBigCheck =>
      exact safe ⟨_, Reads.column isCell (Reads.parseIntNoBigCheck ends)⟩
  | parseLengthCodedIntString =>
      have reads := Reads.readStringValue isCell runtime (some "binary")
      rw [runtime.decode_binary] at reads
      exact safe ⟨_, reads⟩
  | parseLengthCodedInt bigNumbers =>
      exact safe ⟨_, Reads.column isCell (Reads.parseInt runtime bigNumbers ends)⟩
  | parseLengthCodedFloat => exact safe ⟨_, Reads.column isCell (Reads.parseFloat runtime ends)⟩
  | readLengthCodedNumber =>
      obtain ⟨header, isLength, rfl⟩ := isCell
      obtain rfl : content = [] := ends
      rw [List.append_nil] at safe ⊢
      exact safe ⟨_, (Reads.readLength isLength false false).map lengthCodedValue⟩
  | readLengthCodedBuffer => exact safe ⟨_, Reads.readLengthCodedBuffer isCell⟩
  | parseDate zone =>
      rcases ends with length | rfl
      · exact safe ⟨_, Reads.parseDate runtime (some zone) isCell length⟩
      · exact safe ⟨.date none, Reads.column isCell (Reads.pure _)⟩
  | parseDateTime zone => exact safe ⟨_, Reads.parseDateTime runtime (some zone) isCell⟩
  | parseVector => exact safe ⟨_, Reads.parseVector runtime isCell ends⟩
  | readLengthCodedString encoding =>
      refine ⟨_, Reads.readStringValue isCell runtime _, ?_⟩
      show _ ↔ ∃ error, runtime.decode (encoding.encoding fields) content = .error error
      cases runtime.decode (encoding.encoding fields) content with
      | error error => exact iff_of_true ⟨error, rfl⟩ ⟨error, rfl⟩
      | ok text =>
          constructor <;>
            · rintro ⟨error, throws⟩
              cases throws
  | parseGeometryValue =>
      refine ⟨_, Reads.parseGeometryValue isCell runtime, ?_⟩
      show _ ↔ content ≠ [] ∧ ∃ error, runtime.geometry content = .error error
      split
      · next empty =>
          constructor
          · rintro ⟨error, throws⟩
            cases throws
          · rintro ⟨nonempty, -⟩
            exact absurd empty nonempty
      · next nonempty => exact (and_iff_right nonempty).symm
  | parseJson encoding bigNumbers => exact ⟨_, Reads.parseJson isCell runtime _ bigNumbers, Iff.rfl⟩
  | _ => exact absurd lengthCoded Bool.false_ne_true

/-- A call takes just the column of such a text. -/
theorem takes_of_endsBehind {call : PacketCall} (lengthCoded : call.isLengthCoded = true)
    (ends : call.EndsBehind content) : Takes (call.run runtime fields) cell := by
  obtain ⟨result, reads, -⟩ := reads_of_endsBehind runtime fields isCell lengthCoded ends
  exact ⟨result, reads⟩

end Calls

/-! ### Other texts -/

section Overrun

variable {packet : Packet} {rest : Bytes}

/-- A minus, and the plus that the next column starts with. -/
theorem signs_run (aheadEq : packet.ahead = 0x2d :: 0x2b :: rest) :
    (skipSign minus).run packet = .ok (true, packet.advance 1) ∧
      (skipSign plus).run (packet.advance 1) = .ok (true, packet.advance 2) := by
  have isMinus : packet.peekByte = some minus := by
    rw [peekByte_eq, aheadEq]
    rfl
  have isPlus : (packet.advance 1).peekByte = some plus := by
    rw [peekByte_eq, ahead_advance_one aheadEq]
    rfl
  exact ⟨skipSign_run_of_eq isMinus, skipSign_run_of_eq isPlus⟩

theorem minus_run (aheadEq : packet.ahead = 0x2d :: 0x2b :: rest) :
    readMinus.run packet = .ok (-1, packet.advance 1) := by
  rw [readMinus, run_bind_of_ok (signs_run aheadEq).1]
  rfl

/-- No digit is left behind a lone minus. -/
theorem addDigits_none (packet : Packet) :
    (addDigits (packet.offset + 1)).run (packet.advance 2) = .ok (some 0, packet.advance 2) := by
  have none : packet.offset + 1 - (packet.offset + 2) = 0 := by omega
  rw [addDigits, run_get_bind, offset_advance, none, run_bind_of_ok (readBuffer_take _ 0),
    List.take_zero, if_neg (by decide)]
  rfl

theorem parseIntNoBigCheck_minus_run (aheadEq : packet.ahead = 0x2d :: 0x2b :: rest) :
    (Packet.parseIntNoBigCheck (α := α) (.number 1)).run packet =
      .ok (.number 0, packet.advance 2) := by
  show StateT.run (get >>= _) packet = _
  rw [run_get_bind, run_bind_of_ok (minus_run aheadEq), run_bind_of_ok (signs_run aheadEq).2]
  exact run_bind_of_ok (addDigits_none packet)

theorem parseInt_minus_run (runtime : Runtime α) (supportBigNumbers : Bool)
    (aheadEq : packet.ahead = 0x2d :: 0x2b :: rest) :
    (Packet.parseInt runtime (.number 1) supportBigNumbers).run packet =
      .ok (.number 0, packet.advance 2) := by
  have noDigits : packet.offset + (LengthCoded.number 1).toNat - (packet.advance 1).offset = 0 :=
    Nat.sub_self _
  show StateT.run (get >>= _) packet = _
  rw [run_get_bind, run_bind_of_ok (minus_run aheadEq), run_get_bind, noDigits,
    if_neg (by simp), run_bind_of_ok (signs_run aheadEq).2]
  show StateT.run (addDigits (packet.offset + 1) >>= _) _ = _
  rw [run_bind_of_ok (addDigits_none packet)]
  show StateT.run (if supportBigNumbers = true ∧ (!isSafeInteger (0 * -1)) = true then _ else _) _ = _
  rw [if_neg (by simp [isSafeInteger])]
  rfl

theorem parseFloat_minus_run (runtime : Runtime α)
    (aheadEq : packet.ahead = 0x2d :: 0x2b :: rest) :
    (Packet.parseFloat runtime (.number 1)).run packet =
      .ok (runtime.decimal [0x2d], packet.advance 2) := by
  have aheadEq' : packet.ahead = [0x2d] ++ 0x2b :: rest := aheadEq
  have sliceEq : slice packet.buffer packet.offset
      (packet.offset + (LengthCoded.number 1).toNat) = [0x2d] := slice_of_ahead aheadEq'
  show StateT.run (get >>= _) packet = _
  rw [run_get_bind, run_bind_of_ok (signs_run aheadEq).1, run_bind_of_ok (signs_run aheadEq).2,
    run_modify_bind, sliceEq]
  have offsetEq : max (packet.advance 2).offset (packet.offset + (LengthCoded.number 1).toNat) =
      (packet.advance 2).offset := Nat.max_eq_left (Nat.add_le_add_left (by decide) _)
  rw [offsetEq]
  rfl

/-- Where there are bytes enough, the loop over a vector does not throw, and every round of it
takes four bytes. -/
theorem readFloats_moves (runtime : Runtime α) (packet : Packet) (vectorEnd fuel : Nat)
    (enough : vectorEnd + 3 ≤ packet.buffer.length) :
    ∃ elements count, (readFloats runtime vectorEnd fuel).run packet =
      .ok (elements, packet.advance (4 * count)) := by
  induction fuel generalizing packet with
  | zero => exact ⟨[], 0, rfl⟩
  | succ fuel ih =>
      rw [readFloats, run_get_bind]
      by_cases goes : packet.offset < vectorEnd ∧ packet.offset < packet.endOffset
      · have floatRun : (Packet.readFloat runtime).run packet =
            .ok (runtime.readFloatLE (packet.ahead.take 4), packet.advance 4) := by
          rw [Packet.readFloat, run_get_bind, if_pos (by omega),
            run_bind_of_ok (readBuffer_take packet 4)]
          rfl
        obtain ⟨elements, count, run⟩ := ih (packet.advance 4) enough
        refine ⟨runtime.readFloatLE (packet.ahead.take 4) :: elements, count + 1, ?_⟩
        rw [if_pos goes, run_bind_of_ok floatRun, run_bind_of_ok run, advance_advance,
          Nat.add_comm, ← Nat.mul_succ]
        rfl
      · rw [if_neg goes]
        exact ⟨[], 0, rfl⟩

end Overrun

/-- What holds of how far a reader moves behind a length in a row, holds of the length of the
text if it stays in its column. -/
theorem StaysInColumn.of_moves {next : LengthCoded → Reader (Value α)} {content cell : Bytes}
    (isCell : IsCell content cell)
    (stays : StaysInColumn (readLengthCodedNumber false false >>= next) cell)
    {columns : List Bytes} (isColumn : ∀ other ∈ columns, IsColumn other) (moved : Nat → Prop)
    (moves : ∀ packet : Packet, packet.ahead = content ++ columns.flatten →
      ∃ value count, (next (.number content.length)).run packet =
        .ok (value, packet.advance count) ∧ moved count) :
    moved content.length := by
  obtain ⟨header, isLength, rfl⟩ := isCell
  have aheadEq := ahead_packetOf (header ++ content ++ columns.flatten)
  rw [List.append_nil, List.append_assoc] at aheadEq
  have inside : (packetOf (header ++ content ++ columns.flatten)).offset + header.length ≤
      (packetOf (header ++ content ++ columns.flatten)).endOffset := by
    show 4 + header.length ≤ 4 + (header ++ content ++ columns.flatten).length
    simp only [List.length_append]
    omega
  rw [List.append_assoc] at inside
  have lengthRun : (readLengthCodedNumber false false).run
      (packetOf (header ++ (content ++ columns.flatten))) = .ok (.number content.length,
        (packetOf (header ++ (content ++ columns.flatten))).advance header.length) :=
    Reads.readLength isLength false false _ _ aheadEq inside
  obtain ⟨value, count, run, holds⟩ := moves _ (ahead_advance_of_append _ aheadEq rfl)
  have wholeRun : (readLengthCodedNumber false false >>= next).run
      (packetOf (header ++ content ++ columns.flatten)) = .ok (value,
        (packetOf (header ++ content ++ columns.flatten)).advance (header.length + count)) := by
    rw [List.append_assoc, run_bind_of_ok lengthRun, run, advance_advance]
  have countEq := stays.eq_of_run isColumn wholeRun
  rw [List.length_append, Nat.add_left_cancel_iff] at countEq
  rwa [countEq] at holds

/-- A column that starts with a plus sign. -/
def plusColumn : Bytes :=
  0x2b :: List.replicate 0x2b 0

theorem isColumn_plusColumn : ∀ other ∈ [plusColumn], IsColumn other := by
  intro other member
  obtain rfl := List.mem_singleton.mp member
  exact .inr ⟨List.replicate 0x2b 0, [0x2b], .inl ⟨by decide, rfl⟩, rfl⟩

theorem isColumn_nulls (count : Nat) : ∀ other ∈ List.replicate count [0xfb], IsColumn other := by
  intro other member
  exact .inl (List.eq_of_mem_replicate member)

section Converse

variable {content cell : Bytes} (isCell : IsCell content cell)

include isCell

/-- A reader that takes the sign of the next column for its own. -/
theorem ne_minus_of_stays {next : LengthCoded → Reader (Value α)}
    (stays : StaysInColumn (readLengthCodedNumber false false >>= next) cell) (value : Value α)
    (signs : ∀ (packet : Packet) (rest : Bytes), packet.ahead = 0x2d :: 0x2b :: rest →
      (next (.number 1)).run packet = .ok (value, packet.advance 2)) : content ≠ [0x2d] := by
  rintro rfl
  have moved : [(0x2d : UInt8)].length = 2 := by
    apply stays.of_moves isCell isColumn_plusColumn fun count => count = 2
    intro packet aheadEq
    exact ⟨value, 2, signs packet _ aheadEq, rfl⟩
  cases moved

/-- A reader that moves behind the length only. -/
theorem eq_nil_of_stays {next : LengthCoded → Reader (Value α)}
    (stays : StaysInColumn (readLengthCodedNumber false false >>= next) cell) (value : Value α)
    (returns : ∀ packet, (next (.number content.length)).run packet = .ok (value, packet)) :
    content = [] := by
  apply List.length_eq_zero_iff.mp
  apply stays.of_moves isCell (isColumn_nulls 0) fun count => count = 0
  intro packet _
  exact ⟨value, 0, returns packet, rfl⟩

theorem endsBehind_of_stays (runtime : Runtime α) (fields : List Field) {call : PacketCall}
    (stays : StaysInColumn (call.run runtime fields) cell) : call.EndsBehind content := by
  cases call with
  | parseLengthCodedIntNoBigCheck =>
      exact ne_minus_of_stays isCell stays _ fun _ _ => parseIntNoBigCheck_minus_run
  | parseLengthCodedInt bigNumbers =>
      exact ne_minus_of_stays isCell stays _ fun _ _ => parseInt_minus_run runtime bigNumbers
  | parseLengthCodedFloat =>
      exact ne_minus_of_stays isCell stays _ fun _ _ => parseFloat_minus_run runtime
  | readLengthCodedNumber =>
      exact eq_nil_of_stays isCell stays _ fun packet => rfl
  | parseDate zone =>
      by_cases length : content.length = 10
      · exact .inl length
      · refine .inr (eq_nil_of_stays isCell stays (.date none) fun packet => ?_)
        have notTen : LengthCoded.number content.length ≠ .number 10 := by
          intro equal
          exact length (Int.ofNat.inj (LengthCoded.number.inj equal))
        show StateT.run (if LengthCoded.number content.length ≠ .number 10 then _ else _) packet = _
        rw [if_pos notTen]
        rfl
  | parseVector =>
      apply stays.of_moves isCell (isColumn_nulls 3) fun count => 4 ∣ count
      intro packet aheadEq
      have nullsAhead : packet.ahead = (content ++ [0xfb, 0xfb, 0xfb]) ++ [] := by
        rw [aheadEq, List.append_nil]
        rfl
      have within := offset_add_le nullsAhead (by simp)
      rw [List.length_append, ← Nat.add_assoc] at within
      obtain ⟨elements, count, run⟩ := readFloats_moves runtime packet
        (packet.offset + content.length) (packet.offset + content.length) within
      refine ⟨.array elements, 4 * count, ?_, Nat.dvd_mul_right 4 count⟩
      rw [run_get_bind, toNat_number, run_bind_of_ok run]
      rfl
  | _ => exact trivial

end Converse

/-! ### Rows -/

section Fields

variable (field : Field) (config : Config φ) (options : Options φ)

/-- The texts behind which a column ends. -/
def Field.EndsBehind (content : Bytes) : Prop :=
  (textReadCodeFor field (.ofField 0) config options).EndsBehind content

theorem endsBehind_iff (encodingExpr : EncodingExpr) (content : Bytes) :
    (textReadCodeFor field encodingExpr config options).EndsBehind content ↔
      field.EndsBehind config options content := by
  have shapeEq := (shape_textReadCodeFor field (.ofField 0) encodingExpr config options).symm.trans
    (shape_textReadCodeFor field (.ofField 0) (.ofField 0) config options)
  rw [Field.EndsBehind, ← endsBehind_shape, shapeEq, endsBehind_shape]

variable {content cell : Bytes}

/-- The static parser takes just the column, too. -/
theorem takes_readField (runtime : Runtime α) (isCell : IsCell content cell)
    (ends : field.EndsBehind config options content) :
    Takes (readField runtime field config options) cell := by
  cases nullColumn : field.isNullColumn with
  | true =>
      simp only [Field.isNullColumn, Bool.and_eq_true, Bool.not_eq_true', decide_eq_true_eq]
        at nullColumn
      obtain ⟨json, typeEq⟩ := nullColumn
      simp only [Field.EndsBehind, textReadCodeFor, json, Bool.false_eq_true, if_false, typeEq,
        PacketCall.EndsBehind] at ends
      simp only [readField, json, Bool.false_eq_true, if_false, typeEq]
      split
      · exact ⟨_, Reads.column isCell (Reads.parseFloat runtime (by rw [ends]; decide))⟩
      · exact ⟨_, Reads.readStringValue isCell runtime _⟩
  | false =>
      obtain ⟨call, callEq, lengthCoded, shape⟩ :=
        exists_call_readField runtime config options nullColumn (.ofField 0)
      rw [callEq]
      apply takes_of_endsBehind runtime [field] isCell lengthCoded
      rwa [← endsBehind_shape, shape, endsBehind_shape]

end Fields

/-- Columns that a row holds one behind the other are read one behind the other. -/
theorem readAll_take {columns : List (Column α)} {cells : List Bytes}
    (reads : List.Forall₂ (fun column cell => Takes column.read cell) columns cells)
    {packet : Packet} {rest : Bytes} (aheadEq : packet.ahead = cells.flatten ++ rest)
    (inside : packet.offset + cells.flatten.length ≤ packet.endOffset) (count : Nat)
    {after : Packet} (run : (readAll (columns.take count) packet).2 = .ok after) :
    after = packet.advance (cells.take count).flatten.length := by
  induction reads generalizing packet count with
  | nil =>
      rw [List.take_nil] at run
      cases run
      rw [List.take_nil]
      rfl
  | @cons column cell columns cells headReads _ ih =>
      cases count with
      | zero =>
          cases run
          rfl
      | succ count =>
          obtain ⟨result, reads⟩ := headReads
          rw [List.flatten_cons, List.append_assoc] at aheadEq
          rw [List.flatten_cons, List.length_append] at inside
          have headRun := reads packet _ aheadEq (by omega)
          rw [List.take_succ_cons] at run ⊢
          cases result with
          | error error =>
              rw [readAll_cons_of_error headRun] at run
              cases run
          | ok value =>
              rw [readAll_cons_of_ok headRun] at run
              have behind := ahead_advance_of_append _ aheadEq rfl
              rw [ih behind (by rw [offset_advance, endOffset_advance]; omega) count run,
                advance_advance, List.flatten_cons, List.length_append]

/-- A column of a row that its field ends behind. -/
def WellRead (config : Config φ) (options : Options φ) (field : Field) (column : Bytes) : Prop :=
  column = [0xfb] ∨ ∃ content, IsCell content column ∧ field.EndsBehind config options content

theorem forall₂_textColumns {column : Nat → Field → Column α} {config : Config φ}
    {options : Options φ} {fields : List Field} {cells : List Bytes}
    (row : List.Forall₂ (WellRead config options) fields cells)
    (reads : ∀ index field cell, WellRead config options field cell →
      Takes (column index field).read cell) (index : Nat) :
    List.Forall₂ (fun column cell => Takes column.read cell)
      (textColumns column index fields) cells := by
  induction row generalizing index with
  | nil => exact .nil
  | cons head _ ih => exact .cons (reads index _ _ head) (ih (index + 1))

section Rows

variable (runtime : Runtime α) (fields : List Field) {options : Options (TypeCastFunction α)}
  {config : Config (TypeCastFunction α)} (plain : options.typeCast.isPlain = true)
  (configPlain : config.typeCast.isPlain = true)

include plain in
theorem compiledTextColumn_takes (index : Nat) {field : Field} {cell : Bytes}
    (well : WellRead config options field cell) :
    Takes (compiledTextColumn runtime fields options config index field).read cell := by
  rw [compiledTextColumn_plain runtime fields plain]
  rcases well with rfl | ⟨content, isCell, ends⟩
  · refine ⟨.ok field.nullValue, fun packet rest aheadEq inside => ?_⟩
    have isNull : packet.peekByte = some 0xfb := by
      rw [peekByte_eq, aheadEq]
      rfl
    dsimp only
    rw [null_run_of_isLengthCoded runtime fields (isLengthCoded_textReadCodeFor ..) isNull,
      nullValue_textReadCodeFor]
    rfl
  · exact takes_of_endsBehind runtime fields isCell (isLengthCoded_textReadCodeFor ..)
      ((endsBehind_iff field config options _ content).mpr ends)

include plain configPlain in
theorem staticTextColumn_takes {field : Field} {cell : Bytes}
    (well : WellRead config options field cell) :
    Takes (staticTextColumn runtime options config field).read cell := by
  rw [staticTextColumn_plain runtime plain configPlain]
  rcases well with rfl | ⟨content, isCell, ends⟩
  · refine ⟨.ok field.nullValue, fun packet rest aheadEq inside => ?_⟩
    exact readField_null_run runtime field config options (by rw [peekByte_eq, aheadEq]; rfl)
  · exact takes_readField field config options runtime isCell ends

/-- Whether both parsers stay in a column. -/
def BothStay (options : Options (TypeCastFunction α)) (config : Config (TypeCastFunction α))
    (index : Nat) (field : Field) (column : Bytes) : Prop :=
  StaysInColumn (compiledTextColumn runtime fields options config index field).read column ∧
    StaysInColumn (staticTextColumn runtime options config field).read column

include plain configPlain in
theorem bothStay_of_wellRead (index : Nat) {field : Field} {column : Bytes}
    (well : WellRead config options field column) :
    BothStay runtime fields options config index field column := by
  obtain ⟨_, compiled⟩ := compiledTextColumn_takes runtime fields plain index well
  obtain ⟨_, static⟩ := staticTextColumn_takes runtime plain configPlain well
  exact ⟨.of_reads compiled, .of_reads static⟩

include plain configPlain in
/-- A column that is not `NULL` is stayed in exactly if its field ends behind its text, and so
is every `NULL`.  In a row of such columns each of them is read from its own start on. -/
theorem textColumns_stay :
    (∀ (index : Nat) (field : Field) (content cell : Bytes), IsCell content cell →
      (BothStay runtime fields options config index field cell ↔
        field.EndsBehind config options content)) ∧
      (∀ (index : Nat) (field : Field), BothStay runtime fields options config index field [0xfb]) ∧
        ∀ cells : List Bytes, List.Forall₂ (WellRead config options) fields cells →
          ∀ (packet : Packet) (rest : Bytes), packet.ahead = cells.flatten ++ rest →
            packet.offset + cells.flatten.length ≤ packet.endOffset → ∀ count after,
              ((readAll ((textColumns (compiledTextColumn runtime fields options config) 0
                    fields).take count) packet).2 = .ok after ∨
                (readAll ((textColumns (fun _ => staticTextColumn runtime options config) 0
                    fields).take count) packet).2 = .ok after) →
                after = packet.advance (cells.take count).flatten.length := by
  refine ⟨fun index field content cell isCell => ⟨?_, ?_⟩, fun index field => ?_, ?_⟩
  · rintro ⟨compiled, _⟩
    rw [compiledTextColumn_plain runtime fields plain] at compiled
    exact (endsBehind_iff field config options _ content).mp
      (endsBehind_of_stays isCell runtime fields compiled)
  · intro ends
    exact bothStay_of_wellRead runtime fields plain configPlain index (.inr ⟨content, isCell, ends⟩)
  · exact bothStay_of_wellRead runtime fields plain configPlain index (.inl rfl)
  · intro cells row packet rest aheadEq inside count after run
    rcases run with run | run
    · exact readAll_take (forall₂_textColumns row (fun index field cell =>
        compiledTextColumn_takes runtime fields plain index) 0) aheadEq inside count run
    · exact readAll_take (forall₂_textColumns row (fun index field cell =>
        staticTextColumn_takes runtime plain configPlain) 0) aheadEq inside count run

end Rows

theorem isCell_date : IsCell (textBytes "2020-01-01") (10 :: textBytes "2020-01-01") :=
  ⟨[10], .inl ⟨by decide, rfl⟩, rfl⟩

theorem textColumns_stay_date :
    BothStay utcRuntime [dateField] noOptions noConfig 0 dateField (10 :: textBytes "2020-01-01") ↔
      dateField.EndsBehind noConfig (noOptions : Options (TypeCastFunction Unit))
        (textBytes "2020-01-01") :=
  (textColumns_stay utcRuntime [dateField] rfl rfl).1 0 dateField _ _ isCell_date

/-- A date without its zeros is not skipped: both parsers take it for the next column. -/
theorem not_bothStay_date :
    ¬BothStay utcRuntime [dateField] noOptions noConfig 0 dateField (8 :: textBytes "2020-1-1") := by
  rintro ⟨compiled, _⟩
  have run : (compiledTextColumn utcRuntime [dateField] noOptions noConfig 0 dateField).read.run
      (packetOf (8 :: textBytes "2020-1-1" ++ [[0xfb]].flatten)) =
        .ok (.date none, (packetOf (8 :: textBytes "2020-1-1" ++ [[0xfb]].flatten)).advance 1) :=
    rfl
  have count := compiled.eq_of_run (isColumn_nulls 1) run
  exact absurd count (by decide)

end Mysql2.Parsers

import Mysql2.Parsers.Twins

/-!
# Rows without a time zone

What both parsers of a protocol make of a new year if no time zone is set, and
what they read from a null bitmap.
-/

namespace Mysql2.Parsers

open Mysql2.Packets Mysql2.Packets.Packet Mysql2.Script

variable {α φ : Type}

/-! ## A new year -/

/-- Midnight of a new year. -/
def newYear : DateArguments :=
  ⟨some 2020, some 1, some 1, some 0, some 0, some 0, some 0⟩

/-- What is used of dates: a new year exists in local time, and a date that ends
in `undefined` is invalid. -/
structure KnowsDates (runtime : Runtime α) : Prop where
  localNewYear : runtime.localTime newYear ≠ none
  undefinedDate : runtime.dateParse (units "2020-01-01T00:00:00undefined") = none
  undefinedDateTime : runtime.dateParse (units "2020-01-01 00:00:00undefined") = none

/-- Digits without a sign are read as the number they make. -/
theorem parseInt_digits_run (runtime : Runtime α) {digits : List Char} {packet : Packet}
    {rest : Bytes} (aheadEq : packet.ahead = digits.map charByte ++ rest)
    (allDigits : ∀ char ∈ digits, char.isDigit = true) (nonempty : digits ≠ [])
    (short : digits.length < 14) (safe : Nat.ofDigitChars 10 digits 0 < 9007199254740992) :
    (Packet.parseInt runtime (.number digits.length) false).run packet =
      .ok (.number (Nat.ofDigitChars 10 digits 0), packet.advance digits.length) := by
  have notSign : ∀ sign : Nat, sign < 48 → packet.peekByte ≠ some sign := by
    intro sign isSign
    cases digits with
    | nil => exact absurd rfl nonempty
    | cons first others =>
        have digit := allDigits first (by simp)
        have range := toNat_of_isDigit digit
        rw [peekByte_eq, aheadEq]
        show some (charByte first).toNat ≠ some sign
        rw [toNat_charByte digit]
        rintro ⟨⟩
        omega
  have minusRun : readMinus.run packet = .ok (1, packet) := by
    rw [readMinus, run_bind_of_ok (skipSign_run_of_ne (notSign minus (by decide)))]
    rfl
  have count : packet.offset + digits.length - packet.offset = (digits.map charByte).length := by
    rw [List.length_map]
    omega
  have digitsRun : (addDigits (packet.offset + digits.length)).run packet =
      .ok (some (Nat.ofDigitChars 10 digits 0 : Int), packet.advance digits.length) := by
    have folded := foldl_addDigit allDigits safe
    rw [addDigits, run_get_bind, count, run_bind_of_ok (readBuffer_run aheadEq),
      if_neg (Nat.lt_irrefl _), List.length_map]
    show Except.ok (some ((digits.map charByte).foldl addDigit ((0 : Nat) : Int)), _) = _
    rw [folded]
  have positive : digits.length ≠ 0 := List.length_eq_zero_iff.not.mpr nonempty
  show StateT.run (if 14 ≤ digits.length ∧ (!false) = true then _ else
    if digits.length = 0 then _ else _) packet = _
  rw [if_neg (by omega), if_neg positive, run_get_bind, run_bind_of_ok minusRun, run_get_bind,
    if_neg (by simp), run_bind_of_ok (skipSign_run_of_ne (notSign plus (by decide))), toNat_number,
    run_bind_of_ok digitsRun]
  dsimp only
  rw [if_neg (by simp), Int.mul_one]
  rfl

/-- The length-coded bytes of an ASCII text. -/
def textBytes (text : String) : Bytes :=
  text.toList.map charByte

/-- `parseDate` of a new year. -/
theorem parseDate_newYear (runtime : Runtime α) (zone : Option JsString) {packet : Packet}
    {rest : Bytes} (aheadEq : packet.ahead = 10 :: textBytes "2020-01-01" ++ rest) :
    (parseDate runtime zone).run packet =
      .ok (if isLocal zone then .date (runtime.localTime newYear)
        else if isUTC zone then .date (runtime.utcTime newYear)
        else .date (runtime.dateParse (withTimezone "2020-01-01T00:00:00" zone)),
        packet.advance 11) := by
  have lengthAhead : packet.ahead = writeLengthCodedNumber 10 ++ (textBytes "2020-01-01" ++ rest) :=
    aheadEq
  have lengthRun := readLengthCodedNumber_run false false lengthAhead (by decide)
  have yearAhead : (packet.advance 1).ahead = ['2', '0', '2', '0'].map charByte ++
      (textBytes "-01-01" ++ rest) := ahead_advance_one aheadEq
  have monthAhead : (packet.advance 6).ahead = ['0', '1'].map charByte ++
      (textBytes "-01" ++ rest) := by
    rw [ahead_advance, aheadEq]
    rfl
  have dayAhead : (packet.advance 9).ahead = ['0', '1'].map charByte ++ rest := by
    rw [ahead_advance, aheadEq]
    rfl
  have yearRun : (Packet.parseInt runtime (.number 4) false).run (packet.advance 1) =
      .ok (.number 2020, packet.advance 5) :=
    parseInt_digits_run runtime yearAhead (List.all_eq_true.mp (by decide)) (by decide) (by decide)
      (by decide)
  have monthRun : (Packet.parseInt runtime (.number 2) false).run (packet.advance 6) =
      .ok (.number 1, packet.advance 8) :=
    parseInt_digits_run runtime monthAhead (List.all_eq_true.mp (by decide)) (by decide) (by decide)
      (by decide)
  have dayRun : (Packet.parseInt runtime (.number 2) false).run (packet.advance 9) =
      .ok (.number 1, packet.advance 11) :=
    parseInt_digits_run runtime dayAhead (List.all_eq_true.mp (by decide)) (by decide) (by decide)
      (by decide)
  rw [parseDate, run_bind_of_ok lengthRun]
  show StateT.run (Packet.parseInt runtime (.number 4) false >>= _) (packet.advance 1) = _
  rw [run_bind_of_ok yearRun, run_bind_of_ok (skip_run _ 1), advance_advance,
    run_bind_of_ok monthRun, run_bind_of_ok (skip_run _ 1), advance_advance, run_bind_of_ok dayRun]
  dsimp only [Value.toNumber]
  have text : leftPad 4 (numberText (some 2020)) ++ "-" ++ leftPad 2 (numberText (some 1)) ++ "-" ++
      leftPad 2 (numberText (some 1)) ++ "T00:00:00" = "2020-01-01T00:00:00" := by decide
  cases isLocal zone with
  | true => rfl
  | false =>
      cases isUTC zone with
      | true => rfl
      | false =>
          rw [if_neg (by decide), if_neg (by decide), text, if_neg (by decide), if_neg (by decide)]
          rfl

/-- `parseDateTime` of a new year. -/
theorem parseDateTime_newYear (runtime : Runtime α) (zone : Option JsString) {packet : Packet}
    {rest : Bytes} (aheadEq : packet.ahead = 19 :: textBytes "2020-01-01 00:00:00" ++ rest)
    (noOffset : timezoneOffsetMinutes (zone.getD []) = none) :
    (parseDateTime runtime zone).run packet =
      .ok (if isLocal zone then .date (runtime.localTime newYear)
        else if isUTC zone then .date (runtime.utcTime newYear)
        else .date (runtime.dateParse (withTimezone "2020-01-01 00:00:00" zone)),
        packet.advance 20) := by
  have lengthAhead : packet.ahead =
      writeLengthCodedNumber 19 ++ (textBytes "2020-01-01 00:00:00" ++ rest) := aheadEq
  have lengthRun := readLengthCodedNumber_run false false lengthAhead (by decide)
  have textAhead : (packet.advance 1).ahead = textBytes "2020-01-01 00:00:00" ++ rest :=
    ahead_advance_one aheadEq
  have bytesEq : textBytes "2020-01-01 00:00:00" =
      [50, 48, 50, 48, 45, 48, 49, 45, 48, 49, 32, 48, 48, 58, 48, 48, 58, 48, 48] := by decide
  have valueEq : dateTimeValue runtime (textBytes "2020-01-01 00:00:00" ++ rest) 19 zone =
      if isLocal zone then .date (runtime.localTime newYear)
      else if isUTC zone then .date (runtime.utcTime newYear)
      else .date (runtime.dateParse (withTimezone "2020-01-01 00:00:00" zone)) := by
    have text : latin1 ((textBytes "2020-01-01 00:00:00" ++ rest).take 19) =
        "2020-01-01 00:00:00" := by
      rw [List.take_append_of_le_length (by decide)]
      decide
    have year : digitsValue (textBytes "2020-01-01 00:00:00" ++ rest) 0 4 = some 2020 := by
      rw [bytesEq]
      rfl
    have fields : ∀ first ∈ [5, 8], digitsValue (textBytes "2020-01-01 00:00:00" ++ rest) first 2 =
        some 1 := by
      simp only [List.mem_cons, List.not_mem_nil, or_false]
      rintro first (rfl | rfl) <;> rw [bytesEq] <;> rfl
    have times : ∀ first ∈ [11, 14, 17],
        digitsValue (textBytes "2020-01-01 00:00:00" ++ rest) first 2 = some 0 := by
      simp only [List.mem_cons, List.not_mem_nil, or_false]
      rintro first (rfl | rfl | rfl) <;> rw [bytesEq] <;> rfl
    rw [dateTimeValue, text, year, fields 5 (by decide), fields 8 (by decide),
      times 11 (by decide), times 14 (by decide), times 17 (by decide), noOffset]
    rfl
  have format : 19 ≤ 19 ∧ (textBytes "2020-01-01 00:00:00" ++ rest)[4]? = some 0x2d ∧
      (textBytes "2020-01-01 00:00:00" ++ rest)[7]? = some 0x2d ∧
      (textBytes "2020-01-01 00:00:00" ++ rest)[13]? = some 0x3a ∧
      (textBytes "2020-01-01 00:00:00" ++ rest)[16]? = some 0x3a := by
    rw [bytesEq]
    exact ⟨Nat.le_refl _, rfl, rfl, rfl, rfl⟩
  rw [parseDateTime, run_bind_of_ok lengthRun]
  show StateT.run (get >>= _) (packet.advance 1) = _
  rw [run_get_bind, run_bind_of_ok (skip_run _ _), textAhead, toNat_number, if_pos format]
  show Except.ok (dateTimeValue runtime _ 19 zone, _) = _
  rw [valueEq]
  rfl

theorem isUTC_eq_false {zone : Option JsString} (isZone : isLocal zone = true) :
    isUTC zone = false := by
  cases zone with
  | none => rfl
  | some text =>
      simp only [isLocal, decide_eq_true_eq] at isZone
      rcases isZone with rfl | rfl <;> decide

/-- The bytes of a new year in the binary protocol. -/
def newYearBytes : Bytes :=
  [4, 0xe4, 0x07, 1, 1]

theorem readDateTimeFields_newYear {packet : Packet} {rest : Bytes}
    (aheadEq : packet.ahead = newYearBytes ++ rest) :
    readDateTimeFields.run packet =
      .ok ((some 4, ⟨2020, some 1, some 1, some 0, some 0, some 0⟩), packet.advance 5) := by
  have yearAhead : (packet.advance 1).ahead = [0xe4, 0x07] ++ (1 :: 1 :: rest) :=
    ahead_advance_one aheadEq
  have monthAhead : (packet.advance 3).ahead = 1 :: 1 :: rest := by
    rw [ahead_advance, aheadEq]
    rfl
  have dayAhead : (packet.advance 4).ahead = 1 :: rest := by
    rw [ahead_advance, aheadEq]
    rfl
  rw [readDateTimeFields, run_bind_of_ok (readInt8_run_cons aheadEq)]
  dsimp only
  rw [if_pos (by decide)]
  rw [run_bind_of_ok (readInt16_run yearAhead rfl), advance_advance,
    run_bind_of_ok (readInt8_run_cons monthAhead), advance_advance,
    run_bind_of_ok (readInt8_run_cons dayAhead), advance_advance]
  rfl

/-- `readDateTime` of a new year. -/
theorem readDateTime_newYear (runtime : Runtime α) (zone : Option JsString) {packet : Packet}
    {rest : Bytes} (aheadEq : packet.ahead = newYearBytes ++ rest) :
    (readDateTime runtime zone).run packet =
      .ok (if isLocal zone then .date (runtime.localTime newYear)
        else if isUTC zone then .date (runtime.utcTime newYear)
        else .date (runtime.dateParse (withTimezone "2020-01-01T00:00:00" zone)),
        packet.advance 5) := by
  have fieldsRun := readDateTimeFields_newYear aheadEq
  have notNull : packet.peekByte ≠ some 0xfb := by
    rw [peekByte_eq, aheadEq]
    show some 4 ≠ some 0xfb
    decide
  have stringRun : (readDateTimeString 6 "T" none).run packet =
      .ok ("2020-01-01", packet.advance 5) := by
    rw [readDateTimeString, run_bind_of_ok fieldsRun]
    rfl
  rw [readDateTime]
  by_cases direct : isLocal zone = true ∨ isUTC zone = true
  · rw [if_pos direct, run_get_bind, if_neg notNull, run_bind_of_ok fieldsRun]
    cases isZone : isLocal zone with
    | true =>
        have notUTC := isUTC_eq_false isZone
        show StateT.run (if isUTC zone = true then _ else _) _ = _
        rw [notUTC]
        rfl
    | false =>
        have utc : isUTC zone = true := by simpa [isZone] using direct
        show StateT.run (if isUTC zone = true then _ else _) _ = _
        rw [utc]
        rfl
  · obtain ⟨notLocal, notUTC⟩ := not_or.mp direct
    have notZero : "0000-00-00".toList.isPrefixOf "2020-01-01".toList = false := by decide
    have text : "2020-01-01" ++ "T00:00:00" = "2020-01-01T00:00:00" := by decide
    rw [if_neg direct, run_bind_of_ok stringRun, if_neg notLocal, if_neg notUTC, notZero,
      if_neg (by decide), if_pos (by decide), text]
    rfl

section Unset

variable {runtime : Runtime α} {options : Options (TypeCastFunction α)}
  {config : Config (TypeCastFunction α)}

/-- The literal of an unset time zone is no zone. -/
theorem undefinedZone : isLocal (some (units "undefined")) = false ∧
    isUTC (some (units "undefined")) = false ∧ timezoneOffsetMinutes (units "undefined") = none := by
  decide

theorem withUndefinedZone (knows : KnowsDates runtime) :
    runtime.dateParse (withTimezone "2020-01-01T00:00:00" (some (units "undefined"))) = none ∧
      runtime.dateParse (withTimezone "2020-01-01 00:00:00" (some (units "undefined"))) = none := by
  constructor
  · have text : withTimezone "2020-01-01T00:00:00" (some (units "undefined")) =
        units "2020-01-01T00:00:00undefined" := by decide
    rw [text, knows.undefinedDate]
  · have text : withTimezone "2020-01-01 00:00:00" (some (units "undefined")) =
        units "2020-01-01 00:00:00undefined" := by decide
    rw [text, knows.undefinedDateTime]

/-- The cell of a new year in the text protocol. -/
def newYearCell (field : Field) : Bytes :=
  if Types.ofNat field.columnType = .DATE then 10 :: textBytes "2020-01-01"
  else 19 :: textBytes "2020-01-01 00:00:00"

/-- Without a time zone the generated text parser makes an invalid date of a new
year, the static one its time value. -/
theorem text_newYear (knows : KnowsDates runtime) (fields : List Field) {field : Field}
    (encodingExpr : EncodingExpr) {packet : Packet} {rest : Bytes}
    (unset : timezone options config = none)
    (reads : readsTimezone .text field options config = true)
    (aheadEq : packet.ahead = newYearCell field ++ rest) :
    ((textReadCodeFor field encodingExpr config options).run runtime fields).run packet =
        .ok (.date none, packet.advance (newYearCell field).length) ∧
      (readField runtime field config options).run packet =
        .ok (.date (runtime.localTime newYear), packet.advance (newYearCell field).length) := by
  obtain ⟨notLocal, notUTC, noOffset⟩ := undefinedZone
  obtain ⟨noDate, noDateTime⟩ := withUndefinedZone knows
  simp only [readsTimezone, Bool.and_eq_true, Bool.not_eq_true'] at reads
  obtain ⟨⟨json, isDate⟩, strings⟩ := reads
  cases typeEq : Types.ofNat field.columnType with
  | DATE =>
      have cellEq : newYearCell field = 10 :: textBytes "2020-01-01" := if_pos typeEq
      simp only [textReadCodeFor, readField, json, strings, Bool.false_eq_true, if_false, typeEq,
        unset, timezoneLiteral, Option.getD_none, cellEq]
      rw [cellEq] at aheadEq
      constructor
      · rw [PacketCall.run, parseDate_newYear runtime _ aheadEq, notLocal, notUTC, noDate]
        rfl
      · rw [parseDate_newYear runtime _ aheadEq]
        rfl
  | DATETIME | TIMESTAMP =>
      have cellEq : newYearCell field = 19 :: textBytes "2020-01-01 00:00:00" :=
        if_neg (by rw [typeEq]; decide)
      simp only [textReadCodeFor, readField, json, strings, Bool.false_eq_true, if_false, typeEq,
        unset, timezoneLiteral, Option.getD_none, cellEq]
      rw [cellEq] at aheadEq
      constructor
      · rw [PacketCall.run, parseDateTime_newYear runtime (some (units "undefined")) aheadEq noOffset,
          notLocal, notUTC,
          noDateTime]
        rfl
      · rw [parseDateTime_newYear runtime none aheadEq rfl]
        rfl
  | _ =>
      rw [typeEq] at isDate
      simp at isDate

/-- The same in the binary protocol. -/
theorem binary_newYear (knows : KnowsDates runtime) (fields : List Field) {field : Field}
    (index : Nat) {packet : Packet} {rest : Bytes} (unset : timezone options config = none)
    (reads : readsTimezone .binary field options config = true)
    (aheadEq : packet.ahead = newYearBytes ++ rest) :
    ((binaryReadCodeFor field config options index).call.run runtime fields).run packet =
        .ok (.date none, packet.advance 5) ∧
      (readCode runtime fields field config options index).run packet =
        .ok (.date (runtime.localTime newYear), packet.advance 5) := by
  obtain ⟨notLocal, notUTC, _⟩ := undefinedZone
  obtain ⟨noDate, _⟩ := withUndefinedZone knows
  simp only [readsTimezone, Bool.and_eq_true, Bool.not_eq_true'] at reads
  obtain ⟨⟨json, isDate⟩, strings⟩ := reads
  cases typeEq : Types.ofNat field.columnType with
  | DATE | DATETIME | TIMESTAMP | NEWDATE =>
      simp only [binaryReadCodeFor, readCode, json, strings, Bool.false_eq_true, if_false, typeEq,
        unset, timezoneLiteral, Option.getD_none]
      constructor
      · rw [PacketCall.run, readDateTime_newYear runtime _ aheadEq, notLocal, notUTC, noDate]
        rfl
      · rw [readDateTime_newYear runtime _ aheadEq]
        rfl
  | _ =>
      rw [typeEq] at isDate
      simp at isDate

/-- A column that is read with a time zone has another type than `NULL`. -/
theorem isNullColumn_of_readsTimezone {protocol : Protocol} {field : Field}
    (reads : readsTimezone protocol field options config = true) : field.isNullColumn = false := by
  simp only [readsTimezone, Bool.and_eq_true] at reads
  cases typeEq : Types.ofNat field.columnType <;> simp_all [Field.isNullColumn]

end Unset

/-! ## Null bitmaps -/

/-- A null bitmap in which the bit of one field is clear. -/
def allNullBut (count index : Nat) : Bytes :=
  (List.range count).map fun byteIndex =>
    if byteIndex = (index + 2) / 8 then UInt8.ofNat (255 - 2 ^ ((index + 2) % 8)) else 0xff

theorem hasFlag_allBut : ∀ clear < 8, ∀ bit < 8,
    hasFlag (UInt8.ofNat (255 - 2 ^ clear)).toNat (2 ^ bit) = decide (bit ≠ clear) := by
  decide

theorem hasFlag_all : ∀ bit < 8, hasFlag (0xff : UInt8).toNat (2 ^ bit) = true := by
  decide

/-- What a parser reads from a null bitmap. -/
def nullBytesOf (bitmap : Bytes) : List (Option Nat) :=
  bitmap.map fun byte => some byte.toNat

theorem isSet_allNullBut {count clear index : Nat} (inBitmap : (index + 2) / 8 < count) :
    (NullBit.ofField index).isSet (nullBytesOf (allNullBut count clear)) = decide (index ≠ clear) := by
  have small : (index + 2) % 8 < 8 := Nat.mod_lt _ (by decide)
  have clearSmall : (clear + 2) % 8 < 8 := Nat.mod_lt _ (by decide)
  simp only [NullBit.isSet, NullBit.ofField, nullBytesOf, allNullBut, List.map_map, List.getElem?_map,
    List.getElem?_range inBitmap, Option.map_some, Option.bind_some, Function.comp_apply, id_eq,
    Option.getD_some]
  by_cases sameByte : (index + 2) / 8 = (clear + 2) / 8
  · rw [if_pos sameByte, hasFlag_allBut _ clearSmall _ small]
    apply decide_eq_decide.mpr
    omega
  · rw [if_neg sameByte, hasFlag_all _ small]
    symm
    apply decide_eq_true
    rintro rfl
    exact sameByte rfl

theorem readBytes_run {bytes rest : Bytes} {packet : Packet} (aheadEq : packet.ahead = bytes ++ rest) :
    (readBytes bytes.length).run packet = .ok (nullBytesOf bytes, packet.advance bytes.length) := by
  induction bytes generalizing packet with
  | nil =>
      rw [List.length_nil, advance_zero]
      rfl
  | cons byte bytes ih =>
      rw [List.length_cons, readBytes, run_bind_of_ok (readInt8_run_cons aheadEq),
        run_bind_of_ok (ih (ahead_advance_one aheadEq)), advance_advance, Nat.add_comm 1]
      rfl

theorem readNullBitmap_run {status : UInt8} {bitmap rest : Bytes} {packet : Packet}
    (aheadEq : packet.ahead = status :: bitmap ++ rest) :
    (readNullBitmap bitmap.length).run packet =
      .ok (nullBytesOf bitmap, packet.advance (1 + bitmap.length)) := by
  rw [readNullBitmap, run_bind_of_ok (readInt8_run_cons aheadEq),
    readBytes_run (ahead_advance_one aheadEq), advance_advance]

/-! ## Columns and options -/

theorem knowsDates_utcRuntime : KnowsDates utcRuntime where
  localNewYear := by decide
  undefinedDate := rfl
  undefinedDateTime := rfl

/-- A column of type `DATE`. -/
def dateField : Field where
  columnType := Types.DATE.toNat
  flags := 0
  characterSet := Charsets.BINARY
  decimals := 0
  columnLength := 10
  encoding := some "binary"
  schema := units "db"
  table := units "t"
  name := units "d"
  extendedTypeName := none
  extendedFormat := none

/-- Options with none set. -/
def noOptions {φ : Type} : Options φ where
  rowsAsArray := false
  nestTables := .absent
  typeCast := .absent
  timezone := none
  dateStrings := .falsy
  supportBigNumbers := false
  bigNumberStrings := false
  decimalNumbers := false

/-- A connection with no option set. -/
def noConfig {φ : Type} : Config φ where
  typeCast := .absent
  timezone := none
  dateStrings := .falsy
  supportBigNumbers := false
  bigNumberStrings := false
  decimalNumbers := false
  jsonStrings := false

end Mysql2.Parsers

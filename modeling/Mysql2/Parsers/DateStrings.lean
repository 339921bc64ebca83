import Mysql2.Parsers.ServerDates

/-!
# Dates as strings

With `dateStrings`, the row parsers of the text protocol give a date as the server writes
it, and those of the binary protocol build a string from the packed form.  The strings
differ by the fraction of the second where it is zero, which the packed form leaves out.
-/

namespace Mysql2.Parsers

open Mysql2.Packets Mysql2.Packets.Packet Mysql2.Script

variable {α φ : Type}

/-- ASCII bytes are decoded as such. -/
def DecodesAscii (runtime : Runtime α) : Prop :=
  ∀ bytes, (∀ byte ∈ bytes, byte.toNat < 128) →
    runtime.decode (some "ascii") bytes = .ok (latin1 bytes)

/-- A field of a column whose values are given as strings. -/
structure ShowsStrings (column : TemporalColumn) (field : Field) (config : Config φ)
    (options : Options φ) : Prop where
  columnType : field.columnType = column.type.toNat
  decimals : field.decimals = column.decimals
  notJson : field.isJsonFormat = false
  strings : typeMatch field.columnType (dateStrings options config) = true

namespace Temporal

variable {column : TemporalColumn} {value : Temporal column} {packet : Packet} {rest : Bytes}

/-- The text of the server. -/
def text (value : Temporal column) : String :=
  String.ofList value.chars

/-- The text without a fraction that is zero. -/
def shortText (value : Temporal column) : String :=
  String.ofList (if value.micros = 0 then value.wholeChars else value.chars)

/-- Without a fraction that is zero nothing is left out of the text exactly if the column has
no fraction, or the fraction is not zero. -/
theorem shortText_eq_text_iff (value : Temporal column) :
    value.shortText = value.text ↔ column.decimals = 0 ∨ value.micros ≠ 0 := by
  rw [shortText, text]
  by_cases zero : value.micros = 0
  · have lengths := value.length_fractionChars
    rw [if_pos zero]
    constructor
    · intro same
      left
      have same := String.ofList_injective same
      rw [wholeChars, chars] at same
      by_cases isDate : column = .date
      · rw [isDate]
        rfl
      · rw [if_neg isDate, if_neg isDate] at same
        have none := List.append_right_eq_self.mp same.symm
        by_cases noDecimals : column.decimals = 0
        · exact noDecimals
        · rw [none, if_neg noDecimals, List.length_nil] at lengths
          omega
    · rintro (noDecimals | notZero)
      · rw [wholeChars, chars, fractionChars, if_pos noDecimals, List.append_nil]
      · exact absurd zero notZero
  · rw [if_neg zero]
    exact ⟨fun _ => .inr zero, fun _ => rfl⟩

/-- The length-coded text of a row is read as it is. -/
theorem readStringValue_run {runtime : Runtime α} (decodes : DecodesAscii runtime)
    (aheadEq : packet.ahead = value.cell ++ rest) :
    (readStringValue runtime (some "ascii")).run packet =
      .ok (.string value.text, packet.advance value.cell.length) := by
  have short := value.length_chars_le
  have ascii : ∀ byte ∈ value.chars.map charByte, byte.toNat < 128 := by
    intro byte member
    obtain ⟨char, isChar, rfl⟩ := List.mem_map.mp member
    rw [toNat_charByte_of_ascii (value.isAscii_chars char isChar)]
    exact value.isAscii_chars char isChar
  have stringRun := readLengthCodedString_run runtime.toDecoding (some "ascii") aheadEq
    (by rw [List.length_map]; omega)
  rw [decodes _ ascii, latin1_charByte value.isAscii_chars] at stringRun
  rw [readStringValue, run_bind_of_ok stringRun]
  rfl

/-- In columns with times the time is always part of the string. -/
theorem timeText_eq (value : Temporal column) {type : Nat} (hasTime : type = 0x0c ∨ type = 0x07) :
    value.timeText " " (some type) = String.ofList (' ' :: value.timeChars) := by
  by_cases time : 6 < value.packedLength
  · rw [timeText, if_pos time]
    apply String.toList_injective
    simp
  · obtain ⟨hoursZero, minutesZero, secondsZero⟩ := value.time_eq_zero time
    have known : some type = some 0x0c ∨ some type = some 0x07 := by simpa using hasTime
    rw [timeText, if_neg time, if_pos known, timeChars, hoursZero, minutesZero, secondsZero]
    decide

/-- The fraction is part of the string if it is not zero. -/
theorem fractionText_eq (value : Temporal column) :
    value.fractionText column.decimals =
      String.ofList (if value.micros = 0 then [] else value.fractionChars) := by
  by_cases zero : value.micros = 0
  · have short := value.micros_eq_zero_iff.mp zero
    rw [fractionText, if_neg short, if_pos zero]
  · have long : 10 < value.packedLength := not_not.mp (mt value.micros_eq_zero_iff.mpr zero)
    have hasDecimals : ¬ column.decimals = 0 :=
      fun noDecimals => zero (value.micros_eq_zero_of_whole noDecimals)
    rw [fractionText, if_pos long, if_neg hasDecimals, if_neg zero, fractionChars,
      if_neg hasDecimals]
    apply String.toList_injective
    simp

/-- The string that is built from the packed form. -/
theorem shortText_eq (value : Temporal column) :
    String.ofList value.dateChars ++ value.timeText " " (some column.type.toNat) ++
      value.fractionText column.decimals = value.shortText := by
  rw [fractionText_eq, shortText, wholeChars, chars]
  cases column with
  | date =>
      obtain ⟨hoursZero, minutesZero, secondsZero⟩ := value.midnight rfl
      have zero := value.micros_eq_zero_of_whole rfl
      have short : ¬ 6 < value.packedLength := by
        unfold packedLength
        rw [if_neg (by simpa using zero), if_neg (by omega)]
        split <;> decide
      have notTime : ¬ (some (TemporalColumn.date.type.toNat) = some 0x0c ∨
          some (TemporalColumn.date.type.toNat) = some 0x07) := by decide
      rw [timeText, if_neg short, if_neg notTime, if_pos zero, if_pos zero, if_pos rfl]
      apply String.toList_injective
      simp
  | dateTime decimals =>
      have type : (TemporalColumn.dateTime decimals).type.toNat = 0x0c := rfl
      have timeEq := timeText_eq value (.inl type)
      rw [timeEq]
      apply String.toList_injective
      split <;> simp
  | timestamp decimals =>
      have type : (TemporalColumn.timestamp decimals).type.toNat = 0x07 := rfl
      have timeEq := timeText_eq value (.inr type)
      rw [timeEq]
      apply String.toList_injective
      split <;> simp

end Temporal

/-! ## The row parsers -/

section Rows

variable {column : TemporalColumn} {field : Field} {config : Config φ} {options : Options φ}

/-- The generated code of the binary protocol. -/
theorem ShowsStrings.binaryReadCodeFor_eq (shows : ShowsStrings column field config options)
    (fieldNum : Nat) :
    (binaryReadCodeFor field config options fieldNum).call =
      .readDateTimeString column.decimals column.type.toNat := by
  simp only [binaryReadCodeFor, shows.notJson, Bool.false_eq_true, if_false, shows.strings, if_true]
  rw [shows.columnType, shows.decimals]
  cases column <;> rfl

/-- The generated code of the text protocol. -/
theorem ShowsStrings.textReadCodeFor_eq (shows : ShowsStrings column field config options)
    (encodingExpr : EncodingExpr) :
    textReadCodeFor field encodingExpr config options =
      .readLengthCodedString (.literal "ascii") := by
  simp only [textReadCodeFor, shows.notJson, Bool.false_eq_true, if_false, shows.strings, if_true]
  rw [shows.columnType]
  cases column <;> rfl

theorem ShowsStrings.readCode_eq (shows : ShowsStrings column field config options)
    (runtime : Runtime α) (fields : List Field) (fieldNum : Nat) :
    readCode runtime fields field config options fieldNum = (do
      return .string (← readDateTimeString column.decimals " " (some column.type.toNat))) := by
  simp only [readCode, shows.notJson, Bool.false_eq_true, if_false, shows.strings, if_true]
  rw [shows.columnType, shows.decimals]
  cases column <;> rfl

theorem ShowsStrings.readField_eq (shows : ShowsStrings column field config options)
    (runtime : Runtime α) :
    readField runtime field config options = readStringValue runtime (some "ascii") := by
  simp only [readField, shows.notJson, Bool.false_eq_true, if_false, shows.strings, if_true]
  rw [shows.columnType]
  cases column <;> rfl

variable {value : Temporal column} {packet : Packet} {rest : Bytes}

theorem ShowsStrings.binary_run (shows : ShowsStrings column field config options)
    (runtime : Runtime α) (fields : List Field) (fieldNum : Nat)
    (aheadEq : packet.ahead = value.packed ++ rest) :
    ((binaryReadCodeFor field config options fieldNum).call.run runtime fields).run packet =
      .ok (.string value.shortText, packet.advance value.packed.length) := by
  have stringRun := Temporal.readDateTimeString_run column.decimals " " (some column.type.toNat)
    aheadEq
  rw [value.shortText_eq] at stringRun
  rw [shows.binaryReadCodeFor_eq, PacketCall.run, run_bind_of_ok stringRun]
  rfl

theorem ShowsStrings.text_run (shows : ShowsStrings column field config options)
    {runtime : Runtime α} (decodes : DecodesAscii runtime) (fields : List Field)
    (encodingExpr : EncodingExpr) (aheadEq : packet.ahead = value.cell ++ rest) :
    ((textReadCodeFor field encodingExpr config options).run runtime fields).run packet =
      .ok (.string value.text, packet.advance value.cell.length) := by
  rw [shows.textReadCodeFor_eq, PacketCall.run]
  exact Temporal.readStringValue_run decodes aheadEq

/-- With `dateStrings` the row parsers of the text protocol, compiled and static, give the
text of the server, and those of the binary protocol the same text without a fraction that
is zero. -/
theorem dateStrings_run {runtime : Runtime α} (decodes : DecodesAscii runtime)
    (shows : ShowsStrings column field config options) (fields : List Field) (fieldNum : Nat)
    (encodingExpr : EncodingExpr) (value : Temporal column) {binary text : Packet}
    {behindBinary behindText : Bytes} (binaryAhead : binary.ahead = value.packed ++ behindBinary)
    (textAhead : text.ahead = value.cell ++ behindText) :
    ((binaryReadCodeFor field config options fieldNum).call.run runtime fields).run binary =
        .ok (.string value.shortText, binary.advance value.packed.length) ∧
      (readCode runtime fields field config options fieldNum).run binary =
        .ok (.string value.shortText, binary.advance value.packed.length) ∧
      ((textReadCodeFor field encodingExpr config options).run runtime fields).run text =
        .ok (.string value.text, text.advance value.cell.length) ∧
      (readField runtime field config options).run text =
        .ok (.string value.text, text.advance value.cell.length) := by
  refine ⟨shows.binary_run runtime fields fieldNum binaryAhead, ?_,
    shows.text_run decodes fields encodingExpr textAhead, ?_⟩
  · have stringRun := Temporal.readDateTimeString_run column.decimals " "
      (some column.type.toNat) binaryAhead
    rw [value.shortText_eq] at stringRun
    rw [shows.readCode_eq, run_bind_of_ok stringRun]
    rfl
  · rw [shows.readField_eq]
    exact Temporal.readStringValue_run decodes textAhead

end Rows

/-! ### A whole second -/

/-- `2017-07-26 09:36:42.000` in a `TIMESTAMP(3)` column. -/
def wholeSecond : Temporal (.timestamp 3) where
  year := 2017
  month := 7
  day := 26
  hours := 9
  minutes := 36
  seconds := 42
  micros := 0
  year_lt := by decide
  month_le := by decide
  day_le := by decide
  hours_lt := by decide
  minutes_lt := by decide
  seconds_lt := by decide
  micros_lt := by decide
  decimals_le := by decide
  rounded := by decide
  midnight := fun isDate => nomatch isDate

/-- The field of that column. -/
def millisField : Field where
  columnType := 7
  flags := 0
  characterSet := 63
  decimals := 3
  columnLength := 23
  encoding := some "binary"
  schema := []
  table := []
  name := units "date"
  extendedTypeName := none
  extendedFormat := none

/-- A connection with `dateStrings`. -/
def stringsConfig : Config Unit where
  typeCast := .absent
  timezone := some (units "local")
  dateStrings := .truthy
  supportBigNumbers := false
  bigNumberStrings := false
  decimalNumbers := false
  jsonStrings := false

def plainOptions : Options Unit where
  rowsAsArray := false
  nestTables := .absent
  typeCast := .absent
  timezone := none
  dateStrings := .falsy
  supportBigNumbers := false
  bigNumberStrings := false
  decimalNumbers := false

theorem millisField_shows : ShowsStrings (.timestamp 3) millisField stringsConfig plainOptions where
  columnType := rfl
  decimals := rfl
  notJson := by decide
  strings := rfl

/-- Both protocols read the whole second. -/
theorem dateStrings_run_wholeSecond :
    ((binaryReadCodeFor millisField stringsConfig plainOptions 0).call.run utcRuntime
        [millisField]).run (packetOf wholeSecond.packed) =
        .ok (.string wholeSecond.shortText,
          (packetOf wholeSecond.packed).advance wholeSecond.packed.length) ∧
      (readCode utcRuntime [millisField] millisField stringsConfig plainOptions 0).run
        (packetOf wholeSecond.packed) = .ok (.string wholeSecond.shortText,
          (packetOf wholeSecond.packed).advance wholeSecond.packed.length) ∧
      ((textReadCodeFor millisField (.ofField 0) stringsConfig plainOptions).run utcRuntime
        [millisField]).run (packetOf wholeSecond.cell) = .ok (.string wholeSecond.text,
          (packetOf wholeSecond.cell).advance wholeSecond.cell.length) ∧
      (readField utcRuntime millisField stringsConfig plainOptions).run
        (packetOf wholeSecond.cell) = .ok (.string wholeSecond.text,
          (packetOf wholeSecond.cell).advance wholeSecond.cell.length) :=
  dateStrings_run (fun _ _ => rfl) millisField_shows [millisField] 0 (.ofField 0) wholeSecond
    (ahead_packetOf _) (ahead_packetOf _)

/-- The binary protocol gives the whole second without its fraction. -/
theorem wholeSecond_differs :
    (∃ after, ((binaryReadCodeFor millisField stringsConfig plainOptions 0).call.run utcRuntime
        [millisField]).run (packetOf wholeSecond.packed) =
        .ok (.string "2017-07-26 09:36:42", after)) ∧
      ∃ after, ((textReadCodeFor millisField (.ofField 0) stringsConfig plainOptions).run utcRuntime
        [millisField]).run (packetOf wholeSecond.cell) =
          .ok (.string "2017-07-26 09:36:42.000", after) := by
  have short : wholeSecond.shortText = "2017-07-26 09:36:42" := by decide
  have whole : wholeSecond.text = "2017-07-26 09:36:42.000" := by decide
  constructor
  · rw [← short]
    exact ⟨_, millisField_shows.binary_run utcRuntime [millisField] 0 (ahead_packetOf _)⟩
  · rw [← whole]
    exact ⟨_, millisField_shows.text_run (fun _ _ => rfl) [millisField] (.ofField 0)
      (ahead_packetOf _)⟩

end Mysql2.Parsers

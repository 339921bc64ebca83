import Mysql2.Parsers.TimeZone

/-!
# Dates of a server

What a server stores in columns for dates and times, the packed form in which it sends
them in the binary protocol, and their texts.
-/

namespace Mysql2.Parsers

open Mysql2.Packets Mysql2.Packets.Packet Mysql2.Script

/-! ## Numerals with zeros in front -/

/-- A decimal numeral of at least so many digits. -/
def padded (width n : Nat) : List Char :=
  List.replicate (width - (Nat.toDigits 10 n).length) '0' ++ Nat.toDigits 10 n

theorem leftPad_toString (width n : Nat) :
    leftPad width (toString n) = String.ofList (padded width n) := by
  have digits : (toString n).toList = Nat.toDigits 10 n := Nat.toList_repr
  have length : (toString n).length = (Nat.toDigits 10 n).length := by
    rw [← String.length_toList, digits]
  apply String.toList_injective
  rw [leftPad, length, String.toList_append, String.toList_ofList, digits, padded,
    String.toList_ofList]

theorem length_padded {width n : Nat} (positive : 0 < width) (fits : n < 10 ^ width) :
    (padded width n).length = width := by
  have short : (Nat.toDigits 10 n).length ≤ width :=
    (Nat.length_toDigits_le_iff (by decide) positive).mpr fits
  rw [padded, List.length_append, List.length_replicate, Nat.sub_add_cancel short]

theorem isDigit_of_mem_padded {width n : Nat} {char : Char} (member : char ∈ padded width n) :
    char.isDigit = true := by
  rcases List.mem_append.mp member with zero | digit
  · rw [List.eq_of_mem_replicate zero]
    decide
  · exact Nat.isDigit_of_mem_toDigits (by decide) (by decide) digit

theorem ofDigitChars_padded (width n : Nat) : Nat.ofDigitChars 10 (padded width n) 0 = n := by
  rw [padded, Nat.ofDigitChars_append, Nat.ofDigitChars_replicate_zero, Nat.mul_zero,
    Nat.ofDigitChars_ten_toDigits]

theorem ofDigitChars_lt {digits : List Char} (allDigits : ∀ char ∈ digits, char.isDigit = true) :
    Nat.ofDigitChars 10 digits 0 < 10 ^ digits.length := by
  induction digits with
  | nil => simp
  | cons first digits ih =>
      obtain ⟨isDigit, others⟩ := List.forall_mem_cons.mp allDigits
      have range := toNat_of_isDigit isDigit
      have below := ih others
      have zero : '0'.toNat = 48 := rfl
      have small : first.toNat - 48 ≤ 9 := by omega
      have leading : 10 ^ digits.length * (first.toNat - 48) ≤ 10 ^ digits.length * 9 :=
        Nat.mul_le_mul_left _ small
      rw [Nat.ofDigitChars_cons, Nat.ofDigitChars_eq_ofDigitChars_zero, zero, Nat.mul_zero,
        Nat.zero_add, List.length_cons, Nat.pow_succ]
      omega

/-- The first digits of a numeral. -/
theorem ofDigitChars_take_padded {width n : Nat} (count : Nat) (positive : 0 < width)
    (fits : n < 10 ^ width) :
    Nat.ofDigitChars 10 ((padded width n).take count) 0 = n / 10 ^ (width - count) := by
  have whole := ofDigitChars_padded width n
  have restDigits : ∀ char ∈ (padded width n).drop count, char.isDigit = true :=
    fun char member => isDigit_of_mem_padded (List.mem_of_mem_drop member)
  have rest := ofDigitChars_lt restDigits
  rw [List.length_drop, length_padded positive fits] at rest
  rw [← List.take_append_drop count (padded width n), Nat.ofDigitChars_append,
    Nat.ofDigitChars_eq_ofDigitChars_zero, List.length_drop, length_padded positive fits] at whole
  have positivePower : 0 < 10 ^ (width - count) := Nat.pow_pos (by decide)
  have quotient := Nat.mul_add_div positivePower
    (Nat.ofDigitChars 10 ((padded width n).take count) 0)
    (Nat.ofDigitChars 10 ((padded width n).drop count) 0)
  rw [whole, Nat.div_eq_of_lt rest, Nat.add_zero] at quotient
  exact quotient.symm

/-- A numeral at a place of a text. -/
structure HasNumber (chars : List Char) (first width n : Nat) : Prop where
  split : ∃ before after, chars = before ++ (padded width n ++ after) ∧ before.length = first
  positive : 0 < width
  fits : n < 10 ^ width

/-- The bytes of ASCII characters are read as them. -/
theorem toNat_charByte_of_ascii {char : Char} (small : char.toNat < 128) :
    (charByte char).toNat = char.toNat := by
  rw [charByte, UInt8.toNat_ofNat']
  omega

theorem latin1_charByte {chars : List Char} (small : ∀ char ∈ chars, char.toNat < 128) :
    latin1 (chars.map charByte) = String.ofList chars := by
  rw [latin1, List.map_map]
  have charEq : ∀ char ∈ chars,
      ((fun byte : UInt8 => Char.ofNat byte.toNat) ∘ charByte) char = char := by
    intro char member
    rw [Function.comp_apply, toNat_charByte_of_ascii (small char member), Char.ofNat_toNat]
  rw [List.map_congr_left charEq, List.map_id']

/-! ## What is stored -/

/-- A column for dates, or for dates and times with so many digits of the second's
fraction. -/
inductive TemporalColumn
  | date
  | dateTime (decimals : Nat)
  | timestamp (decimals : Nat)
  deriving DecidableEq, Repr

namespace TemporalColumn

def decimals : TemporalColumn → Nat
  | date => 0
  | dateTime decimals => decimals
  | timestamp decimals => decimals

def type : TemporalColumn → Types
  | date => .DATE
  | dateTime _ => .DATETIME
  | timestamp _ => .TIMESTAMP

end TemporalColumn

/-- What a server can store in a column, where a date may be zero or partly zero. -/
structure Temporal (column : TemporalColumn) where
  year : Nat
  month : Nat
  day : Nat
  hours : Nat
  minutes : Nat
  seconds : Nat
  micros : Nat
  year_lt : year < 10000
  month_le : month ≤ 12
  day_le : day ≤ 31
  hours_lt : hours < 24
  minutes_lt : minutes < 60
  seconds_lt : seconds < 60
  micros_lt : micros < 1000000
  decimals_le : column.decimals ≤ 6
  rounded : micros % 10 ^ (6 - column.decimals) = 0
  midnight : column = .date → hours = 0 ∧ minutes = 0 ∧ seconds = 0

namespace Temporal

variable {column : TemporalColumn} (value : Temporal column)

/-! ## What is sent -/

/-- The length of the packed form, from which parts at the end that are zero are left
out. -/
def packedLength : Nat :=
  if value.micros ≠ 0 then 11
  else if value.hours + value.minutes + value.seconds ≠ 0 then 7
  else if value.year + value.month + value.day ≠ 0 then 4
  else 0

def packedDate : Bytes :=
  writeUIntLE value.year 2 ++ [toByte value.month, toByte value.day]

def packedTime : Bytes :=
  [toByte value.hours, toByte value.minutes, toByte value.seconds]

/-- The packed form. -/
def packed : Bytes :=
  toByte value.packedLength :: ((if 3 < value.packedLength then value.packedDate else []) ++
    ((if 6 < value.packedLength then value.packedTime else []) ++
      if 10 < value.packedLength then writeUIntLE value.micros 4 else []))

def dateChars : List Char :=
  padded 4 value.year ++ '-' :: (padded 2 value.month ++ '-' :: padded 2 value.day)

def timeChars : List Char :=
  padded 2 value.hours ++ ':' :: (padded 2 value.minutes ++ ':' :: padded 2 value.seconds)

def fractionChars : List Char :=
  if column.decimals = 0 then [] else '.' :: (padded 6 value.micros).take column.decimals

/-- The text without the fraction of the second. -/
def wholeChars : List Char :=
  if column = .date then value.dateChars else value.dateChars ++ ' ' :: value.timeChars

/-- The text of the value. -/
def chars : List Char :=
  if column = .date then value.dateChars
  else value.dateChars ++ ' ' :: value.timeChars ++ value.fractionChars

/-- The cell of a row in the text protocol. -/
def cell : Bytes :=
  writeLengthCodedBuffer (value.chars.map charByte)

theorem micros_eq_zero_of_whole (noDecimals : column.decimals = 0) : value.micros = 0 := by
  have rounded := value.rounded
  have micros_lt := value.micros_lt
  rw [noDecimals] at rounded
  omega

/-! ## The characters of the texts -/

theorem isAscii_of_mem_padded {width n : Nat} {char : Char} (member : char ∈ padded width n) :
    char.toNat < 128 := by
  have range := toNat_of_isDigit (isDigit_of_mem_padded member)
  omega

theorem isAscii_dateChars : ∀ char ∈ value.dateChars, char.toNat < 128 := by
  intro char member
  simp only [dateChars, List.mem_append, List.mem_cons] at member
  rcases member with year | rfl | month | rfl | day
  · exact isAscii_of_mem_padded year
  · decide
  · exact isAscii_of_mem_padded month
  · decide
  · exact isAscii_of_mem_padded day

theorem isAscii_timeChars : ∀ char ∈ value.timeChars, char.toNat < 128 := by
  intro char member
  simp only [timeChars, List.mem_append, List.mem_cons] at member
  rcases member with hours | rfl | minutes | rfl | seconds
  · exact isAscii_of_mem_padded hours
  · decide
  · exact isAscii_of_mem_padded minutes
  · decide
  · exact isAscii_of_mem_padded seconds

theorem isAscii_fractionChars : ∀ char ∈ value.fractionChars, char.toNat < 128 := by
  intro char member
  rw [fractionChars] at member
  split at member
  · cases member
  · rcases List.mem_cons.mp member with rfl | digit
    · decide
    · exact isAscii_of_mem_padded (List.mem_of_mem_take digit)

theorem isAscii_chars : ∀ char ∈ value.chars, char.toNat < 128 := by
  intro char member
  rw [chars] at member
  split at member
  · exact value.isAscii_dateChars char member
  · simp only [List.mem_append, List.mem_cons] at member
    rcases member with (date | rfl | time) | fraction
    · exact value.isAscii_dateChars char date
    · decide
    · exact value.isAscii_timeChars char time
    · exact value.isAscii_fractionChars char fraction

theorem length_dateChars : value.dateChars.length = 10 := by
  have month_le := value.month_le
  have day_le := value.day_le
  simp only [dateChars, List.length_append, List.length_cons]
  rw [length_padded (by decide) value.year_lt, length_padded (by decide) (by omega),
    length_padded (by decide) (by omega)]

theorem length_timeChars : value.timeChars.length = 8 := by
  have hours_lt := value.hours_lt
  have minutes_lt := value.minutes_lt
  have seconds_lt := value.seconds_lt
  simp only [timeChars, List.length_append, List.length_cons]
  rw [length_padded (by decide) (by omega), length_padded (by decide) (by omega),
    length_padded (by decide) (by omega)]

theorem length_fractionChars :
    value.fractionChars.length = if column.decimals = 0 then 0 else 1 + column.decimals := by
  have decimals_le := value.decimals_le
  rw [fractionChars]
  split
  · rfl
  · rw [List.length_cons, List.length_take, length_padded (by decide) value.micros_lt]
    omega

/-- The characters of a date and a time. -/
def dateTimeChars (separator : Char) (fraction : List Char) : List Char :=
  value.dateChars ++ separator :: value.timeChars ++ fraction

theorem chars_eq_of_time (hasTime : column ≠ .date) :
    value.chars = value.dateTimeChars ' ' value.fractionChars :=
  if_neg hasTime

section Places

variable (separator : Char) (fraction : List Char)

theorem hasNumber_year : HasNumber (value.dateTimeChars separator fraction) 0 4 value.year where
  split := ⟨[], '-' :: (padded 2 value.month ++ '-' :: padded 2 value.day) ++
    separator :: value.timeChars ++ fraction, by simp [dateTimeChars, dateChars], rfl⟩
  positive := by decide
  fits := value.year_lt

theorem hasNumber_month : HasNumber (value.dateTimeChars separator fraction) 5 2 value.month where
  split := by
    refine ⟨padded 4 value.year ++ ['-'], '-' :: padded 2 value.day ++
      separator :: value.timeChars ++ fraction, by simp [dateTimeChars, dateChars], ?_⟩
    rw [List.length_append, length_padded (by decide) value.year_lt]
    rfl
  positive := by decide
  fits := Nat.lt_of_le_of_lt value.month_le (by decide)

theorem hasNumber_day : HasNumber (value.dateTimeChars separator fraction) 8 2 value.day where
  split := by
    have month_le := value.month_le
    refine ⟨padded 4 value.year ++ '-' :: (padded 2 value.month ++ ['-']),
      separator :: value.timeChars ++ fraction, by simp [dateTimeChars, dateChars], ?_⟩
    rw [List.length_append, List.length_cons, List.length_append,
      length_padded (by decide) value.year_lt, length_padded (by decide) (by omega)]
    rfl
  positive := by decide
  fits := Nat.lt_of_le_of_lt value.day_le (by decide)

/-- The place of the time. -/
theorem length_date_separator : (value.dateChars ++ [separator]).length = 11 := by
  rw [List.length_append, value.length_dateChars]
  rfl

theorem hasNumber_hours : HasNumber (value.dateTimeChars separator fraction) 11 2 value.hours where
  split := ⟨value.dateChars ++ [separator], ':' :: (padded 2 value.minutes ++
    ':' :: padded 2 value.seconds) ++ fraction, by simp [dateTimeChars, timeChars],
      value.length_date_separator separator⟩
  positive := by decide
  fits := Nat.lt_trans value.hours_lt (by decide)

theorem hasNumber_minutes :
    HasNumber (value.dateTimeChars separator fraction) 14 2 value.minutes where
  split := by
    have hours_lt := value.hours_lt
    refine ⟨value.dateChars ++ [separator] ++ (padded 2 value.hours ++ [':']),
      ':' :: padded 2 value.seconds ++ fraction, by simp [dateTimeChars, timeChars], ?_⟩
    rw [List.length_append, length_date_separator, List.length_append,
      length_padded (by decide) (by omega)]
    rfl
  positive := by decide
  fits := Nat.lt_trans value.minutes_lt (by decide)

theorem hasNumber_seconds :
    HasNumber (value.dateTimeChars separator fraction) 17 2 value.seconds where
  split := by
    have hours_lt := value.hours_lt
    have minutes_lt := value.minutes_lt
    refine ⟨value.dateChars ++ [separator] ++
      (padded 2 value.hours ++ ':' :: (padded 2 value.minutes ++ [':'])), fraction,
        by simp [dateTimeChars, timeChars], ?_⟩
    rw [List.length_append, length_date_separator, List.length_append, List.length_cons,
      List.length_append, length_padded (by decide) (by omega),
      length_padded (by decide) (by omega)]
    rfl
  positive := by decide
  fits := Nat.lt_trans value.seconds_lt (by decide)

end Places

theorem length_chars_le : value.chars.length ≤ 26 := by
  have date := value.length_dateChars
  have time := value.length_timeChars
  have fraction := value.length_fractionChars
  have decimals_le := value.decimals_le
  rw [chars]
  split
  · omega
  · rw [List.length_append, List.length_append, List.length_cons, date, time, fraction]
    split
    · omega
    · omega

/-! ## Reading the packed form -/

theorem packedLength_lt : value.packedLength < 256 := by
  unfold packedLength
  repeat' split
  all_goals decide

/-- What the packed form leaves out is zero. -/
theorem micros_eq_zero (short : ¬ 10 < value.packedLength) : value.micros = 0 := by
  unfold packedLength at short
  split at short
  · omega
  · omega

theorem micros_eq_zero_iff : value.micros = 0 ↔ ¬ 10 < value.packedLength := by
  constructor
  · intro zero long
    rw [packedLength, if_neg (by simpa using zero)] at long
    split at long
    · omega
    · split at long
      · omega
      · omega
  · exact value.micros_eq_zero

theorem time_eq_zero (short : ¬ 6 < value.packedLength) :
    value.hours = 0 ∧ value.minutes = 0 ∧ value.seconds = 0 := by
  unfold packedLength at short
  split at short
  · omega
  · split at short
    · omega
    · omega

theorem date_eq_zero (short : ¬ 3 < value.packedLength) :
    value.year = 0 ∧ value.month = 0 ∧ value.day = 0 := by
  unfold packedLength at short
  split at short
  · omega
  · split at short
    · omega
    · split at short
      · omega
      · omega

/-- The fields of the packed form. -/
def fields : DateTimeFields :=
  ⟨value.year, some value.month, some value.day, some value.hours, some value.minutes,
    some value.seconds⟩

/-- How many bytes of the packed form there are before the fraction. -/
def fieldsLength : Nat :=
  1 + (if 3 < value.packedLength then 4 else 0) + if 6 < value.packedLength then 3 else 0

variable {packet : Packet} {rest : Bytes} {value}

/-- A byte of a number below 256. -/
theorem readInt8_run_toByte {n : Nat} (aheadEq : packet.ahead = toByte n :: rest)
    (small : n < 256) :
    readInt8.run packet = .ok (some n, packet.advance 1) := by
  rw [readInt8_run_cons aheadEq, toByte_toNat, Nat.mod_eq_of_lt small]

/-- The bytes of the fraction, if it is sent. -/
def fractionBytes (value : Temporal column) : Bytes :=
  if 10 < value.packedLength then writeUIntLE value.micros 4 else []

/-- What is ahead behind the length, where a date is sent. -/
theorem date_ahead (aheadEq : packet.ahead = value.packed ++ rest) (date : 3 < value.packedLength) :
    (packet.advance 1).ahead = writeUIntLE value.year 2 ++ toByte value.month :: toByte value.day ::
      ((if 6 < value.packedLength then value.packedTime else []) ++
        (value.fractionBytes ++ rest)) := by
  rw [packed, if_pos date, List.cons_append] at aheadEq
  rw [ahead_advance_one aheadEq]
  simp [packedDate, fractionBytes]

/-- The fields are read, those that are left out as zero. -/
theorem readDateTimeFields_run (aheadEq : packet.ahead = value.packed ++ rest) :
    readDateTimeFields.run packet =
      .ok ((some value.packedLength, value.fields), packet.advance value.fieldsLength) := by
  have lengthRun := readInt8_run_toByte aheadEq value.packedLength_lt
  have month_le := value.month_le
  have day_le := value.day_le
  have hours_lt := value.hours_lt
  have minutes_lt := value.minutes_lt
  have seconds_lt := value.seconds_lt
  have year_lt := value.year_lt
  rw [readDateTimeFields, run_bind_of_ok lengthRun]
  by_cases date : 3 < value.packedLength
  · have yearAhead := date_ahead aheadEq date
    have monthAhead := ahead_advance_of_append _ yearAhead (length_writeUIntLE value.year 2)
    have dayAhead := ahead_advance_one monthAhead
    have behind := ahead_advance_one dayAhead
    rw [advance_advance] at monthAhead
    rw [advance_advance, advance_advance] at dayAhead
    rw [advance_advance, advance_advance, advance_advance] at behind
    dsimp only
    rw [if_pos (by simpa using date),
      run_bind_of_ok (readInt16_run yearAhead (length_writeUIntLE _ 2)),
      advance_advance, run_bind_of_ok (readInt8_run_toByte monthAhead (by omega)), advance_advance,
      run_bind_of_ok (readInt8_run_toByte dayAhead (by omega)), advance_advance,
      uintLE_writeUIntLE_of_lt (by omega)]
    by_cases time : 6 < value.packedLength
    · rw [if_pos time] at behind
      have minutesAhead := ahead_advance_one behind
      have secondsAhead := ahead_advance_one minutesAhead
      rw [advance_advance] at minutesAhead
      rw [advance_advance, advance_advance] at secondsAhead
      rw [if_pos (by simpa using time), run_bind_of_ok (readInt8_run_toByte behind (by omega)),
        advance_advance, run_bind_of_ok (readInt8_run_toByte minutesAhead (by omega)),
        advance_advance, run_bind_of_ok (readInt8_run_toByte secondsAhead (by omega)),
        advance_advance, fieldsLength, if_pos date, if_pos time]
      rfl
    · obtain ⟨hoursZero, minutesZero, secondsZero⟩ := value.time_eq_zero time
      rw [if_neg (by simpa using time), fieldsLength, if_pos date, if_neg time, fields, hoursZero,
        minutesZero, secondsZero]
      rfl
  · have noTime : ¬ 6 < value.packedLength := by omega
    obtain ⟨yearZero, monthZero, dayZero⟩ := value.date_eq_zero date
    obtain ⟨hoursZero, minutesZero, secondsZero⟩ := value.time_eq_zero noTime
    rw [fieldsLength, if_neg date, if_neg noTime, fields, yearZero, monthZero, dayZero, hoursZero,
      minutesZero, secondsZero]
    dsimp only
    rw [if_neg (by simpa using date), if_neg (by simpa using noTime)]
    rfl

/-- The packed form behind the fields. -/
theorem fraction_ahead (aheadEq : packet.ahead = value.packed ++ rest) :
    (packet.advance value.fieldsLength).ahead = value.fractionBytes ++ rest := by
  by_cases date : 3 < value.packedLength
  · have behind := date_ahead aheadEq date
    by_cases time : 6 < value.packedLength
    · rw [if_pos time] at behind
      have moved := congrArg (List.drop 7) behind
      rw [← ahead_advance, advance_advance] at moved
      rw [fieldsLength, if_pos date, if_pos time, moved]
      rfl
    · rw [if_neg time] at behind
      have moved := congrArg (List.drop 4) behind
      rw [← ahead_advance, advance_advance] at moved
      rw [fieldsLength, if_pos date, if_neg time, moved]
      rfl
  · have noTime : ¬ 6 < value.packedLength := by omega
    have noFraction : ¬ 10 < value.packedLength := by omega
    rw [packed, if_neg date, if_neg noTime, if_neg noFraction] at aheadEq
    rw [fieldsLength, if_neg date, if_neg noTime, fractionBytes, if_neg noFraction]
    exact ahead_advance_one aheadEq

theorem length_packed (value : Temporal column) :
    value.packed.length = value.fieldsLength + value.fractionBytes.length := by
  rw [packed, fieldsLength, fractionBytes]
  repeat' split
  all_goals simp [packedDate, packedTime, length_writeUIntLE]

/-- The time part of the string that `readDateTimeString` builds. -/
def timeText (value : Temporal column) (timeSep : String) (columnType : Option Nat) : String :=
  if 6 < value.packedLength then timeSep ++ String.ofList value.timeChars
  else if columnType = some 0x0c ∨ columnType = some 0x07 then " 00:00:00"
  else ""

/-- The fraction of that string. -/
def fractionText (value : Temporal column) (decimals : Nat) : String :=
  if 10 < value.packedLength then
    "." ++ if decimals = 0 then toString value.micros
      else String.ofList ((padded 6 value.micros).take decimals)
  else
    ""

/-- `byteText` of the bytes of a date or a time, put together. -/
theorem ofList_dateChars (value : Temporal column) :
    String.ofList value.dateChars = leftPad 4 (toString value.year) ++ "-" ++
      leftPad 2 (toString value.month) ++ "-" ++ leftPad 2 (toString value.day) := by
  rw [leftPad_toString, leftPad_toString, leftPad_toString]
  apply String.toList_injective
  simp [dateChars]

theorem ofList_timeChars (value : Temporal column) :
    String.ofList value.timeChars = leftPad 2 (toString value.hours) ++ ":" ++
      leftPad 2 (toString value.minutes) ++ ":" ++ leftPad 2 (toString value.seconds) := by
  rw [leftPad_toString, leftPad_toString, leftPad_toString]
  apply String.toList_injective
  simp [timeChars]

/-- The bytes of numbers are there. -/
theorem byteText_bind {γ : Type} (n : Nat) (next : String → Reader γ) (packet : Packet) :
    ((byteText (some n) : Except JsError String) >>= next : Reader γ).run packet =
      (next (toString n)).run packet :=
  rfl

/-- `readDateTimeString` builds the date, the time if it is sent or belongs to the type, and
the fraction if it is sent. -/
theorem readDateTimeString_run (decimals : Nat) (timeSep : String) (columnType : Option Nat)
    (aheadEq : packet.ahead = value.packed ++ rest) :
    (readDateTimeString decimals timeSep columnType).run packet =
      .ok (String.ofList value.dateChars ++ value.timeText timeSep columnType ++
        value.fractionText decimals, packet.advance value.packed.length) := by
  have fractionAhead := fraction_ahead aheadEq
  rw [readDateTimeString, run_bind_of_ok (readDateTimeFields_run aheadEq), length_packed]
  dsimp only [fields]
  by_cases date : 3 < value.packedLength
  · rw [if_pos (by simpa using date), byteText_bind, byteText_bind, ← ofList_dateChars]
    by_cases time : 6 < value.packedLength
    · rw [if_pos (by simpa using time), byteText_bind, byteText_bind, byteText_bind, timeText,
        if_pos time]
      by_cases hasFraction : 10 < value.packedLength
      · rw [fractionBytes, if_pos hasFraction] at fractionAhead ⊢
        have micros_lt := value.micros_lt
        rw [if_pos (by simpa using hasFraction),
          run_bind_of_ok (readInt32_run fractionAhead (length_writeUIntLE _ 4)), advance_advance,
          uintLE_writeUIntLE_of_lt (by omega), fractionText, if_pos hasFraction,
          length_writeUIntLE, leftPad_toString 6, String.toList_ofList, ofList_timeChars]
        simp only [String.append_assoc]
        rfl
      · rw [if_neg (by simpa using hasFraction), fractionBytes, if_neg hasFraction, fractionText,
          if_neg hasFraction, ofList_timeChars, String.append_empty]
        simp only [String.append_assoc]
        rfl
    · have noFraction : ¬ 10 < value.packedLength := by omega
      rw [if_neg (by simpa using time), timeText, if_neg time, fractionText, if_neg noFraction,
        fractionBytes, if_neg noFraction, String.append_empty]
      split
      · rw [if_neg (by simpa using noFraction)]
        rfl
      · rw [if_neg (by simpa using noFraction), String.append_empty]
        rfl
  · have noTime : ¬ 6 < value.packedLength := by omega
    have noFraction : ¬ 10 < value.packedLength := by omega
    obtain ⟨yearZero, monthZero, dayZero⟩ := value.date_eq_zero date
    have zeroDate : String.ofList value.dateChars = "0000-00-00" := by
      rw [dateChars, yearZero, monthZero, dayZero]
      decide
    rw [if_neg (by simpa using date), if_neg (by simpa using noTime), timeText, if_neg noTime,
      fractionText, if_neg noFraction, fractionBytes, if_neg noFraction, String.append_empty,
      zeroDate]
    split
    · rw [if_neg (by simpa using noFraction)]
      rfl
    · rw [if_neg (by simpa using noFraction), String.append_empty]
      rfl

end Temporal

end Mysql2.Parsers

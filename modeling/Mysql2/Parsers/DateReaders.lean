import Mathlib.Data.List.Induction
import Mysql2.Parsers.DateParsing

/-!
# Reading dates

The readers of both protocols on what a server sends of a value for `Z` or an offset as the
time zone: which function of the language they ask for the date, and with what.
-/

namespace Mysql2.Parsers

open Mysql2.Packets Mysql2.Packets.Packet Mysql2.Script

variable {α : Type}

/-- The reader of a column in the text protocol. -/
def readDateText (column : TemporalColumn) (runtime : Runtime α) (timezone : Option JsString) :
    Reader (Value α) :=
  match column with
  | .date => parseDate runtime timezone
  | .dateTime _ | .timestamp _ => parseDateTime runtime timezone

/-! ## Digits in bytes -/

/-- The number that digits in bytes make. -/
theorem digitsValue_append (before after : Bytes) {digits : List Char}
    (allDigits : ∀ char ∈ digits, char.isDigit = true) :
    digitsValue (before ++ (digits.map charByte ++ after)) before.length digits.length =
      some (Nat.ofDigitChars 10 digits 0 : Int) := by
  induction digits using List.reverseRecOn generalizing after with
  | nil => rfl
  | append_singleton digits last ih =>
      have isDigit : last.isDigit = true := allDigits last (by simp)
      have range := toNat_of_isDigit isDigit
      have zero : '0'.toNat = 48 := rfl
      have others : ∀ char ∈ digits, char.isDigit = true :=
        fun char member => allDigits char (List.mem_append_left _ member)
      have first := ih ([last].map charByte ++ after) others
      have length : before.length + digits.length = (before ++ digits.map charByte).length := by
        rw [List.length_append, List.length_map]
      have lastValue :
          digitValue (before ++ (digits.map charByte ++ ([last].map charByte ++ after)))
            (before.length + digits.length) = some ((last.toNat : Int) - 48) := by
        rw [digitValue, ← List.append_assoc, length, List.getElem?_append_right (Nat.le_refl _),
          Nat.sub_self]
        show some (((charByte last).toNat : Int) - 48) = _
        rw [toNat_charByte isDigit]
      rw [List.map_append, List.append_assoc, List.length_append, List.length_singleton,
        digitsValue, first, lastValue, Nat.ofDigitChars_append]
      simp only [Nat.ofDigitChars_cons, Nat.ofDigitChars_nil, zero, Option.bind_eq_bind,
        Option.bind_some, Option.pure_def, Option.some.injEq]
      omega

theorem HasNumber.digitsValue {chars : List Char} {first width n : Nat}
    (has : HasNumber chars first width n) (rest : Bytes) :
    digitsValue (chars.map charByte ++ rest) first width = some (n : Int) := by
  obtain ⟨⟨before, after, rfl, rfl⟩, positive, fits⟩ := has
  have number := digitsValue_append (before.map charByte) (after.map charByte ++ rest)
    (fun char (member : char ∈ padded width n) => isDigit_of_mem_padded member)
  rw [List.length_map, length_padded positive fits, ofDigitChars_padded] at number
  rw [List.map_append, List.map_append, List.append_assoc, List.append_assoc]
  exact number

/-- A numeral is read as its number. -/
theorem parseInt_padded_run (runtime : Runtime α) {width n : Nat} (positive : 0 < width)
    (fits : n < 10 ^ width) (short : width < 14) {packet : Packet} {rest : Bytes}
    (aheadEq : packet.ahead = (padded width n).map charByte ++ rest) :
    (Packet.parseInt runtime (.number width) false).run packet =
      .ok (.number n, packet.advance width) := by
  have length := length_padded positive fits
  have nonempty : padded width n ≠ [] := by
    intro empty
    rw [empty, List.length_nil] at length
    omega
  have power : 10 ^ width ≤ 10 ^ 13 := Nat.pow_le_pow_right (by decide) (by omega)
  have safe : n < 9007199254740992 := by omega
  have run := parseInt_digits_run runtime aheadEq (fun _ => isDigit_of_mem_padded) nonempty
    (by omega) (by rw [ofDigitChars_padded]; exact safe)
  rw [length, ofDigitChars_padded] at run
  exact run

namespace FixedZone

theorem not_local (zone : FixedZone) : isLocal (some zone.text) = false := by
  obtain ⟨first, rest, textEq, _, _⟩ := zone.exists_text_cons
  have minutes := zone.zoneMinutes_text
  have notEmpty : zone.text ≠ [] := by
    rw [textEq]
    simp
  have notLocal : zone.text ≠ units "local" := by
    intro same
    have none : zoneMinutes (units "local") = none := by decide
    rw [same, none] at minutes
    cases minutes
  simp [isLocal, notEmpty, notLocal]

theorem isUTC_offset (negative : Bool) {hours minutes : Nat} (hours_lt : hours < 24)
    (minutes_lt : minutes < 60) :
    isUTC (some (offset negative hours minutes hours_lt minutes_lt).text) = false := by
  have offsetEq := timezoneOffsetMinutes_text negative hours_lt minutes_lt
  rw [isUTC, decide_eq_false_iff_not]
  intro same
  have none : timezoneOffsetMinutes (units "Z") = none := by decide
  rw [Option.some.inj same, none] at offsetEq
  cases offsetEq

theorem natAbs_minutes_lt (zone : FixedZone) : zone.minutes.natAbs < 1440 := by
  cases zone with
  | utc => decide
  | offset negative hours minutes hours_lt minutes_lt =>
      cases negative with
      | true =>
          rw [FixedZone.minutes, if_pos rfl]
          omega
      | false =>
          rw [FixedZone.minutes, if_neg (by decide)]
          omega

end FixedZone

namespace Temporal

variable {column : TemporalColumn} {value : Temporal column} {packet : Packet} {rest : Bytes}
  {runtime : Runtime α}

/-- The arguments for which a date and a time, with a fraction, are asked. -/
def arguments (value : Temporal column) (micros : Nat) : DateArguments :=
  ⟨some value.year, some value.month, some value.day, some value.hours, some value.minutes,
    some value.seconds, some micros⟩

/-- `y + m + d + H + M + S + ms === 0`. -/
def Zero (value : Temporal column) : Prop :=
  value.year + value.month + value.day + value.hours + value.minutes + value.seconds +
    value.micros = 0

instance (value : Temporal column) : Decidable value.Zero :=
  inferInstanceAs (Decidable (_ = 0))

/-! ## The text protocol -/

/-- The bytes of a date are read one number after the other. -/
theorem parseDate_run (timezone : Option JsString)
    (aheadEq : packet.ahead = writeLengthCodedBuffer (value.dateChars.map charByte) ++ rest) :
    (parseDate runtime timezone).run packet =
      .ok (if isLocal timezone then
          .date (runtime.localTime ⟨some value.year, some value.month, some value.day,
            some 0, some 0, some 0, some 0⟩)
        else if isUTC timezone then
          .date (runtime.utcTime ⟨some value.year, some value.month, some value.day,
            some 0, some 0, some 0, some 0⟩)
        else .date (runtime.dateParse
          (withTimezone (String.ofList value.dateChars ++ "T00:00:00") timezone)),
        packet.advance 11) := by
  have year_lt := value.year_lt
  have month_le := value.month_le
  have day_le := value.day_le
  rw [writeLengthCodedBuffer, List.length_map, value.length_dateChars, List.append_assoc] at aheadEq
  have lengthRun := readLengthCodedNumber_run false false aheadEq (by decide)
  have textAhead : (packet.advance 1).ahead = value.dateChars.map charByte ++ rest :=
    ahead_advance_of_append _ aheadEq rfl
  have yearAhead : (packet.advance 1).ahead = (padded 4 value.year).map charByte ++
      (charByte '-' :: ((padded 2 value.month).map charByte ++
        (charByte '-' :: ((padded 2 value.day).map charByte ++ rest)))) := by
    rw [textAhead, dateChars]
    simp
  have yearLength : ((padded 4 value.year).map charByte).length = 4 := by
    rw [List.length_map, length_padded (by decide) value.year_lt]
  have monthLength : ((padded 2 value.month).map charByte).length = 2 := by
    rw [List.length_map, length_padded (by decide) (by omega)]
  have monthAhead := ahead_advance_one (ahead_advance_of_append _ yearAhead yearLength)
  have dayAhead := ahead_advance_one (ahead_advance_of_append _ monthAhead monthLength)
  simp only [advance_advance, Nat.reduceAdd] at monthAhead dayAhead
  have yearRun : (Packet.parseInt runtime (.number 4) false).run (packet.advance 1) =
      .ok (.number value.year, packet.advance 5) :=
    parseInt_padded_run runtime (by decide) value.year_lt (by decide) yearAhead
  have monthRun : (Packet.parseInt runtime (.number 2) false).run (packet.advance 6) =
      .ok (.number value.month, packet.advance 8) :=
    parseInt_padded_run runtime (by decide) (Nat.lt_of_le_of_lt month_le (by decide)) (by decide)
      monthAhead
  have dayRun : (Packet.parseInt runtime (.number 2) false).run (packet.advance 9) =
      .ok (.number value.day, packet.advance 11) :=
    parseInt_padded_run runtime (by decide) (Nat.lt_of_le_of_lt day_le (by decide)) (by decide)
      dayAhead
  rw [parseDate, run_bind_of_ok lengthRun]
  show StateT.run (Packet.parseInt runtime (.number 4) false >>= _) (packet.advance 1) = _
  rw [run_bind_of_ok yearRun, run_bind_of_ok (skip_run _ 1), advance_advance,
    run_bind_of_ok monthRun, run_bind_of_ok (skip_run _ 1), advance_advance,
    run_bind_of_ok dayRun, ofList_dateChars]
  dsimp only [Value.toNumber]
  cases isLocal timezone with
  | true => rfl
  | false =>
      cases isUTC timezone with
      | true => rfl
      | false => rfl

/-- A mark at a place of a text. -/
def HasMark (chars : List Char) (place : Nat) (mark : Char) : Prop :=
  ∃ before after, chars = before ++ mark :: after ∧ before.length = place

theorem HasMark.getElem? {chars : List Char} {place : Nat} {mark : Char}
    (has : HasMark chars place mark) (rest : Bytes) :
    (chars.map charByte ++ rest)[place]? = some (charByte mark) := by
  obtain ⟨before, after, rfl, rfl⟩ := has
  have length : before.length = (before.map charByte).length := (List.length_map charByte).symm
  rw [List.map_append, List.append_assoc, length, List.getElem?_append_right (Nat.le_refl _),
    Nat.sub_self]
  rfl

/-- The marks of the wire format are at their places. -/
theorem wireFormat (value : Temporal column) (separator : Char) (fraction : List Char) :
    HasMark (value.dateTimeChars separator fraction) 4 '-' ∧
      HasMark (value.dateTimeChars separator fraction) 7 '-' ∧
      HasMark (value.dateTimeChars separator fraction) 13 ':' ∧
      HasMark (value.dateTimeChars separator fraction) 16 ':' := by
  have year : (padded 4 value.year).length = 4 := length_padded (by decide) value.year_lt
  have month : (padded 2 value.month).length = 2 :=
    length_padded (by decide) (Nat.lt_of_le_of_lt value.month_le (by decide))
  have hours : (padded 2 value.hours).length = 2 :=
    length_padded (by decide) (Nat.lt_trans value.hours_lt (by decide))
  have minutes : (padded 2 value.minutes).length = 2 :=
    length_padded (by decide) (Nat.lt_trans value.minutes_lt (by decide))
  have date := value.length_dateChars
  refine ⟨⟨padded 4 value.year, padded 2 value.month ++ '-' :: padded 2 value.day ++
      separator :: value.timeChars ++ fraction, by simp [dateTimeChars, dateChars], year⟩,
    ⟨padded 4 value.year ++ '-' :: padded 2 value.month, padded 2 value.day ++
      separator :: value.timeChars ++ fraction, by simp [dateTimeChars, dateChars], ?_⟩,
    ⟨value.dateChars ++ separator :: padded 2 value.hours, padded 2 value.minutes ++
      ':' :: padded 2 value.seconds ++ fraction, by simp [dateTimeChars, timeChars], ?_⟩,
    ⟨value.dateChars ++ separator :: (padded 2 value.hours ++ ':' :: padded 2 value.minutes),
      padded 2 value.seconds ++ fraction, by simp [dateTimeChars, timeChars], ?_⟩⟩
  · rw [List.length_append, List.length_cons, year, month]
  · rw [List.length_append, List.length_cons, date, hours]
  · rw [List.length_append, List.length_cons, List.length_append, List.length_cons, date, hours,
      minutes]

/-- The loop over the fraction of a second. -/
theorem fraction_run (value : Temporal column) {count : Nat} (rounded : value.Rounded count)
    (separator : Char) (rest : Bytes) :
    Packet.fraction ((value.dateTimeChars separator (value.fraction count)).map charByte ++ rest)
      (value.dateTimeChars separator (value.fraction count)).length =
        some ((value.micros / 1000 : Nat) : Int) := by
  have whole := value.length_wholeDateTime separator
  have micros : (padded 6 value.micros).length = 6 := length_padded (by decide) value.micros_lt
  have millis := value.millis_of_digits rounded
  have count_le := rounded.1
  by_cases none : count = 0
  · subst none
    rw [Nat.min_zero, List.take_zero, Nat.ofDigitChars_nil, Nat.zero_mul] at millis
    have noDigits : value.fraction 0 = [] := rfl
    have short : ¬ 20 < (value.dateTimeChars separator (value.fraction 0)).length := by
      rw [dateTimeChars, List.length_append, whole, noDigits]
      decide
    rw [Packet.fraction, if_neg short, ← millis]
    rfl
  · have fractionEq : value.fraction count = '.' :: (padded 6 value.micros).take count :=
      if_neg none
    have length : (value.dateTimeChars separator (value.fraction count)).length = 20 + count := by
      rw [dateTimeChars, List.length_append, whole, fractionEq, List.length_cons, List.length_take,
        micros, Nat.min_eq_left count_le]
      omega
    have allDigits : ∀ char ∈ (padded 6 value.micros).take (min 3 count), char.isDigit = true :=
      fun char member => isDigit_of_mem_padded (List.mem_of_mem_take member)
    have digitsLength : ((padded 6 value.micros).take (min 3 count)).length = min 3 count := by
      rw [List.length_take, micros]
      omega
    have beforeLength :
        ((value.dateChars ++ separator :: value.timeChars ++ ['.']).map charByte).length = 20 := by
      rw [List.length_map, List.length_append, whole]
      rfl
    have charsEq : value.dateTimeChars separator (value.fraction count) =
        value.dateChars ++ separator :: value.timeChars ++ ['.'] ++
          ((padded 6 value.micros).take (min 3 count) ++
            ((padded 6 value.micros).take count).drop (min 3 count)) := by
      have split := List.take_append_drop (min 3 count) ((padded 6 value.micros).take count)
      rw [List.take_take, Nat.min_assoc, Nat.min_self] at split
      rw [split, dateTimeChars, fractionEq]
      simp
    have number := digitsValue_append
      ((value.dateChars ++ separator :: value.timeChars ++ ['.']).map charByte)
      ((((padded 6 value.micros).take count).drop (min 3 count)).map charByte ++ rest) allDigits
    rw [beforeLength, digitsLength] at number
    have countEq : min 3 (20 + count - 20) = min 3 count := by omega
    have power : 3 - min 3 count = 3 - count := by omega
    rw [Packet.fraction, length, if_pos (by omega), countEq, charsEq]
    simp only [List.map_append, List.append_assoc] at number ⊢
    rw [number, power, ← millis]
    simp

theorem rounded_decimals (value : Temporal column) : value.Rounded column.decimals :=
  ⟨value.decimals_le, value.rounded⟩

/-- What `parseDateTime` makes of the text of a value. -/
def parsedDateTime (value : Temporal column) (runtime : Runtime α) (zone : FixedZone) :
    Option Int :=
  if value.month = 0 ∨ value.day = 0 then none
  else if value.year < 100 then
    runtime.dateParse (value.parsedText ' ' column.decimals zone)
  else
    let utc := runtime.utcTime (value.arguments (value.micros / 1000 * 1000))
    match zone with
    | .utc => utc
    | .offset .. => utc.bind fun utc => timeClip (utc - zone.minutes * 60000)

theorem withTimezone_chars {chars : List Char} (ascii : ∀ char ∈ chars, char.toNat < 128)
    (zone : FixedZone) :
    withTimezone (String.ofList chars) (some zone.text) = chars.map charUnit ++ zone.text := by
  rw [withTimezone, units_ofList ascii]
  rfl

theorem dateTimeValue_eq (value : Temporal column) (hasTime : column ≠ .date) (zone : FixedZone)
    (rest : Bytes) :
    dateTimeValue runtime (value.chars.map charByte ++ rest) value.chars.length (some zone.text) =
      .date (value.parsedDateTime runtime zone) := by
  have ascii := value.isAscii_chars
  have charsEq : value.chars = value.dateTimeChars ' ' (value.fraction column.decimals) :=
    value.chars_eq_of_time hasTime
  have number {first width n : Nat} (has : HasNumber
      (value.dateTimeChars ' ' (value.fraction column.decimals)) first width n) :
      digitsValue (value.chars.map charByte ++ rest) first width = some (n : Int) := by
    rw [charsEq]
    exact has.digitsValue rest
  have text : latin1 ((value.chars.map charByte ++ rest).take value.chars.length) =
      String.ofList value.chars := by
    have length : value.chars.length = (value.chars.map charByte).length :=
      (List.length_map charByte).symm
    rw [length, List.take_left, latin1_charByte ascii]
  have fractionEq : Packet.fraction (value.chars.map charByte ++ rest) value.chars.length =
      some ((value.micros / 1000 : Nat) : Int) := by
    rw [charsEq]
    exact value.fraction_run value.rounded_decimals ' ' rest
  have parsed : withTimezone (String.ofList value.chars) (some zone.text) =
      value.parsedText ' ' column.decimals zone := by
    rw [withTimezone_chars ascii, charsEq]
    rfl
  have month_le := value.month_le
  have day_le := value.day_le
  rw [dateTimeValue, text, number (value.hasNumber_year _ _), number (value.hasNumber_month _ _),
    number (value.hasNumber_day _ _), number (value.hasNumber_hours _ _),
    number (value.hasNumber_minutes _ _), number (value.hasNumber_seconds _ _), fractionEq,
    parsedDate, zone.not_local, parsed]
  simp only [Option.some.injEq, Option.any_some, decide_eq_true_eq, Bool.false_eq_true, if_false]
  rw [parsedDateTime]
  by_cases zero : value.month = 0 ∨ value.day = 0
  · rw [if_pos zero, if_pos (by omega)]
  · rw [if_neg zero, if_neg (by omega)]
    by_cases old : value.year < 100
    · rw [if_pos old, if_pos (by omega)]
    · rw [if_neg old, if_neg (by omega)]
      cases zone with
      | utc => rfl
      | offset negative hours minutes hours_lt minutes_lt =>
          rw [FixedZone.isUTC_offset, if_neg (by simp), Option.getD_some,
            FixedZone.timezoneOffsetMinutes_text]
          rfl

/-- `parseDateTime` reads the text of a value. -/
theorem parseDateTime_run (hasTime : column ≠ .date) (zone : FixedZone)
    (aheadEq : packet.ahead = value.cell ++ rest) :
    (parseDateTime runtime (some zone.text)).run packet =
      .ok (.date (value.parsedDateTime runtime zone), packet.advance value.cell.length) := by
  have short := value.length_chars_le
  have format := value.wireFormat ' ' value.fractionChars
  have charsEq := value.chars_eq_of_time hasTime
  have long : 19 ≤ value.chars.length := by
    rw [charsEq, dateTimeChars, List.length_append, value.length_wholeDateTime]
    omega
  rw [← charsEq] at format
  obtain ⟨four, seven, thirteen, sixteen⟩ := format
  rw [cell, writeLengthCodedBuffer, List.append_assoc, List.length_map] at aheadEq
  have lengthRun := readLengthCodedNumber_run false false aheadEq (by omega)
  have textAhead : (packet.advance (lengthCodedNumberLength value.chars.length)).ahead =
      value.chars.map charByte ++ rest :=
    ahead_advance_of_append _ aheadEq (length_writeLengthCodedNumber _)
  have cellLength : value.cell.length =
      lengthCodedNumberLength value.chars.length + value.chars.length := by
    rw [cell, writeLengthCodedBuffer, List.length_append, List.length_map,
      length_writeLengthCodedNumber]
  rw [parseDateTime, run_bind_of_ok lengthRun]
  show StateT.run (get >>= _) _ = _
  rw [run_get_bind, run_bind_of_ok (skip_run _ _), toNat_number, textAhead,
    if_pos ⟨long, four.getElem? rest, seven.getElem? rest, thirteen.getElem? rest,
      sixteen.getElem? rest⟩, value.dateTimeValue_eq hasTime zone rest, advance_advance, cellLength]
  rfl

/-- At midnight the time is left out. -/
theorem ofList_midnight (hours : value.hours = 0) (minutes : value.minutes = 0)
    (seconds : value.seconds = 0) :
    String.ofList value.dateChars ++ "T00:00:00" = String.ofList (value.dateTimeChars 'T' []) := by
  apply String.toList_injective
  rw [String.toList_append, String.toList_ofList, String.toList_ofList, dateTimeChars, timeChars,
    hours, minutes, seconds, List.append_nil, String.toList_ofList]
  rfl

theorem isAscii_parsed (value : Temporal column) (count : Nat) :
    ∀ char ∈ value.dateTimeChars 'T' (value.fraction count), char.toNat < 128 := by
  intro char member
  simp only [dateTimeChars, List.mem_append, List.mem_cons] at member
  rcases member with (date | rfl | time) | fraction
  · exact value.isAscii_dateChars char date
  · decide
  · exact value.isAscii_timeChars char time
  · rw [Temporal.fraction] at fraction
    split at fraction
    · cases fraction
    · rcases List.mem_cons.mp fraction with rfl | digit
      · decide
      · exact isAscii_of_mem_padded (List.mem_of_mem_take digit)

/-- What the reader of the text protocol makes of a value. -/
def textDate (value : Temporal column) (runtime : Runtime α) (zone : FixedZone) : Option Int :=
  if column = .date then
    match zone with
    | .utc => runtime.utcTime (value.arguments 0)
    | .offset .. => runtime.dateParse (value.parsedText 'T' 0 zone)
  else
    value.parsedDateTime runtime zone

theorem readDateText_run (zone : FixedZone) (aheadEq : packet.ahead = value.cell ++ rest) :
    (readDateText column runtime (some zone.text)).run packet =
      .ok (.date (value.textDate runtime zone), packet.advance value.cell.length) := by
  by_cases isDate : column = .date
  · have charsEq : value.chars = value.dateChars := if_pos isDate
    obtain ⟨hours, minutes, seconds⟩ := value.midnight isDate
    have length : value.cell.length = 11 := by
      rw [cell, writeLengthCodedBuffer, List.length_append, List.length_map, charsEq,
        value.length_dateChars]
      rfl
    rw [cell, charsEq] at aheadEq
    have parsed : withTimezone (String.ofList (value.dateTimeChars 'T' [])) (some zone.text) =
        value.parsedText 'T' 0 zone := withTimezone_chars (value.isAscii_parsed 0) zone
    have midnight := ofList_midnight hours minutes seconds
    unfold textDate
    rw [if_pos isDate, length]
    subst isDate
    rw [readDateText, parseDate_run _ aheadEq, zone.not_local, midnight]
    cases zone with
    | utc =>
        rw [arguments, hours, minutes, seconds]
        rfl
    | offset negative zoneHours zoneMinutes hours_lt minutes_lt =>
        rw [FixedZone.isUTC_offset, if_neg (by simp), if_neg (by simp), parsed]
  · have result : value.textDate runtime zone = value.parsedDateTime runtime zone := if_neg isDate
    have readerEq : readDateText column runtime (some zone.text) =
        parseDateTime runtime (some zone.text) := by
      cases column with
      | date => exact absurd rfl isDate
      | dateTime decimals => rfl
      | timestamp decimals => rfl
    rw [result, readerEq]
    exact parseDateTime_run isDate zone aheadEq

/-! ## The binary protocol -/

/-- How many digits of the fraction are written: all or none. -/
def writtenDigits (value : Temporal column) : Nat :=
  if value.micros = 0 then 0 else 6

/-- What `readDateTime` makes of the text of a value. -/
def writtenDate (value : Temporal column) (runtime : Runtime α) (zone : FixedZone) : Option Int :=
  if value.year = 0 ∧ value.month = 0 ∧ value.day = 0 then none
  else runtime.dateParse (value.parsedText 'T' value.writtenDigits zone)

/-- What `readDateTime` makes of a value. -/
def binaryDate (value : Temporal column) (runtime : Runtime α) (zone : FixedZone) : Option Int :=
  match zone with
  | .utc => if value.Zero then none else runtime.utcTime (value.arguments value.micros)
  | .offset .. => value.writtenDate runtime zone

/-- The sum of the fields is zero if all of them are. -/
theorem zero_iff (value : Temporal column) :
    value.Zero ↔ value.fields = ⟨0, some 0, some 0, some 0, some 0, some 0⟩ ∧ value.micros = 0 := by
  simp only [Zero, fields, DateTimeFields.mk.injEq, Option.some.injEq]
  omega

/-- The length byte is no mark of `NULL`. -/
theorem peekByte_ne_null (aheadEq : packet.ahead = value.packed ++ rest) :
    packet.peekByte ≠ some 0xfb := by
  have lengthByte : (toByte value.packedLength).toNat = value.packedLength := by
    rw [toByte_toNat, Nat.mod_eq_of_lt value.packedLength_lt]
  have short : value.packedLength ≤ 11 := by
    unfold packedLength
    repeat' split
    all_goals decide
  rw [peekByte_eq, aheadEq, packed, List.cons_append, List.head?_cons, Option.map_some, lengthByte]
  intro isNull
  have same := Option.some.inj isNull
  omega

/-- With `Z` the fields are the arguments. -/
theorem readDateTime_utc_run (aheadEq : packet.ahead = value.packed ++ rest) :
    (readDateTime runtime (some (units "Z"))).run packet =
      .ok (.date (value.binaryDate runtime .utc), packet.advance value.packed.length) := by
  have fieldsRun := readDateTimeFields_run aheadEq
  have fractionAhead := fraction_ahead aheadEq
  have utc : isUTC (some (units "Z")) = true := by decide
  have direct : isLocal (some (units "Z")) = true ∨ isUTC (some (units "Z")) = true := .inr utc
  have result : value.binaryDate runtime .utc =
      if value.fields = ⟨0, some 0, some 0, some 0, some 0, some 0⟩ ∧ value.micros = 0 then none
      else runtime.utcTime (value.arguments value.micros) := by
    simp only [binaryDate, value.zero_iff]
  rw [readDateTime, if_pos direct, run_get_bind, if_neg (peekByte_ne_null aheadEq),
    run_bind_of_ok fieldsRun, length_packed, result]
  dsimp only
  by_cases hasFraction : 10 < value.packedLength
  · have micros_lt := value.micros_lt
    rw [fractionBytes, if_pos hasFraction] at fractionAhead ⊢
    rw [if_pos (by simpa using hasFraction),
      run_bind_of_ok (readInt32_run fractionAhead (length_writeUIntLE _ 4)),
      uintLE_writeUIntLE_of_lt (by omega), advance_advance, length_writeUIntLE, if_pos utc]
    split
    · rfl
    · rfl
  · rw [fractionBytes, if_neg hasFraction, if_neg (by simpa using hasFraction),
      value.micros_eq_zero hasFraction, if_pos utc]
    split
    · rfl
    · rfl

theorem eq_zero_of_padded {width n : Nat} (zeros : padded width n = List.replicate width '0') :
    n = 0 := by
  have number := ofDigitChars_padded width n
  rw [zeros, Nat.ofDigitChars_replicate_zero] at number
  omega

/-- The text of a date that is zero. -/
theorem isPrefixOf_dateChars (value : Temporal column) (after : List Char) :
    "0000-00-00".toList.isPrefixOf (value.dateChars ++ after) = true ↔
      value.year = 0 ∧ value.month = 0 ∧ value.day = 0 := by
  have length := value.length_dateChars
  rw [List.isPrefixOf_iff_prefix]
  constructor
  · intro isPrefix
    have same : "0000-00-00".toList = value.dateChars := by
      have inside := List.prefix_of_prefix_length_le isPrefix (List.prefix_append _ after)
        (Nat.le_of_eq length.symm)
      exact inside.eq_of_length length.symm
    have split : "0000-00-00".toList = List.replicate 4 '0' ++
        '-' :: (List.replicate 2 '0' ++ '-' :: List.replicate 2 '0') := rfl
    have yearLength : (padded 4 value.year).length = (List.replicate 4 '0').length :=
      length_padded (by decide) value.year_lt
    have monthLength : (padded 2 value.month).length = (List.replicate 2 '0').length :=
      length_padded (by decide) (Nat.lt_of_le_of_lt value.month_le (by decide))
    rw [split, dateChars] at same
    obtain ⟨year, others⟩ := List.append_inj same yearLength.symm
    obtain ⟨month, day⟩ := List.append_inj (List.cons.inj others).2 monthLength.symm
    exact ⟨eq_zero_of_padded year.symm, eq_zero_of_padded month.symm,
      eq_zero_of_padded (List.cons.inj day).2.symm⟩
  · rintro ⟨year, month, day⟩
    have same : value.dateChars = "0000-00-00".toList := by
      rw [dateChars, year, month, day]
      decide
    rw [same]
    exact List.prefix_append _ after

/-- The text that is written of a value with a time. -/
theorem written_eq (value : Temporal column) (time : 6 < value.packedLength) :
    String.ofList value.dateChars ++ value.timeText "T" none ++ value.fractionText 6 =
      String.ofList (value.dateTimeChars 'T' (value.fraction value.writtenDigits)) := by
  have length : (padded 6 value.micros).length = 6 := length_padded (by decide) value.micros_lt
  have fractionEq : value.fractionText 6 = String.ofList (value.fraction value.writtenDigits) := by
    by_cases zero : value.micros = 0
    · rw [fractionText, if_neg (value.micros_eq_zero_iff.mp zero), writtenDigits, if_pos zero]
      rfl
    · have long : 10 < value.packedLength := not_not.mp (mt value.micros_eq_zero_iff.mpr zero)
      rw [fractionText, if_pos long, writtenDigits, if_neg zero, Temporal.fraction,
        if_neg (by decide), if_neg (by decide)]
      apply String.toList_injective
      simp
  rw [fractionEq, timeText, if_pos time]
  apply String.toList_injective
  simp [dateTimeChars]

/-- The text that is written of a value without a time. -/
theorem written_date_eq (value : Temporal column) (noTime : ¬ 6 < value.packedLength) :
    String.ofList value.dateChars ++ value.timeText "T" none ++ value.fractionText 6 =
      String.ofList value.dateChars := by
  have noFraction : ¬ 10 < value.packedLength := by omega
  have noType : ¬((none : Option Nat) = some 0x0c ∨ (none : Option Nat) = some 0x07) := by decide
  rw [timeText, if_neg noTime, if_neg noType, fractionText, if_neg noFraction, String.append_empty,
    String.append_empty]

/-- With an offset the packed form is written as a text. -/
theorem readDateTime_written_run (zone : FixedZone) (notUTC : isUTC (some zone.text) = false)
    (aheadEq : packet.ahead = value.packed ++ rest) :
    (readDateTime runtime (some zone.text)).run packet =
      .ok (.date (value.writtenDate runtime zone), packet.advance value.packed.length) := by
  have stringRun := readDateTimeString_run 6 "T" none aheadEq
  have indirect : ¬(isLocal (some zone.text) = true ∨ isUTC (some zone.text) = true) := by
    rw [zone.not_local, notUTC]
    decide
  rw [readDateTime, if_neg indirect, run_bind_of_ok stringRun, writtenDate]
  by_cases time : 6 < value.packedLength
  · have written :
        (String.ofList (value.dateTimeChars 'T' (value.fraction value.writtenDigits))).toList =
          value.dateTimeChars 'T' (value.fraction value.writtenDigits) := String.toList_ofList
    have isZero : "0000-00-00".toList.isPrefixOf
        (value.dateTimeChars 'T' (value.fraction value.writtenDigits)) = true ↔
          value.year = 0 ∧ value.month = 0 ∧ value.day = 0 := by
      rw [dateTimeChars, List.append_assoc]
      exact value.isPrefixOf_dateChars _
    have parsed : withTimezone
        (String.ofList (value.dateTimeChars 'T' (value.fraction value.writtenDigits)))
        (some zone.text) = value.parsedText 'T' value.writtenDigits zone :=
      withTimezone_chars (value.isAscii_parsed value.writtenDigits) zone
    have long :
        (String.ofList (value.dateTimeChars 'T' (value.fraction value.writtenDigits))).length ≠
          10 := by
      rw [String.length_ofList, dateTimeChars, List.length_append, value.length_wholeDateTime]
      omega
    rw [value.written_eq time, written]
    by_cases zero : value.year = 0 ∧ value.month = 0 ∧ value.day = 0
    · rw [if_pos (isZero.mpr zero), if_pos zero]
      rfl
    · rw [if_neg (mt isZero.mp zero), if_neg zero, if_neg long, parsed]
      rfl
  · have written : (String.ofList value.dateChars).toList = value.dateChars := String.toList_ofList
    have isZero := value.isPrefixOf_dateChars []
    have short : (String.ofList value.dateChars).length = 10 := by
      rw [String.length_ofList, value.length_dateChars]
    obtain ⟨hours, minutes, seconds⟩ := value.time_eq_zero time
    have whole : value.writtenDigits = 0 :=
      if_pos (value.micros_eq_zero (fun long => time (by omega)))
    have parsed : withTimezone (String.ofList (value.dateTimeChars 'T' [])) (some zone.text) =
        value.parsedText 'T' 0 zone := withTimezone_chars (value.isAscii_parsed 0) zone
    rw [List.append_nil] at isZero
    rw [value.written_date_eq time, written]
    by_cases zero : value.year = 0 ∧ value.month = 0 ∧ value.day = 0
    · rw [if_pos (isZero.mpr zero), if_pos zero]
      rfl
    · rw [if_neg (mt isZero.mp zero), if_neg zero, if_pos short,
        ofList_midnight hours minutes seconds, whole, parsed]
      rfl

/-- `readDateTime` reads the packed form of a value. -/
theorem readDateTime_run (zone : FixedZone) (aheadEq : packet.ahead = value.packed ++ rest) :
    (readDateTime runtime (some zone.text)).run packet =
      .ok (.date (value.binaryDate runtime zone), packet.advance value.packed.length) := by
  cases zone with
  | utc => exact readDateTime_utc_run aheadEq
  | offset negative hours minutes hours_lt minutes_lt =>
      exact readDateTime_written_run _ (FixedZone.isUTC_offset negative hours_lt minutes_lt) aheadEq

end Temporal

end Mysql2.Parsers

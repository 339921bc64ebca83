import Mysql2.Parsers.ServerDates
import Mysql2.Script.Decimal

/-!
# Dates of a script

`Date.UTC`, and what the `Date` constructor makes of the texts of dates that the readers
hand to it.  A text with a `T` is a date-time string, of which month and day must exist.
A text with a space is read by rules for other texts: years of two digits are years
of two centuries, and a first number that can be a day is the month of the
order month, day, year.
-/

namespace Mysql2.Parsers

open Mysql2.Packets Mysql2.Packets.Packet Mysql2.Script

/-- Wall time. -/
structure WallTime where
  year : Int
  month : Int
  day : Int
  hours : Int
  minutes : Int
  seconds : Int
  millis : Int

namespace WallTime

/-- The days since 1970.  Months and days can go over. -/
def dayNumber (wall : WallTime) : Int :=
  daysFromCivil (wall.year + (wall.month - 1) / 12) ((wall.month - 1) % 12 + 1) 1 + wall.day - 1

/-- The milliseconds of the day. -/
def timeInDay (wall : WallTime) : Int :=
  ((wall.hours * 60 + wall.minutes) * 60 + wall.seconds) * 1000 + wall.millis

/-- The milliseconds since 1970 of wall time in UTC. -/
def value (wall : WallTime) : Int :=
  wall.dayNumber * 86400000 + wall.timeInDay

/-- Years of two digits as years of the last century. -/
def inLastCentury (wall : WallTime) : WallTime :=
  if 0 ≤ wall.year ∧ wall.year ≤ 99 then { wall with year := 1900 + wall.year } else wall

/-- A month and a day of some month. -/
def Exists (wall : WallTime) : Prop :=
  1 ≤ wall.month ∧ wall.month ≤ 12 ∧ 1 ≤ wall.day ∧ wall.day ≤ 31

instance (wall : WallTime) : Decidable wall.Exists :=
  inferInstanceAs (Decidable (_ ∧ _ ∧ _ ∧ _))

/-- The time value of wall time at an offset from UTC in minutes. -/
def timeAt (wall : WallTime) (offset : Int) : Option Int :=
  if wall.Exists then timeClip (wall.value - offset * 60000) else none

/-- The order in which three numbers of a text that is no date-time string are read. -/
def reordered (wall : WallTime) : WallTime :=
  if 1 ≤ wall.year ∧ wall.year ≤ 31 then
    { wall with month := wall.year, day := wall.month, year := wall.day }
  else
    wall

/-- The century of a year of two digits in such a text. -/
def inCentury (wall : WallTime) : WallTime :=
  if 0 ≤ wall.year ∧ wall.year ≤ 49 then { wall with year := 2000 + wall.year }
  else if 50 ≤ wall.year ∧ wall.year ≤ 99 then { wall with year := 1900 + wall.year }
  else wall

/-- Wall time of some day, where month and day may be zero. -/
structure Proper (wall : WallTime) : Prop where
  month : 0 ≤ wall.month ∧ wall.month ≤ 12
  day : 0 ≤ wall.day ∧ wall.day ≤ 31
  hours : 0 ≤ wall.hours ∧ wall.hours < 24
  minutes : 0 ≤ wall.minutes ∧ wall.minutes < 60
  seconds : 0 ≤ wall.seconds ∧ wall.seconds < 60
  millis : 0 ≤ wall.millis ∧ wall.millis < 1000

/-- The first day of a month, up to the days of a year. -/
theorem daysFromCivil_bounds (year : Int) {month : Int} (range : 1 ≤ month ∧ month ≤ 12) :
    146097 * year - 287820000 ≤ 400 * daysFromCivil year month 1 ∧
      400 * daysFromCivil year month 1 ≤ 146097 * year - 287670000 := by
  unfold daysFromCivil
  dsimp only
  by_cases early : month ≤ 2
  · have months : (month + 9) % 12 = month + 9 := by omega
    rw [if_pos early, months]
    constructor <;> omega
  · have months : (month + 9) % 12 = month - 3 := by omega
    rw [if_neg early, months]
    constructor <;> omega

variable {wall first second : WallTime}

theorem Proper.dayNumber_bounds (proper : wall.Proper) :
    146097 * wall.year - 287967000 ≤ 400 * wall.dayNumber ∧
      400 * wall.dayNumber ≤ 146097 * wall.year - 287657000 := by
  have range : 1 ≤ (wall.month - 1) % 12 + 1 ∧ (wall.month - 1) % 12 + 1 ≤ 12 := by omega
  have first := daysFromCivil_bounds (wall.year + (wall.month - 1) / 12) range
  have month := proper.month
  have day := proper.day
  rw [dayNumber]
  omega

theorem Proper.timeInDay_bounds (proper : wall.Proper) :
    0 ≤ wall.timeInDay ∧ wall.timeInDay < 86400000 := by
  have hours := proper.hours
  have minutes := proper.minutes
  have seconds := proper.seconds
  have millis := proper.millis
  rw [timeInDay]
  omega

/-- A year in between keeps wall times apart. -/
theorem Proper.value_lt (firstProper : first.Proper) (secondProper : second.Proper)
    (apart : first.year + 2 < second.year) : first.value < second.value := by
  have firstDay := firstProper.dayNumber_bounds
  have secondDay := secondProper.dayNumber_bounds
  have firstTime := firstProper.timeInDay_bounds
  have secondTime := secondProper.timeInDay_bounds
  rw [value, value]
  omega

/-- Years of four digits have time values. -/
theorem Proper.timeClip_value (proper : wall.Proper) (year : 0 ≤ wall.year ∧ wall.year < 10000)
    {offset : Int} (near : offset.natAbs < 1440) :
    timeClip (wall.value - offset * 60000) = some (wall.value - offset * 60000) := by
  have day := proper.dayNumber_bounds
  have time := proper.timeInDay_bounds
  have inRange : (wall.value - offset * 60000).natAbs ≤ 8640000000000000 := by
    rw [value]
    omega
  exact if_pos inRange

end WallTime

/-- `Date.UTC(..)`. -/
def dateUTC (arguments : DateArguments) : Option Int := do
  let wall : WallTime :=
    { year := ← arguments.year
      month := ← arguments.month
      day := ← arguments.day
      hours := ← arguments.hours
      minutes := ← arguments.minutes
      seconds := ← arguments.seconds
      millis := (← arguments.microseconds) / 1000 }
  timeClip wall.inLastCentury.value

/-- The number at a place of a text. -/
def numberAt (text : JsString) (first count : Nat) : Int :=
  ((text.drop first).take count).foldl (fun number unit => 10 * number + (unit.toNat - 48)) 0

def isDigitUnit (unit : UInt16) : Bool :=
  48 ≤ unit.toNat && unit.toNat ≤ 57

/-- The fraction of a second in milliseconds, of which three digits count. -/
def millisOf (digits : JsString) : Int :=
  numberAt digits 0 3 * 10 ^ (3 - digits.length)

/-- The fraction and the time zone behind the seconds of a text. -/
def fractionAndZone : JsString → JsString × JsString
  | 46 :: text => (text.takeWhile isDigitUnit, text.dropWhile isDigitUnit)
  | text => ([], text)

/-- The offset of a time zone in minutes. -/
def zoneMinutes (zone : JsString) : Option Int :=
  if zone = units "Z" then some 0 else timezoneOffsetMinutes zone

/-- `new Date(text)` of a text `YYYY-MM-DD HH:MM:SS[.digits]` with a time zone, where a `T`
may stand for the space. -/
def dateParse (text : JsString) : Option Int :=
  let (fraction, zone) := fractionAndZone (text.drop 19)
  let wall : WallTime :=
    { year := numberAt text 0 4
      month := numberAt text 5 2
      day := numberAt text 8 2
      hours := numberAt text 11 2
      minutes := numberAt text 14 2
      seconds := numberAt text 17 2
      millis := millisOf fraction }
  match zoneMinutes zone with
  | none => none
  | some offset =>
      if text[10]? = some 84 then wall.timeAt offset
      else wall.reordered.inCentury.timeAt offset

/-! ## Time zones -/

/-- `Z`, or an offset of hours and minutes. -/
inductive FixedZone
  | utc
  | offset (negative : Bool) (hours minutes : Nat) (hours_lt : hours < 24)
      (minutes_lt : minutes < 60)

namespace FixedZone

/-- The text of a time zone. -/
def text : FixedZone → JsString
  | utc => units "Z"
  | offset negative hours minutes _ _ =>
      units (String.ofList ((if negative then '-' else '+') ::
        (padded 2 hours ++ ':' :: padded 2 minutes)))

/-- The minutes it is ahead of UTC. -/
def minutes : FixedZone → Int
  | utc => 0
  | offset negative hours minutes _ _ => (if negative then -1 else 1) * (hours * 60 + minutes)

end FixedZone

/-! ## Texts of digits -/

/-- The code unit of an ASCII character. -/
def charUnit (char : Char) : UInt16 :=
  UInt16.ofNat char.toNat

theorem toNat_charUnit {char : Char} (small : char.toNat < 128) :
    (charUnit char).toNat = char.toNat := by
  rw [charUnit, UInt16.toNat_ofNat']
  omega

theorem units_ofList {chars : List Char} (small : ∀ char ∈ chars, char.toNat < 128) :
    units (String.ofList chars) = chars.map charUnit := by
  rw [units, String.toList_ofList]
  induction chars with
  | nil => rfl
  | cons char chars ih =>
      obtain ⟨first, others⟩ := List.forall_mem_cons.mp small
      rw [List.flatMap_cons, charUnits_of_small (by omega), ih others, List.map_cons]
      rfl

/-- The number of digits at a place of a text. -/
theorem numberAt_append (before after : JsString) {digits : List Char}
    (allDigits : ∀ char ∈ digits, char.isDigit = true) :
    numberAt (before ++ (digits.map charUnit ++ after)) before.length digits.length =
      Nat.ofDigitChars 10 digits 0 := by
  have length : digits.length = (digits.map charUnit).length := (List.length_map charUnit).symm
  have folded : ∀ number : Nat, (digits.map charUnit).foldl
      (fun number unit => 10 * number + ((unit.toNat : Int) - 48)) (number : Int) =
        (Nat.ofDigitChars 10 digits number : Nat) := by
    clear length
    induction digits with
    | nil => simp
    | cons first digits ih =>
        intro number
        obtain ⟨isDigit, others⟩ := List.forall_mem_cons.mp allDigits
        have range := toNat_of_isDigit isDigit
        have zero : '0'.toNat = 48 := rfl
        have step : 10 * (number : Int) + ((first.toNat : Int) - 48) =
            ((10 * number + (first.toNat - 48) : Nat) : Int) := by omega
        rw [List.map_cons, List.foldl_cons, toNat_charUnit (by omega), step, ih others,
          Nat.ofDigitChars_cons, zero]
  rw [numberAt, List.drop_left, length, List.take_left]
  exact folded 0

theorem HasNumber.numberAt {chars : List Char} {first width n : Nat}
    (has : HasNumber chars first width n) (zone : JsString) :
    numberAt (chars.map charUnit ++ zone) first width = n := by
  obtain ⟨⟨before, after, rfl, rfl⟩, positive, fits⟩ := has
  have number := numberAt_append (before.map charUnit) (after.map charUnit ++ zone)
    (fun char (member : char ∈ padded width n) => isDigit_of_mem_padded member)
  rw [List.length_map, length_padded positive fits, ofDigitChars_padded] at number
  rw [List.map_append, List.map_append, List.append_assoc, List.append_assoc]
  exact number

/-! ## The time zone at the end of a text -/

/-- The digits of a number below 100. -/
theorem exists_padded_two {n : Nat} (fits : n < 100) :
    ∃ first second, padded 2 n = [first, second] ∧ first.isDigit = true ∧
      second.isDigit = true ∧ (first.toNat - 48) * 10 + (second.toNat - 48) = n := by
  have length : (padded 2 n).length = 2 := length_padded (by decide) fits
  have number := ofDigitChars_padded 2 n
  have digits : ∀ char ∈ padded 2 n, char.isDigit = true := fun _ => isDigit_of_mem_padded
  have zero : '0'.toNat = 48 := rfl
  match padded 2 n, length, number, digits with
  | [first, second], _, number, digits =>
      rw [Nat.ofDigitChars_cons, Nat.ofDigitChars_cons, Nat.ofDigitChars_nil, zero] at number
      exact ⟨first, second, rfl, digits first (by simp), digits second (by simp), by omega⟩

namespace FixedZone

/-- The characters of a time zone. -/
def chars : FixedZone → List Char
  | utc => ['Z']
  | offset negative hours minutes _ _ =>
      (if negative then '-' else '+') :: (padded 2 hours ++ ':' :: padded 2 minutes)

theorem isAscii_chars (zone : FixedZone) : ∀ char ∈ zone.chars, char.toNat < 128 := by
  cases zone with
  | utc => exact isAscii_of_all (by decide)
  | offset negative hours minutes hours_lt minutes_lt =>
      simp only [chars, List.mem_cons, List.mem_append]
      rintro char (rfl | hours | rfl | minutes)
      · cases negative <;> decide
      · exact Temporal.isAscii_of_mem_padded hours
      · decide
      · exact Temporal.isAscii_of_mem_padded minutes

theorem text_eq (zone : FixedZone) : zone.text = zone.chars.map charUnit := by
  cases zone with
  | utc => decide
  | offset negative hours minutes hours_lt minutes_lt =>
      exact units_ofList (isAscii_chars (offset negative hours minutes hours_lt minutes_lt))

theorem timezoneOffsetMinutes_text (negative : Bool) {hours minutes : Nat} (hours_lt : hours < 24)
    (minutes_lt : minutes < 60) :
    timezoneOffsetMinutes (offset negative hours minutes hours_lt minutes_lt).text =
      some (offset negative hours minutes hours_lt minutes_lt).minutes := by
  obtain ⟨hours1, hours0, hoursEq, isHours1, isHours0, hoursValue⟩ :=
    exists_padded_two (Nat.lt_trans hours_lt (by decide))
  obtain ⟨minutes1, minutes0, minutesEq, isMinutes1, isMinutes0, minutesValue⟩ :=
    exists_padded_two (Nat.lt_trans minutes_lt (by decide))
  have hours1Range := toNat_of_isDigit isHours1
  have hours0Range := toNat_of_isDigit isHours0
  have minutes1Range := toNat_of_isDigit isMinutes1
  have minutes0Range := toNat_of_isDigit isMinutes0
  have sign : (charUnit (if negative then '-' else '+') = 43 ∨
      charUnit (if negative then '-' else '+') = 45) ∧
      (charUnit (if negative then '-' else '+') = 45 ↔ negative = true) := by
    cases negative <;> decide
  have colon : charUnit ':' = 58 := by decide
  have format : (charUnit (if negative then '-' else '+') = 43 ∨
      charUnit (if negative then '-' else '+') = 45) ∧ charUnit ':' = 58 ∧
      (48 ≤ hours1.toNat ∧ hours1.toNat ≤ 57) ∧ (48 ≤ hours0.toNat ∧ hours0.toNat ≤ 57) ∧
      (48 ≤ minutes1.toNat ∧ minutes1.toNat ≤ 57) ∧ 48 ≤ minutes0.toNat ∧ minutes0.toNat ≤ 57 :=
    ⟨sign.1, colon, hours1Range, hours0Range, minutes1Range, minutes0Range⟩
  rw [text_eq, chars, hoursEq, minutesEq]
  simp only [List.cons_append, List.nil_append, List.map_cons, List.map_nil,
    timezoneOffsetMinutes, decide_eq_true_eq]
  rw [toNat_charUnit (by omega), toNat_charUnit (by omega), toNat_charUnit (by omega),
    toNat_charUnit (by omega), if_pos format]
  simp only [sign.2, FixedZone.minutes]
  congr 2
  omega

theorem zoneMinutes_text (zone : FixedZone) : zoneMinutes zone.text = some zone.minutes := by
  cases zone with
  | utc => rfl
  | offset negative hours minutes hours_lt minutes_lt =>
      have notUTC : (offset negative hours minutes hours_lt minutes_lt).text ≠ units "Z" := by
        intro same
        have lengths := congrArg List.length same
        rw [text_eq, chars] at lengths
        simp only [List.length_map, List.length_cons, List.length_append] at lengths
        rw [length_padded (by decide) (by omega), length_padded (by decide) (by omega)] at lengths
        exact absurd lengths (by decide)
      rw [zoneMinutes, if_neg notUTC, timezoneOffsetMinutes_text]

/-- A time zone begins with no digit and no point. -/
theorem exists_text_cons (zone : FixedZone) :
    ∃ first rest, zone.text = first :: rest ∧ isDigitUnit first = false ∧ first ≠ 46 := by
  rw [text_eq]
  cases zone with
  | utc => exact ⟨_, _, rfl, by decide, by decide⟩
  | offset negative hours minutes _ _ =>
      refine ⟨_, _, rfl, ?_, ?_⟩
      · cases negative <;> decide
      · cases negative <;> decide

end FixedZone

/-! ## The texts of dates and times -/

namespace Temporal

variable {column : TemporalColumn} (value : Temporal column)

/-- A fraction of a second of so many digits. -/
def fraction (count : Nat) : List Char :=
  if count = 0 then [] else '.' :: (padded 6 value.micros).take count

/-- The text of a date and a time that is parsed. -/
def parsedText (separator : Char) (count : Nat) (zone : FixedZone) : JsString :=
  (value.dateTimeChars separator (value.fraction count)).map charUnit ++ zone.text

/-- The date and the time, to the millisecond. -/
def wall : WallTime :=
  ⟨value.year, value.month, value.day, value.hours, value.minutes, value.seconds,
    ((value.micros / 1000 : Nat) : Int)⟩

theorem length_wholeDateTime (separator : Char) :
    (value.dateChars ++ separator :: value.timeChars).length = 19 := by
  rw [List.length_append, List.length_cons, value.length_dateChars, value.length_timeChars]

theorem parsedText_separator (separator : Char) (count : Nat) (zone : FixedZone) :
    (value.parsedText separator count zone)[10]? = some (charUnit separator) := by
  have length : 10 = (value.dateChars.map charUnit).length := by
    rw [List.length_map, value.length_dateChars]
  rw [parsedText, dateTimeChars, List.append_assoc, List.map_append, List.append_assoc,
    List.getElem?_append_right (Nat.le_of_eq length.symm), ← length]
  rfl

theorem drop_parsedText (separator : Char) (count : Nat) (zone : FixedZone) :
    (value.parsedText separator count zone).drop 19 =
      (value.fraction count).map charUnit ++ zone.text := by
  have length : 19 = ((value.dateChars ++ separator :: value.timeChars).map charUnit).length := by
    rw [List.length_map, value.length_wholeDateTime]
  rw [parsedText, dateTimeChars, List.map_append, List.append_assoc, length, List.drop_left]

theorem isDigitUnit_charUnit {char : Char} (isDigit : char.isDigit = true) :
    isDigitUnit (charUnit char) = true := by
  have range := toNat_of_isDigit isDigit
  rw [isDigitUnit, toNat_charUnit (by omega)]
  simpa using range

/-- The fraction and the time zone are told apart. -/
theorem fractionAndZone_eq (count : Nat) (zone : FixedZone) :
    fractionAndZone ((value.fraction count).map charUnit ++ zone.text) =
      (((padded 6 value.micros).take count).map charUnit, zone.text) := by
  obtain ⟨first, rest, textEq, notDigit, notPoint⟩ := zone.exists_text_cons
  rw [fraction]
  split
  case isTrue none =>
    rw [none, List.take_zero, List.map_nil, List.nil_append, textEq, fractionAndZone]
    intro text same
    exact notPoint (List.cons.inj same).1
  case isFalse =>
    have digits : ∀ unit ∈ ((padded 6 value.micros).take count).map charUnit,
        isDigitUnit unit = true := by
      intro unit member
      obtain ⟨char, isChar, rfl⟩ := List.mem_map.mp member
      exact isDigitUnit_charUnit (isDigit_of_mem_padded (List.mem_of_mem_take isChar))
    have point : charUnit '.' = 46 := by decide
    rw [List.map_cons, List.cons_append, point, fractionAndZone,
      List.takeWhile_append_of_pos digits, List.dropWhile_append_of_pos digits, textEq,
      List.takeWhile_cons_of_neg (by simp [notDigit]),
      List.dropWhile_cons_of_neg (by simp [notDigit]),
      List.append_nil]

/-- The digits that are left out of the fraction are zeros. -/
def Rounded (count : Nat) : Prop :=
  count ≤ 6 ∧ value.micros % 10 ^ (6 - count) = 0

/-- Of the fraction three digits count. -/
theorem millis_of_digits {count : Nat} (rounded : value.Rounded count) :
    Nat.ofDigitChars 10 ((padded 6 value.micros).take (min 3 count)) 0 * 10 ^ (3 - count) =
      value.micros / 1000 := by
  obtain ⟨count_le, zeros⟩ := rounded
  rw [ofDigitChars_take_padded _ (by decide) value.micros_lt]
  have some : count = 0 ∨ count = 1 ∨ count = 2 ∨ 3 ≤ count := by omega
  rcases some with rfl | rfl | rfl | many
  · simp only [Nat.min_zero, Nat.sub_zero, Nat.reducePow] at zeros ⊢
    omega
  · have one : min 3 1 = 1 := rfl
    simp only [one, Nat.reduceSub, Nat.reducePow] at zeros ⊢
    omega
  · have two : min 3 2 = 2 := rfl
    simp only [two, Nat.reduceSub, Nat.reducePow] at zeros ⊢
    omega
  · have thousand : 10 ^ (6 - 3) = 1000 := by decide
    rw [Nat.min_eq_left many, Nat.sub_eq_zero_of_le many, Nat.pow_zero, Nat.mul_one, thousand]

theorem millisOf_fraction {count : Nat} (rounded : value.Rounded count) :
    millisOf (((padded 6 value.micros).take count).map charUnit) =
      ((value.micros / 1000 : Nat) : Int) := by
  have digits : ∀ char ∈ (padded 6 value.micros).take (min 3 count), char.isDigit = true :=
    fun char member => isDigit_of_mem_padded (List.mem_of_mem_take member)
  have length : ((padded 6 value.micros).take count).length = count := by
    rw [List.length_take, length_padded (by decide) value.micros_lt]
    exact Nat.min_eq_left rounded.1
  have number := numberAt_append [] [] digits
  have firstThree : numberAt (((padded 6 value.micros).take count).map charUnit) 0 3 =
      (Nat.ofDigitChars 10 ((padded 6 value.micros).take (min 3 count)) 0 : Nat) := by
    rw [← number, numberAt, numberAt, List.drop_zero, List.length_nil, List.drop_zero,
      List.append_nil, List.nil_append, ← List.map_take, List.take_take, ← List.map_take,
      List.take_length]
  rw [millisOf, List.length_map, length, ← value.millis_of_digits rounded, firstThree]
  push_cast
  rfl

/-- What is parsed of a text is its wall time, which is reordered without a `T`. -/
theorem dateParse_parsedText {separator : Char} (count : Nat) (zone : FixedZone)
    (rounded : value.Rounded count) :
    dateParse (value.parsedText separator count zone) =
      if charUnit separator = 84 then value.wall.timeAt zone.minutes
      else value.wall.reordered.inCentury.timeAt zone.minutes := by
  have number {first width n : Nat} (has : HasNumber
      (value.dateTimeChars separator (value.fraction count)) first width n) :
      numberAt (value.parsedText separator count zone) first width = n := has.numberAt zone.text
  rw [dateParse, drop_parsedText, fractionAndZone_eq]
  dsimp only
  rw [zone.zoneMinutes_text, parsedText_separator, number (value.hasNumber_year _ _),
    number (value.hasNumber_month _ _), number (value.hasNumber_day _ _),
    number (value.hasNumber_hours _ _), number (value.hasNumber_minutes _ _),
    number (value.hasNumber_seconds _ _), value.millisOf_fraction rounded]
  simp only [Option.some.injEq]
  rfl

end Temporal

end Mysql2.Parsers

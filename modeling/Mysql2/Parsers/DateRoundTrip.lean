import Mysql2.Packets.Execution
import Mysql2.Parsers.DateValues

/-!
# Dates that are written and read again

`writeDate` splits the time value of a date into fields of the calendar, and `readDateTime`
puts the fields together again: with `Date.UTC` for `Z`, and with a date-time string for an
offset.
-/

namespace Mysql2.Parsers

open Mysql2.Packets Mysql2.Packets.Packet Mysql2.Script

variable {α : Type}

/-! ## The calendar -/

/-- A date of the calendar. -/
structure CivilDate where
  year : Int
  month : Int
  day : Int
  deriving DecidableEq, Repr

/-- The date of a day of a year that starts in March. -/
def fromMarch (year dayOfYear : Int) : CivilDate :=
  let index := (5 * dayOfYear + 2) / 153
  let month := if index < 10 then index + 3 else index - 9
  { year := if month ≤ 2 then year + 1 else year
    month := month
    day := dayOfYear - (153 * index + 2) / 5 + 1 }

/-- The date of a day, in days since 1970-01-01. -/
def civilFromDays (days : Int) : CivilDate :=
  let era := (days + 719468) / 146097
  let dayOfEra := (days + 719468) % 146097
  -- the last century of an era and the last year of a cycle are a day longer than the others
  let century := min (dayOfEra / 36524) 3
  let dayOfCentury := dayOfEra - century * 36524
  let cycle := dayOfCentury / 1461
  let dayOfCycle := dayOfCentury % 1461
  let yearOfCycle := min (dayOfCycle / 365) 3
  fromMarch (era * 400 + century * 100 + cycle * 4 + yearOfCycle) (dayOfCycle - yearOfCycle * 365)

theorem fromMarch_ranges (year : Int) {dayOfYear : Int} (range : 0 ≤ dayOfYear ∧ dayOfYear ≤ 365) :
    1 ≤ (fromMarch year dayOfYear).month ∧ (fromMarch year dayOfYear).month ≤ 12 ∧
      1 ≤ (fromMarch year dayOfYear).day ∧ (fromMarch year dayOfYear).day ≤ 31 := by
  unfold fromMarch
  dsimp only
  split
  · omega
  · omega

theorem civilFromDays_ranges (days : Int) :
    1 ≤ (civilFromDays days).month ∧ (civilFromDays days).month ≤ 12 ∧
      1 ≤ (civilFromDays days).day ∧ (civilFromDays days).day ≤ 31 := by
  rw [civilFromDays]
  exact fromMarch_ranges _ (by omega)

theorem daysFromCivil_fromMarch (year : Int) {dayOfYear : Int}
    (range : 0 ≤ dayOfYear ∧ dayOfYear ≤ 365) :
    daysFromCivil (fromMarch year dayOfYear).year (fromMarch year dayOfYear).month
      (fromMarch year dayOfYear).day =
        year / 400 * 146097 +
          (year % 400 * 365 + year % 400 / 4 - year % 400 / 100 + dayOfYear) - 719468 := by
  have yearOfEra : year - year / 400 * 400 = year % 400 := by omega
  by_cases early : (5 * dayOfYear + 2) / 153 < 10
  · have notNext : ¬(5 * dayOfYear + 2) / 153 + 3 ≤ 2 := by omega
    have date : fromMarch year dayOfYear = ⟨year, (5 * dayOfYear + 2) / 153 + 3,
        dayOfYear - (153 * ((5 * dayOfYear + 2) / 153) + 2) / 5 + 1⟩ := by
      simp only [fromMarch, if_pos early, if_neg notNext]
    have index : ((5 * dayOfYear + 2) / 153 + 3 + 9) % 12 = (5 * dayOfYear + 2) / 153 := by omega
    rw [date, daysFromCivil]
    dsimp only
    rw [if_neg notNext, index, yearOfEra]
    omega
  · have isNext : (5 * dayOfYear + 2) / 153 - 9 ≤ 2 := by omega
    have date : fromMarch year dayOfYear = ⟨year + 1, (5 * dayOfYear + 2) / 153 - 9,
        dayOfYear - (153 * ((5 * dayOfYear + 2) / 153) + 2) / 5 + 1⟩ := by
      simp only [fromMarch, if_neg early, if_pos isNext]
    have index : ((5 * dayOfYear + 2) / 153 - 9 + 9) % 12 = (5 * dayOfYear + 2) / 153 := by omega
    rw [date, daysFromCivil]
    dsimp only
    rw [if_pos isNext, index, Int.add_sub_cancel, yearOfEra]
    omega

/-- A date is the one of its day. -/
theorem daysFromCivil_civilFromDays (days : Int) :
    daysFromCivil (civilFromDays days).year (civilFromDays days).month (civilFromDays days).day =
      days := by
  unfold civilFromDays
  dsimp only
  rw [daysFromCivil_fromMarch _ (by omega)]
  generalize eraEq : (days + 719468) / 146097 = era
  generalize dayEq : (days + 719468) % 146097 = dayOfEra
  generalize centuryEq : min (dayOfEra / 36524) 3 = century
  generalize cycleEq : (dayOfEra - century * 36524) / 1461 = cycle
  generalize cycleDayEq : (dayOfEra - century * 36524) % 1461 = dayOfCycle
  generalize yearEq : min (dayOfCycle / 365) 3 = yearOfCycle
  have centuryRange : 0 ≤ century ∧ century ≤ 3 := by omega
  have cycleRange : 0 ≤ cycle ∧ cycle ≤ 24 := by omega
  have yearRange : 0 ≤ yearOfCycle ∧ yearOfCycle ≤ 3 := by omega
  have eras : (era * 400 + century * 100 + cycle * 4 + yearOfCycle) / 400 = era := by omega
  have years : (era * 400 + century * 100 + cycle * 4 + yearOfCycle) % 400 =
      century * 100 + cycle * 4 + yearOfCycle := by omega
  rw [eras, years]
  omega

/-- Days of a month are counted one by one. -/
theorem daysFromCivil_day (year month day : Int) :
    daysFromCivil year month day = daysFromCivil year month 1 + day - 1 := by
  unfold daysFromCivil
  dsimp only
  omega

/-! ## Writing -/

/-- `getUTCFullYear()`, `getUTCMonth() + 1`, `getUTCDate()`, `getUTCHours()`, `getUTCMinutes()`,
`getUTCSeconds()` and `getUTCMilliseconds()`. -/
def utcFields (time : Int) : DateFields :=
  let date := civilFromDays (time / 86400000)
  let inDay := time % 86400000
  { year := date.year
    month := date.month.toNat
    day := date.day.toNat
    hours := (inDay / 3600000).toNat
    minutes := (inDay / 60000 % 60).toNat
    seconds := (inDay / 1000 % 60).toNat
    milliseconds := (inDay % 1000).toNat }

/-- The minutes by which `writeDate` moves a date, without them for `NaN`. -/
def writtenOffset (timezone : JsString) : Option Int := do
  let text := timezone.map fun unit => Char.ofNat unit.toNat
  let hours ← Script.parseInt ((text.drop 1).take 2)
  let minutes ← Script.parseInt (text.drop 4)
  return (if timezone.head? = some 45 then -1 else 1) * (hours * 60 + minutes)

/-- The fields that `writeDate(d, timezone)` writes, without them for a date that the time zone
makes invalid.  Those of the time zone of the process are given. -/
def writtenFields (localFields : Int → DateFields) (time : Int) (timezone : Option JsString) :
    Option DateFields :=
  if isLocal timezone then some (localFields time)
  else if isUTC timezone then some (utcFields time)
  else
    match writtenOffset (timezone.getD []) with
    | none => none
    | some offset =>
        if offset ≠ 0 then (timeClip (time + 60000 * offset)).map utcFields
        else some (utcFields time)

theorem valid_utcFields (time : Int) : (utcFields time).Valid := by
  have date := civilFromDays_ranges (time / 86400000)
  constructor
  all_goals
    dsimp only [utcFields]
    omega

theorem day_utcFields (time : Int) : 1 ≤ (utcFields time).day := by
  have date := civilFromDays_ranges (time / 86400000)
  dsimp only [utcFields]
  omega

/-- The wall time of the fields of a time value. -/
def utcWall (time : Int) : WallTime :=
  let fields := utcFields time
  { year := fields.year
    month := fields.month
    day := fields.day
    hours := fields.hours
    minutes := fields.minutes
    seconds := fields.seconds
    millis := fields.milliseconds }

theorem WallTime.dayNumber_of_month {wall : WallTime} (range : 1 ≤ wall.month ∧ wall.month ≤ 12) :
    wall.dayNumber = daysFromCivil wall.year wall.month wall.day := by
  have sameYear : wall.year + (wall.month - 1) / 12 = wall.year := by omega
  have sameMonth : (wall.month - 1) % 12 + 1 = wall.month := by omega
  rw [dayNumber, sameYear, sameMonth, ← daysFromCivil_day]

theorem dayNumber_utcWall (time : Int) : (utcWall time).dayNumber = time / 86400000 := by
  have ranges := civilFromDays_ranges (time / 86400000)
  have month : (utcWall time).month = (civilFromDays (time / 86400000)).month :=
    Int.toNat_of_nonneg (by omega)
  have day : (utcWall time).day = (civilFromDays (time / 86400000)).day :=
    Int.toNat_of_nonneg (by omega)
  rw [WallTime.dayNumber_of_month (by rw [month]; omega), month, day]
  exact daysFromCivil_civilFromDays _

theorem timeInDay_utcWall (time : Int) : (utcWall time).timeInDay = time % 86400000 := by
  simp only [WallTime.timeInDay, utcWall, utcFields]
  omega

/-- The fields of a time value give it back. -/
theorem value_utcWall (time : Int) : (utcWall time).value = time := by
  rw [WallTime.value, dayNumber_utcWall, timeInDay_utcWall]
  omega

namespace FixedZone

/-- What clocks of a time zone show, as a time value. -/
def wallTime (zone : FixedZone) (time : Int) : Int :=
  time + zone.minutes * 60000

theorem parseInt_padded_two {n : Nat} (fits : n < 100) :
    Script.parseInt (padded 2 n) = some (n : Int) := by
  have length : (padded 2 n).length = 2 := length_padded (by decide) fits
  have nonempty : padded 2 n ≠ [] := by
    intro none
    rw [none] at length
    cases length
  rw [parseInt_digits nonempty (fun _ => isDigit_of_mem_padded), ofDigitChars_padded,
    round_natCast_of_lt (by omega)]

/-- The characters of a time zone, from its code units. -/
theorem map_text (zone : FixedZone) :
    (zone.text.map fun unit => Char.ofNat unit.toNat) = zone.chars := by
  rw [text_eq, List.map_map]
  calc zone.chars.map ((fun unit => Char.ofNat unit.toNat) ∘ charUnit)
      = zone.chars.map id := by
        apply List.map_congr_left
        intro char member
        show Char.ofNat (charUnit char).toNat = char
        rw [toNat_charUnit (zone.isAscii_chars char member), Char.ofNat_toNat]
    _ = zone.chars := List.map_id _

theorem writtenOffset_text (negative : Bool) {hours minutes : Nat} (hours_lt : hours < 24)
    (minutes_lt : minutes < 60) :
    writtenOffset (offset negative hours minutes hours_lt minutes_lt).text =
      some (offset negative hours minutes hours_lt minutes_lt).minutes := by
  have hoursLength : (padded 2 hours).length = 2 := length_padded (by decide) (by omega)
  have hoursText : (padded 2 hours ++ ':' :: padded 2 minutes).take 2 = padded 2 hours :=
    List.take_left' hoursLength
  have minutesText : (padded 2 hours ++ ':' :: padded 2 minutes).drop 3 = padded 2 minutes := by
    rw [List.append_cons]
    apply List.drop_left'
    rw [List.length_append, hoursLength]
    rfl
  have sign : (offset negative hours minutes hours_lt minutes_lt).text.head? = some 45 ↔
      negative = true := by
    rw [text_eq, chars]
    cases negative
    · simp only [List.map_cons, List.head?_cons]
      decide
    · simp only [List.map_cons, List.head?_cons]
      decide
  have hoursNumber := parseInt_padded_two (show hours < 100 by omega)
  have minutesNumber := parseInt_padded_two (show minutes < 100 by omega)
  rw [writtenOffset, map_text]
  simp only [chars, List.drop_succ_cons, List.drop_zero, hoursText, minutesText, hoursNumber,
    minutesNumber, sign]
  rfl

end FixedZone

/-- Fields of a year of four digits, as a server stores them. -/
def storedFields (fields : DateFields) (valid : fields.Valid)
    (year : 0 ≤ fields.year ∧ fields.year ≤ 9999) : Temporal (.dateTime 6) where
  year := fields.year.toNat
  month := fields.month
  day := fields.day
  hours := fields.hours
  minutes := fields.minutes
  seconds := fields.seconds
  micros := fields.milliseconds * 1000
  year_lt := by omega
  month_le := valid.month.2
  day_le := valid.day
  hours_lt := valid.hours
  minutes_lt := valid.minutes
  seconds_lt := valid.seconds
  micros_lt := by
    have milliseconds := valid.milliseconds
    omega
  decimals_le := Nat.le_refl 6
  rounded := Nat.mod_one _
  midnight isDate := nomatch isDate

/-- The fields of a time value are put together again. -/
theorem value_storedFields (time : Int)
    (year : 0 ≤ (utcFields time).year ∧ (utcFields time).year ≤ 9999) :
    (storedFields (utcFields time) (valid_utcFields time) year).wall.value = time := by
  have yearEq : ((utcFields time).year.toNat : Int) = (utcFields time).year :=
    Int.toNat_of_nonneg year.1
  have millisEq : (utcFields time).milliseconds * 1000 / 1000 = (utcFields time).milliseconds :=
    Nat.mul_div_cancel _ (by decide)
  have wallEq : (storedFields (utcFields time) (valid_utcFields time) year).wall =
      utcWall time := by
    simp only [Temporal.wall, storedFields, utcWall, yearEq, millisEq]
  rw [wallEq, value_utcWall]

/-! ## Reading -/

theorem writeDate_eq_ok {fields : DateFields} (year : 0 ≤ fields.year ∧ fields.year ≤ 9999) :
    writeDate (some fields) = .ok (11 :: dateBytes fields) := by
  rw [writeDate, if_neg (by omega)]
  simp [dateBytes]

section Reading

variable {fields : DateFields} (valid : fields.Valid)
  (year : 0 ≤ fields.year ∧ fields.year ≤ 9999) {packet : Packet} {rest : Bytes}

/-- The parts of the text of a date and a time. -/
theorem ofList_storedFields : String.ofList ((storedFields fields valid year).dateTimeChars 'T'
    ((storedFields fields valid year).fraction 6)) =
      leftPad 4 (toString fields.year.toNat) ++ "-" ++ leftPad 2 (toString fields.month) ++ "-" ++
        leftPad 2 (toString fields.day) ++ "T" ++ leftPad 2 (toString fields.hours) ++ ":" ++
        leftPad 2 (toString fields.minutes) ++ ":" ++ leftPad 2 (toString fields.seconds) ++ "." ++
        String.ofList (padded 6 (fields.milliseconds * 1000)) := by
  have microsLt : fields.milliseconds * 1000 < 10 ^ 6 := by
    have milliseconds := valid.milliseconds
    omega
  have length : (padded 6 (fields.milliseconds * 1000)).length = 6 :=
    length_padded (by decide) microsLt
  have fractionEq : (storedFields fields valid year).fraction 6 =
      '.' :: padded 6 (fields.milliseconds * 1000) := by
    rw [Temporal.fraction, if_neg (by decide)]
    exact congrArg _ (List.take_of_length_le (Nat.le_of_eq length))
  rw [fractionEq]
  simp only [leftPad_toString]
  apply String.toList_injective
  simp [Temporal.dateTimeChars, Temporal.dateChars, Temporal.timeChars, storedFields]

/-- The text that `readDateTimeString` makes of fields, with all of its parts. -/
theorem readDateTimeString_dateBytes_run
    (aheadEq : packet.ahead = 11 :: dateBytes fields ++ rest) :
    (readDateTimeString 6 "T" none).run packet =
      .ok (String.ofList ((storedFields fields valid year).dateTimeChars 'T'
        ((storedFields fields valid year).fraction 6)), packet.advance 12) := by
  have bytes : fields.month < 256 ∧ fields.day < 256 ∧ fields.hours < 256 ∧ fields.minutes < 256 ∧
      fields.seconds < 256 := by
    obtain ⟨⟨-, month⟩, day, hours, minutes, seconds, -⟩ := valid
    omega
  have microsLt : fields.milliseconds * 1000 < 10 ^ 6 := by
    have milliseconds := valid.milliseconds
    omega
  have microsRun := readInt32_run (ahead_dateFields aheadEq) (length_writeUIntLE _ 4)
  have microsEq : uintLE (writeUIntLE (fields.milliseconds * 1000) 4) = fields.milliseconds * 1000 :=
    uintLE_writeUIntLE_of_lt (by omega)
  have length : (padded 6 (fields.milliseconds * 1000)).length = 6 :=
    length_padded (by decide) microsLt
  rw [readDateTimeString, run_bind_of_ok (readDateTimeFields_run (by omega) bytes aheadEq)]
  dsimp only
  rw [if_pos (by decide), Temporal.byteText_bind, Temporal.byteText_bind, if_pos (by decide),
    Temporal.byteText_bind, Temporal.byteText_bind, Temporal.byteText_bind, if_pos (by decide),
    run_bind_of_ok microsRun, microsEq, if_neg (by decide), leftPad_toString 6,
    String.toList_ofList, List.take_of_length_le (by omega), advance_advance,
    ← ofList_storedFields valid year]
  rfl

/-- The year of a stored date is written as it is, so the text is no zero date. -/
theorem readDateTime_offset_run (runtime : Runtime α) {zone : FixedZone}
    (notUTC : isUTC (some zone.text) = false) (day : 1 ≤ fields.day)
    (aheadEq : packet.ahead = 11 :: dateBytes fields ++ rest) :
    (readDateTime runtime (some zone.text)).run packet =
      .ok (.date (runtime.dateParse ((storedFields fields valid year).parsedText 'T' 6 zone)),
        packet.advance 12) := by
  have stringRun := readDateTimeString_dateBytes_run valid year aheadEq
  have indirect : ¬(isLocal (some zone.text) = true ∨ isUTC (some zone.text) = true) := by
    rw [zone.not_local, notUTC]
    decide
  have isZero := (storedFields fields valid year).isPrefixOf_dateChars
    ('T' :: (storedFields fields valid year).timeChars ++ (storedFields fields valid year).fraction 6)
  have notZero : ¬ (storedFields fields valid year).day = 0 := Nat.ne_of_gt day
  have parsed : withTimezone (String.ofList ((storedFields fields valid year).dateTimeChars 'T'
      ((storedFields fields valid year).fraction 6))) (some zone.text) =
        (storedFields fields valid year).parsedText 'T' 6 zone :=
    Temporal.withTimezone_chars ((storedFields fields valid year).isAscii_parsed 6) zone
  have long : (String.ofList ((storedFields fields valid year).dateTimeChars 'T'
      ((storedFields fields valid year).fraction 6))).length ≠ 10 := by
    rw [String.length_ofList, Temporal.dateTimeChars, List.length_append,
      Temporal.length_wholeDateTime]
    omega
  have written : (String.ofList ((storedFields fields valid year).dateTimeChars 'T'
      ((storedFields fields valid year).fraction 6))).toList =
        (storedFields fields valid year).dateChars ++ ('T' ::
          (storedFields fields valid year).timeChars ++
            (storedFields fields valid year).fraction 6) := by
    rw [String.toList_ofList, Temporal.dateTimeChars, List.append_assoc]
  rw [readDateTime, if_neg indirect, run_bind_of_ok stringRun, written,
    if_neg (fun zero => notZero (isZero.mp zero).2.2), if_neg long, parsed]
  rfl

end Reading

/-- With `Z`, years of two digits become years of the last century. -/
theorem readDateTime_utc_eq_iff {runtime : Runtime α} (reads : ReadsDates runtime) {time : Int}
    (year : 0 ≤ (utcFields time).year ∧ (utcFields time).year ≤ 9999) {packet : Packet}
    {rest : Bytes} (aheadEq : packet.ahead = 11 :: dateBytes (utcFields time) ++ rest) :
    ∃ read, (readDateTime runtime (some (units "Z"))).run packet =
        .ok (.date read, packet.advance 12) ∧
      (read = some time ↔ 100 ≤ (utcFields time).year) := by
  have valid := valid_utcFields time
  have utc : isUTC (some (units "Z")) = true := by decide
  have run := readDateTime_arguments_run runtime (.inr utc) valid (by omega) aheadEq
  have valueEq := value_storedFields time year
  rw [if_pos utc, reads.utcTime] at run
  have argumentsEq : (utcFields time).arguments =
      (storedFields (utcFields time) valid year).arguments ((utcFields time).milliseconds * 1000) := by
    dsimp only [DateFields.arguments, Temporal.arguments, storedFields]
    rw [Int.toNat_of_nonneg year.1]
  have timeEq : dateUTC ((storedFields (utcFields time) valid year).arguments
      ((utcFields time).milliseconds * 1000)) =
        some (storedFields (utcFields time) valid year).wall.inLastCentury.value :=
    ((storedFields (utcFields time) valid year).dateUTC_arguments rfl).trans
      (Temporal.timeClip_inLastCentury _)
  rw [argumentsEq, timeEq] at run
  have storedYear : (storedFields (utcFields time) valid year).year = (utcFields time).year.toNat :=
    rfl
  refine ⟨_, run, ?_⟩
  constructor
  · intro same
    by_contra old
    have lastCentury := (storedFields (utcFields time) valid year).year_inLastCentury
    rw [if_pos (by omega)] at lastCentury
    have before := Temporal.proper_wall (storedFields (utcFields time) valid year) |>.value_lt
      (Temporal.proper_inLastCentury _) (by
        rw [lastCentury]
        dsimp only [Temporal.wall]
        omega)
    have sameValue := Option.some.inj same
    omega
  · intro recent
    rw [Temporal.inLastCentury_of_recent _ (by omega), valueEq]

/-- What clocks show, moved back by the offset of the time zone. -/
theorem readDateTime_offset_eq {runtime : Runtime α} (reads : ReadsDates runtime) {time : Int}
    {zone : FixedZone} (notUTC : isUTC (some zone.text) = false)
    (year : 0 ≤ (utcFields (zone.wallTime time)).year ∧
      (utcFields (zone.wallTime time)).year ≤ 9999) {packet : Packet} {rest : Bytes}
    (aheadEq : packet.ahead = 11 :: dateBytes (utcFields (zone.wallTime time)) ++ rest) :
    (readDateTime runtime (some zone.text)).run packet =
      .ok (.date (some time), packet.advance 12) := by
  have valid := valid_utcFields (zone.wallTime time)
  have day := day_utcFields (zone.wallTime time)
  have rounded : (storedFields _ valid year).Rounded 6 := ⟨Nat.le_refl 6, Nat.mod_one _⟩
  have valueEq := value_storedFields _ year
  have letter : charUnit 'T' = 84 := by decide
  have exists_ : ¬((storedFields _ valid year).month = 0 ∨ (storedFields _ valid year).day = 0) := by
    have month := valid.month.1
    dsimp only [storedFields]
    omega
  have back : zone.wallTime time - zone.minutes * 60000 = time := by
    rw [FixedZone.wallTime]
    omega
  rw [readDateTime_offset_run valid year runtime notUTC day aheadEq,
    reads.dateParse _ zone (.inl rfl) rounded, Temporal.dateParse_parsedText _ _ zone rounded,
    if_pos letter, Temporal.timeAt_wall, if_neg exists_, valueEq, back]

/-- The fields that are written are those that clocks of the time zone show. -/
theorem writtenFields_eq (localFields : Int → DateFields) {time : Int} (zone : FixedZone)
    (year : 0 ≤ (utcFields (zone.wallTime time)).year ∧
      (utcFields (zone.wallTime time)).year ≤ 9999) :
    writtenFields localFields time (some zone.text) = some (utcFields (zone.wallTime time)) := by
  rw [writtenFields, if_neg (by rw [zone.not_local]; decide)]
  cases zone with
  | utc =>
      have utc : isUTC (some FixedZone.utc.text) = true := by decide
      have same : FixedZone.utc.wallTime time = time := by
        rw [FixedZone.wallTime, FixedZone.minutes]
        omega
      rw [if_pos utc, same]
  | offset negative hours minutes hours_lt minutes_lt =>
      have moved : (FixedZone.offset negative hours minutes hours_lt minutes_lt).wallTime time =
          time + 60000 * (FixedZone.offset negative hours minutes hours_lt minutes_lt).minutes := by
        rw [FixedZone.wallTime]
        omega
      have clipped := (storedFields _ (valid_utcFields _) year).timeClip_wall .utc
      rw [value_storedFields, FixedZone.minutes, Int.zero_mul, Int.sub_zero, moved] at clipped
      rw [if_neg (by rw [FixedZone.isUTC_offset]; decide), Option.getD_some,
        FixedZone.writtenOffset_text, moved]
      dsimp only
      split
      case isTrue => rw [clipped, Option.map_some]
      case isFalse same =>
        rw [not_not.mp same, Int.mul_zero, Int.add_zero]

/-! ## Both ways -/

/-- A date whose year in the time zone has at most four digits is written in twelve bytes.  They
are read as the same date, unless the year has at most two digits and the time zone is `Z`. -/
theorem readDateTime_writeDate_iff {runtime : Runtime α} (reads : ReadsDates runtime)
    (localFields : Int → DateFields) {time : Int} {zone : FixedZone}
    (year : 0 ≤ (utcFields (zone.wallTime time)).year ∧
      (utcFields (zone.wallTime time)).year ≤ 9999) :
    ∃ bytes, writeDate (writtenFields localFields time (some zone.text)) = .ok bytes ∧
      bytes.length = 12 ∧
      ∀ (packet : Packet) (rest : Bytes), packet.ahead = bytes ++ rest →
        ∃ read, (readDateTime runtime (some zone.text)).run packet =
            .ok (.date read, packet.advance 12) ∧
          (read = some time ↔ zone ≠ .utc ∨ 100 ≤ (utcFields (zone.wallTime time)).year) := by
  refine ⟨11 :: dateBytes (utcFields (zone.wallTime time)), ?_, ?_, ?_⟩
  · rw [writtenFields_eq localFields zone year, writeDate_eq_ok year]
  · rw [List.length_cons, length_dateBytes]
  · intro packet rest aheadEq
    cases zone with
    | utc =>
        have same : FixedZone.utc.wallTime time = time := by
          rw [FixedZone.wallTime, FixedZone.minutes]
          omega
        rw [same] at year aheadEq ⊢
        obtain ⟨read, run, readIff⟩ := readDateTime_utc_eq_iff reads year aheadEq
        exact ⟨read, run, readIff.trans (or_iff_right (not_not.mpr rfl)).symm⟩
    | offset negative hours minutes hours_lt minutes_lt =>
        have notUTC := FixedZone.isUTC_offset negative hours_lt minutes_lt
        exact ⟨_, readDateTime_offset_eq reads notUTC year aheadEq,
          iff_of_true rfl (.inl FixedZone.noConfusion)⟩

/-- A date of 1999 at an offset that moves it to the year 2000. -/
theorem readDateTime_writeDate_iff_newYear :
    ∃ bytes, writeDate (writtenFields utcFields 946681200000
        (some (FixedZone.offset false 5 30 (by decide) (by decide)).text)) = .ok bytes ∧
      bytes.length = 12 ∧
      ∀ (packet : Packet) (rest : Bytes), packet.ahead = bytes ++ rest →
        ∃ read, (readDateTime dateRuntime
            (some (FixedZone.offset false 5 30 (by decide) (by decide)).text)).run packet =
            .ok (.date read, packet.advance 12) ∧
          (read = some 946681200000 ↔
            FixedZone.offset false 5 30 (by decide) (by decide) ≠ .utc ∨ 100 ≤ (utcFields
              ((FixedZone.offset false 5 30 (by decide) (by decide)).wallTime 946681200000)).year) :=
  readDateTime_writeDate_iff readsDates_dateRuntime utcFields (by decide)

/-- The first of January of the year 50 is read as one of the year 1950. -/
theorem year50_differs :
    ¬ ∀ (time : Int) (zone : FixedZone), 0 ≤ (utcFields (zone.wallTime time)).year ∧
      (utcFields (zone.wallTime time)).year ≤ 9999 →
        ∃ bytes, writeDate (writtenFields utcFields time (some zone.text)) = .ok bytes ∧
          ∃ after, (readDateTime dateRuntime (some zone.text)).run (packetOf bytes) =
            .ok (.date (some time), after) := by
  intro roundTrip
  have year : 0 ≤ (utcFields (FixedZone.utc.wallTime (-60589296000000))).year ∧
      (utcFields (FixedZone.utc.wallTime (-60589296000000))).year ≤ 9999 := by decide
  have same : FixedZone.utc.wallTime (-60589296000000) = -60589296000000 := by decide
  obtain ⟨bytes, written, after, run⟩ := roundTrip (-60589296000000) .utc year
  rw [writtenFields_eq utcFields .utc year] at written
  rw [same] at year written
  rw [writeDate_eq_ok year] at written
  cases written
  have aheadEq : (packetOf (11 :: dateBytes (utcFields (-60589296000000)))).ahead =
      11 :: dateBytes (utcFields (-60589296000000)) ++ [] := by
    rw [ahead_packetOf, List.append_nil]
  obtain ⟨read, otherRun, readIff⟩ := readDateTime_utc_eq_iff readsDates_dateRuntime year aheadEq
  cases run.symm.trans otherRun
  exact absurd (readIff.mp rfl) (by decide)

end Mysql2.Parsers

import Mysql2.Parsers.DateReaders
import Mysql2.Parsers.DateStrings

/-!
# Dates as values

The dates that the text protocol and the binary protocol make of the same value of a server,
for `Z` or an offset as the time zone.  They part on zero dates and on years below 100, which
the two protocols hand to different functions of the language.
-/

namespace Mysql2.Parsers

open Mysql2.Packets Mysql2.Packets.Packet Mysql2.Script

variable {α : Type}

/-- The language's dates, on what the readers ask of them. -/
structure ReadsDates (runtime : Runtime α) : Prop where
  utcTime : ∀ arguments, runtime.utcTime arguments = dateUTC arguments
  dateParse : ∀ {column : TemporalColumn} (value : Temporal column) {separator : Char} {count : Nat}
    (zone : FixedZone), separator = 'T' ∨ separator = ' ' → value.Rounded count →
      runtime.dateParse (value.parsedText separator count zone) =
        Parsers.dateParse (value.parsedText separator count zone)

namespace Temporal

variable {column : TemporalColumn} {value : Temporal column} {runtime : Runtime α}

theorem proper_wall (value : Temporal column) : value.wall.Proper := by
  have month_le := value.month_le
  have day_le := value.day_le
  have hours_lt := value.hours_lt
  have minutes_lt := value.minutes_lt
  have seconds_lt := value.seconds_lt
  have micros_lt := value.micros_lt
  constructor
  all_goals
    dsimp only [wall]
    omega

/-- The times of `Date.UTC` for a date and a time. -/
theorem dateUTC_arguments (value : Temporal column) {micros : Nat}
    (millis : micros / 1000 = value.micros / 1000) :
    dateUTC (value.arguments micros) = timeClip value.wall.inLastCentury.value := by
  have millisEq : (micros : Int) / 1000 = ((value.micros / 1000 : Nat) : Int) := by omega
  show timeClip (WallTime.inLastCentury ⟨_, _, _, _, _, _, (micros : Int) / 1000⟩).value = _
  rw [millisEq]
  rfl

/-- The text that is written has the time value of its wall time. -/
theorem writtenDate_eq (reads : ReadsDates runtime) (value : Temporal column) (zone : FixedZone) :
    value.writtenDate runtime zone = value.wall.timeAt zone.minutes := by
  have rounded : value.Rounded value.writtenDigits := by
    rw [writtenDigits]
    split
    case isTrue zero =>
      rw [Rounded, zero]
      decide
    case isFalse => exact ⟨Nat.le_refl 6, Nat.mod_one _⟩
  have letter : charUnit 'T' = 84 := by decide
  have parsed : runtime.dateParse (value.parsedText 'T' value.writtenDigits zone) =
      value.wall.timeAt zone.minutes := by
    rw [reads.dateParse value zone (.inl rfl) rounded, value.dateParse_parsedText _ zone rounded,
      if_pos letter]
  rw [writtenDate, parsed]
  split
  case isTrue zero =>
    have missing : ¬ value.wall.Exists := by
      rintro ⟨month, -⟩
      have zeroMonth : value.wall.month = 0 := by
        rw [wall, zero.2.1]
        rfl
      omega
    rw [WallTime.timeAt, if_neg missing]
  case isFalse => rfl

theorem year_inCentury {wall : WallTime} (range : 0 ≤ wall.year ∧ wall.year ≤ 99) :
    wall.inCentury.year = if wall.year ≤ 49 then 2000 + wall.year else 1900 + wall.year := by
  rw [WallTime.inCentury]
  by_cases early : wall.year ≤ 49
  · rw [if_pos ⟨range.1, early⟩, if_pos early]
  · rw [if_neg (fun both => early both.2), if_pos (by omega), if_neg early]

/-- A text without a `T` and with a year of two digits, which may be its day, is one of the
years from 1950 to 2049. -/
theorem year_reordered (value : Temporal column) (old : value.year < 100) :
    1950 ≤ value.wall.reordered.inCentury.year ∧ value.wall.reordered.inCentury.year < 2050 ∧
      (value.year < 50 → 2000 ≤ value.wall.reordered.inCentury.year) := by
  have day_le := value.day_le
  have yearEq : value.wall.reordered.year =
      if 1 ≤ (value.year : Int) ∧ (value.year : Int) ≤ 31 then (value.day : Int)
      else value.year := by
    rw [WallTime.reordered]
    split
    case isTrue early => exact (if_pos early).symm
    case isFalse late => exact (if_neg late).symm
  have range : 0 ≤ value.wall.reordered.year ∧ value.wall.reordered.year ≤ 99 := by
    rw [yearEq]
    split
    · omega
    · omega
  rw [year_inCentury range, yearEq]
  split
  · split
    · omega
    · omega
  · split
    · omega
    · omega

/-- The time of the day is left as it is, and month and day are some month and day. -/
theorem proper_reordered (value : Temporal column)
    (dayExists : value.wall.reordered.inCentury.Exists) : value.wall.reordered.inCentury.Proper := by
  obtain ⟨month, month_le, day, day_le⟩ := dayExists
  have proper := value.proper_wall
  have same : ∀ wall : WallTime, wall.reordered.inCentury.hours = wall.hours ∧
      wall.reordered.inCentury.minutes = wall.minutes ∧
      wall.reordered.inCentury.seconds = wall.seconds ∧
      wall.reordered.inCentury.millis = wall.millis := by
    intro wall
    unfold WallTime.inCentury WallTime.reordered
    repeat' split
    all_goals exact ⟨rfl, rfl, rfl, rfl⟩
  obtain ⟨hours, minutes, seconds, millis⟩ := same value.wall
  constructor
  case month => omega
  case day => omega
  case hours => rw [hours]; exact proper.hours
  case minutes => rw [minutes]; exact proper.minutes
  case seconds => rw [seconds]; exact proper.seconds
  case millis => rw [millis]; exact proper.millis

/-- A text without a `T` has no time value, or one of those years. -/
theorem timeAt_reordered (value : Temporal column) {offset : Int} {time : Int}
    (timeEq : value.wall.reordered.inCentury.timeAt offset = some time) :
    value.wall.reordered.inCentury.Proper ∧
      time = value.wall.reordered.inCentury.value - offset * 60000 := by
  rw [WallTime.timeAt] at timeEq
  split at timeEq
  case isTrue dayExists =>
    rw [timeClip] at timeEq
    split at timeEq
    case isTrue => exact ⟨value.proper_reordered dayExists, (Option.some.inj timeEq).symm⟩
    case isFalse => cases timeEq
  case isFalse => cases timeEq

theorem proper_inLastCentury (value : Temporal column) : value.wall.inLastCentury.Proper := by
  have proper := value.proper_wall
  rw [WallTime.inLastCentury]
  split
  · exact { proper with }
  · exact proper

theorem year_inLastCentury (value : Temporal column) : value.wall.inLastCentury.year =
    if value.year < 100 then 1900 + (value.year : Int) else value.year := by
  rw [WallTime.inLastCentury]
  by_cases old : value.year < 100
  · have twoDigits : 0 ≤ value.wall.year ∧ value.wall.year ≤ 99 := by
      dsimp only [wall]
      omega
    rw [if_pos twoDigits, if_pos old]
    rfl
  · have moreDigits : ¬(0 ≤ value.wall.year ∧ value.wall.year ≤ 99) := by
      dsimp only [wall]
      omega
    rw [if_neg moreDigits, if_neg old]
    rfl

/-- Every value has a time value in UTC. -/
theorem timeClip_inLastCentury (value : Temporal column) :
    timeClip value.wall.inLastCentury.value = some value.wall.inLastCentury.value := by
  have year_lt := value.year_lt
  have range : 0 ≤ value.wall.inLastCentury.year ∧ value.wall.inLastCentury.year < 10000 := by
    rw [year_inLastCentury]
    split
    · omega
    · omega
  have noOffset : value.wall.inLastCentury.value - 0 * 60000 = value.wall.inLastCentury.value := by
    omega
  have near : (0 : Int).natAbs < 1440 := by decide
  have clipped := value.proper_inLastCentury.timeClip_value range near
  rw [noOffset] at clipped
  exact clipped

/-- Every value has a time value at every offset. -/
theorem timeClip_wall (value : Temporal column) (zone : FixedZone) :
    timeClip (value.wall.value - zone.minutes * 60000) =
      some (value.wall.value - zone.minutes * 60000) := by
  have year_lt := value.year_lt
  have range : 0 ≤ value.wall.year ∧ value.wall.year < 10000 := by
    dsimp only [wall]
    omega
  exact value.proper_wall.timeClip_value range zone.natAbs_minutes_lt

/-- A date-time string needs a day of some month. -/
theorem timeAt_wall (value : Temporal column) (zone : FixedZone) :
    value.wall.timeAt zone.minutes =
      if value.month = 0 ∨ value.day = 0 then none
      else some (value.wall.value - zone.minutes * 60000) := by
  have month_le := value.month_le
  have day_le := value.day_le
  have existsIff : value.wall.Exists ↔ ¬(value.month = 0 ∨ value.day = 0) := by
    dsimp only [WallTime.Exists, wall]
    omega
  rw [WallTime.timeAt, value.timeClip_wall zone]
  simp only [existsIff, ite_not]

/-- The values of which both protocols make the same date. -/
def ReadAlike (value : Temporal column) (zone : FixedZone) : Prop :=
  match zone with
  | .utc =>
      if column = .date then ¬(value.year = 0 ∧ value.month = 0 ∧ value.day = 0)
      else value.Zero ∨ value.month ≠ 0 ∧ value.day ≠ 0 ∧ 50 ≤ value.year
  | .offset .. => column = .date ∨ value.month = 0 ∨ value.day = 0 ∨ 100 ≤ value.year

theorem textDate_eq_iff_of_date (reads : ReadsDates runtime) (value : Temporal column)
    (zone : FixedZone) (isDate : column = .date) :
    value.textDate runtime zone = value.binaryDate runtime zone ↔ value.ReadAlike zone := by
  obtain ⟨hours, minutes, seconds⟩ := value.midnight isDate
  have zeroMicros : value.micros = 0 := by
    apply value.micros_eq_zero_of_whole
    rw [isDate]
    rfl
  cases zone with
  | utc =>
      have textEq : value.textDate runtime .utc = some value.wall.inLastCentury.value := by
        have utcEq : value.textDate runtime .utc = runtime.utcTime (value.arguments 0) :=
          if_pos isDate
        rw [utcEq, reads.utcTime, value.dateUTC_arguments (by omega), value.timeClip_inLastCentury]
      have alike : value.ReadAlike .utc ↔ ¬(value.year = 0 ∧ value.month = 0 ∧ value.day = 0) := by
        rw [ReadAlike, if_pos isDate]
      have zeroIff : value.Zero ↔ value.year = 0 ∧ value.month = 0 ∧ value.day = 0 := by
        rw [Zero]
        omega
      rw [alike, ← zeroIff, textEq, binaryDate]
      by_cases zero : value.Zero
      · rw [if_pos zero]
        simp [zero]
      · rw [if_neg zero, reads.utcTime, value.dateUTC_arguments rfl, value.timeClip_inLastCentury]
        simp [zero]
  | offset negative zoneHours zoneMinutes hours_lt minutes_lt =>
      have whole : value.writtenDigits = 0 := if_pos zeroMicros
      have letter : charUnit 'T' = 84 := by decide
      have rounded : value.Rounded 0 := by
        rw [Rounded, zeroMicros]
        decide
      have textEq : value.textDate runtime
          (.offset negative zoneHours zoneMinutes hours_lt minutes_lt) = value.wall.timeAt
            (FixedZone.offset negative zoneHours zoneMinutes hours_lt minutes_lt).minutes := by
        have parsedEq : value.textDate runtime
            (.offset negative zoneHours zoneMinutes hours_lt minutes_lt) =
              runtime.dateParse (value.parsedText 'T' 0
                (.offset negative zoneHours zoneMinutes hours_lt minutes_lt)) := if_pos isDate
        rw [parsedEq, reads.dateParse value _ (.inl rfl) rounded,
          value.dateParse_parsedText _ _ rounded, if_pos letter]
      rw [textEq, binaryDate, writtenDate_eq reads]
      exact ⟨fun _ => .inl isDate, fun _ => rfl⟩

/-- Years of more than two digits are themselves. -/
theorem inLastCentury_of_recent (value : Temporal column) (recent : 100 ≤ value.year) :
    value.wall.inLastCentury = value.wall := by
  have moreDigits : ¬(0 ≤ value.wall.year ∧ value.wall.year ≤ 99) := by
    dsimp only [wall]
    omega
  exact if_neg moreDigits

/-- Later years of two digits are of the last century in every text. -/
theorem inCentury_of_late (value : Temporal column) (late : 50 ≤ value.year)
    (old : value.year < 100) :
    value.wall.reordered.inCentury = value.wall.inLastCentury := by
  have twoDigits : 0 ≤ value.wall.year ∧ value.wall.year ≤ 99 := by
    dsimp only [wall]
    omega
  have inOrder : value.wall.reordered = value.wall := by
    apply if_neg
    dsimp only [wall]
    omega
  have notEarly : ¬(0 ≤ value.wall.year ∧ value.wall.year ≤ 49) := by
    dsimp only [wall]
    omega
  rw [inOrder, WallTime.inCentury, WallTime.inLastCentury, if_neg notEarly, if_pos twoDigits,
    if_pos (by dsimp only [wall]; omega)]

/-- The text of a day of some month, read by the rules for years of two digits. -/
theorem parsedDateTime_of_old (reads : ReadsDates runtime) (value : Temporal column)
    (zone : FixedZone) (present : ¬(value.month = 0 ∨ value.day = 0)) (old : value.year < 100) :
    value.parsedDateTime runtime zone = value.wall.reordered.inCentury.timeAt zone.minutes := by
  have letter : charUnit ' ' ≠ 84 := by decide
  unfold parsedDateTime
  rw [if_neg present, if_pos old, reads.dateParse value zone (.inr rfl) value.rounded_decimals,
    value.dateParse_parsedText _ zone value.rounded_decimals, if_neg letter]

/-- The text of a day of some month in another year. -/
theorem parsedDateTime_of_recent (reads : ReadsDates runtime) (value : Temporal column)
    (zone : FixedZone) (present : ¬(value.month = 0 ∨ value.day = 0)) (recent : 100 ≤ value.year) :
    value.parsedDateTime runtime zone = some (value.wall.value - zone.minutes * 60000) := by
  have millis : value.micros / 1000 * 1000 / 1000 = value.micros / 1000 := by omega
  have utcEq : runtime.utcTime (value.arguments (value.micros / 1000 * 1000)) =
      some value.wall.value := by
    rw [reads.utcTime, value.dateUTC_arguments millis, value.timeClip_inLastCentury,
      value.inLastCentury_of_recent recent]
  unfold parsedDateTime
  rw [if_neg present, if_neg (by omega)]
  dsimp only
  rw [utcEq]
  cases zone with
  | utc =>
      show some value.wall.value = some (value.wall.value - 0 * 60000)
      rw [Int.zero_mul, Int.sub_zero]
  | offset => exact value.timeClip_wall _

/-- A day of some month in the last century. -/
theorem timeAt_inLastCentury (value : Temporal column)
    (present : ¬(value.month = 0 ∨ value.day = 0)) :
    value.wall.inLastCentury.timeAt FixedZone.utc.minutes =
      some value.wall.inLastCentury.value := by
  have month_le := value.month_le
  have day_le := value.day_le
  have dayExists : value.wall.inLastCentury.Exists := by
    rw [WallTime.inLastCentury]
    split
    · dsimp only [WallTime.Exists, wall]
      omega
    · dsimp only [WallTime.Exists, wall]
      omega
  rw [WallTime.timeAt, if_pos dayExists, FixedZone.minutes, Int.zero_mul, Int.sub_zero,
    value.timeClip_inLastCentury]

/-- A text without a `T` has no date in a year below 1950. -/
theorem timeAt_reordered_ne (value : Temporal column) {wall : WallTime}
    (proper : wall.Proper) (offset : Int)
    (apart : wall.year + 2 < value.wall.reordered.inCentury.year) :
    value.wall.reordered.inCentury.timeAt offset ≠ some (wall.value - offset * 60000) := by
  intro same
  obtain ⟨reorderedProper, timeEq⟩ := value.timeAt_reordered same
  have before := proper.value_lt reorderedProper apart
  omega

/-- With `Z`, the two protocols on a value with a time. -/
theorem parsedDateTime_eq_iff_utc (reads : ReadsDates runtime) (value : Temporal column) :
    value.parsedDateTime runtime .utc = value.binaryDate runtime .utc ↔
      value.Zero ∨ value.month ≠ 0 ∧ value.day ≠ 0 ∧ 50 ≤ value.year := by
  have binaryEq : value.binaryDate runtime .utc =
      if value.Zero then none else some value.wall.inLastCentury.value := by
    rw [binaryDate, reads.utcTime, value.dateUTC_arguments rfl, value.timeClip_inLastCentury]
  rw [binaryEq]
  by_cases missing : value.month = 0 ∨ value.day = 0
  · have textEq : value.parsedDateTime runtime .utc = none := if_pos missing
    rw [textEq]
    by_cases zero : value.Zero
    · rw [if_pos zero]
      exact ⟨fun _ => .inl zero, fun _ => rfl⟩
    · rw [if_neg zero]
      constructor
      · intro same
        cases same
      · rintro (isZero | ⟨hasMonth, hasDay, -⟩)
        · exact absurd isZero zero
        · exact absurd missing (not_or.mpr ⟨hasMonth, hasDay⟩)
  · have notZero : ¬ value.Zero := by
      rw [Zero]
      omega
    obtain ⟨hasMonth, hasDay⟩ := not_or.mp missing
    rw [if_neg notZero]
    by_cases recent : 100 ≤ value.year
    · rw [value.parsedDateTime_of_recent reads .utc missing recent,
        value.inLastCentury_of_recent recent]
      constructor
      · intro _
        exact .inr ⟨hasMonth, hasDay, by omega⟩
      · intro _
        rw [FixedZone.minutes, Int.zero_mul, Int.sub_zero]
    · rw [value.parsedDateTime_of_old reads .utc missing (by omega)]
      by_cases late : 50 ≤ value.year
      · rw [value.inCentury_of_late late (by omega), value.timeAt_inLastCentury missing]
        exact ⟨fun _ => .inr ⟨hasMonth, hasDay, late⟩, fun _ => rfl⟩
      · constructor
        · intro same
          have years := value.year_reordered (by omega)
          have yearEq := value.year_inLastCentury
          rw [if_pos (by omega)] at yearEq
          have differ := value.timeAt_reordered_ne value.proper_inLastCentury 0 (by omega)
          rw [Int.zero_mul, Int.sub_zero] at differ
          exact absurd same differ
        · rintro (zero | ⟨-, -, isLate⟩)
          · exact absurd zero notZero
          · exact absurd isLate late

/-- With an offset, the two protocols on a value with a time. -/
theorem parsedDateTime_eq_iff_offset (reads : ReadsDates runtime) (value : Temporal column)
    (zone : FixedZone) :
    value.parsedDateTime runtime zone = value.writtenDate runtime zone ↔
      value.month = 0 ∨ value.day = 0 ∨ 100 ≤ value.year := by
  rw [writtenDate_eq reads, timeAt_wall]
  by_cases missing : value.month = 0 ∨ value.day = 0
  · have textEq : value.parsedDateTime runtime zone = none := if_pos missing
    rw [textEq, if_pos missing]
    exact ⟨fun _ => or_assoc.mp (.inl missing), fun _ => rfl⟩
  · rw [if_neg missing]
    by_cases recent : 100 ≤ value.year
    · rw [value.parsedDateTime_of_recent reads zone missing recent]
      exact ⟨fun _ => .inr (.inr recent), fun _ => rfl⟩
    · rw [value.parsedDateTime_of_old reads zone missing (by omega)]
      constructor
      · intro same
        have years := value.year_reordered (by omega)
        have apart : value.wall.year + 2 < value.wall.reordered.inCentury.year := by
          dsimp only [wall] at years ⊢
          omega
        exact absurd same (value.timeAt_reordered_ne value.proper_wall _ apart)
      · intro alike
        omega

theorem textDate_eq_iff (reads : ReadsDates runtime) (value : Temporal column) (zone : FixedZone) :
    value.textDate runtime zone = value.binaryDate runtime zone ↔ value.ReadAlike zone := by
  by_cases isDate : column = .date
  · exact value.textDate_eq_iff_of_date reads zone isDate
  · have textEq : value.textDate runtime zone = value.parsedDateTime runtime zone := if_neg isDate
    rw [textEq]
    cases zone with
    | utc => rw [value.parsedDateTime_eq_iff_utc reads, ReadAlike, if_neg isDate]
    | offset =>
        rw [binaryDate, value.parsedDateTime_eq_iff_offset reads, ReadAlike, or_iff_right isDate]

end Temporal

/-- Both protocols read a date from the same value of a server, and the two dates are both
invalid or the same time exactly for the values on which the functions of the language that
they use agree. -/
theorem readDates_eq_iff {runtime : Runtime α} (reads : ReadsDates runtime)
    {column : TemporalColumn} (value : Temporal column) (zone : FixedZone) {cells row : Packet}
    {cellsRest rowRest : Bytes} (cellsAhead : cells.ahead = value.cell ++ cellsRest)
    (rowAhead : row.ahead = value.packed ++ rowRest) :
    ∃ text binary,
      (readDateText column runtime (some zone.text)).run cells =
        .ok (.date text, cells.advance value.cell.length) ∧
      (readDateTime runtime (some zone.text)).run row =
        .ok (.date binary, row.advance value.packed.length) ∧
      (text = binary ↔ value.ReadAlike zone) :=
  ⟨_, _, Temporal.readDateText_run zone cellsAhead, Temporal.readDateTime_run zone rowAhead,
    value.textDate_eq_iff reads zone⟩

/-- A runtime with the dates of the language. -/
def dateRuntime : Runtime Unit :=
  { utcRuntime with utcTime := dateUTC, dateParse := dateParse }

theorem readsDates_dateRuntime : ReadsDates dateRuntime where
  utcTime _ := rfl
  dateParse := by
    intros
    rfl

/-- Both protocols read the whole second alike. -/
theorem readDates_eq_iff_wholeSecond : ∃ text binary,
    (readDateText (.timestamp 3) dateRuntime (some FixedZone.utc.text)).run
        (packetOf wholeSecond.cell) =
      .ok (.date text, (packetOf wholeSecond.cell).advance wholeSecond.cell.length) ∧
    (readDateTime dateRuntime (some FixedZone.utc.text)).run (packetOf wholeSecond.packed) =
      .ok (.date binary, (packetOf wholeSecond.packed).advance wholeSecond.packed.length) ∧
    (text = binary ↔ wholeSecond.ReadAlike .utc) :=
  readDates_eq_iff readsDates_dateRuntime wholeSecond .utc (ahead_packetOf _) (ahead_packetOf _)

private theorem zero_micros_lt : 0 < 1000000 :=
  Nat.succ_pos _

/-- The zero date. -/
def zeroDate : Temporal .date where
  year := 0
  month := 0
  day := 0
  hours := 0
  minutes := 0
  seconds := 0
  micros := 0
  year_lt := by decide
  month_le := by decide
  day_le := by decide
  hours_lt := by decide
  minutes_lt := by decide
  seconds_lt := by decide
  micros_lt := zero_micros_lt
  decimals_le := by decide
  rounded := by decide
  midnight _ := ⟨rfl, rfl, rfl⟩

/-- The text protocol makes a day of 1899 of the zero date, the binary protocol an invalid
date. -/
theorem zeroDate_differs :
    (∃ after, (readDateText .date dateRuntime (some FixedZone.utc.text)).run
        (packetOf zeroDate.cell) = .ok (.date (some (-2211753600000)), after)) ∧
      ∃ after, (readDateTime dateRuntime (some FixedZone.utc.text)).run (packetOf zeroDate.packed) =
        .ok (.date none, after) := by
  have text : zeroDate.textDate dateRuntime .utc = some (-2211753600000) := by decide
  have binary : zeroDate.binaryDate dateRuntime .utc = none := by decide
  constructor
  · rw [← text]
    exact ⟨_, Temporal.readDateText_run .utc (ahead_packetOf _)⟩
  · rw [← binary]
    exact ⟨_, Temporal.readDateTime_run .utc (ahead_packetOf _)⟩

end Mysql2.Parsers

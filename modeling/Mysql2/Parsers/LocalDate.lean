import Mathlib.Data.Rat.Floor
import Mysql2.Parsers.DateRoundTrip
import Mysql2.Store.Table

/-!
# Dates of local wall time

`localDate` puts a calendar and a table of the offsets of hours in the place of the `Date`
constructor.  The table's offsets are probed with the constructor, for the fields of a wall time.
The constructor takes years of two digits for years of another century, so the offsets of the year
99, in which a day before the year 100 lies, are not the ones of its hours.
-/

namespace Mysql2.Parsers

open Mysql2.Packets Mysql2.Script Mysql2.Store

/-! ## The constructor -/

/-- `Math.trunc(value)`. -/
def mathTrunc (value : ℚ) : Int :=
  if 0 ≤ value then ⌊value⌋ else ⌈value⌉

/-- `MS_PER_HOUR`. -/
def MS_PER_HOUR : Int :=
  3600000

/-- A time zone, by what the constructor takes off a wall time.  It is less than a day, and changes
at most once in an hour of wall time. -/
structure TimeZone where
  offset : Int → Int
  near : ∀ wall, (offset wall).natAbs < 86400000
  oneChange : ∀ hour, ∃ change before after, ∀ wall, wall / MS_PER_HOUR = hour →
    offset wall = if wall < change then before else after

/-- The zone without offsets. -/
def TimeZone.utc : TimeZone where
  offset _ := 0
  near _ := by decide
  oneChange _ := ⟨0, 0, 0, fun wall _ => by rw [ite_self]⟩

/-- Numbers of a date in local time, with `none` for `NaN`.  Months count from one. -/
structure LocalParts where
  year : Option Int
  month : Option Int
  day : Option Int
  hours : Option Int
  minutes : Option Int
  seconds : Option Int
  milliseconds : Option ℚ

/-- `new Date(year, month - 1, day, hours, minutes, seconds, milliseconds)`, with `none` for an
invalid date. -/
def newDate (zone : TimeZone) (parts : LocalParts) : Option Int := do
  let wall : WallTime :=
    { year := ← parts.year
      month := ← parts.month
      day := ← parts.day
      hours := ← parts.hours
      minutes := ← parts.minutes
      seconds := ← parts.seconds
      millis := mathTrunc (← parts.milliseconds) }
  let wallTime := wall.inLastCentury.value
  timeClip (wallTime - zone.offset wallTime)

/-! ## The table -/

/-- The numbers that the getters of a date in UTC return. -/
def utcParts (time : Int) : LocalParts :=
  let fields := utcFields time
  { year := some fields.year
    month := some fields.month
    day := some fields.day
    hours := some fields.hours
    minutes := some fields.minutes
    seconds := some fields.seconds
    milliseconds := some fields.milliseconds }

/-- `localTime(wallTime)`. -/
def localTime (zone : TimeZone) (wallTime : Option Int) : Option Int := do
  let wall ← timeClip (← wallTime)
  newDate zone (utcParts wall)

/-- What `proveHourOffset` subtracts at some time of an hour. -/
def probe (zone : TimeZone) (start : Option Int) (later : Int) : Option Int := do
  return (← start) + later - (← localTime zone (start.map (· + later)))

/-- `proveHourOffset(hour)`. -/
def proveHourOffset (zone : TimeZone) (hour : Option Int) : Option Int :=
  let start := hour.map (· * MS_PER_HOUR)
  let offset := probe zone start 0
  -- `NaN` is not equal to itself
  if offset ≠ probe zone start (MS_PER_HOUR / 2) ∨ offset ≠ probe zone start (MS_PER_HOUR - 1) ∨
      offset = none then
    none
  else
    offset

/-- `MAX_CACHED_HOURS`. -/
def MAX_CACHED_HOURS : Nat :=
  4096

/-- The entries of `hourOffsets`. -/
abbrev HourOffsets :=
  Table (Option Int) (Option Int)

/-- The days of a date, where `| 0` makes the month of `NaN` the first one of a year that starts in
March. -/
def LocalParts.days (parts : LocalParts) : Option Int := do
  return daysFromCivil (← parts.year) (parts.month.getD 3) (← parts.day)

/-- `wallTime`. -/
def LocalParts.wallTime (parts : LocalParts) : Option Int := do
  return (← parts.days) * 86400000 + (← parts.hours) * MS_PER_HOUR + (← parts.minutes) * 60000 +
    (← parts.seconds) * 1000 + mathTrunc (← parts.milliseconds)

/-- `localDate(year, month, day, hours, minutes, seconds, milliseconds)`. -/
def localDate (zone : TimeZone) (parts : LocalParts) : StateM HourOffsets (Option Int) := do
  if parts.year.any (· < 100) ∨ parts.month.any (· < 1) ∨ parts.month.any (12 < ·) then
    return newDate zone parts
  else
    let wallTime := parts.wallTime
    let hour := wallTime.map (· / MS_PER_HOUR)
    match ← Table.fetch (proveHourOffset zone) MAX_CACHED_HOURS hour with
    | none => return newDate zone parts
    | some offset => return wallTime.bind fun wallTime => timeClip (wallTime - offset)

/-- The table after some calls. -/
def hourOffsetsAfter (zone : TimeZone) (calls : List LocalParts) : HourOffsets :=
  calls.foldl (fun offsets parts => ((localDate zone parts).run offsets).2) []

/-! ## Hours of a time zone -/

section Zones

variable {zone : TimeZone}

/-- The offset changes in an hour of wall time. -/
def TimeZone.ChangesIn (zone : TimeZone) (hour : Int) : Prop :=
  ∃ first second, first / MS_PER_HOUR = hour ∧ second / MS_PER_HOUR = hour ∧
    zone.offset first ≠ zone.offset second

/-- An hour that has one offset at its start and at its end has no other offset. -/
theorem TimeZone.offset_eq_of_ends (zone : TimeZone) {wall hour : Int}
    (hourEq : wall / MS_PER_HOUR = hour)
    (ends : zone.offset (hour * MS_PER_HOUR) =
      zone.offset (hour * MS_PER_HOUR + (MS_PER_HOUR - 1))) :
    zone.offset wall = zone.offset (hour * MS_PER_HOUR) := by
  obtain ⟨change, before, after, offsetEq⟩ := zone.oneChange hour
  have firstHour : hour * MS_PER_HOUR / MS_PER_HOUR = hour := by
    unfold MS_PER_HOUR
    omega
  have lastHour : (hour * MS_PER_HOUR + (MS_PER_HOUR - 1)) / MS_PER_HOUR = hour := by
    unfold MS_PER_HOUR
    omega
  have order : hour * MS_PER_HOUR ≤ wall ∧ wall ≤ hour * MS_PER_HOUR + (MS_PER_HOUR - 1) := by
    unfold MS_PER_HOUR at hourEq ⊢
    omega
  rw [offsetEq _ firstHour, offsetEq _ lastHour] at ends
  rw [offsetEq _ firstHour, offsetEq _ hourEq]
  by_cases early : hour * MS_PER_HOUR < change
  · by_cases late : hour * MS_PER_HOUR + (MS_PER_HOUR - 1) < change
    · rw [if_pos early, if_pos (by omega)]
    · rw [if_pos early, if_neg late] at ends
      rw [ends, ite_self, ite_self]
  · rw [if_neg early, if_neg (by omega)]

end Zones

/-! ## The calendar's fields -/

theorem year_civilFromDays {days : Int} (late : -683003 ≤ days) :
    100 ≤ (civilFromDays days).year := by
  unfold civilFromDays fromMarch
  dsimp only
  split
  · split <;> omega
  · split <;> omega

theorem eq_of_timeClip {value clipped : Int} (inRange : timeClip value = some clipped) :
    value = clipped := by
  rw [timeClip] at inRange
  split at inRange
  · exact Option.some.inj inRange
  · cases inRange

/-- Behind the first month of the year 100 every month starts later. -/
theorem daysFromCivil_late {year month : Int} (late : 100 ≤ year) (range : 1 ≤ month ∧ month ≤ 12)
    (later : year ≠ 100 ∨ month ≠ 1) : -683003 < daysFromCivil year month 1 := by
  unfold daysFromCivil
  dsimp only
  by_cases early : month ≤ 2
  · have months : (month + 9) % 12 = month + 9 := by omega
    rw [if_pos early, months]
    omega
  · have months : (month + 9) % 12 = month - 3 := by omega
    rw [if_neg early, months]
    omega

theorem mathTrunc_natCast (n : Nat) : mathTrunc n = n := by
  have nonneg : (0 : ℚ) ≤ n := Nat.cast_nonneg n
  rw [mathTrunc, if_pos nonneg, Int.floor_natCast]

/-- The constructor, for what the getters of a date return. -/
theorem newDate_utcParts (zone : TimeZone) (time : Int) :
    newDate zone (utcParts time) = timeClip ((utcWall time).inLastCentury.value -
      zone.offset (utcWall time).inLastCentury.value) := by
  have wallEq : (utcWall time).inLastCentury = WallTime.inLastCentury
      { year := (utcFields time).year
        month := (utcFields time).month
        day := (utcFields time).day
        hours := (utcFields time).hours
        minutes := (utcFields time).minutes
        seconds := (utcFields time).seconds
        millis := mathTrunc (utcFields time).milliseconds } := by
    rw [mathTrunc_natCast]
    rfl
  rw [wallEq]
  rfl

/-! ## Proved offsets -/

/-- The start of the year 100. -/
def yearHundred : Int :=
  -683003 * 86400000

theorem inLastCentury_utcWall {time : Int} (late : yearHundred ≤ time) :
    (utcWall time).inLastCentury = utcWall time := by
  have year : 100 ≤ (utcWall time).year := year_civilFromDays (by
    rw [yearHundred] at late
    omega)
  rw [WallTime.inLastCentury, if_neg (by omega)]

section Proofs

variable {zone : TimeZone}

theorem localTime_eq {wall : Int} (late : yearHundred ≤ wall) :
    localTime zone (some wall) = (timeClip wall).bind fun wall =>
      timeClip (wall - zone.offset wall) := by
  show (timeClip wall).bind (fun wall => newDate zone (utcParts wall)) = _
  cases inRange : timeClip wall with
  | none => rfl
  | some clipped =>
      obtain rfl := eq_of_timeClip inRange
      rw [Option.bind_some, Option.bind_some, newDate_utcParts, inLastCentury_utcWall late,
        value_utcWall]

/-- What is probed in a year of three digits or more is the offset. -/
theorem offset_eq_of_probe {start later offset : Int} (late : yearHundred ≤ start + later)
    (probed : probe zone (some start) later = some offset) :
    zone.offset (start + later) = offset := by
  have timeEq : localTime zone ((some start).map (· + later)) =
      localTime zone (some (start + later)) := rfl
  rw [probe, timeEq, localTime_eq late] at probed
  cases wallInRange : timeClip (start + later) with
  | none =>
      rw [wallInRange] at probed
      exact nomatch probed
  | some wall =>
      obtain rfl := eq_of_timeClip wallInRange
      rw [wallInRange, Option.bind_some] at probed
      cases inRange : timeClip (start + later - zone.offset (start + later)) with
      | none =>
          rw [inRange] at probed
          exact nomatch probed
      | some time =>
          have timeEq := eq_of_timeClip inRange
          rw [inRange] at probed
          have offsetEq : start + later - time = offset := Option.some.inj probed
          omega

/-- A proved offset has been probed at the start, the middle and the end of the hour. -/
theorem probes_of_proveHourOffset {hour : Option Int} {offset : Int}
    (proved : proveHourOffset zone hour = some offset) :
    probe zone (hour.map (· * MS_PER_HOUR)) 0 = some offset ∧
      probe zone (hour.map (· * MS_PER_HOUR)) (MS_PER_HOUR / 2) = some offset ∧
      probe zone (hour.map (· * MS_PER_HOUR)) (MS_PER_HOUR - 1) = some offset := by
  rw [proveHourOffset] at proved
  split at proved
  case isTrue => exact nomatch proved
  case isFalse same =>
    simp only [not_or, ne_eq, not_not] at same
    obtain ⟨middle, last, _⟩ := same
    exact ⟨proved, middle ▸ proved, last ▸ proved⟩

/-- From the year 100 on, a proved offset is the one of every wall time of the hour. -/
theorem offset_eq_of_proveHourOffset {wall offset : Int} (late : yearHundred ≤ wall)
    (proved : proveHourOffset zone (some (wall / MS_PER_HOUR)) = some offset) :
    zone.offset wall = offset := by
  have startLate : yearHundred ≤ wall / MS_PER_HOUR * MS_PER_HOUR := by
    rw [yearHundred] at late ⊢
    unfold MS_PER_HOUR
    omega
  have lastLate : yearHundred ≤ wall / MS_PER_HOUR * MS_PER_HOUR + (MS_PER_HOUR - 1) := by
    unfold MS_PER_HOUR at startLate ⊢
    omega
  obtain ⟨first, _, last⟩ := probes_of_proveHourOffset proved
  have firstEq : zone.offset (wall / MS_PER_HOUR * MS_PER_HOUR + 0) = offset :=
    offset_eq_of_probe (by rwa [Int.add_zero]) first
  have lastEq : zone.offset (wall / MS_PER_HOUR * MS_PER_HOUR + (MS_PER_HOUR - 1)) = offset :=
    offset_eq_of_probe lastLate last
  rw [Int.add_zero] at firstEq
  rw [zone.offset_eq_of_ends rfl (firstEq.trans lastEq.symm), firstEq]

/-! ## The last day of the year 99 -/

/-- The milliseconds by which the constructor moves a day of the year 99. -/
def nineteenCenturies : Int :=
  693960 * 86400000

/-- The fields of a wall time of the last day of the year 99 are read in the year 1999. -/
theorem value_inLastCentury_utcWall {wall : Int} (day : wall / 86400000 = -683004) :
    (utcWall wall).inLastCentury.value = wall + nineteenCenturies := by
  have date : civilFromDays (-683004) = ⟨99, 12, 31⟩ := by decide
  have year : (utcWall wall).year = 99 := by
    show (civilFromDays (wall / 86400000)).year = 99
    rw [day, date]
  have month : (utcWall wall).month = 12 := by
    show ((civilFromDays (wall / 86400000)).month.toNat : Int) = 12
    rw [day, date]
    rfl
  have dayOfMonth : (utcWall wall).day = 31 := by
    show ((civilFromDays (wall / 86400000)).day.toNat : Int) = 31
    rw [day, date]
    rfl
  have dayNumber : (utcWall wall).inLastCentury.dayNumber = 10956 := by
    rw [WallTime.inLastCentury, year, if_pos (by decide), WallTime.dayNumber_of_month]
    · dsimp only
      rw [month, dayOfMonth]
      decide
    · dsimp only
      omega
  have timeInDay : (utcWall wall).inLastCentury.timeInDay = wall % 86400000 := by
    rw [← timeInDay_utcWall, WallTime.inLastCentury]
    split <;> rfl
  rw [WallTime.value, dayNumber, timeInDay, nineteenCenturies]
  omega

theorem localTime_yearNinetyNine {wall : Int} (day : wall / 86400000 = -683004) :
    localTime zone (some wall) =
      some (wall + nineteenCenturies - zone.offset (wall + nineteenCenturies)) := by
  have near := zone.near (wall + nineteenCenturies)
  have wallInRange : timeClip wall = some wall := if_pos (by omega)
  have inRange : timeClip (wall + nineteenCenturies - zone.offset (wall + nineteenCenturies)) =
      some (wall + nineteenCenturies - zone.offset (wall + nineteenCenturies)) := by
    apply if_pos
    rw [nineteenCenturies] at near ⊢
    omega
  show (timeClip wall).bind (fun wall => newDate zone (utcParts wall)) = _
  rw [wallInRange, Option.bind_some, newDate_utcParts, value_inLastCentury_utcWall day, inRange]

theorem probe_yearNinetyNine {start later : Int} (day : (start + later) / 86400000 = -683004) :
    probe zone (some start) later =
      some (zone.offset (start + later + nineteenCenturies) - nineteenCenturies) := by
  have timeEq : localTime zone ((some start).map (· + later)) =
      localTime zone (some (start + later)) := rfl
  rw [probe, timeEq, localTime_yearNinetyNine day]
  show some _ = some _
  congr 1
  omega

/-- An hour of that day is proved with the offset of the year 1999, if that hour has just one. -/
theorem proveHourOffset_yearNinetyNine {hour : Int} (day : hour / 24 = -683004)
    (constant : ¬zone.ChangesIn (hour + 693960 * 24)) :
    proveHourOffset zone (some hour) =
      some (zone.offset (hour * MS_PER_HOUR + nineteenCenturies) - nineteenCenturies) := by
  have probed (later : Int) (range : 0 ≤ later ∧ later < MS_PER_HOUR) :
      probe zone (some (hour * MS_PER_HOUR)) later =
        some (zone.offset (hour * MS_PER_HOUR + nineteenCenturies) - nineteenCenturies) := by
    have sameOffset : zone.offset (hour * MS_PER_HOUR + later + nineteenCenturies) =
        zone.offset (hour * MS_PER_HOUR + nineteenCenturies) := by
      by_contra differs
      apply constant
      refine ⟨_, _, ?_, ?_, differs⟩
      · unfold MS_PER_HOUR nineteenCenturies at *
        omega
      · unfold MS_PER_HOUR nineteenCenturies
        omega
    rw [probe_yearNinetyNine (by unfold MS_PER_HOUR at *; omega), sameOffset]
  have start := probed 0 (by decide)
  have middle := probed (MS_PER_HOUR / 2) (by decide)
  have last := probed (MS_PER_HOUR - 1) (by decide)
  rw [proveHourOffset, Option.map_some, start, middle, last, if_neg (by simp)]

/-- It is not proved if that hour has two offsets. -/
theorem proveHourOffset_of_changesIn {hour : Int} (day : hour / 24 = -683004)
    (changes : zone.ChangesIn (hour + 693960 * 24)) : proveHourOffset zone (some hour) = none := by
  cases proved : proveHourOffset zone (some hour) with
  | none => rfl
  | some offset =>
      obtain ⟨first, _, last⟩ := probes_of_proveHourOffset proved
      rw [Option.map_some, probe_yearNinetyNine (by unfold MS_PER_HOUR; omega), Option.some.injEq]
        at first last
      obtain ⟨wall, other, wallHour, otherHour, differs⟩ := changes
      have startEq : (hour + 693960 * 24) * MS_PER_HOUR =
          hour * MS_PER_HOUR + 0 + nineteenCenturies := by
        unfold MS_PER_HOUR nineteenCenturies
        omega
      have lastEq : (hour + 693960 * 24) * MS_PER_HOUR + (MS_PER_HOUR - 1) =
          hour * MS_PER_HOUR + (MS_PER_HOUR - 1) + nineteenCenturies := by
        unfold MS_PER_HOUR nineteenCenturies
        omega
      have ends : zone.offset ((hour + 693960 * 24) * MS_PER_HOUR) =
          zone.offset ((hour + 693960 * 24) * MS_PER_HOUR + (MS_PER_HOUR - 1)) := by
        rw [lastEq, startEq]
        omega
      rw [zone.offset_eq_of_ends wallHour ends, zone.offset_eq_of_ends otherHour ends] at differs
      exact absurd rfl differs

end Proofs

/-! ## Any history of calls -/

/-- What `localDate` returns without a table. -/
def uncachedDate (zone : TimeZone) (parts : LocalParts) : Option Int :=
  if parts.year.any (· < 100) ∨ parts.month.any (· < 1) ∨ parts.month.any (12 < ·) then
    newDate zone parts
  else
    match proveHourOffset zone (parts.wallTime.map (· / MS_PER_HOUR)) with
    | none => newDate zone parts
    | some offset => parts.wallTime.bind fun wallTime => timeClip (wallTime - offset)

section Histories

variable {zone : TimeZone}

/-- A table of proved offsets changes no result, and stays one. -/
theorem run_localDate {offsets : HourOffsets} (sound : Table.Of (proveHourOffset zone) offsets)
    (parts : LocalParts) :
    ((localDate zone parts).run offsets).1 = uncachedDate zone parts ∧
      Table.Of (proveHourOffset zone) ((localDate zone parts).run offsets).2 := by
  rw [localDate, uncachedDate]
  by_cases excluded :
      parts.year.any (· < 100) ∨ parts.month.any (· < 1) ∨ parts.month.any (12 < ·)
  · rw [if_pos excluded, if_pos excluded]
    exact ⟨rfl, sound⟩
  · rw [if_neg excluded, if_neg excluded]
    obtain ⟨valueEq, kept⟩ :=
      sound.run_fetch MAX_CACHED_HOURS (parts.wallTime.map (· / MS_PER_HOUR))
    rw [← valueEq]
    dsimp only
    rw [StateT.run_bind]
    generalize (Table.fetch (proveHourOffset zone) MAX_CACHED_HOURS
      (parts.wallTime.map (· / MS_PER_HOUR))).run offsets = fetched at kept ⊢
    obtain ⟨_ | offset, table⟩ := fetched
    · exact ⟨rfl, kept⟩
    · exact ⟨rfl, kept⟩

/-- Every call keeps a table of proved offsets. -/
theorem of_hourOffsetsAfter (zone : TimeZone) (calls : List LocalParts) :
    Table.Of (proveHourOffset zone) (hourOffsetsAfter zone calls) := by
  have kept (offsets : HourOffsets) (sound : Table.Of (proveHourOffset zone) offsets) :
      Table.Of (proveHourOffset zone)
        (calls.foldl (fun offsets parts => ((localDate zone parts).run offsets).2) offsets) := by
    induction calls generalizing offsets with
    | nil => exact sound
    | cons parts calls ih => exact ih _ (run_localDate sound parts).2
  exact kept [] (Table.of_nil _)

end Histories

/-! ## Dates of the wire protocols -/

/-- The numbers of a date that a server sends. -/
structure WireDate where
  year : Int
  month : Int
  day : Int
  hours : Int
  minutes : Int
  seconds : Int
  milliseconds : ℚ
  year_range : 0 ≤ year ∧ year ≤ 9999
  month_range : 0 ≤ month ∧ month ≤ 12
  day_range : 0 ≤ day ∧ day ≤ 31
  hours_range : 0 ≤ hours ∧ hours ≤ 99
  minutes_range : 0 ≤ minutes ∧ minutes ≤ 99
  seconds_range : 0 ≤ seconds ∧ seconds ≤ 99
  milliseconds_range : 0 ≤ milliseconds ∧ milliseconds < 1000

namespace WireDate

/-- The numbers as arguments. -/
def parts (date : WireDate) : LocalParts where
  year := some date.year
  month := some date.month
  day := some date.day
  hours := some date.hours
  minutes := some date.minutes
  seconds := some date.seconds
  milliseconds := some date.milliseconds

/-- The wall time of the numbers. -/
def wall (date : WireDate) : WallTime where
  year := date.year
  month := date.month
  day := date.day
  hours := date.hours
  minutes := date.minutes
  seconds := date.seconds
  millis := mathTrunc date.milliseconds

/-- A wall time on the last day of the year 99, which is the day 0 of the next year. -/
def IsBeforeYearHundred (date : WireDate) : Prop :=
  date.year = 100 ∧ date.month = 1 ∧ date.day = 0 ∧ date.wall.timeInDay < 86400000

variable (date : WireDate) (zone : TimeZone)

theorem millis_range : 0 ≤ date.wall.millis ∧ date.wall.millis < 1000 := by
  obtain ⟨nonneg, below⟩ := date.milliseconds_range
  have millis : date.wall.millis = ⌊date.milliseconds⌋ := if_pos nonneg
  rw [millis]
  exact ⟨Int.floor_nonneg.mpr nonneg, Int.floor_lt.mpr (by exact_mod_cast below)⟩

theorem timeInDay_nonneg : 0 ≤ date.wall.timeInDay := by
  have hours := date.hours_range
  have minutes := date.minutes_range
  have seconds := date.seconds_range
  have millis := date.millis_range
  show 0 ≤ ((date.hours * 60 + date.minutes) * 60 + date.seconds) * 1000 + date.wall.millis
  omega

theorem newDate_parts : newDate zone date.parts = timeClip (date.wall.inLastCentury.value -
    zone.offset date.wall.inLastCentury.value) := by
  simp only [newDate, parts, Option.bind_eq_bind, Option.bind_some]
  rfl

theorem inLastCentury_wall (late : 100 ≤ date.year) : date.wall.inLastCentury = date.wall := by
  have year : date.wall.year = date.year := rfl
  rw [WallTime.inLastCentury, if_neg (by omega)]

theorem wallTime_parts (month : 1 ≤ date.month) : date.parts.wallTime = some date.wall.value := by
  have day : date.wall.dayNumber = daysFromCivil date.year date.month date.day :=
    WallTime.dayNumber_of_month ⟨month, date.month_range.2⟩
  have total : daysFromCivil date.year date.month date.day * 86400000 + date.hours * MS_PER_HOUR +
      date.minutes * 60000 + date.seconds * 1000 + mathTrunc date.milliseconds =
        date.wall.value := by
    rw [WallTime.value, day]
    simp only [WallTime.timeInDay, wall, MS_PER_HOUR]
    omega
  exact congrArg some total

/-- From the year 100 on only the day 0 of January lies before the year 100. -/
theorem value_lt_yearHundred_iff (late : 100 ≤ date.year) (month : 1 ≤ date.month) :
    date.wall.value < yearHundred ↔ date.IsBeforeYearHundred := by
  have dayNumber : date.wall.dayNumber = daysFromCivil date.year date.month 1 + date.day - 1 := by
    rw [← daysFromCivil_day]
    exact WallTime.dayNumber_of_month ⟨month, date.month_range.2⟩
  have nonneg := date.timeInDay_nonneg
  have day := date.day_range
  rw [WallTime.value, dayNumber, yearHundred, IsBeforeYearHundred]
  by_cases first : date.year = 100 ∧ date.month = 1
  · have firstDay : daysFromCivil 100 1 1 = -683003 := by decide
    rw [first.1, first.2, firstDay]
    omega
  · have later := daysFromCivil_late late ⟨month, date.month_range.2⟩ (by omega)
    omega

/-- The hour of such a wall time, and the one that is probed in its place. -/
theorem IsBeforeYearHundred.hour {date : WireDate} (before : date.IsBeforeYearHundred) :
    date.wall.value / MS_PER_HOUR / 24 = -683004 ∧
      date.wall.value / MS_PER_HOUR + 693960 * 24 =
        daysFromCivil 1999 12 31 * 24 + date.wall.timeInDay / MS_PER_HOUR := by
  obtain ⟨year, month, day, early⟩ := before
  have nonneg := date.timeInDay_nonneg
  have dayNumber : date.wall.dayNumber = -683004 := by
    have monthRange : 1 ≤ date.wall.month ∧ date.wall.month ≤ 12 := by
      rw [show date.wall.month = 1 from month]
      decide
    rw [WallTime.dayNumber_of_month monthRange]
    show daysFromCivil date.year date.month date.day = _
    rw [year, month, day]
    decide
  have lastDay : daysFromCivil 1999 12 31 = 10956 := by decide
  rw [WallTime.value, dayNumber, lastDay]
  unfold MS_PER_HOUR
  omega

/-- Outside of the constructor's cases, the date of a proved offset or else the constructor's. -/
theorem uncachedDate_parts (late : 100 ≤ date.year) (month : 1 ≤ date.month) :
    uncachedDate zone date.parts =
      (proveHourOffset zone (some (date.wall.value / MS_PER_HOUR))).elim (newDate zone date.parts)
        fun offset => timeClip (date.wall.value - offset) := by
  have monthRange := date.month_range
  rw [uncachedDate, if_neg, date.wallTime_parts month, Option.map_some]
  · cases proveHourOffset zone (some (date.wall.value / MS_PER_HOUR)) <;> rfl
  · rintro (early | early | later)
    · exact absurd (of_decide_eq_true early) (by omega)
    · exact absurd (of_decide_eq_true early) (by omega)
    · exact absurd (of_decide_eq_true later) (by omega)

theorem newDate_parts_late (late : 100 ≤ date.year) :
    newDate zone date.parts = timeClip (date.wall.value - zone.offset date.wall.value) := by
  rw [newDate_parts, date.inLastCentury_wall late]

/-- The offset of a proved hour is the constructor's from the year 100 on. -/
theorem uncachedDate_eq (afterwards : ¬date.IsBeforeYearHundred) :
    uncachedDate zone date.parts = newDate zone date.parts := by
  by_cases excluded : date.year < 100 ∨ date.month < 1
  · rw [uncachedDate, if_pos]
    rcases excluded with early | early
    · exact .inl (decide_eq_true early)
    · exact .inr (.inl (decide_eq_true early))
  · have late : 100 ≤ date.year := by omega
    have month : 1 ≤ date.month := by omega
    have wallLate : yearHundred ≤ date.wall.value := by
      by_contra early
      exact afterwards ((date.value_lt_yearHundred_iff late month).mp (by omega))
    rw [date.uncachedDate_parts zone late month]
    cases proved : proveHourOffset zone (some (date.wall.value / MS_PER_HOUR)) with
    | none => rfl
    | some offset =>
        rw [date.newDate_parts_late zone late, offset_eq_of_proveHourOffset wallLate proved]
        rfl

/-- A proved hour of the last day of the year 99 moves its wall times by centuries. -/
theorem uncachedDate_eq_iff (before : date.IsBeforeYearHundred) :
    uncachedDate zone date.parts = newDate zone date.parts ↔
      zone.ChangesIn (daysFromCivil 1999 12 31 * 24 + date.wall.timeInDay / MS_PER_HOUR) := by
  have late : 100 ≤ date.year := before.1.ge
  have month : 1 ≤ date.month := before.2.1.ge
  obtain ⟨day, hourEq⟩ := before.hour
  rw [date.uncachedDate_parts zone late month, ← hourEq]
  by_cases changes : zone.ChangesIn (date.wall.value / MS_PER_HOUR + 693960 * 24)
  · rw [proveHourOffset_of_changesIn day changes]
    exact iff_of_true rfl changes
  · rw [proveHourOffset_yearNinetyNine day changes, date.newDate_parts_late zone late,
      Option.elim_some]
    refine iff_of_false (fun same => ?_) changes
    have near := zone.near date.wall.value
    have movedNear := zone.near (date.wall.value / MS_PER_HOUR * MS_PER_HOUR + nineteenCenturies)
    have inRange : timeClip (date.wall.value - zone.offset date.wall.value) =
        some (date.wall.value - zone.offset date.wall.value) := by
      apply if_pos
      unfold MS_PER_HOUR at day
      omega
    rw [inRange] at same
    have equal := eq_of_timeClip same
    unfold nineteenCenturies at *
    omega

end WireDate

/-- After any calls `localDate` makes the date of the constructor, but for the wall times of the
last day of the year 99: they are moved to the year 1999, unless the offset changes in their hour
of that year. -/
theorem localDate_iff (zone : TimeZone) (calls : List LocalParts) (date : WireDate) :
    ((localDate zone date.parts).run (hourOffsetsAfter zone calls)).1 = newDate zone date.parts ↔
      (date.IsBeforeYearHundred → zone.ChangesIn
        (daysFromCivil 1999 12 31 * 24 + date.wall.timeInDay / MS_PER_HOUR)) := by
  rw [(run_localDate (of_hourOffsetsAfter zone calls) date.parts).1]
  by_cases before : date.IsBeforeYearHundred
  · rw [date.uncachedDate_eq_iff zone before]
    exact ⟨fun changes _ => changes, fun implied => implied before⟩
  · exact iff_of_true (date.uncachedDate_eq zone before) fun is => absurd is before

/-- The day 0 of January of the year 100. -/
def dayBeforeYearHundred : WireDate where
  year := 100
  month := 1
  day := 0
  hours := 0
  minutes := 0
  seconds := 0
  milliseconds := 0
  year_range := by decide
  month_range := by decide
  day_range := by decide
  hours_range := by decide
  minutes_range := by decide
  seconds_range := by decide
  milliseconds_range := by decide

/-- In UTC that day is taken for the last day of the year 1999. -/
theorem not_forall_localDate :
    ¬∀ (zone : TimeZone) (calls : List LocalParts) (date : WireDate),
      ((localDate zone date.parts).run (hourOffsetsAfter zone calls)).1 =
        newDate zone date.parts := by
  intro allSame
  have same := allSame .utc [] dayBeforeYearHundred
  have moved : ((localDate .utc dayBeforeYearHundred.parts).run []).1 =
      some (10956 * 86400000) := by
    decide
  have constructed : newDate .utc dayBeforeYearHundred.parts = some (-683004 * 86400000) := by
    decide
  have equal := moved.symm.trans (same.trans constructed)
  simp at equal

end Mysql2.Parsers

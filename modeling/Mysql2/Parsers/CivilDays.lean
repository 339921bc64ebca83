import Mysql2.Calendar.Gregorian
import Mysql2.Packets.Dates

/-!
# Days of the calendar

`daysFromCivil` computes the number of a day from years that start in March, with the lengths of
the months and the leap years in quotients.  It counts the days of the calendar.
-/

namespace Mysql2.Parsers

open Mysql2.Calendar Mysql2.Packets

/-- The years in front of one that starts in March, era by era, have their days and their leap
days. -/
theorem eraDays_eq (year : Int) :
    year / 400 * 146097 + ((year - year / 400 * 400) * 365 + (year - year / 400 * 400) / 4 -
      (year - year / 400 * 400) / 100) = 365 * year + leapYears year := by
  unfold leapYears
  omega

/-- Of January and February the year starts in March of the one before. -/
theorem daysFromCivil_januaryOn {month : Int} (early : month ≤ 2) (year day : Int) :
    daysFromCivil year month day = 365 * (year - 1) + leapYears (year - 1) +
      ((153 * ((month + 9) % 12) + 2) / 5 + day - 1) - 719468 := by
  have days := eraDays_eq (year - 1)
  unfold daysFromCivil
  dsimp only
  rw [if_pos early]
  omega

theorem daysFromCivil_marchOn {month : Int} (late : ¬month ≤ 2) (year day : Int) :
    daysFromCivil year month day = 365 * year + leapYears year +
      ((153 * ((month + 9) % 12) + 2) / 5 + day - 1) - 719468 := by
  have days := eraDays_eq year
  unfold daysFromCivil
  dsimp only
  rw [if_neg late]
  omega

/-- The quotient by five, as the days of the months since March.  February, which is as long as
its year wants, is the last of them. -/
theorem daysBeforeMonth_january {month : Int} (range : 1 ≤ month ∧ month ≤ 2) (year : Int) :
    daysBeforeMonth year month = (153 * ((month + 9) % 12) + 2) / 5 - 306 := by
  have cases_ : month = 1 ∨ month = 2 := by omega
  rcases cases_ with rfl | rfl <;> simp [daysBeforeMonth, daysInMonth]

theorem daysBeforeMonth_march {month : Int} (range : 3 ≤ month ∧ month ≤ 12) (year : Int) :
    daysBeforeMonth year month =
      (153 * ((month + 9) % 12) + 2) / 5 + 59 + if isLeapYear year then 1 else 0 := by
  have cases_ : month = 3 ∨ month = 4 ∨ month = 5 ∨ month = 6 ∨ month = 7 ∨ month = 8 ∨
      month = 9 ∨ month = 10 ∨ month = 11 ∨ month = 12 := by omega
  rcases cases_ with rfl | rfl | rfl | rfl | rfl | rfl | rfl | rfl | rfl | rfl <;>
    cases leap : isLeapYear year <;>
    simp [daysBeforeMonth, daysInMonth, leap, List.range_succ]

/-- The day's number counts the days of the calendar since 1970-01-01, for any number as the day
of a month. -/
theorem daysFromCivil_eq_dayNumber (year : Int) {month : Int} (range : 1 ≤ month ∧ month ≤ 12)
    (day : Int) : daysFromCivil year month day = dayNumber 1970 year month day := by
  have epoch : leapYears (1970 - 1) = 477 := by decide
  rw [dayNumber, daysBetween_eq, epoch]
  by_cases early : month ≤ 2
  · rw [daysFromCivil_januaryOn early, daysBeforeMonth_january ⟨range.1, early⟩]
    omega
  · have leaps := leapYears_eq year
    rw [daysFromCivil_marchOn early, daysBeforeMonth_march ⟨by omega, range.2⟩, leaps]
    omega

/-- The last day of February of a century's year that is a leap year, as the day in front of
March. -/
theorem daysFromCivil_eq_dayNumber_leapDay :
    daysFromCivil 2000 3 0 = dayNumber 1970 2000 3 0 :=
  daysFromCivil_eq_dayNumber 2000 (by decide) 0

end Mysql2.Parsers

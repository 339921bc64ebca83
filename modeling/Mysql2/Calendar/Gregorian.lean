import Mathlib.Algebra.Ring.Int.Defs
import Mathlib.Tactic.Common

/-!
# The Gregorian calendar

Years and months by the days they have, and the number of days between two years.  The rule for
leap years holds for all years, those before the calendar came into use included.
-/

namespace Mysql2.Calendar

/-- Every fourth year, of the years of a century only every fourth one. -/
def isLeapYear (year : Int) : Bool :=
  year % 4 = 0 ∧ (year % 100 ≠ 0 ∨ year % 400 = 0)

/-- The days of a month. -/
def daysInMonth (year month : Int) : Int :=
  if month = 2 then if isLeapYear year then 29 else 28
  else if month = 4 ∨ month = 6 ∨ month = 9 ∨ month = 11 then 30
  else 31

/-- The days of a year in front of a month. -/
def daysBeforeMonth (year month : Int) : Int :=
  ((List.range (month - 1).toNat).map fun index : Nat => daysInMonth year (index + 1)).sum

/-- The days of a year. -/
def daysInYear (year : Int) : Int :=
  daysBeforeMonth year 13

/-- The days of a number of years. -/
def daysInYears (first : Int) (count : Nat) : Int :=
  ((List.range count).map fun index : Nat => daysInYear (first + index)).sum

/-- The days from the start of a year to the start of another one, which are negative if the
other one is earlier. -/
def daysBetween (first last : Int) : Int :=
  if first ≤ last then daysInYears first (last - first).toNat
  else -daysInYears last (first - last).toNat

/-- The days from the start of a year to a day of a month, where any number is a day. -/
def dayNumber (epoch year month day : Int) : Int :=
  daysBetween epoch year + daysBeforeMonth year month + (day - 1)

/-! ## Months -/

theorem daysInYear_eq (year : Int) : daysInYear year = if isLeapYear year then 366 else 365 := by
  cases leap : isLeapYear year <;>
    simp [daysInYear, daysBeforeMonth, daysInMonth, leap, List.range_succ]

/-! ## Years -/

/-- The leap years up to a year, from the first year of the calendar on. -/
def leapYears (year : Int) : Int :=
  year / 4 - year / 100 + year / 400

theorem leapYears_eq (year : Int) :
    leapYears year = leapYears (year - 1) + if isLeapYear year then 1 else 0 := by
  unfold leapYears isLeapYear
  by_cases fourth : year % 4 = 0
  · by_cases century : year % 100 = 0
    · by_cases era : year % 400 = 0
      · rw [if_pos (by simp [fourth, era])]
        omega
      · rw [if_neg (by simp [century, era])]
        omega
    · rw [if_pos (by simp [fourth, century])]
      omega
  · rw [if_neg (by simp [fourth])]
    omega

/-- The days of years, by the leap years among them. -/
theorem daysInYears_eq (first : Int) (count : Nat) :
    daysInYears first count =
      365 * count + leapYears (first + count - 1) - leapYears (first - 1) := by
  induction count with
  | zero => simp [daysInYears]
  | succ count ih =>
      have step : daysInYears first (count + 1) =
          daysInYears first count + daysInYear (first + count) := by
        simp [daysInYears, List.range_succ]
      have leaps := leapYears_eq (first + count)
      have last : first + ((count + 1 : Nat) : Int) - 1 = first + count := by omega
      rw [step, ih, daysInYear_eq, last, leaps]
      split <;> omega

theorem daysBetween_eq (first last : Int) :
    daysBetween first last =
      365 * (last - first) + leapYears (last - 1) - leapYears (first - 1) := by
  rw [daysBetween]
  split
  case isTrue order =>
    have count : ((last - first).toNat : Int) = last - first := Int.toNat_of_nonneg (by omega)
    have lastEq : first + (last - first) - 1 = last - 1 := by omega
    rw [daysInYears_eq, count, lastEq]
  case isFalse order =>
    have count : ((first - last).toNat : Int) = first - last := Int.toNat_of_nonneg (by omega)
    have firstEq : last + (first - last) - 1 = first - 1 := by omega
    rw [daysInYears_eq, count, firstEq]
    omega

end Mysql2.Calendar

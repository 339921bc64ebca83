import Mysql2.Packets.TypedValues

/-!
# Times in milliseconds

The parts of a number of milliseconds.  The microseconds are rounded by themselves, so the last
half microsecond of a second makes a whole million of them.
-/

namespace Mysql2.Packets

open Mysql2.Script

/-- The microseconds in the parts of a time. -/
def totalMicros (days hours minutes seconds micros : Nat) : Nat :=
  (((days * 24 + hours) * 60 + minutes) * 60 + seconds) * 1000000 + micros

/-- Parts in their ranges that stand for a number of milliseconds, rounded to the nearest
microsecond. -/
def TimeParts.IsRounded (parts : TimeParts) (value : ℚ) : Prop :=
  ∃ days hours minutes seconds micros : Nat,
    parts = ⟨value < 0, .finite days, .finite hours, .finite minutes, .finite seconds,
      .finite micros⟩ ∧
    hours < 24 ∧ minutes < 60 ∧ seconds < 60 ∧ micros < 1000000 ∧
    |(totalMicros days hours minutes seconds micros : ℚ) - |value| * 1000| ≤ 1 / 2

/-! ## Remainders and rounding -/

theorem remainder_nonneg {dividend divisor : ℚ} (positive : 0 < divisor) :
    0 ≤ remainder dividend divisor := by
  have floor := Int.floor_le (dividend / divisor)
  rw [le_div_iff₀ positive] at floor
  rw [remainder]
  linarith

theorem abs_mathRound_sub_le (value : ℚ) : |(mathRound value : ℚ) - value| ≤ 1 / 2 := by
  have floor := Int.floor_le (value + 1 / 2)
  have below := Int.lt_floor_add_one (value + 1 / 2)
  rw [mathRound, abs_le]
  constructor <;> linarith

theorem mathRound_nonneg {value : ℚ} (nonneg : 0 ≤ value) : 0 ≤ mathRound value :=
  Int.floor_nonneg.mpr (by linarith)

/-- The milliseconds behind the last whole second. -/
def behindSecond (value : ℚ) : ℚ :=
  remainder |value| 1000

/-- The microseconds that are rounded. -/
def roundedMicros (value : ℚ) : Nat :=
  (mathRound (behindSecond value * 1000)).toNat

theorem behindSecond_nonneg (value : ℚ) : 0 ≤ behindSecond value :=
  remainder_nonneg (by norm_num)

theorem cast_roundedMicros (value : ℚ) :
    ((roundedMicros value : Nat) : ℚ) = mathRound (behindSecond value * 1000) := by
  have nonneg : 0 ≤ mathRound (behindSecond value * 1000) :=
    mathRound_nonneg (mul_nonneg (behindSecond_nonneg value) (by norm_num))
  rw [roundedMicros]
  exact_mod_cast Int.toNat_of_nonneg nonneg

theorem roundedMicros_lt_iff (value : ℚ) :
    roundedMicros value < 1000000 ↔ behindSecond value < 1999999 / 2000 := by
  have floor : mathRound (behindSecond value * 1000) < 1000000 ↔
      behindSecond value * 1000 + 1 / 2 < 1000000 := by
    rw [mathRound, Int.floor_lt]
    norm_num
  rw [roundedMicros, Int.toNat_lt_of_ne_zero (by decide)]
  refine floor.trans ?_
  constructor <;> intro small <;> linarith

/-! ## Parts -/

/-- The whole seconds are split without a rest. -/
theorem totalMicros_split (wholeSeconds micros : Nat) :
    totalMicros (wholeSeconds / 3600 / 24) (wholeSeconds / 3600 % 24) (wholeSeconds / 60 % 60)
      (wholeSeconds % 60) micros = wholeSeconds * 1000000 + micros := by
  rw [totalMicros]
  omega

theorem numberTimeParts_isRounded_iff (value : ℚ) :
    (numberTimeParts value).IsRounded value ↔ behindSecond value < 1999999 / 2000 := by
  rw [← roundedMicros_lt_iff]
  constructor
  · rintro ⟨days, hours, minutes, seconds, micros, partsEq, -, -, -, microsLt, -⟩
    have same : roundedMicros value = micros :=
      WholeNumber.finite.inj (congrArg TimeParts.microseconds partsEq)
    rwa [same]
  · intro small
    refine ⟨_, _, _, _, _, rfl, Nat.mod_lt _ (by decide), Nat.mod_lt _ (by decide),
      Nat.mod_lt _ (by decide), small, ?_⟩
    have nonneg : 0 ≤ ⌊|value| / 1000⌋ := Int.floor_nonneg.mpr (by positivity)
    have wholeSeconds : ((⌊|value| / 1000⌋.toNat : Nat) : ℚ) = ⌊|value| / 1000⌋ := by
      exact_mod_cast Int.toNat_of_nonneg nonneg
    have near := abs_mathRound_sub_le (behindSecond value * 1000)
    have micros := cast_roundedMicros value
    have split : |value| = 1000 * ⌊|value| / 1000⌋ + behindSecond value := by
      rw [behindSecond, remainder]
      ring
    have difference : ((⌊|value| / 1000⌋.toNat * 1000000 + roundedMicros value : Nat) : ℚ) -
        |value| * 1000 = mathRound (behindSecond value * 1000) - behindSecond value * 1000 := by
      rw [Nat.cast_add, Nat.cast_mul, wholeSeconds, micros]
      push_cast
      linarith
    rw [totalMicros_split, show (mathRound (remainder |value| 1000 * 1000)).toNat =
      roundedMicros value from rfl, difference]
    exact near

/-- The parts of a number are right unless its microseconds are rounded up to a whole second. -/
theorem toTimeParts_isRounded_iff (value : ℚ) :
    (∃ parts, toTimeParts (.number value) = .ok parts ∧ parts.IsRounded value) ↔
      remainder |value| 1000 < 1999999 / 2000 := by
  refine Iff.trans ?_ (numberTimeParts_isRounded_iff value)
  constructor
  · rintro ⟨parts, partsEq, isRounded⟩
    cases partsEq
    exact isRounded
  · exact fun isRounded => ⟨_, rfl, isRounded⟩

/-- 999.9996 milliseconds have a million microseconds and no seconds. -/
theorem not_forall_isRounded :
    ¬∀ value : ℚ, |value| < 24 * 2 ^ 32 * 3600000 →
      ∃ parts, toTimeParts (.number value) = .ok parts ∧ parts.IsRounded value := by
  intro allRounded
  have small : |(2499999 / 2500 : ℚ)| < 24 * 2 ^ 32 * 3600000 := by norm_num [abs_of_pos]
  obtain ⟨parts, partsEq, isRounded⟩ := allRounded (2499999 / 2500) small
  cases partsEq
  have early := (numberTimeParts_isRounded_iff _).mp isRounded
  have late : behindSecond (2499999 / 2500) = 2499999 / 2500 := by
    have second : ⌊(2499999 / 2500 / 1000 : ℚ)⌋ = 0 := by norm_num [Int.floor_eq_iff]
    rw [behindSecond, remainder, abs_of_pos (by norm_num), second]
    norm_num
  rw [late] at early
  norm_num at early

end Mysql2.Packets

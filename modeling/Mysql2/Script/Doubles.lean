import Mathlib.Data.Int.Log
import Mathlib.Data.Rat.Floor
import Mathlib.Tactic.Common
import Mathlib.Tactic.FieldSimp
import Mathlib.Tactic.Linarith
import Mathlib.Tactic.NormNum
import Mathlib.Tactic.Positivity

/-!
# Doubles

Finite doubles as signs and rational magnitudes, and their arithmetic: the exact result, rounded
to the nearest double, ties to even.  The exponents have a lower bound, as they have in binary64,
but no upper one, so the results that would be infinite are large doubles here.
-/

namespace Mysql2.Script

/-! ## Integers next to a rational number -/

/-- The integer next to a number, ties to even. -/
def roundEven (q : ℚ) : Int :=
  if q - ⌊q⌋ < 1 / 2 then ⌊q⌋
  else if 1 / 2 < q - ⌊q⌋ then ⌊q⌋ + 1
  else if ⌊q⌋ % 2 = 0 then ⌊q⌋
  else ⌊q⌋ + 1

theorem roundEven_intCast (n : Int) : roundEven n = n := by
  have exactly : (n : ℚ) - (⌊(n : ℚ)⌋ : Int) < 1 / 2 := by
    rw [Int.floor_intCast, sub_self]
    norm_num
  rw [roundEven, if_pos exactly, Int.floor_intCast]

theorem abs_roundEven_sub_le (q : ℚ) : |(roundEven q : ℚ) - q| ≤ 1 / 2 := by
  have low := Int.floor_le q
  have high := Int.lt_floor_add_one q
  rw [roundEven, abs_le]
  split
  case isTrue near => constructor <;> linarith
  case isFalse notNear =>
    split
    case isTrue far =>
      push_cast
      constructor <;> linarith
    case isFalse notFar =>
      split
      · constructor <;> linarith
      · push_cast
        constructor <;> linarith

/-- An integer that is as near is the other one of a tie. -/
theorem roundEven_tie {q : ℚ} {n : Int} (near : |(n : ℚ) - q| ≤ |(roundEven q : ℚ) - q|)
    (other : n ≠ roundEven q) :
    |(n : ℚ) - q| = |(roundEven q : ℚ) - q| ∧ roundEven q % 2 = 0 := by
  have low := Int.floor_le q
  have high := Int.lt_floor_add_one q
  have half := near.trans (abs_roundEven_sub_le q)
  rw [abs_le] at half
  by_cases isNear : q - ⌊q⌋ < 1 / 2
  · have rounded : roundEven q = ⌊q⌋ := if_pos isNear
    have below : (n : ℚ) < (⌊q⌋ + 1 : Int) := by
      push_cast
      linarith
    have above : ((⌊q⌋ - 1 : Int) : ℚ) < n := by
      push_cast
      linarith
    have belowInt : n < ⌊q⌋ + 1 := by exact_mod_cast below
    have aboveInt : ⌊q⌋ - 1 < n := by exact_mod_cast above
    omega
  · by_cases isFar : 1 / 2 < q - ⌊q⌋
    · have rounded : roundEven q = ⌊q⌋ + 1 := by rw [roundEven, if_neg isNear, if_pos isFar]
      have below : (n : ℚ) < (⌊q⌋ + 2 : Int) := by
        push_cast
        linarith
      have above : ((⌊q⌋ : Int) : ℚ) < n := by linarith
      have belowInt : n < ⌊q⌋ + 2 := by exact_mod_cast below
      have aboveInt : ⌊q⌋ < n := by exact_mod_cast above
      omega
    · have half : q = ⌊q⌋ + 1 / 2 := by linarith
      have below : (n : ℚ) < (⌊q⌋ + 2 : Int) := by
        push_cast
        linarith
      have above : ((⌊q⌋ - 1 : Int) : ℚ) < n := by
        push_cast
        linarith
      have belowInt : n < ⌊q⌋ + 2 := by exact_mod_cast below
      have aboveInt : ⌊q⌋ - 1 < n := by exact_mod_cast above
      have distance (k : Int) (neighbour : k = ⌊q⌋ ∨ k = ⌊q⌋ + 1) : |(k : ℚ) - q| = 1 / 2 := by
        rcases neighbour with rfl | rfl
        · have gap : ((⌊q⌋ : Int) : ℚ) - q = -(1 / 2) := by linarith
          rw [gap, abs_neg, abs_of_pos (by norm_num)]
        · have gap : ((⌊q⌋ + 1 : Int) : ℚ) - q = 1 / 2 := by
            push_cast
            linarith
          rw [gap, abs_of_pos (by norm_num)]
      have rounded : roundEven q = if ⌊q⌋ % 2 = 0 then ⌊q⌋ else ⌊q⌋ + 1 := by
        rw [roundEven, if_neg isNear, if_neg isFar]
      have neighbour : roundEven q = ⌊q⌋ ∨ roundEven q = ⌊q⌋ + 1 := by
        rw [rounded]
        split
        · exact .inl rfl
        · exact .inr rfl
      refine ⟨?_, ?_⟩
      · rw [distance n (by omega), distance _ neighbour]
      · rw [rounded]
        split
        · assumption
        · omega

/-- No integer is nearer. -/
theorem abs_roundEven_sub_le_of_int (q : ℚ) (n : Int) : |(roundEven q : ℚ) - q| ≤ |(n : ℚ) - q| := by
  by_contra nearer
  push Not at nearer
  have other : n ≠ roundEven q := by
    rintro rfl
    exact lt_irrefl _ nearer
  have tie := (roundEven_tie nearer.le other).1
  exact nearer.ne tie

/-! ## Magnitudes -/

/-- The magnitudes of doubles. -/
def IsMagnitude (q : ℚ) : Prop :=
  ∃ (significand : Nat) (exponent : Int), significand < 2 ^ 53 ∧ -1074 ≤ exponent ∧
    q = significand * 2 ^ exponent

theorem IsMagnitude.nonneg {q : ℚ} (isMagnitude : IsMagnitude q) : 0 ≤ q := by
  obtain ⟨significand, exponent, -, -, rfl⟩ := isMagnitude
  exact mul_nonneg significand.cast_nonneg (zpow_nonneg (by norm_num) exponent)

/-- Whether a magnitude has a significand of full width that is even. -/
def IsEvenMagnitude (q : ℚ) : Prop :=
  ∃ (significand : Nat) (exponent : Int), significand < 2 ^ 53 ∧
    (2 ^ 52 ≤ significand ∧ -1074 ≤ exponent ∨ exponent = -1074) ∧ significand % 2 = 0 ∧
      q = significand * 2 ^ exponent

/-- A magnitude that is rounded correctly: none is nearer, and if another one is as near, this
one is even. -/
structure IsNearest (q magnitude : ℚ) : Prop where
  isMagnitude : IsMagnitude magnitude
  le : ∀ other, IsMagnitude other → |magnitude - q| ≤ |other - q|
  tie : ∀ other, IsMagnitude other → other ≠ magnitude → |other - q| = |magnitude - q| →
    IsEvenMagnitude magnitude

/-- The exponent of the unit in the last place. -/
def unitExponent (q : ℚ) : Int :=
  max (Int.log 2 q - 52) (-1074)

/-- The unit in the last place. -/
def unit (q : ℚ) : ℚ :=
  2 ^ unitExponent q

/-- The magnitude next to a positive number. -/
def nearest (q : ℚ) : ℚ :=
  roundEven (q / unit q) * unit q

theorem roundEven_le {q : ℚ} {n : Int} (below : q ≤ n) : roundEven q ≤ n := by
  by_contra above
  push Not at above
  have aboveRat : (n : ℚ) < roundEven q := by exact_mod_cast above
  have nearest := abs_roundEven_sub_le_of_int q n
  rw [abs_of_nonneg (by linarith), abs_of_nonneg (by linarith)] at nearest
  linarith

theorem le_roundEven {q : ℚ} {n : Int} (above : (n : ℚ) ≤ q) : n ≤ roundEven q := by
  by_contra below
  push Not at below
  have belowRat : (roundEven q : ℚ) < n := by exact_mod_cast below
  have nearest := abs_roundEven_sub_le_of_int q n
  rw [abs_of_nonpos (by linarith), abs_of_nonpos (by linarith)] at nearest
  linarith

theorem unit_pos (q : ℚ) : 0 < unit q :=
  zpow_pos (by norm_num) _

theorem le_unitExponent (q : ℚ) : -1074 ≤ unitExponent q :=
  le_max_right _ _

/-- A number is less than the significands of full width. -/
theorem lt_unit (q : ℚ) : q < 2 ^ 53 * unit q := by
  have exponents : Int.log 2 q + 1 ≤ ((53 : Nat) : Int) + unitExponent q := by
    have left : Int.log 2 q - 52 ≤ unitExponent q := le_max_left _ _
    push_cast
    linarith
  calc q < ((2 : Nat) : ℚ) ^ (Int.log 2 q + 1) := Int.lt_zpow_succ_log_self (by decide) q
    _ ≤ 2 ^ (((53 : Nat) : Int) + unitExponent q) :=
        zpow_le_zpow_right₀ (by norm_num) exponents
    _ = 2 ^ 53 * unit q := by
        rw [zpow_add₀ (by norm_num), zpow_natCast]
        rfl

/-- Above the least exponent, all significands have full width. -/
theorem unit_le {q : ℚ} (positive : 0 < q) (normal : -1074 < unitExponent q) :
    2 ^ 52 * unit q ≤ q := by
  have exponent : ((52 : Nat) : Int) + unitExponent q = Int.log 2 q := by
    unfold unitExponent at normal ⊢
    rw [max_eq_left (by omega)]
    push_cast
    omega
  calc 2 ^ 52 * unit q = 2 ^ (((52 : Nat) : Int) + unitExponent q) := by
        rw [zpow_add₀ (by norm_num), zpow_natCast]
        rfl
    _ = ((2 : Nat) : ℚ) ^ Int.log 2 q := by
        rw [exponent]
        norm_num
    _ ≤ q := Int.zpow_log_le_self (by decide) positive

theorem nearest_zero : nearest 0 = 0 := by
  have rounded : roundEven 0 = 0 := roundEven_intCast 0
  rw [nearest, zero_div, rounded, Int.cast_zero, zero_mul]

/-- The significand that is rounded. -/
theorem roundEven_range {q : ℚ} (nonneg : 0 ≤ q) :
    0 ≤ roundEven (q / unit q) ∧ roundEven (q / unit q) ≤ 2 ^ 53 := by
  constructor
  · apply le_roundEven
    rw [Int.cast_zero]
    exact div_nonneg nonneg (unit_pos q).le
  · apply roundEven_le
    rw [div_le_iff₀ (unit_pos q)]
    push_cast
    exact (lt_unit q).le

/-- Above the least exponent, the significand that is rounded has full width. -/
theorem le_roundEven_of_normal {q : ℚ} (positive : 0 < q) (normal : unitExponent q ≠ -1074) :
    2 ^ 52 ≤ roundEven (q / unit q) := by
  have least := le_unitExponent q
  apply le_roundEven
  rw [le_div_iff₀ (unit_pos q), Int.cast_pow, Int.cast_ofNat]
  exact unit_le positive (by omega)

/-- A significand that is rounded to the next power of two is one of the next unit. -/
theorem magnitude_nearest {q : ℚ} (positive : 0 < q) :
    ∃ (significand : Nat) (exponent : Int), significand < 2 ^ 53 ∧ -1074 ≤ exponent ∧
      (2 ^ 52 ≤ significand ∨ exponent = -1074) ∧
      (roundEven (q / unit q) % 2 = 0 → significand % 2 = 0) ∧
      nearest q = significand * 2 ^ exponent := by
  obtain ⟨low, high⟩ := roundEven_range positive.le
  have least := le_unitExponent q
  by_cases carries : roundEven (q / unit q) = 2 ^ 53
  · refine ⟨2 ^ 52, unitExponent q + 1, by decide, by omega, .inl le_rfl, fun _ => by decide, ?_⟩
    rw [nearest, carries, zpow_add_one₀ (by norm_num), unit]
    push_cast
    ring
  · have cast : ((roundEven (q / unit q)).toNat : Int) = roundEven (q / unit q) :=
      Int.toNat_of_nonneg low
    refine ⟨(roundEven (q / unit q)).toNat, unitExponent q, by omega, least, ?_, by omega, ?_⟩
    · by_cases normal : unitExponent q = -1074
      · exact .inr normal
      · have full := le_roundEven_of_normal positive normal
        exact .inl (by omega)
    · rw [nearest, unit]
      congr 1
      exact_mod_cast congrArg (Int.cast : Int → ℚ) cast.symm

theorem isMagnitude_zero : IsMagnitude 0 :=
  ⟨0, 0, by decide, by decide, by rw [Nat.cast_zero, zero_mul]⟩

theorem isMagnitude_nearest {q : ℚ} (nonneg : 0 ≤ q) : IsMagnitude (nearest q) := by
  rcases nonneg.eq_or_lt with rfl | positive
  · rw [nearest_zero]
    exact isMagnitude_zero
  · obtain ⟨significand, exponent, width, least, -, -, eq⟩ := magnitude_nearest positive
    exact ⟨significand, exponent, width, least, eq⟩

/-- A magnitude is a multiple of the unit, or less than all significands of full width. -/
theorem multiple_or_lt {q magnitude : ℚ} (positive : 0 < q) (isMagnitude : IsMagnitude magnitude) :
    (∃ n : Int, magnitude = n * unit q) ∨ magnitude < 2 ^ 52 * unit q ∧ 2 ^ 52 * unit q ≤ q := by
  obtain ⟨significand, exponent, width, least, rfl⟩ := isMagnitude
  by_cases coarse : unitExponent q ≤ exponent
  · left
    obtain ⟨steps, stepsEq⟩ := Int.le.dest coarse
    refine ⟨significand * 2 ^ steps, ?_⟩
    rw [← stepsEq, zpow_add₀ (by norm_num), zpow_natCast, unit]
    push_cast
    ring
  · right
    push Not at coarse
    refine ⟨?_, unit_le positive (by omega)⟩
    have widthRat : (significand : ℚ) < 2 ^ 53 := by exact_mod_cast width
    have finer : (2 : ℚ) ^ exponent ≤ 2 ^ (unitExponent q - 1) :=
      zpow_le_zpow_right₀ (by norm_num) (by omega)
    have half : (2 : ℚ) ^ 53 * 2 ^ (unitExponent q - 1) = 2 ^ 52 * unit q := by
      rw [zpow_sub_one₀ (by norm_num), unit]
      ring
    calc (significand : ℚ) * 2 ^ exponent < 2 ^ 53 * 2 ^ exponent :=
          mul_lt_mul_of_pos_right widthRat (zpow_pos (by norm_num) _)
      _ ≤ 2 ^ 53 * 2 ^ (unitExponent q - 1) := mul_le_mul_of_nonneg_left finer (by norm_num)
      _ = 2 ^ 52 * unit q := half

/-- Distances, in units. -/
theorem abs_mul_unit_sub (q : ℚ) (n : Int) :
    |(n : ℚ) * unit q - q| = |(n : ℚ) - q / unit q| * unit q := by
  have scaled : (n : ℚ) * unit q - q = ((n : ℚ) - q / unit q) * unit q := by
    rw [sub_mul, div_mul_cancel₀ _ (unit_pos q).ne']
  rw [scaled, abs_mul, abs_of_pos (unit_pos q)]

theorem abs_nearest_sub_le_of_int (q : ℚ) (n : Int) : |nearest q - q| ≤ |(n : ℚ) * unit q - q| := by
  rw [nearest, abs_mul_unit_sub, abs_mul_unit_sub]
  exact mul_le_mul_of_nonneg_right (abs_roundEven_sub_le_of_int _ n) (unit_pos q).le

/-- The result is rounded correctly. -/
theorem isNearest_nearest {q : ℚ} (nonneg : 0 ≤ q) : IsNearest q (nearest q) := by
  rcases nonneg.eq_or_lt with rfl | positive
  · rw [nearest_zero]
    refine ⟨isMagnitude_zero, ?_, ?_⟩
    · intro other _
      rw [sub_zero, abs_zero]
      exact abs_nonneg _
    · intro other _ differs same
      rw [sub_zero, sub_zero, abs_zero, abs_eq_zero] at same
      exact absurd same differs
  · have farther (other : ℚ) (below : other < 2 ^ 52 * unit q) (above : 2 ^ 52 * unit q ≤ q) :
        |nearest q - q| < |other - q| := by
      have full := abs_nearest_sub_le_of_int q (2 ^ 52)
      rw [Int.cast_pow, Int.cast_ofNat] at full
      rw [abs_of_nonpos (show 2 ^ 52 * unit q - q ≤ 0 by linarith)] at full
      rw [abs_of_neg (show other - q < 0 by linarith)]
      linarith
    refine ⟨isMagnitude_nearest nonneg, ?_, ?_⟩
    · intro other isMagnitude
      rcases multiple_or_lt positive isMagnitude with ⟨n, rfl⟩ | ⟨below, above⟩
      · exact abs_nearest_sub_le_of_int q n
      · exact (farther other below above).le
    · intro other isMagnitude differs same
      rcases multiple_or_lt positive isMagnitude with ⟨n, rfl⟩ | ⟨below, above⟩
      · have notRounded : n ≠ roundEven (q / unit q) := by
          rintro rfl
          exact differs rfl
        rw [nearest, abs_mul_unit_sub, abs_mul_unit_sub] at same
        have near := mul_right_cancel₀ (unit_pos q).ne' same
        have even := (roundEven_tie near.le notRounded).2
        obtain ⟨significand, exponent, width, least, full, evenIf, eq⟩ :=
          magnitude_nearest positive
        exact ⟨significand, exponent, width, full.imp_left (⟨·, least⟩), evenIf even, eq⟩
      · exact absurd same (farther other below above).ne'

/-- A magnitude is not rounded. -/
theorem nearest_of_isMagnitude {q : ℚ} (isMagnitude : IsMagnitude q) : nearest q = q := by
  have distance := (isNearest_nearest isMagnitude.nonneg).le q isMagnitude
  rw [sub_self, abs_zero] at distance
  have zero := abs_eq_zero.mp (le_antisymm distance (abs_nonneg _))
  linarith

/-- Rounding does not pass a magnitude from above. -/
theorem le_nearest {q magnitude : ℚ} (isMagnitude : IsMagnitude magnitude) (below : magnitude ≤ q) :
    magnitude ≤ nearest q := by
  have distance :=
    (isNearest_nearest (le_trans isMagnitude.nonneg below)).le magnitude isMagnitude
  rw [abs_of_nonpos (show magnitude - q ≤ 0 by linarith)] at distance
  have least := neg_le_of_abs_le distance
  linarith

/-- Rounding does not pass a magnitude from below. -/
theorem nearest_le {q magnitude : ℚ} (nonneg : 0 ≤ q) (isMagnitude : IsMagnitude magnitude)
    (above : q ≤ magnitude) : nearest q ≤ magnitude := by
  have distance := (isNearest_nearest nonneg).le magnitude isMagnitude
  rw [abs_of_nonneg (show 0 ≤ magnitude - q by linarith)] at distance
  have greatest := le_of_abs_le distance
  linarith

/-! ## Doubles and their arithmetic -/

/-- A finite double. -/
@[ext]
structure Double where
  negative : Bool
  magnitude : ℚ
  isMagnitude : IsMagnitude magnitude

namespace Double

def value (double : Double) : ℚ :=
  if double.negative then -double.magnitude else double.magnitude

/-- A sign and a magnitude that is rounded. -/
def rounded (negative : Bool) (q : ℚ) : Double where
  negative := negative
  magnitude := nearest |q|
  isMagnitude := isMagnitude_nearest (abs_nonneg q)

/-- The double of an integer. -/
def ofInt (n : Int) : Double :=
  rounded (n < 0) n

/-- A zero has the sign that both summands have. -/
def add (first second : Double) : Double :=
  let sum := first.value + second.value
  rounded (if sum = 0 then first.negative && second.negative else sum < 0) sum

def mul (first second : Double) : Double :=
  rounded (first.negative != second.negative) (first.magnitude * second.magnitude)

/-- The quotient, for a divisor that is not zero. -/
def div (dividend divisor : Double) : Double :=
  rounded (dividend.negative != divisor.negative) (dividend.magnitude / divisor.magnitude)

/-- A double that is a natural number. -/
structure IsNat (double : Double) (n : Nat) : Prop where
  positive : double.negative = false
  magnitude : double.magnitude = n

end Double

theorem isMagnitude_natCast {n : Nat} (small : n ≤ 2 ^ 53) : IsMagnitude n := by
  by_cases greatest : n = 2 ^ 53
  · refine ⟨2 ^ 52, 1, by decide, by decide, ?_⟩
    rw [greatest]
    norm_num
  · exact ⟨n, 0, by omega, by decide, by rw [zpow_zero, mul_one]⟩

/-- A power of ten is a double while the power of five fits into the significand. -/
theorem isMagnitude_ten_pow {k : Nat} (small : k ≤ 22) : IsMagnitude (10 ^ k) := by
  refine ⟨5 ^ k, k, ?_, by omega, ?_⟩
  · calc 5 ^ k ≤ 5 ^ 22 := Nat.pow_le_pow_right (by decide) small
      _ < 2 ^ 53 := by decide
  · rw [zpow_natCast, Nat.cast_pow, Nat.cast_ofNat, ← mul_pow]
    norm_num

namespace Double

theorem magnitude_rounded_natCast {n : Nat} (small : n ≤ 2 ^ 53) (negative : Bool) :
    (rounded negative n).magnitude = n := by
  show nearest |(n : ℚ)| = n
  rw [abs_of_nonneg n.cast_nonneg, nearest_of_isMagnitude (isMagnitude_natCast small)]

theorem isNat_ofInt {n : Nat} (small : n ≤ 2 ^ 53) : (ofInt n).IsNat n where
  positive := by simp [ofInt, rounded]
  magnitude := by
    rw [ofInt, Int.cast_natCast]
    exact magnitude_rounded_natCast small _

namespace IsNat

variable {first second : Double} {m n : Nat}

theorem value (isNat : first.IsNat n) : first.value = n := by
  simp [Double.value, isNat.positive, isNat.magnitude]

/-- A product that is small enough is exact. -/
theorem mul (isFirst : first.IsNat m) (isSecond : second.IsNat n) (small : m * n ≤ 2 ^ 53) :
    (first.mul second).IsNat (m * n) where
  positive := by simp [Double.mul, rounded, isFirst.positive, isSecond.positive]
  magnitude := by
    rw [Double.mul, isFirst.magnitude, isSecond.magnitude, ← Nat.cast_mul]
    exact magnitude_rounded_natCast small _

/-- A sum that is small enough is exact. -/
theorem add (isFirst : first.IsNat m) (isSecond : second.IsNat n) (small : m + n ≤ 2 ^ 53) :
    (first.add second).IsNat (m + n) where
  positive := by
    have nonneg : ¬((m : ℚ) + n < 0) := not_lt.mpr (by positivity)
    simp [Double.add, rounded, isFirst.value, isSecond.value, isFirst.positive, nonneg]
  magnitude := by
    rw [Double.add, isFirst.value, isSecond.value, ← Nat.cast_add]
    exact magnitude_rounded_natCast small _

end IsNat

end Double

/-! ## Bits of doubles -/

/-- The number that the bits of a double stand for, if it is finite. -/
def bitsValue (bits : UInt64) : Option ℚ :=
  let exponent : Nat := bits.toNat / 2 ^ 52 % 2048
  let fraction : Nat := bits.toNat % 2 ^ 52
  let significand : Nat := if exponent = 0 then fraction else 2 ^ 52 + fraction
  let magnitude : ℚ := significand * 2 ^ ((max exponent 1 : Int) - 1075)
  if exponent = 2047 then none
  else some (if bits.toNat / 2 ^ 63 = 1 then -magnitude else magnitude)

/-- `Number.isInteger(value)`. -/
def isIntegerBits (bits : UInt64) : Bool :=
  (bitsValue bits).any fun value => value.den = 1

/-- The integer that a double is, if `Number.isSafeInteger(value)`. -/
def safeIntegerBits (bits : UInt64) : Option Int :=
  (bitsValue bits).bind fun value =>
    if value.den = 1 ∧ value.num.natAbs < 9007199254740992 then some value.num else none

theorem bitsValue_of_safeInteger {bits : UInt64} {n : Int} (safe : safeIntegerBits bits = some n) :
    bitsValue bits = some (n : ℚ) := by
  obtain ⟨value, valueEq, found⟩ := Option.bind_eq_some_iff.mp safe
  split at found
  · next isSafe =>
      obtain rfl := Option.some.inj found
      rw [valueEq, Rat.coe_int_num_of_den_eq_one isSafe.1]
  · cases found

theorem isIntegerBits_of_safeInteger {bits : UInt64} {n : Int}
    (safe : safeIntegerBits bits = some n) : isIntegerBits bits = true := by
  rw [isIntegerBits, bitsValue_of_safeInteger safe]
  exact decide_eq_true (Rat.den_intCast n)

end Mysql2.Script

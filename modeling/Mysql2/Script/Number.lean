import Mathlib.Algebra.Group.Int.Defs
import Mathlib.Algebra.Group.Nat.Defs
import Mathlib.Data.List.TakeWhile
import Mathlib.Tactic.Common

/-!
# Numbers of a script

A double that holds an integer is given by that integer, so negative zero is not
told from zero and the exponent has no bound.  Arithmetic on such doubles is
exact arithmetic followed by `round`.
-/

namespace Mysql2.Script

/-- A natural number rounded to 53 significant bits, ties to even. -/
def roundNat (n : Nat) : Nat :=
  if n < 9007199254740992 then n
  else
    let unit := 2 ^ (n.log2 - 52)
    let below := n / unit * unit
    if unit < 2 * (n - below) ∨ (unit = 2 * (n - below) ∧ n / unit % 2 = 1) then below + unit
    else below

/-- The double next to an integer. -/
def round (value : Int) : Int :=
  if value < 0 then -(roundNat value.natAbs : Int) else roundNat value.natAbs

/-- `Number.isSafeInteger(value)`. -/
def isSafeInteger (value : Int) : Bool :=
  value.natAbs < 9007199254740992

theorem roundNat_of_lt {n : Nat} (small : n < 9007199254740992) : roundNat n = n := by
  rw [roundNat, if_pos small]

/-- The multiple of the unit in the last place below a number. -/
theorem le_below {n : Nat} (large : 9007199254740992 ≤ n) :
    9007199254740992 ≤ n / 2 ^ (n.log2 - 52) * 2 ^ (n.log2 - 52) := by
  have nonzero : n ≠ 0 := by omega
  have bits : 53 ≤ n.log2 := (Nat.le_log2 nonzero).mpr large
  have split : 2 ^ n.log2 = 2 ^ 52 * 2 ^ (n.log2 - 52) := by
    rw [← Nat.pow_add]
    congr 1
    omega
  have quotient : 2 ^ 52 ≤ n / 2 ^ (n.log2 - 52) := by
    rw [Nat.le_div_iff_mul_le (Nat.two_pow_pos _), ← split]
    exact Nat.log2_self_le nonzero
  calc 9007199254740992 = 2 ^ 53 := rfl
    _ ≤ 2 ^ n.log2 := Nat.pow_le_pow_right (by decide) bits
    _ = 2 ^ 52 * 2 ^ (n.log2 - 52) := split
    _ ≤ n / 2 ^ (n.log2 - 52) * 2 ^ (n.log2 - 52) := Nat.mul_le_mul_right _ quotient

theorem le_roundNat {n : Nat} (large : 9007199254740992 ≤ n) :
    9007199254740992 ≤ roundNat n := by
  have below := le_below large
  rw [roundNat, if_neg (by omega)]
  dsimp only
  split
  · exact Nat.le_trans below (Nat.le_add_right _ _)
  · exact below

theorem natAbs_round (value : Int) : (round value).natAbs = roundNat value.natAbs := by
  rw [round]
  split <;> simp

theorem round_of_safe {value : Int} (safe : isSafeInteger value = true) : round value = value := by
  have small : value.natAbs < 9007199254740992 := by simpa [isSafeInteger] using safe
  rw [round, roundNat_of_lt small]
  split <;> omega

/-- Rounding does not make an integer safe. -/
theorem isSafeInteger_round (value : Int) :
    isSafeInteger (round value) = isSafeInteger value := by
  cases safe : isSafeInteger value with
  | true => rw [round_of_safe safe, safe]
  | false =>
      have large : 9007199254740992 ≤ value.natAbs := by simpa [isSafeInteger] using safe
      rw [isSafeInteger, natAbs_round]
      exact decide_eq_false (Nat.not_lt.mpr (le_roundNat large))

/-- An operation whose exact result is safe is exact. -/
theorem round_natCast_of_lt {n : Nat} (small : n < 9007199254740992) : round (n : Int) = n :=
  round_of_safe (by simpa [isSafeInteger] using small)

/-! ## Decimal numerals -/

/-- White space and line terminators. -/
def isWhitespace (char : Char) : Bool :=
  char.toNat ∈ [0x09, 0x0a, 0x0b, 0x0c, 0x0d, 0x20, 0xa0, 0x1680, 0x2028, 0x2029, 0x202f, 0x205f,
    0x3000, 0xfeff] ∨ (0x2000 ≤ char.toNat ∧ char.toNat ≤ 0x200a)

/-- The sign of a numeral and what follows it. -/
def signOf : List Char → Int × List Char
  | '-' :: text => (-1, text)
  | '+' :: text => (1, text)
  | text => (1, text)

/-- `parseInt(text, 10)`, with `none` for `NaN`. -/
def parseInt (text : List Char) : Option Int :=
  let signed := signOf (text.dropWhile isWhitespace)
  let digits := signed.2.takeWhile Char.isDigit
  if digits = [] then none else some (signed.1 * round (Nat.ofDigitChars 10 digits 0))

theorem toNat_of_isDigit {char : Char} (digit : char.isDigit = true) :
    48 ≤ char.toNat ∧ char.toNat ≤ 57 := by
  simp only [Char.isDigit, ge_iff_le, Bool.and_eq_true, decide_eq_true_eq,
    UInt32.le_iff_toNat_le] at digit
  exact digit

theorem isWhitespace_of_isDigit {char : Char} (digit : char.isDigit = true) :
    isWhitespace char = false := by
  have range := toNat_of_isDigit digit
  simp [isWhitespace]
  omega

theorem signOf_of_isDigit {char : Char} {text : List Char} (digit : char.isDigit = true) :
    signOf (char :: text) = (1, char :: text) := by
  unfold signOf
  split
  · next heq => simp_all
  · next heq => simp_all
  · rfl

/-- `parseInt` of a text of digits. -/
theorem parseInt_digits {text : List Char} (nonempty : text ≠ [])
    (digits : ∀ char ∈ text, char.isDigit = true) :
    parseInt text = some (round (Nat.ofDigitChars 10 text 0)) := by
  have signEq : signOf (text.dropWhile isWhitespace) = (1, text) := by
    cases textEq : text with
    | nil => rfl
    | cons first rest =>
        have digit := digits first (by simp [textEq])
        rw [List.dropWhile_cons_of_neg (by simp [isWhitespace_of_isDigit digit])]
        exact signOf_of_isDigit digit
  have takeEq : text.takeWhile Char.isDigit = text := List.takeWhile_eq_self_iff.mpr digits
  rw [parseInt, signEq, takeEq, if_neg nonempty, Int.one_mul]

/-- `parseInt` of the digits of a number. -/
theorem parseInt_toDigits (n : Nat) : parseInt (Nat.toDigits 10 n) = some (round n) := by
  have digits : ∀ char ∈ Nat.toDigits 10 n, char.isDigit = true :=
    fun char member => Nat.isDigit_of_mem_toDigits (by decide) (by decide) member
  rw [parseInt_digits Nat.toDigits_ne_nil digits, Nat.ofDigitChars_ten_toDigits]

end Mysql2.Script

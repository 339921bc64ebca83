import Mysql2.Script.Text
import Mathlib.Algebra.Group.Nat.Defs

/-!
# Digits

Digits of a radix in a string, and the numbers that they make.
-/

namespace Mysql2.Script

variable {radix : Nat}

/-- The value of a digit or of a letter, which is a digit of a radix above ten. -/
def unitValue (unit : UInt16) : Nat :=
  let code := unit.toNat
  if 48 ≤ code ∧ code ≤ 57 then code - 48
  else if 97 ≤ code ∧ code ≤ 122 then code - 87
  else if 65 ≤ code ∧ code ≤ 90 then code - 55
  else 36

/-- The digit that a code unit is in a radix of up to 36. -/
def unitDigit (radix : Nat) (unit : UInt16) : Option (Fin radix) :=
  if small : unitValue unit < radix then some ⟨unitValue unit, small⟩ else none

/-- The digits at the start of a string, and what is behind them. -/
def spanDigits (radix : Nat) : JsString → List (Fin radix) × JsString
  | [] => ([], [])
  | unit :: text =>
      match unitDigit radix unit with
      | some digit => (digit :: (spanDigits radix text).1, (spanDigits radix text).2)
      | none => ([], unit :: text)

/-- The number that digits make. -/
def numeral (digits : List (Fin radix)) : Nat :=
  digits.foldl (fun (number : Nat) (digit : Fin radix) => radix * number + digit) 0

theorem ten_pos : 0 < 10 := by
  decide

/-- The decimal digit zero. -/
def zeroDigit : Fin 10 :=
  ⟨0, ten_pos⟩

/-- The code unit of a decimal digit. -/
def digitUnit (digit : Fin 10) : UInt16 :=
  UInt16.ofNat (48 + digit)

/-- The code units of decimal digits. -/
def digitUnits (digits : List (Fin 10)) : JsString :=
  digits.map digitUnit

/-! ## Decimal digits -/

theorem toNat_digitUnit (digit : Fin 10) : (digitUnit digit).toNat = 48 + digit := by
  have small : 48 + digit.val < 65536 := by omega
  rw [digitUnit, UInt16.toNat_ofNat', Nat.mod_eq_of_lt small]

theorem unitDigit_digitUnit (digit : Fin 10) : unitDigit 10 (digitUnit digit) = some digit := by
  revert digit
  decide

/-- A decimal digit has no other code unit. -/
theorem eq_digitUnit {unit : UInt16} {digit : Fin 10} (isDigit : unitDigit 10 unit = some digit) :
    unit = digitUnit digit := by
  rw [unitDigit] at isDigit
  split at isDigit
  · next small =>
      obtain rfl := Option.some.inj isDigit
      apply UInt16.toNat_inj.mp
      rw [toNat_digitUnit]
      unfold unitValue at small ⊢
      dsimp only at small ⊢
      split at small
      · next range =>
          rw [if_pos range]
          omega
      · split at small
        · omega
        · split at small <;> omega
  · cases isDigit

theorem mapM_digitUnits (digits : List (Fin 10)) :
    (digitUnits digits).mapM (unitDigit 10) = some digits := by
  induction digits with
  | nil => rfl
  | cons digit digits ih =>
      rw [digitUnits, List.map_cons, List.mapM_cons, unitDigit_digitUnit, ← digitUnits, ih]
      rfl

theorem mapM_unitDigit_iff {text : JsString} {digits : List (Fin 10)} :
    text.mapM (unitDigit 10) = some digits ↔ text = digitUnits digits := by
  constructor
  · intro isNumeral
    induction text generalizing digits with
    | nil =>
        cases isNumeral
        rfl
    | cons unit text ih =>
        rw [List.mapM_cons] at isNumeral
        obtain ⟨digit, isDigit, others⟩ := Option.bind_eq_some_iff.mp isNumeral
        obtain ⟨rest, isRest, same⟩ := Option.bind_eq_some_iff.mp others
        obtain rfl := Option.some.inj same
        rw [eq_digitUnit isDigit, ih isRest]
        rfl
  · rintro rfl
    exact mapM_digitUnits digits

theorem eq_spanDigits_append (text : JsString) :
    text = digitUnits (spanDigits 10 text).1 ++ (spanDigits 10 text).2 := by
  induction text with
  | nil => rfl
  | cons unit text ih =>
      rw [spanDigits]
      cases isDigit : unitDigit 10 unit with
      | none => rfl
      | some digit =>
          rw [eq_digitUnit isDigit]
          exact congrArg (digitUnit digit :: ·) ih

end Mysql2.Script

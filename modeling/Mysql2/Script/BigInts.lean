import Mathlib.Data.List.DropRight
import Mysql2.Script.Decimal
import Mysql2.Script.Digits
import Mysql2.Script.Number

/-!
# Integers of a script

`BigInt(text)`: a decimal numeral with a sign, a numeral of another radix without one, or
nothing, with white space around it.
-/

namespace Mysql2.Script

/-- White space and line terminators. -/
def isWhitespaceUnit (unit : UInt16) : Bool :=
  isWhitespace (Char.ofNat unit.toNat)

/-- `text.trim()`. -/
def trim (text : JsString) : JsString :=
  (text.dropWhile isWhitespaceUnit).rdropWhile isWhitespaceUnit

/-- The number of a text that consists of digits. -/
def ofDigitUnits (radix : Nat) (text : JsString) : Option Nat :=
  if text = [] then none else (text.mapM (unitDigit radix)).map numeral

/-- The radix that a letter behind a zero stands for. -/
def radixOf (letter : UInt16) : Option Nat :=
  if letter = 0x62 ∨ letter = 0x42 then some 2
  else if letter = 0x6f ∨ letter = 0x4f then some 8
  else if letter = 0x78 ∨ letter = 0x58 then some 16
  else none

/-- The number of a literal with a radix. -/
def nonDecimal : JsString → Option Nat
  | zero :: letter :: digits => do
      let radix ← radixOf letter
      if zero = 0x30 then ofDigitUnits radix digits else none
  | _ => none

/-- The number of decimal digits behind at most one sign. -/
def signedDecimal : JsString → Option Int
  | [] => none
  | unit :: text =>
      if unit = 0x2b then (ofDigitUnits 10 text).map (↑)
      else if unit = 0x2d then (ofDigitUnits 10 text).map fun (number : Nat) => -(number : Int)
      else (ofDigitUnits 10 (unit :: text)).map (↑)

/-- `BigInt(text)`, with `none` for a `SyntaxError`. -/
def stringToBigInt (text : JsString) : Option Int :=
  let literal := trim text
  if literal = [] then some 0
  else
    match nonDecimal literal with
    | some number => some number
    | none => signedDecimal literal

/-- White space is trimmed once. -/
theorem trim_trim (text : JsString) : trim (trim text) = trim text := by
  have firstKept : (trim text).dropWhile isWhitespaceUnit = trim text := by
    rw [List.dropWhile_eq_self_iff]
    intro nonempty isWhite
    have isPrefix : trim text <+: text.dropWhile isWhitespaceUnit :=
      List.rdropWhile_prefix _ _
    have long := Nat.lt_of_lt_of_le nonempty isPrefix.length_le
    rw [isPrefix.getElem nonempty] at isWhite
    exact List.dropWhile_get_zero_not _ _ long isWhite
  rw [trim, firstKept]
  exact List.rdropWhile_idempotent _ _

/-! ## Decimal numerals -/

/-- A decimal numeral, with or without a sign, for a number. -/
def IsDecimalNumeral (text : JsString) (value : Int) : Prop :=
  ∃ digits : List (Fin 10), digits ≠ [] ∧
    ((text = digitUnits digits ∨ text = 0x2b :: digitUnits digits) ∧ value = numeral digits ∨
      text = 0x2d :: digitUnits digits ∧ value = -(numeral digits : Int))

theorem ofDigitUnits_eq_some_iff {text : JsString} {number : Nat} :
    ofDigitUnits 10 text = some number ↔
      ∃ digits : List (Fin 10), digits ≠ [] ∧ text = digitUnits digits ∧ number = numeral digits := by
  rw [ofDigitUnits]
  constructor
  · intro isNumber
    split at isNumber
    · cases isNumber
    · next nonempty =>
        obtain ⟨digits, isNumeral, rfl⟩ := Option.map_eq_some_iff.mp isNumber
        have textEq := mapM_unitDigit_iff.mp isNumeral
        refine ⟨digits, ?_, textEq, rfl⟩
        rintro rfl
        exact nonempty textEq
  · rintro ⟨digits, nonempty, rfl, rfl⟩
    have textNonempty : digitUnits digits ≠ [] := mt List.map_eq_nil_iff.mp nonempty
    rw [if_neg textNonempty, mapM_digitUnits]
    rfl

/-- No digit is a sign, and no digit is a letter. -/
theorem digitUnit_ne (digit : Fin 10) :
    digitUnit digit ≠ 0x2b ∧ digitUnit digit ≠ 0x2d ∧ radixOf (digitUnit digit) = none := by
  revert digit
  decide

theorem signedDecimal_eq_some_iff {text : JsString} {value : Int} :
    signedDecimal text = some value ↔ IsDecimalNumeral text value := by
  constructor
  · intro isNumber
    cases text with
    | nil => cases isNumber
    | cons unit text =>
        rw [signedDecimal] at isNumber
        split at isNumber
        · next isPlus =>
            obtain ⟨number, found, rfl⟩ := Option.map_eq_some_iff.mp isNumber
            obtain ⟨digits, nonempty, rfl, rfl⟩ := ofDigitUnits_eq_some_iff.mp found
            exact ⟨digits, nonempty, .inl ⟨.inr (by rw [isPlus]), rfl⟩⟩
        · split at isNumber
          · next isMinus =>
              obtain ⟨number, found, rfl⟩ := Option.map_eq_some_iff.mp isNumber
              obtain ⟨digits, nonempty, rfl, rfl⟩ := ofDigitUnits_eq_some_iff.mp found
              exact ⟨digits, nonempty, .inr ⟨by rw [isMinus], rfl⟩⟩
          · obtain ⟨number, found, rfl⟩ := Option.map_eq_some_iff.mp isNumber
            obtain ⟨digits, nonempty, textEq, rfl⟩ := ofDigitUnits_eq_some_iff.mp found
            exact ⟨digits, nonempty, .inl ⟨.inl textEq, rfl⟩⟩
  · rintro ⟨digits, nonempty, ⟨rfl | rfl, rfl⟩ | ⟨rfl, rfl⟩⟩
    · have found : ofDigitUnits 10 (digitUnits digits) = some (numeral digits) :=
        ofDigitUnits_eq_some_iff.mpr ⟨digits, nonempty, rfl, rfl⟩
      cases digits with
      | nil => exact absurd rfl nonempty
      | cons digit digits =>
          obtain ⟨notPlus, notMinus, -⟩ := digitUnit_ne digit
          show signedDecimal (digitUnit digit :: digitUnits digits) = _
          rw [signedDecimal, if_neg notPlus, if_neg notMinus]
          exact congrArg (Option.map _) found
    · rw [signedDecimal, if_pos rfl, ofDigitUnits_eq_some_iff.mpr ⟨digits, nonempty, rfl, rfl⟩]
      rfl
    · rw [signedDecimal, if_neg (by decide), if_pos rfl,
        ofDigitUnits_eq_some_iff.mpr ⟨digits, nonempty, rfl, rfl⟩]
      rfl

theorem nonDecimal_cons_digitUnits (unit : UInt16) (digits : List (Fin 10)) :
    nonDecimal (unit :: digitUnits digits) = none := by
  cases digits with
  | nil => rfl
  | cons digit digits =>
      show (radixOf (digitUnit digit)).bind _ = none
      rw [(digitUnit_ne digit).2.2]
      rfl

/-- A decimal numeral is no literal with a radix. -/
theorem IsDecimalNumeral.nonDecimal {text : JsString} {value : Int}
    (isDecimal : IsDecimalNumeral text value) : nonDecimal text = none := by
  obtain ⟨digits, nonempty, ⟨rfl | rfl, -⟩ | ⟨rfl, -⟩⟩ := isDecimal
  · cases digits with
    | nil => exact absurd rfl nonempty
    | cons digit digits => exact nonDecimal_cons_digitUnits _ digits
  · exact nonDecimal_cons_digitUnits _ digits
  · exact nonDecimal_cons_digitUnits _ digits

theorem IsDecimalNumeral.ne_nil {text : JsString} {value : Int}
    (isDecimal : IsDecimalNumeral text value) : text ≠ [] := by
  obtain ⟨digits, nonempty, ⟨rfl | rfl, -⟩ | ⟨rfl, -⟩⟩ := isDecimal
  · exact mt List.map_eq_nil_iff.mp nonempty
  · exact List.cons_ne_nil _ _
  · exact List.cons_ne_nil _ _

/-- The texts that `BigInt` takes. -/
theorem stringToBigInt_eq_some_iff {text : JsString} {value : Int} :
    stringToBigInt text = some value ↔
      trim text = [] ∧ value = 0 ∨ (∃ number : Nat, nonDecimal (trim text) = some number ∧
        value = number) ∨ IsDecimalNumeral (trim text) value := by
  rw [stringToBigInt]
  generalize trim text = literal
  by_cases empty : literal = []
  · subst empty
    rw [if_pos rfl]
    constructor
    · intro isZero
      exact .inl ⟨rfl, (Option.some.inj isZero).symm⟩
    · rintro (⟨-, rfl⟩ | ⟨number, isNumber, -⟩ | isDecimal)
      · rfl
      · cases isNumber
      · exact absurd rfl isDecimal.ne_nil
  · rw [if_neg empty]
    cases radix : nonDecimal literal with
    | some number =>
        constructor
        · intro isNumber
          exact .inr (.inl ⟨number, rfl, (Option.some.inj isNumber).symm⟩)
        · rintro (⟨isEmpty, -⟩ | ⟨other, isNumber, rfl⟩ | isDecimal)
          · exact absurd isEmpty empty
          · cases isNumber
            rfl
          · rw [isDecimal.nonDecimal] at radix
            cases radix
    | none =>
        constructor
        · exact fun isNumber => .inr (.inr (signedDecimal_eq_some_iff.mp isNumber))
        · rintro (⟨isEmpty, -⟩ | ⟨other, isNumber, -⟩ | isDecimal)
          · exact absurd isEmpty empty
          · cases isNumber
          · exact signedDecimal_eq_some_iff.mpr isDecimal

/-! ## Texts of integers -/

/-- A decimal digit of a text. -/
def digitOfChar (char : Char) : Fin 10 :=
  ⟨(char.toNat - 48) % 10, Nat.mod_lt _ ten_pos⟩

theorem digitUnit_digitOfChar {char : Char} (isDigit : char.isDigit = true) :
    charUnits char = [digitUnit (digitOfChar char)] := by
  have range := toNat_of_isDigit isDigit
  have value : (digitOfChar char).val = char.toNat - 48 := Nat.mod_eq_of_lt (by omega)
  have code : 48 + (char.toNat - 48) = char.toNat := by omega
  rw [charUnits_of_small (by omega), digitUnit, value, code]

theorem numeral_digitOfChar (text : List Char) (digits : ∀ char ∈ text, char.isDigit = true) :
    numeral (text.map digitOfChar) = Nat.ofDigitChars 10 text 0 := by
  rw [numeral]
  generalize 0 = start
  induction text generalizing start with
  | nil => exact Nat.ofDigitChars_nil.symm
  | cons char text ih =>
      obtain ⟨isDigit, others⟩ := List.forall_mem_cons.mp digits
      have range := toNat_of_isDigit isDigit
      have value : (digitOfChar char).val = char.toNat - 48 := Nat.mod_eq_of_lt (by omega)
      rw [List.map_cons, List.foldl_cons, Nat.ofDigitChars_cons, ih others, value]
      rfl

theorem flatMap_charUnits (text : List Char) (digits : ∀ char ∈ text, char.isDigit = true) :
    text.flatMap charUnits = digitUnits (text.map digitOfChar) := by
  induction text with
  | nil => rfl
  | cons char text ih =>
      obtain ⟨isDigit, others⟩ := List.forall_mem_cons.mp digits
      rw [List.flatMap_cons, digitUnit_digitOfChar isDigit, ih others]
      rfl

/-- The text of an integer is a decimal numeral. -/
theorem isDecimalNumeral_toString (n : Int) : IsDecimalNumeral (units (toString n)) n := by
  have digits : ∀ char ∈ Nat.toDigits 10 n.natAbs, char.isDigit = true :=
    fun char member => Nat.isDigit_of_mem_toDigits (by decide) (by decide) member
  have number : numeral ((Nat.toDigits 10 n.natAbs).map digitOfChar) = n.natAbs := by
    rw [numeral_digitOfChar _ digits, Nat.ofDigitChars_ten_toDigits]
  refine ⟨(Nat.toDigits 10 n.natAbs).map digitOfChar, ?_, ?_⟩
  · exact mt List.map_eq_nil_iff.mp Nat.toDigits_ne_nil
  · rw [units, toList_toString_int, List.flatMap_append, flatMap_charUnits _ digits, number]
    by_cases negative : n < 0
    · rw [if_pos negative]
      exact .inr ⟨rfl, by omega⟩
    · rw [if_neg negative]
      exact .inl ⟨.inl rfl, by omega⟩

theorem isWhitespaceUnit_digitUnit (digit : Fin 10) :
    isWhitespaceUnit (digitUnit digit) = false := by
  revert digit
  decide

theorem trim_eq_self {text : JsString}
    (noSpace : ∀ unit ∈ text, isWhitespaceUnit unit = false) : trim text = text := by
  have first : text.dropWhile isWhitespaceUnit = text := by
    rw [List.dropWhile_eq_self_iff]
    intro nonempty
    rw [noSpace _ (List.getElem_mem nonempty)]
    exact Bool.false_ne_true
  rw [trim, first, List.rdropWhile_eq_self_iff]
  intro nonempty
  rw [noSpace _ (List.getLast_mem nonempty)]
  exact Bool.false_ne_true

/-- A numeral has no white space. -/
theorem IsDecimalNumeral.trim_eq {text : JsString} {value : Int}
    (isDecimal : IsDecimalNumeral text value) : trim text = text := by
  have noSpace (digits : List (Fin 10)) :
      ∀ unit ∈ digitUnits digits, isWhitespaceUnit unit = false := by
    intro unit member
    obtain ⟨digit, -, rfl⟩ := List.mem_map.mp member
    exact isWhitespaceUnit_digitUnit digit
  apply trim_eq_self
  obtain ⟨digits, -, ⟨rfl | rfl, -⟩ | ⟨rfl, -⟩⟩ := isDecimal
  · exact noSpace digits
  · exact List.forall_mem_cons.mpr ⟨by decide, noSpace digits⟩
  · exact List.forall_mem_cons.mpr ⟨by decide, noSpace digits⟩

/-- The integer comes back from its text. -/
theorem stringToBigInt_toString (n : Int) : stringToBigInt (units (toString n)) = some n := by
  have isDecimal := isDecimalNumeral_toString n
  apply stringToBigInt_eq_some_iff.mpr
  rw [isDecimal.trim_eq]
  exact .inr (.inr isDecimal)

end Mysql2.Script

import Mysql2.Script.Text

/-!
# Texts of values in keys

The texts of integers and of truth values, and lists of texts put together with a
separator that occurs in none of them but the first.
-/

namespace Mysql2.Script

/-- `${value}` for an integer. -/
def integerUnits (value : Int) : JsString :=
  units (toString value)

/-- `${value}` for a truth value. -/
def booleanUnits (value : Bool) : JsString :=
  units (if value then "true" else "false")

theorem toList_toString_int (value : Int) :
    (toString value).toList =
      (if value < 0 then ['-'] else []) ++ Nat.toDigits 10 value.natAbs := by
  show value.repr.toList = _
  rw [Int.repr_eq_if]
  by_cases negative : value < 0
  · have magnitude : (-value).toNat = value.natAbs := by omega
    rw [if_neg (by omega), if_pos negative, String.toList_append, Nat.toList_repr, magnitude]
    rfl
  · have magnitude : value.toNat = value.natAbs := by omega
    rw [if_pos (by omega), if_neg negative, Nat.toList_repr, magnitude]
    rfl

/-- The characters of an integer: a sign and digits. -/
theorem mem_toString_int {value : Int} {char : Char} (member : char ∈ (toString value).toList) :
    char = '-' ∨ char.isDigit = true := by
  rw [toList_toString_int] at member
  rcases List.mem_append.mp member with sign | digit
  · left
    split at sign
    · exact List.mem_singleton.mp sign
    · cases sign
  · exact .inr (Nat.isDigit_of_mem_toDigits (by decide) (by decide) digit)

theorem toString_int_injective {first second : Int} (same : toString first = toString second) :
    first = second := by
  have lists := congrArg String.toList same
  rw [toList_toString_int, toList_toString_int] at lists
  have digitsOf : ∀ value : Int, Nat.ofDigitChars 10 (Nat.toDigits 10 value.natAbs) 0 =
      value.natAbs := fun value => Nat.ofDigitChars_ten_toDigits
  have noSign : ∀ value : Int, (Nat.toDigits 10 value.natAbs).head? ≠ some '-' := by
    intro value isSign
    have digit := Nat.isDigit_of_mem_toDigits (b := 10) (by decide) (by decide)
      (List.mem_of_mem_head? isSign)
    exact absurd digit (by decide)
  by_cases firstNegative : first < 0
  · by_cases secondNegative : second < 0
    · rw [if_pos firstNegative, if_pos secondNegative] at lists
      have digits := List.append_cancel_left lists
      have magnitude := digitsOf first
      rw [digits, digitsOf second] at magnitude
      omega
    · rw [if_pos firstNegative, if_neg secondNegative] at lists
      exact absurd (congrArg List.head? lists).symm (noSign second)
  · by_cases secondNegative : second < 0
    · rw [if_neg firstNegative, if_pos secondNegative] at lists
      exact absurd (congrArg List.head? lists) (noSign first)
    · rw [if_neg firstNegative, if_neg secondNegative] at lists
      have digits := List.append_cancel_left lists
      have magnitude := digitsOf first
      rw [digits, digitsOf second] at magnitude
      omega

theorem charUnits_of_small {char : Char} (small : char.toNat < 0x10000) :
    charUnits char = [UInt16.ofNat char.toNat] :=
  if_pos small

/-- The characters can be read back from units that are one for each. -/
theorem map_units {text : String} (small : ∀ char ∈ text.toList, char.toNat < 0x10000) :
    (units text).map (fun unit => Char.ofNat unit.toNat) = text.toList := by
  rw [units]
  generalize text.toList = chars at small
  induction chars with
  | nil => rfl
  | cons char chars ih =>
      obtain ⟨first, rest⟩ := List.forall_mem_cons.mp small
      rw [List.flatMap_cons, charUnits_of_small first, List.map_append, ih rest]
      simp [UInt16.toNat_ofNat', Nat.mod_eq_of_lt first]

theorem mem_units {text : String} (small : ∀ char ∈ text.toList, char.toNat < 0x10000)
    {unit : UInt16} (member : unit ∈ units text) :
    ∃ char ∈ text.toList, unit = UInt16.ofNat char.toNat := by
  obtain ⟨char, isChar, isUnit⟩ := List.mem_flatMap.mp member
  rw [charUnits_of_small (small char isChar), List.mem_singleton] at isUnit
  exact ⟨char, isChar, isUnit⟩

theorem small_toString_int {value : Int} :
    ∀ char ∈ (toString value).toList, char.toNat < 0x10000 := by
  intro char member
  rcases mem_toString_int member with rfl | digit
  · decide
  · have range : char.toNat ≤ 57 := by
      simp only [Char.isDigit, Bool.and_eq_true, decide_eq_true_eq] at digit
      exact digit.2
    omega

theorem integerUnits_injective {first second : Int}
    (same : integerUnits first = integerUnits second) : first = second := by
  apply toString_int_injective
  apply String.toList_injective
  rw [← map_units small_toString_int, ← map_units small_toString_int]
  exact congrArg _ same

/-- An integer has no colon. -/
theorem colon_notMem_integerUnits (value : Int) : 58 ∉ integerUnits value := by
  intro member
  obtain ⟨char, isChar, isColon⟩ := mem_units small_toString_int member
  have small := small_toString_int char isChar
  have code := congrArg UInt16.toNat isColon
  rw [UInt16.toNat_ofNat', Nat.mod_eq_of_lt small] at code
  rcases mem_toString_int isChar with rfl | digit
  · exact absurd code (by decide)
  · have range : char.toNat ≤ 57 := by
      simp only [Char.isDigit, Bool.and_eq_true, decide_eq_true_eq] at digit
      exact digit.2
    have isFiftyEight : (58 : UInt16).toNat = 58 := rfl
    omega

theorem booleanUnits_injective {first second : Bool}
    (same : booleanUnits first = booleanUnits second) : first = second := by
  revert same
  revert first second
  decide

theorem colon_notMem_booleanUnits (value : Bool) : 58 ∉ booleanUnits value := by
  revert value
  decide

/-- What stands behind the last separator can be told apart from what stands before it. -/
theorem append_separator_injective {separator : UInt16} {first second last other : JsString}
    (notLast : separator ∉ last) (notOther : separator ∉ other)
    (same : first ++ separator :: last = second ++ separator :: other) :
    first = second ∧ last = other := by
  rcases List.append_eq_append_iff.mp same with ⟨gap, secondEq, lastEq⟩ | ⟨gap, firstEq, otherEq⟩
  · cases gap with
    | nil =>
        cases lastEq
        exact ⟨by rw [secondEq, List.append_nil], rfl⟩
    | cons unit gap =>
        cases lastEq
        exact absurd (List.mem_append_right _ List.mem_cons_self) notLast
  · cases gap with
    | nil =>
        cases otherEq
        exact ⟨by rw [firstEq, List.append_nil], rfl⟩
    | cons unit gap =>
        cases otherEq
        exact absurd (List.mem_append_right _ List.mem_cons_self) notOther

end Mysql2.Script

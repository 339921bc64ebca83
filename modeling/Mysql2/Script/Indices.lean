import Mysql2.Script.Decimal
import Mysql2.Script.Objects

/-!
# Keys of array elements

The key of an element is the decimal numeral of its index, and stands for that index again.
-/

namespace Mysql2.Script

/-- The code unit of a digit. -/
def digitCode (digit : Char) : UInt16 :=
  UInt16.ofNat digit.toNat

theorem toNat_digitCode {digit : Char} (isDigit : digit.isDigit = true) :
    (digitCode digit).toNat = digit.toNat ∧ 48 ≤ digit.toNat ∧ digit.toNat ≤ 57 := by
  simp only [Char.isDigit, Bool.and_eq_true, decide_eq_true_eq] at isDigit
  have least : 48 ≤ digit.toNat := isDigit.1
  have most : digit.toNat ≤ 57 := isDigit.2
  refine ⟨?_, least, most⟩
  rw [digitCode, UInt16.toNat_ofNat', Nat.mod_eq_of_lt (by omega)]

theorem isDigit_of_mem {index : Nat} {digit : Char} (member : digit ∈ Nat.toDigits 10 index) :
    digit.isDigit = true :=
  Nat.isDigit_of_mem_toDigits (by decide) (by decide) member

theorem indexKey_eq (index : Nat) : indexKey index = (Nat.toDigits 10 index).map digitCode := by
  have chars : (toString index).toList = Nat.toDigits 10 index := Nat.toList_repr
  have digits : ∀ digit ∈ Nat.toDigits 10 index, digit.isDigit = true := fun _ => isDigit_of_mem
  rw [indexKey, units, chars]
  generalize Nat.toDigits 10 index = list at digits
  induction list with
  | nil => rfl
  | cons digit list ih =>
      obtain ⟨first, rest⟩ := List.forall_mem_cons.mp digits
      have range := toNat_digitCode first
      rw [List.flatMap_cons, charUnits_of_small (by omega), ih rest]
      rfl

/-- No numeral but that of zero starts with a zero. -/
theorem head_toDigits {index : Nat} (positive : 0 < index) :
    (Nat.toDigits 10 index).head? ≠ some '0' := by
  induction index using Nat.strongRecOn with
  | ind index ih =>
      rw [Nat.toDigits_eq_if (by decide)]
      split
      case isTrue small =>
        rw [List.head?_cons, Ne, Option.some_inj]
        have cases : ∀ digit : Fin 10, 0 < digit.val → digit.val.digitChar ≠ '0' := by decide
        exact cases ⟨index, small⟩ positive
      case isFalse large =>
        have shorter := ih (index / 10) (Nat.div_lt_self positive (by decide)) (by omega)
        cases digits : Nat.toDigits 10 (index / 10) with
        | nil => exact absurd digits Nat.toDigits_ne_nil
        | cons digit list =>
            rw [digits] at shorter
            exact shorter

theorem foldl_digitCode (digits : List Char) (isDigits : ∀ digit ∈ digits, digit.isDigit = true)
    (initial : Nat) :
    (digits.map digitCode).foldl (fun index unit => 10 * index + (unit.toNat - 48)) initial =
      Nat.ofDigitChars 10 digits initial := by
  induction digits generalizing initial with
  | nil => rfl
  | cons digit digits ih =>
      obtain ⟨first, rest⟩ := List.forall_mem_cons.mp isDigits
      rw [List.map_cons, List.foldl_cons, ih rest, Nat.ofDigitChars_cons,
        (toNat_digitCode first).1]
      rfl

/-- The key of an element stands for its index. -/
theorem toIndex_indexKey {index : Nat} (small : index < 4294967295) :
    toIndex (indexKey index) = some index := by
  have digits : ∀ digit ∈ Nat.toDigits 10 index, digit.isDigit = true := fun _ => isDigit_of_mem
  have number : (indexKey index).foldl (fun index unit => 10 * index + (unit.toNat - 48)) 0 =
      index := by
    rw [indexKey_eq, foldl_digitCode _ digits, Nat.ofDigitChars_ten_toDigits]
  have nonempty : indexKey index ≠ [] := by
    rw [indexKey_eq]
    exact mt List.map_eq_nil_iff.mp Nat.toDigits_ne_nil
  have inDigits : (indexKey index).all
      (fun unit => 48 ≤ unit.toNat ∧ unit.toNat ≤ 57) = true := by
    rw [indexKey_eq, List.all_eq_true]
    intro unit member
    obtain ⟨digit, isMember, rfl⟩ := List.mem_map.mp member
    obtain ⟨codeEq, least, most⟩ := toNat_digitCode (digits digit isMember)
    rw [codeEq]
    exact decide_eq_true ⟨least, most⟩
  have canonical : (indexKey index).head? ≠ some 48 ∨ (indexKey index).length = 1 := by
    rcases Nat.eq_zero_or_pos index with rfl | positive
    · exact .inr rfl
    · refine .inl ?_
      have head := head_toDigits positive
      rw [indexKey_eq, List.head?_map]
      cases first : (Nat.toDigits 10 index).head? with
      | none => exact nofun
      | some digit =>
          rw [first, Ne, Option.some_inj] at head
          have isDigit := digits digit (List.mem_of_head? first)
          obtain ⟨codeEq, -⟩ := toNat_digitCode isDigit
          rw [Option.map_some, Ne, Option.some_inj]
          intro same
          have codes := congrArg UInt16.toNat same
          rw [codeEq] at codes
          exact head (Char.toNat_inj.mp codes)
  rw [toIndex, number, if_pos ⟨nonempty, inDigits, canonical, small⟩]

/-- The units of a key are digits, which those of other names are not. -/
theorem indexKey_ne {key : JsString} (index : Nat) (head : ∃ unit ∈ key, 57 < unit.toNat) :
    indexKey index ≠ key := by
  rintro rfl
  obtain ⟨unit, member, large⟩ := head
  rw [indexKey_eq] at member
  obtain ⟨digit, isMember, rfl⟩ := List.mem_map.mp member
  obtain ⟨codeEq, -, most⟩ := toNat_digitCode (isDigit_of_mem isMember)
  omega

theorem indexKey_ne_protoKey (index : Nat) : indexKey index ≠ protoKey :=
  indexKey_ne index ⟨95, by decide, by decide⟩

theorem indexKey_ne_lengthKey (index : Nat) : indexKey index ≠ lengthKey :=
  indexKey_ne index ⟨108, by decide, by decide⟩

end Mysql2.Script

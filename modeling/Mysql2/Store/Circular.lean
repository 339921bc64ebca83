import Mathlib.Data.List.GetD
import Mathlib.Tactic.Common

/-!
# Circular buffers

A list is laid out in the slots of a buffer from a head on, and round the end of the buffer.
All other slots are empty, which is to hold the default value.
-/

namespace Mysql2.Store

universe u

/-- The slot at an offset behind the head. -/
def slotOf (capacity head offset : Nat) : Nat :=
  if head + offset < capacity then head + offset else head + offset - capacity

/-- The offset of a slot behind the head. -/
def offsetOf (capacity head slot : Nat) : Nat :=
  if head ≤ slot then slot - head else slot + capacity - head

section Slots

variable {capacity head : Nat}

theorem slotOf_zero (headLt : head < capacity) : slotOf capacity head 0 = head :=
  if_pos headLt

theorem slotOf_lt (headLt : head < capacity) (offset : Nat) (offsetLe : offset ≤ capacity) :
    slotOf capacity head offset < capacity := by
  unfold slotOf
  split <;> omega

theorem slotOf_eq_mod (headLt : head < capacity) {offset : Nat} (offsetLe : offset ≤ capacity) :
    slotOf capacity head offset = (head + offset) % capacity := by
  unfold slotOf
  split
  · next inside => exact (Nat.mod_eq_of_lt inside).symm
  · next outside =>
      rw [Nat.mod_eq_sub_mod (Nat.le_of_not_lt outside)]
      exact (Nat.mod_eq_of_lt (by omega)).symm

theorem offsetOf_lt (headLt : head < capacity) {slot : Nat} (slotLt : slot < capacity) :
    offsetOf capacity head slot < capacity := by
  unfold offsetOf
  split <;> omega

theorem offsetOf_slotOf (headLt : head < capacity) {offset : Nat} (offsetLt : offset < capacity) :
    offsetOf capacity head (slotOf capacity head offset) = offset := by
  unfold slotOf offsetOf
  split <;> split <;> omega

theorem slotOf_offsetOf (headLt : head < capacity) {slot : Nat} (slotLt : slot < capacity) :
    slotOf capacity head (offsetOf capacity head slot) = slot := by
  unfold slotOf offsetOf
  split <;> split <;> omega

end Slots

variable {α : Type u} [Inhabited α]

/-- Lists of the same length with the same elements are the same. -/
theorem eq_of_getI {items others : List α} (lengthEq : items.length = others.length)
    (same : ∀ index < items.length, items.getI index = others.getI index) : items = others := by
  apply List.ext_getElem lengthEq
  intro index inside insideOther
  rw [← List.getI_eq_getElem items inside, ← List.getI_eq_getElem others insideOther]
  exact same index inside

theorem getI_set (items : List α) {index : Nat} (inside : index < items.length) (value : α)
    (other : Nat) :
    (items.set index value).getI other = if other = index then value else items.getI other := by
  rw [List.getI_eq_getElem?_getD, List.getI_eq_getElem?_getD, List.getElem?_set]
  by_cases same : index = other
  · subst same
    rw [if_pos rfl, if_pos inside, if_pos rfl]
    rfl
  · rw [if_neg same, if_neg (Ne.symm same)]

theorem getI_append_default (items : List α) (count index : Nat) :
    (items ++ List.replicate count default).getI index = items.getI index := by
  by_cases inside : index < items.length
  · exact List.getI_append items _ index inside
  · rw [List.getI_append_right items _ index (Nat.le_of_not_lt inside),
      List.getI_eq_default items (Nat.le_of_not_lt inside), List.getI_eq_getElem?_getD]
    exact List.getElem?_getD_replicate_default_eq _ _ _

/-- A copy of an element takes the place of the next one. -/
theorem eraseIdx_set_succ (items : List α) {index : Nat} (inside : index + 1 < items.length) :
    (items.set (index + 1) (items.getI index)).eraseIdx index = items.eraseIdx (index + 1) := by
  induction items generalizing index with
  | nil => cases inside
  | cons item rest ih =>
      cases index with
      | zero =>
          cases rest with
          | nil => exact absurd inside (Nat.lt_irrefl 1)
          | cons next rest => rfl
      | succ index => exact congrArg (item :: ·) (ih (Nat.lt_of_succ_lt_succ inside))

/-- A copy of an element takes the place of the one before. -/
theorem eraseIdx_succ_set (items : List α) {index : Nat} (inside : index + 1 < items.length) :
    (items.set index (items.getI (index + 1))).eraseIdx (index + 1) = items.eraseIdx index := by
  induction items generalizing index with
  | nil => cases inside
  | cons item rest ih =>
      cases index with
      | zero =>
          cases rest with
          | nil => exact absurd inside (Nat.lt_irrefl 1)
          | cons next rest => rfl
      | succ index => exact congrArg (item :: ·) (ih (Nat.lt_of_succ_lt_succ inside))

/-- A list is laid out in a buffer from a head on. -/
structure Laid (slots : List α) (head : Nat) (items : List α) : Prop where
  head_lt : head < slots.length
  fits : items.length ≤ slots.length
  slot : ∀ slot < slots.length, slots.getI slot = items.getI (offsetOf slots.length head slot)

namespace Laid

variable {slots items : List α} {head : Nat}

/-- A list in a new buffer. -/
theorem ofList {capacity : Nat} (positive : 0 < capacity) (items : List α)
    (fits : items.length ≤ capacity) :
    Laid (items ++ List.replicate (capacity - items.length) default) 0 items := by
  have lengthEq :
      (items ++ List.replicate (capacity - items.length) default).length = capacity := by
    rw [List.length_append, List.length_replicate]
    omega
  constructor
  · rw [lengthEq]
    exact positive
  · rw [lengthEq]
    exact fits
  · intro slot _
    rw [getI_append_default]
    rfl

/-- The value at an offset. -/
theorem at_offset (laid : Laid slots head items) (offset : Nat) (offsetLt : offset < slots.length) :
    slots.getI (slotOf slots.length head offset) = items.getI offset := by
  rw [laid.slot _ (slotOf_lt laid.head_lt offset (Nat.le_of_lt offsetLt)),
    offsetOf_slotOf laid.head_lt offsetLt]

/-- A write at an offset lays out a list that differs there only. -/
theorem update (laid : Laid slots head items) {offset : Nat} (offsetLt : offset < slots.length)
    (others : List α) (fits : others.length ≤ slots.length)
    (same : ∀ other, other ≠ offset → others.getI other = items.getI other) :
    Laid (slots.set (slotOf slots.length head offset) (others.getI offset)) head others := by
  have written := slotOf_lt laid.head_lt offset (Nat.le_of_lt offsetLt)
  constructor
  · rw [List.length_set]
    exact laid.head_lt
  · rw [List.length_set]
    exact fits
  · intro slot slotLt
    rw [List.length_set] at slotLt ⊢
    rw [getI_set slots written]
    by_cases isWritten : slot = slotOf slots.length head offset
    · rw [if_pos isWritten, isWritten, offsetOf_slotOf laid.head_lt offsetLt]
    · rw [if_neg isWritten, laid.slot slot slotLt]
      refine (same _ ?_).symm
      intro atOffset
      apply isWritten
      rw [← atOffset, slotOf_offsetOf laid.head_lt slotLt]

/-- A write over an element. -/
theorem set (laid : Laid slots head items) {offset : Nat} (inside : offset < items.length)
    (value : α) : Laid (slots.set (slotOf slots.length head offset) value) head
      (items.set offset value) := by
  have fits : (items.set offset value).length ≤ slots.length := by
    rw [List.length_set]
    exact laid.fits
  have written := laid.update (Nat.lt_of_lt_of_le inside laid.fits) _ fits ?_
  · rw [getI_set items inside, if_pos rfl] at written
    exact written
  · intro other different
    rw [getI_set items inside, if_neg different]

/-- A write behind the last element. -/
theorem concat (laid : Laid slots head items) (room : items.length < slots.length) (item : α) :
    Laid (slots.set (slotOf slots.length head items.length) item) head (items ++ [item]) := by
  have lengthEq : (items ++ [item]).length = items.length + 1 := List.length_append
  have written := laid.update room (items ++ [item]) (by rw [lengthEq]; exact room) ?_
  · rw [List.getI_append_right _ _ _ (Nat.le_refl _), Nat.sub_self] at written
    exact written
  · intro other different
    by_cases before : other < items.length
    · exact List.getI_append _ _ _ before
    · rw [List.getI_eq_default _ (Nat.le_of_not_lt before), List.getI_eq_default]
      rw [lengthEq]
      omega

/-- The slot of the last element is emptied. -/
theorem dropLast {item : α} (laid : Laid slots head (items ++ [item])) :
    Laid (slots.set (slotOf slots.length head items.length) default) head items := by
  have lengthEq : (items ++ [item]).length = items.length + 1 := List.length_append
  have fits := laid.fits
  rw [lengthEq] at fits
  have written := laid.update (Nat.lt_of_succ_le fits) items (Nat.le_of_succ_le fits) ?_
  · rw [List.getI_eq_default _ (Nat.le_refl _)] at written
    exact written
  · intro other different
    by_cases before : other < items.length
    · exact (List.getI_append _ _ _ before).symm
    · rw [List.getI_eq_default _ (Nat.le_of_not_lt before), List.getI_eq_default]
      rw [lengthEq]
      omega

/-- A write at the head. -/
theorem setFirst {item : α} (laid : Laid slots head (item :: items)) (other : α) :
    Laid (slots.set head other) head (other :: items) := by
  have headLt := laid.head_lt
  have written := laid.update (Nat.zero_lt_of_lt headLt) (other :: items) laid.fits ?_
  · rw [slotOf_zero headLt] at written
    exact written
  · intro index different
    obtain ⟨before, rfl⟩ := Nat.exists_eq_succ_of_ne_zero different
    rfl

/-- The head moves past an empty slot. -/
theorem forward (laid : Laid slots head (default :: items)) :
    Laid slots (slotOf slots.length head 1) items := by
  have headLt := laid.head_lt
  have fits : items.length + 1 ≤ slots.length := laid.fits
  have nextLt := slotOf_lt headLt 1 (by omega)
  refine ⟨nextLt, by omega, ?_⟩
  intro slot slotLt
  rw [laid.slot slot slotLt]
  by_cases isHead : slot = head
  · have before : offsetOf slots.length head slot = 0 := by
      rw [isHead]
      exact (if_pos (Nat.le_refl _)).trans (Nat.sub_self _)
    have after : items.length ≤ offsetOf slots.length (slotOf slots.length head 1) slot := by
      unfold offsetOf slotOf
      split <;> split <;> omega
    rw [before, List.getI_eq_default _ after]
    rfl
  · have before : offsetOf slots.length head slot =
        offsetOf slots.length (slotOf slots.length head 1) slot + 1 := by
      unfold offsetOf slotOf
      split <;> split <;> split <;> omega
    rw [before, List.getI_cons_succ]

/-- The head moves back over an empty slot. -/
theorem backward (laid : Laid slots head items) (room : items.length < slots.length) :
    Laid slots (slotOf slots.length head (slots.length - 1)) (default :: items) := by
  have headLt := laid.head_lt
  have previousLt := slotOf_lt headLt (slots.length - 1) (by omega)
  refine ⟨previousLt, room, ?_⟩
  intro slot slotLt
  rw [laid.slot slot slotLt]
  by_cases isHead : slot = slotOf slots.length head (slots.length - 1)
  · have after : offsetOf slots.length (slotOf slots.length head (slots.length - 1)) slot = 0 := by
      rw [isHead]
      exact (if_pos (Nat.le_refl _)).trans (Nat.sub_self _)
    have before : items.length ≤ offsetOf slots.length head slot := by
      rw [isHead, offsetOf_slotOf headLt (by omega)]
      omega
    rw [after, List.getI_eq_default _ before]
    rfl
  · have after : offsetOf slots.length (slotOf slots.length head (slots.length - 1)) slot =
        offsetOf slots.length head slot + 1 := by
      generalize previousEq : slotOf slots.length head (slots.length - 1) = previous at *
      unfold slotOf at previousEq
      unfold offsetOf
      split at previousEq <;> split <;> split <;> omega
    rw [after, List.getI_cons_succ]

/-- Slots behind the list that are cut off. -/
theorem cut (laid : Laid slots head items) {capacity : Nat} (inside : head < capacity)
    (behind : head + items.length ≤ capacity) (shorter : capacity ≤ slots.length) :
    Laid (slots.take capacity) head items := by
  have lengthEq : (slots.take capacity).length = capacity := by
    rw [List.length_take]
    omega
  refine ⟨?_, ?_, ?_⟩
  · rw [lengthEq]
    exact inside
  · rw [lengthEq]
    omega
  · intro slot slotLt
    rw [lengthEq] at slotLt ⊢
    have kept : (slots.take capacity).getI slot = slots.getI slot := by
      rw [List.getI_eq_getElem?_getD, List.getI_eq_getElem?_getD, List.getElem?_take_of_lt slotLt]
    rw [kept, laid.slot slot (by omega)]
    unfold offsetOf
    by_cases before : head ≤ slot
    · rw [if_pos before, if_pos before]
    · rw [if_neg before, if_neg before, List.getI_eq_default _ (by omega),
        List.getI_eq_default _ (by omega)]

/-- The list does not reach round the end. -/
theorem straight (laid : Laid slots head items) (inside : head + items.length ≤ slots.length) :
    (slots.drop head).take items.length = items := by
  have lengthEq : ((slots.drop head).take items.length).length = items.length := by
    rw [List.length_take, List.length_drop]
    omega
  apply eq_of_getI lengthEq
  intro index indexLt
  rw [lengthEq] at indexLt
  have value := laid.at_offset index (by omega)
  rw [slotOf, if_pos (by omega)] at value
  rw [← value, List.getI_eq_getElem?_getD, List.getI_eq_getElem?_getD,
    List.getElem?_take_of_lt indexLt, List.getElem?_drop]

/-- The list reaches round the end. -/
theorem wrapped (laid : Laid slots head items) (outside : slots.length ≤ head + items.length) :
    slots.drop head ++ slots.take (head + items.length - slots.length) = items := by
  have headLt := laid.head_lt
  have fits := laid.fits
  have lengthEq :
      (slots.drop head ++ slots.take (head + items.length - slots.length)).length =
        items.length := by
    rw [List.length_append, List.length_drop, List.length_take]
    omega
  apply eq_of_getI lengthEq
  intro index indexLt
  rw [lengthEq] at indexLt
  rw [← laid.at_offset index (by omega)]
  by_cases before : head + index < slots.length
  · rw [slotOf, if_pos before, List.getI_append _ _ _ (by rw [List.length_drop]; omega),
      List.getI_eq_getElem?_getD, List.getI_eq_getElem?_getD, List.getElem?_drop]
  · rw [slotOf, if_neg before, List.getI_append_right _ _ _ (by rw [List.length_drop]; omega),
      List.getI_eq_getElem?_getD, List.getI_eq_getElem?_getD, List.length_drop,
      List.getElem?_take_of_lt (by omega)]
    congr 2
    omega

end Laid

end Mysql2.Store

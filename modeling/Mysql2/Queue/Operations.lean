import Mysql2.Queue.Refinement

/-!
# The methods of ring queues

Each method of a queue that represents a list answers as for the list, and leaves a queue that
represents what it leaves of the list.
-/

namespace Mysql2.Queue

open Mysql2.Store Mysql2.Transition

universe u

variable {ι : Type u} [Inhabited ι]

namespace RingQueue

section Ends

variable {queue : RingQueue ι} {items : List ι}

/-! ## Ends -/

/-- The slot of an offset. -/
theorem Represents.masked_offset (represents : queue.Represents items) {offset : Nat}
    (offsetLe : offset ≤ queue.list.length) :
    maskedBy queue.mask (queue.head + offset) = slotOf queue.list.length queue.head offset :=
  represents.masked_forward represents.laid.head_lt offset offsetLe

/-- The item at the head. -/
theorem Represents.first (represents : queue.Represents items) :
    queue.list.getI queue.head = items.getI 0 := by
  have headLt := represents.laid.head_lt
  have value := represents.laid.at_offset 0 (Nat.zero_lt_of_lt headLt)
  rwa [slotOf_zero headLt] at value

theorem Represents.push (represents : queue.Represents items) (item : ι)
    (small : items.length + 1 < 2 ^ 29) :
    (queue.push (some item)).1.Represents (items ++ [item]) ∧
      (queue.push (some item)).2 = items.length + 1 := by
  have headLt := represents.laid.head_lt
  have room := represents.room
  have lengthEq : (items ++ [item]).length = items.length + 1 := List.length_append
  let pushed : RingQueue ι := { queue with
    list := queue.list.set queue.tail item
    tail := maskedBy queue.mask (queue.tail + 1) }
  have capacityEq : pushed.list.length = queue.list.length := List.length_set
  have holds : pushed.Holds (items ++ [item]) := by
    refine represents.relaid capacityEq rfl ?_ ?_
    · have laid := represents.laid.concat room item
      rw [← represents.tail] at laid
      exact laid
    · show maskedBy queue.mask (queue.tail + 1) = slotOf queue.list.length queue.head _
      rw [lengthEq, represents.masked_next represents.tail_lt, represents.tail]
      exact slotOf_slotOf headLt room
  have settled := holds.settle (by rw [lengthEq]; exact Nat.succ_ne_zero _)
    (by rw [lengthEq]; exact small)
  refine ⟨settled, ?_⟩
  exact settled.length_eq.trans lengthEq

theorem Represents.unshift (represents : queue.Represents items) (item : ι)
    (small : items.length + 1 < 2 ^ 29) :
    (queue.unshift (some item)).1.Represents (item :: items) ∧
      (queue.unshift (some item)).2 = items.length + 1 := by
  have headLt := represents.laid.head_lt
  have room := represents.room
  let pushed : RingQueue ι := { queue with
    head := maskedBy queue.mask (queue.head - 1)
    list := queue.list.set (maskedBy queue.mask (queue.head - 1)) item }
  have capacityEq : pushed.list.length = queue.list.length := List.length_set
  have headEq : maskedBy queue.mask (queue.head - 1) =
      slotOf queue.list.length queue.head (queue.list.length - 1) :=
    represents.masked_back headLt
  have holds : pushed.Holds (item :: items) := by
    refine represents.relaid capacityEq rfl ?_ ?_
    · have laid := (represents.laid.backward room).setFirst item
      rw [← headEq] at laid
      exact laid
    · show queue.tail = slotOf queue.list.length (maskedBy queue.mask (queue.head - 1)) _
      rw [headEq, represents.tail, List.length_cons]
      unfold slotOf
      split <;> split <;> split <;> omega
  have settled := holds.settle (Nat.succ_ne_zero _) small
  exact ⟨settled, settled.length_eq⟩

theorem Represents.shift (represents : queue.Represents items) :
    queue.shift.1.Represents items.tail ∧ queue.shift.2 = items.getI 0 := by
  have headLt := represents.laid.head_lt
  cases items with
  | nil =>
      have meet := represents.ends_meet_iff.mpr rfl
      unfold RingQueue.shift
      rw [if_pos meet]
      exact ⟨represents, rfl⟩
  | cons item rest =>
      have room : rest.length + 1 < queue.list.length := represents.room
      have apart : queue.head ≠ queue.tail := by
        intro meet
        cases represents.ends_meet_iff.mp meet
      let shifted : RingQueue ι := { queue with
        list := queue.list.set queue.head default
        head := maskedBy queue.mask (queue.head + 1) }
      have capacityEq : shifted.list.length = queue.list.length := List.length_set
      have headEq : maskedBy queue.mask (queue.head + 1) =
          slotOf queue.list.length queue.head 1 :=
        represents.masked_next headLt
      have after : shifted.Represents rest := by
        refine ⟨represents.relaid capacityEq rfl ?_ ?_, ?_⟩
        · have forward := (represents.laid.setFirst default).forward
          rw [List.length_set, ← headEq] at forward
          exact forward
        · show queue.tail = slotOf queue.list.length (maskedBy queue.mask (queue.head + 1)) _
          rw [headEq, represents.tail, slotOf_slotOf headLt (by omega), List.length_cons,
            Nat.add_comm]
        · rw [capacityEq]
          exact Nat.lt_of_succ_lt room
      unfold RingQueue.shift
      rw [if_neg apart]
      dsimp only
      split
      · next sparse =>
          have quarter : queue.tail ≤ queue.list.length / 4 := by
            have bound := sparse.2.2
            rwa [List.length_set, Nat.shiftRight_eq_div_pow] at bound
          have large : 10000 < queue.tail := sparse.2.1
          have low : queue.head < 2 := sparse.1
          refine ⟨after.shrink (by rw [capacityEq]; omega) ?_, represents.first⟩
          have tailEq := represents.tail
          have lengthEq : (item :: rest).length = rest.length + 1 := rfl
          show maskedBy queue.mask (queue.head + 1) + rest.length < shifted.list.length / 2
          rw [capacityEq, headEq]
          unfold slotOf at tailEq ⊢
          split at tailEq <;> split <;> omega
      · exact ⟨after, represents.first⟩

theorem Represents.pop (represents : queue.Represents items) :
    queue.pop.1.Represents items.dropLast ∧ queue.pop.2 = items.getI (items.length - 1) := by
  have headLt := represents.laid.head_lt
  rcases List.eq_nil_or_concat items with rfl | ⟨rest, item, rfl⟩
  · have meet := represents.ends_meet_iff.mpr rfl
    unfold RingQueue.pop
    rw [if_pos meet.symm]
    exact ⟨represents, rfl⟩
  · rw [List.concat_eq_append] at represents ⊢
    have lengthEq : (rest ++ [item]).length = rest.length + 1 := List.length_append
    have room := represents.room
    rw [lengthEq] at room
    have apart : queue.tail ≠ queue.head := by
      intro meet
      exact List.append_ne_nil_of_right_ne_nil rest (List.cons_ne_nil item [])
        (represents.ends_meet_iff.mp meet.symm)
    have lastEq : maskedBy queue.mask (queue.tail - 1) =
        slotOf queue.list.length queue.head rest.length := by
      rw [represents.masked_back represents.tail_lt, represents.tail, lengthEq]
      exact slotOf_succ_back headLt (Nat.lt_of_succ_lt room)
    have itemEq : (rest ++ [item]).getI rest.length = item := by
      rw [List.getI_append_right _ _ _ (Nat.le_refl _), Nat.sub_self]
      rfl
    have answer : queue.list.getI (maskedBy queue.mask (queue.tail - 1)) = item := by
      rw [lastEq, represents.laid.at_offset _ (Nat.lt_of_succ_lt room), itemEq]
    let popped : RingQueue ι := { queue with
      tail := maskedBy queue.mask (queue.tail - 1)
      list := queue.list.set (maskedBy queue.mask (queue.tail - 1)) default }
    have capacityEq : popped.list.length = queue.list.length := List.length_set
    have after : popped.Represents rest := by
      refine ⟨represents.relaid capacityEq rfl ?_ lastEq, ?_⟩
      · have laid := represents.laid.dropLast
        rw [← lastEq] at laid
        exact laid
      · rw [capacityEq]
        exact Nat.lt_of_succ_lt room
    rw [List.dropLast_concat, lengthEq, Nat.add_sub_cancel, itemEq]
    unfold RingQueue.pop
    rw [if_neg apart]
    dsimp only
    split
    · next sparse =>
        have quarter : queue.tail ≤ queue.list.length / 4 := by
          have bound := sparse.2.2
          rwa [Nat.shiftRight_eq_div_pow] at bound
        have large : 10000 < queue.tail := sparse.2.1
        have low : queue.head < 2 := sparse.1
        refine ⟨after.shrink (by rw [capacityEq]; omega) ?_, answer⟩
        have tailEq := represents.tail
        rw [lengthEq] at tailEq
        show queue.head + rest.length < popped.list.length / 2
        rw [capacityEq]
        unfold slotOf at tailEq
        split at tailEq <;> omega
    · exact ⟨after, answer⟩

theorem Represents.peek (represents : queue.Represents items) : queue.peek = items.getI 0 := by
  unfold RingQueue.peek
  by_cases meet : queue.head = queue.tail
  · rw [if_pos meet, represents.ends_meet_iff.mp meet]
    rfl
  · rw [if_neg meet]
    exact represents.first

theorem Represents.peekAt (represents : queue.Represents items) (index : Int) :
    queue.peekAt index = modelPeekAt items index := by
  have room := represents.room
  unfold RingQueue.peekAt modelPeekAt
  rw [represents.length_eq]
  dsimp only
  by_cases isInt : (!isInt32 index) = true
  · rw [if_pos isInt, if_pos isInt]
  rw [if_neg isInt, if_neg isInt]
  by_cases positive : 0 ≤ index
  · rw [if_pos positive]
    by_cases outside : (items.length : Int) ≤ index
    · rw [if_pos outside, if_pos (.inl outside)]
    · obtain ⟨offset, rfl⟩ := Int.eq_ofNat_of_zero_le positive
      rw [if_neg outside, if_neg (by omega), if_neg (by omega),
        represents.masked_offset (by omega), represents.laid.at_offset _ (by omega)]
      rfl
  · rw [if_neg positive]
    by_cases outside : index < -(items.length : Int)
    · rw [if_pos outside, if_pos (.inr outside)]
    · obtain ⟨offset, offsetEq⟩ := Int.eq_ofNat_of_zero_le (show 0 ≤ index + items.length by omega)
      rw [if_neg outside, if_neg (by omega), if_pos (by omega), Int.add_assoc, offsetEq,
        represents.masked_offset (by omega), represents.laid.at_offset _ (by omega)]
      rfl

theorem Represents.toArray (represents : queue.Represents items) : queue.toArray = items := by
  have headLt := represents.laid.head_lt
  have room := represents.room
  have tailEq := represents.tail
  unfold slotOf at tailEq
  unfold RingQueue.toArray
  split at tailEq
  · next inside =>
      rw [if_pos (by omega), show queue.tail - queue.head = items.length by omega]
      exact represents.laid.straight (Nat.le_of_lt inside)
  · next outside =>
      rw [if_neg (by omega), tailEq]
      exact represents.laid.wrapped (Nat.le_of_not_lt outside)

theorem Represents.clear (represents : queue.Represents items) : queue.clear.Represents [] := by
  have headLt := represents.laid.head_lt
  have capacityEq : queue.clear.list.length = queue.list.length := List.length_replicate
  refine ⟨represents.relaid capacityEq rfl ?_ ?_, ?_⟩
  · exact Laid.ofList (Nat.zero_lt_of_lt headLt) [] (Nat.zero_le _)
  · exact (slotOf_zero (Nat.zero_lt_of_lt headLt)).symm
  · rw [capacityEq]
    exact Nat.zero_lt_of_lt headLt

end Ends

/-! ## Removal of one item -/

section Removal

variable {mask head : Nat}

/-- The loop towards the head closes the gap of the removed item, and leaves one at the head. -/
theorem moveFromHead_laid {offset : Nat} {list items : List ι} (laid : Laid list head items)
    (inside : offset < items.length)
    (back : ∀ slot < list.length,
      maskedBy mask (slot - 1) = slotOf list.length slot (list.length - 1)) :
    (moveFromHead mask offset list (slotOf list.length head offset)).2 = head ∧
      (moveFromHead mask offset list (slotOf list.length head offset)).1.length = list.length ∧
      Laid (moveFromHead mask offset list (slotOf list.length head offset)).1 head
        (items.getI 0 :: items.eraseIdx offset) := by
  have fits := laid.fits
  induction offset generalizing list items with
  | zero =>
      refine ⟨slotOf_zero laid.head_lt, rfl, ?_⟩
      cases items with
      | nil => cases inside
      | cons item rest => exact laid
  | succ offset ih =>
      have slotLt := slotOf_lt laid.head_lt (offset + 1) (by omega)
      have previousEq :
          maskedBy mask ((slotOf list.length head (offset + 1) : Nat) - 1) =
            slotOf list.length head offset := by
        rw [back _ slotLt]
        exact slotOf_succ_back laid.head_lt (by omega)
      have copied := laid.set inside (items.getI offset)
      have value := laid.at_offset offset (by omega)
      have after := ih copied (by rw [List.length_set]; omega)
        (by rw [List.length_set]; exact back) copied.fits
      rw [List.length_set, eraseIdx_set_succ items inside, getI_set items inside,
        if_neg (Nat.succ_ne_zero offset).symm] at after
      unfold moveFromHead
      dsimp only
      rw [previousEq, value]
      exact after

/-- The loop towards the tail closes the gap of the removed item, and leaves one at the end. -/
theorem moveFromTail_laid (moves : Nat) {offset : Nat} {list items : List ι}
    (laid : Laid list head items) (ends : offset + moves + 1 = items.length)
    (forward : ∀ slot < list.length, maskedBy mask (slot + 1) = slotOf list.length slot 1) :
    (moveFromTail mask moves list (slotOf list.length head offset)).2 =
        slotOf list.length head (items.length - 1) ∧
      (moveFromTail mask moves list (slotOf list.length head offset)).1.length = list.length ∧
      Laid (moveFromTail mask moves list (slotOf list.length head offset)).1 head
        (items.eraseIdx offset ++ [items.getI (items.length - 1)]) := by
  have fits := laid.fits
  induction moves generalizing list items offset with
  | zero =>
      refine ⟨?_, rfl, ?_⟩
      · show slotOf list.length head offset = _
        congr 1
        omega
      · rcases List.eq_nil_or_concat items with rfl | ⟨rest, item, rfl⟩
        · cases ends
        · rw [List.concat_eq_append] at laid ends ⊢
          have lengthEq : (rest ++ [item]).length = rest.length + 1 := List.length_append
          have offsetEq : offset = rest.length := by omega
          rw [lengthEq, Nat.add_sub_cancel, offsetEq,
            List.getI_append_right _ _ _ (Nat.le_refl _), Nat.sub_self,
            List.eraseIdx_append_of_length_le (Nat.le_refl _), Nat.sub_self]
          show Laid list head (rest ++ [] ++ [item])
          rw [List.append_nil]
          exact laid
  | succ moves ih =>
      have slotLt := slotOf_lt laid.head_lt offset (by omega)
      have nextEq :
          maskedBy mask ((slotOf list.length head offset : Nat) + 1) =
            slotOf list.length head (offset + 1) := by
        rw [forward _ slotLt]
        exact slotOf_slotOf laid.head_lt (by omega)
      have inside : offset < items.length := by omega
      have copied := laid.set inside (items.getI (offset + 1))
      have value := laid.at_offset (offset + 1) (by omega)
      have endsAfter :
          offset + 1 + moves + 1 = (items.set offset (items.getI (offset + 1))).length := by
        rw [List.length_set]
        omega
      have after := ih copied endsAfter
        (by rw [List.length_set]; exact forward) copied.fits
      rw [List.length_set, List.length_set, eraseIdx_succ_set items (by omega),
        getI_set items inside, if_neg (by omega)] at after
      unfold moveFromTail
      dsimp only
      rw [nextEq, value]
      exact after

/-- One item is spliced out. -/
theorem arraySplice_one {items : List ι} {index : Nat} (inside : index < items.length) :
    arraySplice items index 1 [] = (items.eraseIdx index, [items.getI index]) := by
  unfold arraySplice
  rw [List.append_nil, ← List.eraseIdx_eq_take_drop_succ, List.drop_eq_getElem_cons inside,
    List.getI_eq_getElem items inside]
  rfl

variable {queue : RingQueue ι} {items : List ι}

theorem Represents.removeOne (represents : queue.Represents items) (index : Int) :
    (queue.removeOne index).1.Represents (modelRemoveOne items index).1 ∧
      (queue.removeOne index).2 = (modelRemoveOne items index).2 := by
  have headLt := represents.laid.head_lt
  have room := represents.room
  unfold RingQueue.removeOne modelRemoveOne
  dsimp only
  rw [represents.length_eq]
  by_cases isInt : (!isInt32 index) = true
  · rw [if_pos isInt, if_pos isInt]
    exact ⟨represents, rfl⟩
  rw [if_neg isInt, if_neg isInt]
  by_cases outside : (items.length : Int) ≤ index ∨ index < -(items.length : Int)
  · rw [if_pos outside, if_pos outside]
    exact ⟨represents, rfl⟩
  rw [if_neg outside, if_neg outside]
  obtain ⟨offset, offsetEq, inside⟩ : ∃ offset : Nat,
      (if index < 0 then index + items.length else index).toNat = offset ∧
        offset < items.length := by
    refine ⟨_, rfl, ?_⟩
    split <;> omega
  rw [offsetEq, arraySplice_one inside]
  have slotEq : maskedBy queue.mask (queue.head + offset) =
      slotOf queue.list.length queue.head offset :=
    represents.masked_offset (by omega)
  have erasedLength : (items.eraseIdx offset).length = items.length - 1 :=
    List.length_eraseIdx_of_lt inside
  have answer : queue.list.getI (slotOf queue.list.length queue.head offset) =
      items.getI offset :=
    represents.laid.at_offset _ (by omega)
  rw [slotEq]
  by_cases closer : 2 * offset < items.length
  · rw [if_pos closer]
    obtain ⟨slotIs, lengthIs, moved⟩ := moveFromHead_laid represents.laid inside
      (fun slot slotLt => represents.masked_back slotLt)
    refine ⟨⟨represents.relaid ?_ rfl ?_ ?_, ?_⟩, answer⟩
    · dsimp only
      rw [List.length_set, lengthIs]
    · dsimp only
      have forward := (moved.setFirst default).forward
      rw [List.length_set, lengthIs] at forward
      rw [slotIs, represents.masked_next headLt]
      exact forward
    · dsimp only
      rw [represents.masked_next headLt, slotOf_slotOf headLt (by omega), represents.tail,
        erasedLength]
      congr 1
      omega
    · dsimp only
      rw [List.length_set, lengthIs, erasedLength]
      omega
  · rw [if_neg closer]
    obtain ⟨slotIs, lengthIs, moved⟩ := moveFromTail_laid
      (items.length - 1 - offset) represents.laid
      (show offset + (items.length - 1 - offset) + 1 = items.length by omega)
      (fun slot slotLt => represents.masked_next slotLt)
    refine ⟨⟨represents.relaid ?_ rfl ?_ ?_, ?_⟩, answer⟩
    · dsimp only
      rw [List.length_set, lengthIs]
    · dsimp only
      have dropped := moved.dropLast
      rw [lengthIs, erasedLength] at dropped
      rw [slotIs]
      exact dropped
    · dsimp only
      rw [represents.masked_back represents.tail_lt, represents.tail, erasedLength]
      have back := slotOf_succ_back headLt
        (show items.length - 1 < queue.list.length by omega)
      rwa [Nat.sub_add_cancel (by omega)] at back
    · dsimp only
      rw [List.length_set, lengthIs, erasedLength]
      omega

end Removal

/-! ## Rebuilt arrays -/

section Rebuilding

variable {queue : RingQueue ι} {items : List ι}

theorem enough_spec {count fuel bits : Nat} (bitsLe : bits ≤ 29) (small : count < 2 ^ 29)
    (rounds : count < 2 ^ (bits + fuel)) :
    ∃ more, bits ≤ more ∧ more ≤ 29 ∧ enough count fuel (2 ^ bits) = 2 ^ more ∧
      count < 2 ^ more := by
  induction fuel generalizing bits with
  | zero => exact ⟨bits, Nat.le_refl _, bitsLe, rfl, rounds⟩
  | succ fuel ih =>
      unfold enough
      by_cases short : 2 ^ bits ≤ count
      · have bitsLt : bits < 29 :=
          (Nat.pow_lt_pow_iff_right (by decide)).mp (Nat.lt_of_le_of_lt short small)
        have doubled : 2 ^ bits <<< 1 = 2 ^ (bits + 1) := by
          rw [Nat.shiftLeft_eq, Nat.pow_add]
        have roundsLeft : count < 2 ^ (bits + 1 + fuel) := by
          rwa [Nat.add_assoc, Nat.add_comm 1]
        obtain ⟨more, ge, le, reached, room⟩ := ih bitsLt roundsLeft
        rw [if_pos short, doubled]
        exact ⟨more, Nat.le_of_succ_le ge, le, reached, room⟩
      · rw [if_neg short]
        exact ⟨bits, Nat.le_refl _, bitsLe, rfl, Nat.lt_of_not_le short⟩

theorem Represents.rebuild (represents : queue.Represents items) {others : List ι}
    (small : others.length < 2 ^ 29) : (queue.rebuild others).Represents others := by
  obtain ⟨bits, two, bitsLe, lengthEq⟩ := represents.power
  have rounds : others.length < 2 ^ (bits + others.length) :=
    Nat.lt_of_lt_of_le Nat.lt_two_pow_self
      (Nat.pow_le_pow_right (by decide) (Nat.le_add_left _ _))
  obtain ⟨more, ge, le, reached, room⟩ := enough_spec bitsLe small rounds
  unfold RingQueue.rebuild
  dsimp only
  rw [lengthEq, reached]
  exact represents_ofList (by omega) le room (Nat.sub_add_cancel (Nat.two_pow_pos more))

/-- A represented list is short. -/
theorem Represents.small (represents : queue.Represents items) : items.length < 2 ^ 29 := by
  obtain ⟨bits, -, bitsLe, lengthEq⟩ := represents.power
  have room := represents.room
  have bound : 2 ^ bits ≤ 2 ^ 29 := Nat.pow_le_pow_right (by decide) bitsLe
  omega

omit [Inhabited ι] in
theorem length_arraySplice (items : List ι) (start deleteCount : Nat) :
    (arraySplice items start deleteCount []).1.length ≤ items.length := by
  unfold arraySplice
  rw [List.append_nil, List.length_append, List.length_take, List.length_drop]
  omega

theorem Represents.remove (represents : queue.Represents items) (index : Int)
    (count : Option Int) :
    (queue.remove index count).1.Represents (modelRemove items index count).1 ∧
      (queue.remove index count).2 = (modelRemove items index count).2 := by
  unfold RingQueue.remove modelRemove
  dsimp only
  rw [represents.length_eq, represents.toArray]
  by_cases isInt : (!isInt32 index) = true
  · rw [if_pos isInt, if_pos isInt]
    exact ⟨represents, rfl⟩
  rw [if_neg isInt, if_neg isInt]
  by_cases meet : queue.head = queue.tail
  · have empty : items.length = 0 := by
      rw [represents.ends_meet_iff.mp meet]
      rfl
    rw [if_pos meet, if_pos empty]
    exact ⟨represents, rfl⟩
  have nonempty : items.length ≠ 0 := by
    intro empty
    exact meet (represents.ends_meet_iff.mpr (List.length_eq_zero_iff.mp empty))
  rw [if_neg meet, if_neg nonempty]
  split
  · exact ⟨represents, rfl⟩
  generalize (if index < 0 then index + (items.length : Int) else index) = position
  obtain ⟨removed, answered⟩ := represents.removeOne position
  cases count with
  | none => exact ⟨removed, congrArg (fun item => some [item]) answered⟩
  | some count =>
      dsimp only
      split
      · exact ⟨removed, congrArg (fun item => some [item]) answered⟩
      split
      · exact ⟨represents, rfl⟩
      · refine ⟨represents.rebuild ?_, rfl⟩
        exact Nat.lt_of_le_of_lt (length_arraySplice _ _ _) represents.small

theorem Represents.splice (represents : queue.Represents items) (index : Int)
    (count : Option Int) (newItems : List ι)
    (small : (modelSplice items index count newItems).1.length < 2 ^ 29) :
    (queue.splice index count newItems).1.Represents (modelSplice items index count newItems).1 ∧
      (queue.splice index count newItems).2 = (modelSplice items index count newItems).2 := by
  revert small
  unfold RingQueue.splice modelSplice
  dsimp only
  rw [represents.length_eq, represents.toArray]
  split
  · exact fun _ => ⟨represents, rfl⟩
  generalize (if index < 0 then index + (items.length : Int) else index) = position
  split
  · exact fun _ => ⟨represents, rfl⟩
  split
  · exact fun _ => represents.remove position count
  split
  · exact fun _ => ⟨represents, rfl⟩
  split
  · exact fun _ => ⟨represents, rfl⟩
  split
  · exact fun small => ⟨represents.rebuild small, rfl⟩
  split
  · exact fun small => ⟨represents.rebuild small, rfl⟩
  · exact fun small => ⟨represents.rebuild small, rfl⟩

end Rebuilding

/-! ## Runs -/

section Runs

variable {queue : RingQueue ι} {items : List ι}

/-- What a method does to a queue is what it does to the list. -/
theorem Represents.step (represents : queue.Represents items) (operation : Operation ι)
    (small : (listStep items operation).1.length < 2 ^ 29) :
    (queue.step operation).1.Represents (listStep items operation).1 ∧
      (queue.step operation).2 = (listStep items operation).2 := by
  cases operation with
  | push item =>
      cases item with
      | none =>
          exact ⟨represents,
            congrArg (fun length => [Answer.length length]) represents.length_eq⟩
      | some item =>
          have lengthEq : (items ++ [item]).length = items.length + 1 := List.length_append
          obtain ⟨after, answered⟩ := represents.push item (lengthEq ▸ small)
          exact ⟨after, congrArg (fun length => [Answer.length length]) answered⟩
  | unshift item =>
      cases item with
      | none =>
          exact ⟨represents,
            congrArg (fun length => [Answer.length length]) represents.length_eq⟩
      | some item =>
          obtain ⟨after, answered⟩ := represents.unshift item small
          exact ⟨after, congrArg (fun length => [Answer.length length]) answered⟩
  | shift =>
      obtain ⟨after, answered⟩ := represents.shift
      exact ⟨after, congrArg (fun item => [Answer.item item]) answered⟩
  | pop =>
      obtain ⟨after, answered⟩ := represents.pop
      exact ⟨after, congrArg (fun item => [Answer.item item]) answered⟩
  | peek => exact ⟨represents, congrArg (fun item => [Answer.item item]) represents.peek⟩
  | peekAt index =>
      exact ⟨represents, congrArg (fun item => [Answer.item item]) (represents.peekAt index)⟩
  | removeOne index =>
      obtain ⟨after, answered⟩ := represents.removeOne index
      exact ⟨after, congrArg (fun item => [Answer.item item]) answered⟩
  | remove index count =>
      obtain ⟨after, answered⟩ := represents.remove index count
      exact ⟨after, congrArg (fun items => [Answer.array items]) answered⟩
  | splice index count newItems =>
      obtain ⟨after, answered⟩ := represents.splice index count newItems small
      exact ⟨after, congrArg (fun items => [Answer.array items]) answered⟩
  | clear => exact ⟨represents.clear, rfl⟩
  | toArray =>
      exact ⟨represents, congrArg (fun items => [Answer.array (some items)]) represents.toArray⟩

/-- A call leaves fewer than 2^29 items in a list. -/
def LeavesFew (items : List ι) (operation : Operation ι) : Prop :=
  (listStep items operation).1.length < 2 ^ 29

instance (items : List ι) (operation : Operation ι) : Decidable (LeavesFew items operation) :=
  inferInstanceAs (Decidable (_ < _))

theorem Represents.run (represents : queue.Represents items) {operations : List (Operation ι)}
    (few : Meets listStep LeavesFew items operations) :
    (run RingQueue.step queue operations).1.Represents (run listStep items operations).1 ∧
      (run RingQueue.step queue operations).2 = (run listStep items operations).2 := by
  induction operations generalizing queue items with
  | nil => exact ⟨represents, rfl⟩
  | cons operation operations ih =>
      obtain ⟨after, answered⟩ := represents.step operation few.1
      obtain ⟨atEnd, answers⟩ := ih after few.2
      exact ⟨atEnd, congrArg₂ (· ++ ·) answered answers⟩

/-- The array has as many slots as the mask says, a power of two, the ends are among them, there
are fewer items than slots, and the slots of no item are empty. -/
structure WellFormed (queue : RingQueue ι) : Prop where
  power : ∃ bits, queue.list.length = 2 ^ bits
  mask : queue.list.length = queue.mask + 1
  head_lt : queue.head < queue.list.length
  tail_lt : queue.tail < queue.list.length
  length_lt : queue.length < queue.list.length
  empty : ∀ slot < queue.list.length,
    (∀ offset < queue.length, slot ≠ (queue.head + offset) % queue.list.length) →
      queue.list.getI slot = default

theorem Represents.wellFormed (represents : queue.Represents items) : queue.WellFormed := by
  obtain ⟨bits, -, -, lengthEq⟩ := represents.power
  have headLt := represents.laid.head_lt
  refine ⟨⟨bits, lengthEq⟩, represents.mask.symm, headLt, represents.tail_lt, ?_, ?_⟩
  · rw [represents.length_eq]
    exact represents.room
  · intro slot slotLt outside
    rw [represents.laid.slot slot slotLt]
    apply List.getI_eq_default
    apply Nat.le_of_not_lt
    intro inside
    have offsetLt := offsetOf_lt headLt slotLt
    have slotEq := slotOf_offsetOf headLt slotLt
    rw [slotOf_eq_mod headLt (Nat.le_of_lt offsetLt)] at slotEq
    rw [represents.length_eq] at outside
    exact outside _ inside slotEq.symm

/-- A queue answers every sequence of calls as a list does, holds what the list holds, and its
array is in order. -/
theorem run_new_eq_list (operations : List (Operation ι))
    (few : Meets listStep LeavesFew ([] : List ι) operations) :
    (run RingQueue.step new operations).2 = (run listStep [] operations).2 ∧
      (run RingQueue.step new operations).1.toArray = (run listStep [] operations).1 ∧
      (run RingQueue.step new operations).1.WellFormed := by
  obtain ⟨represents, answers⟩ := new_represents.run few
  exact ⟨answers, represents.toArray, represents.wellFormed⟩

/-- Two items at the front, which the array holds round its end. -/
theorem run_new_eq_list_wrapped :
    (run RingQueue.step new
        [.unshift (some 2), .unshift (some 1), .push (some 3), .removeOne 1]).2 =
        [.length 1, .length 2, .length 3, .item 2] ∧
      (run RingQueue.step new
        [.unshift (some 2), .unshift (some 1), .push (some 3), .removeOne 1]).1.toArray =
        [1, 3] ∧
      (run RingQueue.step new
        [.unshift (some 2), .unshift (some 1), .push (some 3), .removeOne 1]).1.WellFormed :=
  run_new_eq_list [.unshift (some 2), .unshift (some 1), .push (some 3), .removeOne 1]
    (by decide)

end Runs

end RingQueue

end Mysql2.Queue

import Mathlib.Algebra.Group.Int.Defs
import Mysql2.Queue.RingQueue

/-!
# Ring queues hold lists

A ring queue represents a list that is laid out in its array from the head on.  Every method
returns what it returns for the list, and represents what it makes of the list, as long as there
are fewer than 2^29 items.
-/

namespace Mysql2.Queue

open Mysql2.Store Mysql2.Transition

universe u

/-- The bits of a mask of ones are a remainder. -/
theorem maskedBy_eq {bits : Nat} (small : bits ≤ 31) (number : Int) :
    maskedBy (2 ^ bits - 1) number = (number % 2 ^ bits).toNat := by
  have below : 2 ^ bits - 1 < 2 ^ 32 := by
    have bound : 2 ^ bits ≤ 2 ^ 31 := Nat.pow_le_pow_right (by decide) small
    omega
  have dvd : 2 ^ bits ∣ 2 ^ 32 := Nat.pow_dvd_pow 2 (by omega)
  unfold maskedBy
  rw [BitVec.toNat_and, BitVec.toNat_ofInt, BitVec.toNat_ofNat, Nat.mod_eq_of_lt below,
    Nat.and_two_pow_sub_one_eq_mod]
  have wrapped : (number % ((2 ^ 32 : Nat) : Int)) % 2 ^ bits = number % 2 ^ bits :=
    Int.emod_emod_of_dvd number (by exact_mod_cast Int.ofNat_dvd.mpr dvd)
  have positive : 0 ≤ number % ((2 ^ 32 : Nat) : Int) := Int.emod_nonneg _ (by decide)
  rw [← wrapped]
  apply Int.ofNat_inj.mp
  rw [Int.natCast_emod, Int.toNat_of_nonneg positive, Int.toNat_of_nonneg]
  · norm_cast
  · exact Int.emod_nonneg _ (Int.pow_ne_zero (by decide))

/-- A step forward in a buffer. -/
theorem emod_forward {capacity slot offset : Nat} (slotLt : slot < capacity)
    (offsetLe : offset ≤ capacity) :
    (((slot : Int) + offset) % capacity).toNat = slotOf capacity slot offset := by
  rw [slotOf_eq_mod slotLt offsetLe]
  exact congrArg Int.toNat (Int.natCast_emod (slot + offset) capacity).symm

/-- A step back in a buffer. -/
theorem emod_back {capacity slot : Nat} (slotLt : slot < capacity) :
    (((slot : Int) - 1) % capacity).toNat = slotOf capacity slot (capacity - 1) := by
  rw [← emod_forward slotLt (Nat.sub_le capacity 1), ← Int.add_emod_right]
  congr 2
  omega

/-- Steps one after another. -/
theorem slotOf_slotOf {capacity head offset more : Nat} (headLt : head < capacity)
    (sumLe : offset + more ≤ capacity) :
    slotOf capacity (slotOf capacity head offset) more = slotOf capacity head (offset + more) := by
  unfold slotOf
  split <;> split <;> split <;> omega

/-- A step and a step back. -/
theorem slotOf_succ_back {capacity head offset : Nat} (headLt : head < capacity)
    (offsetLt : offset < capacity) :
    slotOf capacity (slotOf capacity head (offset + 1)) (capacity - 1) =
      slotOf capacity head offset := by
  unfold slotOf
  split <;> split <;> split <;> omega

variable {ι : Type u} [Inhabited ι]

theorem length_setLength (list : List ι) (length : Nat) :
    (setLength list length).length = length := by
  rw [setLength, List.length_append, List.length_take, List.length_replicate]
  omega

theorem setLength_longer {list : List ι} {length : Nat} (longer : list.length ≤ length) :
    setLength list length = list ++ List.replicate (length - list.length) default := by
  rw [setLength, List.take_of_length_le longer]

theorem setLength_shorter {list : List ι} {length : Nat} (shorter : length ≤ list.length) :
    setLength list length = list.take length := by
  rw [setLength, Nat.sub_eq_zero_of_le shorter, List.replicate_zero, List.append_nil]

namespace RingQueue

/-- The array holds a list, perhaps in all of its slots. -/
structure Holds (queue : RingQueue ι) (items : List ι) : Prop where
  power : ∃ bits, 2 ≤ bits ∧ bits ≤ 29 ∧ queue.list.length = 2 ^ bits
  mask : queue.mask + 1 = queue.list.length
  laid : Laid queue.list queue.head items
  tail : queue.tail = slotOf queue.list.length queue.head items.length

/-- A queue represents a list. -/
structure Represents (queue : RingQueue ι) (items : List ι) : Prop extends
    Holds queue items where
  room : items.length < queue.list.length

section Arithmetic

variable {queue : RingQueue ι} {items : List ι}

theorem Holds.masked (holds : queue.Holds items) (number : Int) :
    maskedBy queue.mask number = (number % queue.list.length).toNat := by
  obtain ⟨bits, -, small, lengthEq⟩ := holds.power
  have maskEq : queue.mask = 2 ^ bits - 1 := by
    have succ := holds.mask
    omega
  rw [maskEq, maskedBy_eq (by omega), lengthEq]
  norm_cast

theorem Holds.masked_forward (holds : queue.Holds items) {slot : Nat}
    (slotLt : slot < queue.list.length) (offset : Nat) (offsetLe : offset ≤ queue.list.length) :
    maskedBy queue.mask (slot + offset) = slotOf queue.list.length slot offset := by
  rw [holds.masked, emod_forward slotLt offsetLe]

theorem Holds.masked_next (holds : queue.Holds items) {slot : Nat}
    (slotLt : slot < queue.list.length) :
    maskedBy queue.mask (slot + 1) = slotOf queue.list.length slot 1 :=
  holds.masked_forward slotLt 1 (Nat.succ_le_of_lt (Nat.zero_lt_of_lt slotLt))

theorem Holds.masked_back (holds : queue.Holds items) {slot : Nat}
    (slotLt : slot < queue.list.length) :
    maskedBy queue.mask (slot - 1) = slotOf queue.list.length slot (queue.list.length - 1) := by
  rw [holds.masked, emod_back slotLt]

/-- Another list in an array of the same length. -/
theorem Holds.relaid (holds : queue.Holds items) {other : RingQueue ι} {others : List ι}
    (sameCapacity : other.list.length = queue.list.length) (sameMask : other.mask = queue.mask)
    (laid : Laid other.list other.head others)
    (tail : other.tail = slotOf queue.list.length other.head others.length) :
    other.Holds others := by
  refine ⟨?_, ?_, laid, ?_⟩
  · rw [sameCapacity]
    exact holds.power
  · rw [sameCapacity, sameMask]
    exact holds.mask
  · rw [sameCapacity]
    exact tail

theorem Holds.tail_lt (holds : queue.Holds items) : queue.tail < queue.list.length := by
  rw [holds.tail]
  exact slotOf_lt holds.laid.head_lt _ holds.laid.fits

/-- The ends meet when the queue is empty or full. -/
theorem Holds.ends_meet_iff (holds : queue.Holds items) :
    queue.head = queue.tail ↔ items.length = 0 ∨ items.length = queue.list.length := by
  have headLt := holds.laid.head_lt
  have fits := holds.laid.fits
  rw [holds.tail]
  unfold slotOf
  split <;> omega

theorem Represents.ends_meet_iff (represents : queue.Represents items) :
    queue.head = queue.tail ↔ items = [] := by
  have room := represents.room
  rw [represents.toHolds.ends_meet_iff, ← List.length_eq_zero_iff]
  omega

theorem Represents.length_eq (represents : queue.Represents items) :
    queue.length = items.length := by
  have headLt := represents.laid.head_lt
  have room := represents.room
  have wrapped : ((queue.tail : Int) - queue.head) % queue.list.length = items.length := by
    have small : (items.length : Int) % queue.list.length = items.length :=
      Int.emod_eq_of_lt (Int.natCast_nonneg _) (Int.ofNat_lt.mpr room)
    rw [represents.tail]
    unfold slotOf
    split
    · next inside =>
        rw [show ((queue.head + items.length : Nat) : Int) - queue.head = items.length by omega]
        exact small
    · next outside =>
        rw [← Int.add_emod_right,
          show ((queue.head + items.length - queue.list.length : Nat) : Int) - queue.head +
            queue.list.length = items.length by omega]
        exact small
  rw [length, represents.masked, wrapped]
  exact Int.toNat_natCast items.length

end Arithmetic

/-! ## Capacities -/

section Capacities

variable {queue : RingQueue ι} {items : List ι}

theorem new_represents : (new : RingQueue ι).Represents [] := by
  refine ⟨⟨⟨2, by decide, by decide, rfl⟩, rfl, ?_, rfl⟩, Nat.succ_pos 3⟩
  exact Laid.ofList (Nat.succ_pos 3) [] (Nat.zero_le 4)

/-- A list at the front of a new array. -/
theorem represents_ofList {bits : Nat} (two : 2 ≤ bits) (small : bits ≤ 29)
    (room : items.length < 2 ^ bits) {mask : Nat} (maskEq : mask + 1 = 2 ^ bits) :
    (⟨setLength items (2 ^ bits), mask, 0, items.length⟩ : RingQueue ι).Represents items := by
  have lengthEq := length_setLength items (2 ^ bits)
  refine ⟨⟨⟨bits, two, small, lengthEq⟩, ?_, ?_, ?_⟩, ?_⟩
  · dsimp only
    rw [lengthEq]
    exact maskEq
  · dsimp only
    rw [setLength_longer (Nat.le_of_lt room)]
    exact Laid.ofList (Nat.zero_lt_of_lt room) items (Nat.le_of_lt room)
  · dsimp only
    rw [lengthEq, slotOf, if_pos (by omega), Nat.zero_add]
  · dsimp only
    rw [lengthEq]
    exact room

/-- The array is doubled when all of its slots are taken. -/
theorem Holds.grow (holds : queue.Holds items) (full : items.length = queue.list.length)
    (small : items.length < 2 ^ 29) : queue.grow.Represents items := by
  obtain ⟨bits, two, -, lengthEq⟩ := holds.power
  have bitsLt : bits < 29 := by
    rw [full, lengthEq] at small
    exact (Nat.pow_lt_pow_iff_right (by decide)).mp small
  have doubled : queue.list.length <<< 1 = 2 ^ (bits + 1) := by
    rw [Nat.shiftLeft_eq, lengthEq, Nat.pow_add]
  have maskEq : queue.mask <<< 1 ||| 1 = 2 * queue.mask + 1 := by
    rw [Nat.shiftLeft_eq, Nat.pow_one, Nat.mul_comm]
    exact (Nat.two_pow_add_eq_or_of_lt (i := 1) (by decide) queue.mask).symm
  have maskSucc : (queue.mask <<< 1 ||| 1) + 1 = 2 ^ (bits + 1) := by
    have succ := holds.mask
    rw [maskEq, Nat.pow_succ, ← lengthEq]
    omega
  have room : items.length < 2 ^ (bits + 1) := by
    rw [full, lengthEq]
    exact Nat.pow_lt_pow_succ (by decide)
  have represents := represents_ofList (by omega) (by omega) room maskSucc
  have headLt := holds.laid.head_lt
  unfold RingQueue.grow
  dsimp only
  by_cases atFront : queue.head = 0
  · have listEq : queue.list = items := by
      have straight := holds.laid.straight (by omega)
      rw [atFront, List.drop_zero, full, List.take_length] at straight
      exact straight
    rw [if_pos atFront, doubled, listEq]
    exact represents
  · have listEq : queue.list.drop queue.head ++ queue.list.take queue.tail = items := by
      have wrapped := holds.laid.wrapped (by omega)
      have tailEq : queue.tail = queue.head + items.length - queue.list.length := by
        rw [holds.tail, slotOf, if_neg (by omega)]
      rw [tailEq]
      exact wrapped
    rw [if_neg atFront, doubled, listEq, ← full]
    exact represents

/-- The test behind a write at either end. -/
theorem Holds.settle (holds : queue.Holds items) (nonempty : items.length ≠ 0)
    (small : items.length < 2 ^ 29) :
    (if queue.tail = queue.head then queue.grow else queue).Represents items := by
  have fits := holds.laid.fits
  by_cases meet : queue.tail = queue.head
  · have full := (holds.ends_meet_iff.mp meet.symm).resolve_left nonempty
    rw [if_pos meet]
    exact holds.grow full small
  · rw [if_neg meet]
    refine ⟨holds, Nat.lt_of_le_of_ne fits ?_⟩
    intro full
    exact meet (holds.ends_meet_iff.mpr (.inr full)).symm

/-- The array is halved when the list lies in its lower half. -/
theorem Represents.shrink (represents : queue.Represents items)
    (large : 8 ≤ queue.list.length)
    (low : queue.head + items.length < queue.list.length / 2) :
    queue.shrink.Represents items := by
  obtain ⟨bits, two, small, lengthEq⟩ := represents.power
  obtain ⟨half, rfl⟩ : ∃ half, bits = half + 1 := ⟨bits - 1, by omega⟩
  have halved : queue.list.length / 2 = 2 ^ half := by
    rw [lengthEq, Nat.pow_succ]
    omega
  have halfGe : 2 ≤ half := by
    have bound : 2 ^ 2 ≤ 2 ^ half := by omega
    exact (Nat.pow_le_pow_iff_right (by decide)).mp bound
  have shifted : queue.list.length >>> 1 = 2 ^ half := by
    rw [Nat.shiftRight_eq_div_pow, Nat.pow_one, halved]
  have maskSucc : queue.mask >>> 1 + 1 = 2 ^ half := by
    have succ := represents.mask
    rw [Nat.shiftRight_eq_div_pow, Nat.pow_one]
    omega
  have cutEq : setLength queue.list (2 ^ half) = queue.list.take (2 ^ half) :=
    setLength_shorter (by omega)
  have cutLength := length_setLength queue.list (2 ^ half)
  unfold RingQueue.shrink
  rw [shifted]
  refine ⟨⟨⟨half, halfGe, by omega, cutLength⟩, ?_, ?_, ?_⟩, ?_⟩
  · dsimp only
    rw [cutLength]
    exact maskSucc
  · dsimp only
    rw [cutEq]
    exact represents.laid.cut (by omega) (by omega) (by omega)
  · dsimp only
    rw [cutLength, represents.tail]
    unfold slotOf
    rw [if_pos (by omega), if_pos (by omega)]
  · dsimp only
    rw [cutLength]
    omega

end Capacities

end RingQueue

end Mysql2.Queue

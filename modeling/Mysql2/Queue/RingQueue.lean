import Mathlib.Algebra.Group.Nat.Defs
import Mysql2.Queue.ListModel
import Mysql2.Store.Circular

/-!
# Ring queues

`RingQueue`: a queue in an array that is used round its end.  An element of the array that was
never written, or was cleared, is `undefined`, which is the default value.
-/

namespace Mysql2.Queue

universe u

/-- `number & mask`, on the bits of 32-bit numbers.  A mask is below 2^31. -/
def maskedBy (mask : Nat) (number : Int) : Nat :=
  (BitVec.ofInt 32 number &&& BitVec.ofNat 32 mask).toNat

/-- `MIN_SHRINK_TAIL`. -/
def MIN_SHRINK_TAIL : Nat :=
  10000

/-- `RingQueue`. -/
structure RingQueue (ι : Type u) where
  list : List ι
  mask : Nat
  head : Nat
  tail : Nat
  deriving DecidableEq, Repr

variable {ι : Type u} [Inhabited ι]

/-- `list.length = length`. -/
def setLength (list : List ι) (length : Nat) : List ι :=
  list.take length ++ List.replicate (length - list.length) default

namespace RingQueue

/-- `new RingQueue()`. -/
def new : RingQueue ι :=
  { list := List.replicate 4 default
    mask := 3
    head := 0
    tail := 0 }

omit [Inhabited ι] in
/-- `length`. -/
def length (queue : RingQueue ι) : Nat :=
  maskedBy queue.mask (queue.tail - queue.head)

/-- `_grow()`. -/
def grow (queue : RingQueue ι) : RingQueue ι :=
  let capacity := queue.list.length
  if queue.head = 0 then
    { list := setLength queue.list (capacity <<< 1)
      mask := queue.mask <<< 1 ||| 1
      head := 0
      tail := capacity }
  else
    { list := setLength (queue.list.drop queue.head ++ queue.list.take queue.tail) (capacity <<< 1)
      mask := queue.mask <<< 1 ||| 1
      head := 0
      tail := capacity }

/-- `_shrink()`. -/
def shrink (queue : RingQueue ι) : RingQueue ι :=
  { queue with
    list := setLength queue.list (queue.list.length >>> 1)
    mask := queue.mask >>> 1 }

/-- `push(item)`. -/
def push (queue : RingQueue ι) : Option ι → RingQueue ι × Nat
  | none => (queue, queue.length)
  | some item =>
      let queue := { queue with
        list := queue.list.set queue.tail item
        tail := maskedBy queue.mask (queue.tail + 1) }
      let queue := if queue.tail = queue.head then queue.grow else queue
      (queue, queue.length)

/-- `unshift(item)`. -/
def unshift (queue : RingQueue ι) : Option ι → RingQueue ι × Nat
  | none => (queue, queue.length)
  | some item =>
      let head := maskedBy queue.mask (queue.head - 1)
      let queue := { queue with
        head := head
        list := queue.list.set head item }
      let queue := if queue.tail = queue.head then queue.grow else queue
      (queue, queue.length)

/-- `shift()`. -/
def shift (queue : RingQueue ι) : RingQueue ι × ι :=
  let head := queue.head
  if head = queue.tail then (queue, default)
  else
    let item := queue.list.getI head
    let queue := { queue with
      list := queue.list.set head default
      head := maskedBy queue.mask (head + 1) }
    if head < 2 ∧ MIN_SHRINK_TAIL < queue.tail ∧ queue.tail ≤ queue.list.length >>> 2 then
      (queue.shrink, item)
    else
      (queue, item)

/-- `pop()`. -/
def pop (queue : RingQueue ι) : RingQueue ι × ι :=
  let tail := queue.tail
  if tail = queue.head then (queue, default)
  else
    let capacity := queue.list.length
    let last := maskedBy queue.mask (tail - 1)
    let item := queue.list.getI last
    let queue := { queue with
      tail := last
      list := queue.list.set last default }
    if queue.head < 2 ∧ MIN_SHRINK_TAIL < tail ∧ tail ≤ capacity >>> 2 then
      (queue.shrink, item)
    else
      (queue, item)

/-- `peekAt(index)`. -/
def peekAt (queue : RingQueue ι) (index : Int) : ι :=
  if !isInt32 index then default
  else if 0 ≤ index then
    if queue.length ≤ index then default
    else queue.list.getI (maskedBy queue.mask (queue.head + index))
  else
    let size : Int := queue.length
    if index < -size then default
    else queue.list.getI (maskedBy queue.mask (queue.head + index + size))

/-- `peek()`. -/
def peek (queue : RingQueue ι) : ι :=
  if queue.head = queue.tail then default else queue.list.getI queue.head

/-- The loop of `removeOne` towards the head, with the slot it ends at. -/
def moveFromHead (mask : Nat) : Nat → List ι → Nat → List ι × Nat
  | 0, list, slot => (list, slot)
  | moves + 1, list, slot =>
      let previous := maskedBy mask (slot - 1)
      moveFromHead mask moves (list.set slot (list.getI previous)) previous

/-- The loop of `removeOne` towards the tail. -/
def moveFromTail (mask : Nat) : Nat → List ι → Nat → List ι × Nat
  | 0, list, slot => (list, slot)
  | moves + 1, list, slot =>
      let next := maskedBy mask (slot + 1)
      moveFromTail mask moves (list.set slot (list.getI next)) next

/-- `removeOne(index)`. -/
def removeOne (queue : RingQueue ι) (index : Int) : RingQueue ι × ι :=
  let size := queue.length
  if !isInt32 index then (queue, default)
  else if size ≤ index ∨ index < -(size : Int) then (queue, default)
  else
    let index := (if index < 0 then index + size else index).toNat
    let slot := maskedBy queue.mask (queue.head + index)
    let item := queue.list.getI slot
    if 2 * index < size then
      let moved := moveFromHead queue.mask index queue.list slot
      ({ queue with
          list := moved.1.set moved.2 default
          head := maskedBy queue.mask (queue.head + 1) }, item)
    else
      let moved := moveFromTail queue.mask (size - 1 - index) queue.list slot
      ({ queue with
          list := moved.1.set moved.2 default
          tail := maskedBy queue.mask (queue.tail - 1) }, item)

omit [Inhabited ι] in
/-- `toArray()`. -/
def toArray (queue : RingQueue ι) : List ι :=
  if queue.head ≤ queue.tail then
    (queue.list.drop queue.head).take (queue.tail - queue.head)
  else
    queue.list.drop queue.head ++ queue.list.take queue.tail

/-- The loop of `_rebuild`.  A capacity is positive, so as many rounds as there are items are
enough. -/
def enough (count : Nat) : Nat → Nat → Nat
  | 0, capacity => capacity
  | fuel + 1, capacity => if capacity ≤ count then enough count fuel (capacity <<< 1) else capacity

/-- `_rebuild(items)`. -/
def rebuild (queue : RingQueue ι) (items : List ι) : RingQueue ι :=
  let capacity := enough items.length items.length queue.list.length
  { list := setLength items capacity
    mask := capacity - 1
    head := 0
    tail := items.length }

/-- `remove(index, count)`. -/
def remove (queue : RingQueue ι) (index : Int) (count : Option Int) :
    RingQueue ι × Option (List ι) :=
  if !isInt32 index then (queue, none)
  else if queue.head = queue.tail then (queue, none)
  else
    let size := queue.length
    if size ≤ index ∨ index < -(size : Int) ∨ count.any (· < 1) then (queue, none)
    else
      let index := if index < 0 then index + size else index
      match count with
      | none =>
          let removed := queue.removeOne index
          (removed.1, some [removed.2])
      | some count =>
          if count = 1 ∨ count = 0 then
            let removed := queue.removeOne index
            (removed.1, some [removed.2])
          else if !isInt32 count then (queue, none)
          else
            let count := if size < index + count then size - index else count
            let spliced := arraySplice queue.toArray index.toNat count.toNat []
            (queue.rebuild spliced.1, some spliced.2)

/-- `splice(index, count, ...newItems)`. -/
def splice (queue : RingQueue ι) (index : Int) (count : Option Int) (newItems : List ι) :
    RingQueue ι × Option (List ι) :=
  if !isInt32 index then (queue, none)
  else
    let size : Int := queue.length
    let index := if index < 0 then index + size else index
    if size < index then (queue, none)
    else if newItems.length = 0 then queue.remove index count
    else if index < 0 then (queue, none)
    else
      let removalCount := count.getD 1
      if !isInt32 removalCount ∨ removalCount < 0 then (queue, none)
      else
        let items := queue.toArray
        if removalCount = 0 then
          (queue.rebuild (arraySplice items index.toNat 0 newItems).1, some [])
        else if size ≤ index then
          (queue.rebuild (arraySplice items index.toNat 0 newItems).1, none)
        else
          let spliced := arraySplice items index.toNat removalCount.toNat newItems
          (queue.rebuild spliced.1, some spliced.2)

/-- `clear()`. -/
def clear (queue : RingQueue ι) : RingQueue ι :=
  { queue with
    list := List.replicate queue.list.length default
    head := 0
    tail := 0 }

/-- What a call does to a queue. -/
def step (queue : RingQueue ι) : Operation ι → RingQueue ι × List (Answer ι)
  | .push item => ((queue.push item).1, [.length (queue.push item).2])
  | .unshift item => ((queue.unshift item).1, [.length (queue.unshift item).2])
  | .shift => (queue.shift.1, [.item queue.shift.2])
  | .pop => (queue.pop.1, [.item queue.pop.2])
  | .peek => (queue, [.item queue.peek])
  | .peekAt index => (queue, [.item (queue.peekAt index)])
  | .removeOne index => ((queue.removeOne index).1, [.item (queue.removeOne index).2])
  | .remove index count => ((queue.remove index count).1, [.array (queue.remove index count).2])
  | .splice index count newItems =>
      ((queue.splice index count newItems).1, [.array (queue.splice index count newItems).2])
  | .clear => (queue.clear, [.nothing])
  | .toArray => (queue, [.array (some queue.toArray)])

end RingQueue

end Mysql2.Queue

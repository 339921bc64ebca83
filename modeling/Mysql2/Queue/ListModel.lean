import Mathlib.Data.List.GetD
import Mysql2.Transition.Mealy

/-!
# Queues as lists

The operations of a queue, and what each of them does to a plain list: the reference model of
the queue's tests.  The default value stands for `undefined`.
-/

namespace Mysql2.Queue

open Mysql2.Transition

universe u

/-- `number === (number | 0)`. -/
def isInt32 (number : Int) : Bool :=
  -2147483648 ≤ number ∧ number ≤ 2147483647

/-- A call of a queue's method.  A count may be left out, and `push` and `unshift` may be called
without an item. -/
inductive Operation (ι : Type u)
  | push (item : Option ι)
  | unshift (item : Option ι)
  | shift
  | pop
  | peek
  | peekAt (index : Int)
  | removeOne (index : Int)
  | remove (index : Int) (count : Option Int)
  | splice (index : Int) (count : Option Int) (newItems : List ι)
  | clear
  | toArray

/-- What a method returns: a length, an item, or an array, where there is one. -/
inductive Answer (ι : Type u)
  | length (value : Nat)
  | item (value : ι)
  | array (items : Option (List ι))
  | nothing
  deriving DecidableEq

variable {ι : Type u}

/-- `items.splice(start, deleteCount, ...newItems)`, with the removed items. -/
def arraySplice (items : List ι) (start deleteCount : Nat) (newItems : List ι) :
    List ι × List ι :=
  (items.take start ++ newItems ++ items.drop (start + deleteCount),
    (items.drop start).take deleteCount)

variable [Inhabited ι]

/-- `modelPeekAt(items, index)`. -/
def modelPeekAt (items : List ι) (index : Int) : ι :=
  let size : Int := items.length
  if !isInt32 index then default
  else if size ≤ index ∨ index < -size then default
  else items.getI (if index < 0 then index + size else index).toNat

/-- `modelRemoveOne(items, index)`. -/
def modelRemoveOne (items : List ι) (index : Int) : List ι × ι :=
  let size : Int := items.length
  if !isInt32 index then (items, default)
  else if size ≤ index ∨ index < -size then (items, default)
  else
    let index := if index < 0 then index + size else index
    let spliced := arraySplice items index.toNat 1 []
    (spliced.1, spliced.2.getI 0)

/-- `modelRemove(items, index, count)`. -/
def modelRemove (items : List ι) (index : Int) (count : Option Int) :
    List ι × Option (List ι) :=
  let size : Int := items.length
  if !isInt32 index then (items, none)
  else if items.length = 0 then (items, none)
  else if size ≤ index ∨ index < -size ∨ count.any (· < 1) then (items, none)
  else
    let index := if index < 0 then index + size else index
    match count with
    | none =>
        let removed := modelRemoveOne items index
        (removed.1, some [removed.2])
    | some count =>
        if count = 1 ∨ count = 0 then
          let removed := modelRemoveOne items index
          (removed.1, some [removed.2])
        else if !isInt32 count then (items, none)
        else
          let count := if size < index + count then size - index else count
          let spliced := arraySplice items index.toNat count.toNat []
          (spliced.1, some spliced.2)

/-- `modelSplice(items, index, count, newItems)`. -/
def modelSplice (items : List ι) (index : Int) (count : Option Int) (newItems : List ι) :
    List ι × Option (List ι) :=
  let size : Int := items.length
  if !isInt32 index then (items, none)
  else
    let index := if index < 0 then index + size else index
    if size < index then (items, none)
    else if newItems.length = 0 then modelRemove items index count
    else if index < 0 then (items, none)
    else
      let removalCount := count.getD 1
      if !isInt32 removalCount ∨ removalCount < 0 then (items, none)
      else if removalCount = 0 then
        ((arraySplice items index.toNat 0 newItems).1, some [])
      else if size ≤ index then
        ((arraySplice items index.toNat 0 newItems).1, none)
      else
        let spliced := arraySplice items index.toNat removalCount.toNat newItems
        (spliced.1, some spliced.2)

/-- What a call does to a list. -/
def listStep (items : List ι) : Operation ι → List ι × List (Answer ι)
  | .push none | .unshift none => (items, [.length items.length])
  | .push (some item) => (items ++ [item], [.length (items.length + 1)])
  | .unshift (some item) => (item :: items, [.length (items.length + 1)])
  | .shift => (items.tail, [.item (items.getI 0)])
  | .pop => (items.dropLast, [.item (items.getI (items.length - 1))])
  | .peek => (items, [.item (items.getI 0)])
  | .peekAt index => (items, [.item (modelPeekAt items index)])
  | .removeOne index =>
      ((modelRemoveOne items index).1, [.item (modelRemoveOne items index).2])
  | .remove index count =>
      ((modelRemove items index count).1, [.array (modelRemove items index count).2])
  | .splice index count newItems =>
      ((modelSplice items index count newItems).1,
        [.array (modelSplice items index count newItems).2])
  | .clear => ([], [.nothing])
  | .toArray => (items, [.array (some items)])

end Mysql2.Queue

import Mysql2.Script.Text

/-!
# Objects of a script

Objects live in a heap and have own properties and a prototype.  Properties hold
data, except for the accessor `__proto__`, which gets and sets the prototype.
Assignment follows strict mode, where it throws if it has no effect.

`β` are the values that are no objects of the heap: primitives, and foreign
objects, whose properties are not looked at.
-/

namespace Mysql2.Script

/-- The address of an object. -/
abbrev Ref :=
  Nat

/-- What a property holds. -/
inductive Slot (β : Type)
  | value (value : β)
  | object (ref : Ref)
  deriving DecidableEq, Repr

/-- A prototype. -/
inductive Link (β : Type)
  | null
  | object (ref : Ref)
  | foreign (value : β)
  deriving DecidableEq, Repr

/-- A property: data that may be read-only, or the accessor `__proto__`. -/
inductive Property (β : Type)
  | data (slot : Slot β) (writable : Bool)
  | proto
  deriving DecidableEq, Repr

/-- An object. -/
structure Object (β : Type) where
  link : Link β
  extensible : Bool
  isArray : Bool
  properties : JsString → Option (Property β)

/-- What the language does with values. -/
structure Primitives (β : Type) where
  undefined : β
  truthy : β → Bool
  isNull : β → Bool
  /-- Whether a value is a foreign object. -/
  isObject : β → Bool
  number : Nat → β
  /-- The length of an array that a value stands for. -/
  toLength : β → Option Nat

/-- What an assignment throws. -/
inductive Thrown
  | typeError
  | rangeError
  deriving DecidableEq, Repr

/-- All objects, by their addresses. -/
abbrev Heap (β : Type) :=
  List (Object β)

/-- The key `length`. -/
def lengthKey : JsString :=
  units "length"

/-- The key of an element of an array. -/
def indexKey (index : Nat) : JsString :=
  units (toString index)

/-- The array index a key stands for. -/
def toIndex (key : JsString) : Option Nat :=
  let index := key.foldl (fun index unit => 10 * index + (unit.toNat - 48)) 0
  if key ≠ [] ∧ key.all (fun unit => 48 ≤ unit.toNat ∧ unit.toNat ≤ 57) ∧
      (key.head? ≠ some 48 ∨ key.length = 1) ∧ index < 4294967295 then
    some index
  else
    none

variable {β : Type}

/-- The object with a property changed. -/
def Object.put (object : Object β) (key : JsString) (property : Property β) : Object β :=
  { object with properties := fun other =>
      if other = key then some property else object.properties other }

/-- The object without the elements from an index on, and with that length. -/
def Object.truncate (primitives : Primitives β) (object : Object β) (length : Nat) : Object β :=
  { object with properties := fun key =>
      if key = lengthKey then some (.data (.value (primitives.number length)) true)
      else if (toIndex key).any (length ≤ ·) then none
      else object.properties key }

/-- The length of an array. -/
def Object.arrayLength (primitives : Primitives β) (object : Object β) : Nat :=
  match object.properties lengthKey with
  | some (.data (.value value) _) => (primitives.toLength value).getD 0
  | _ => 0

/-- The definition of an own property, which arrays treat in their own way. -/
def Object.define (primitives : Primitives β) (object : Object β) (key : JsString)
    (slot : Slot β) : Except Thrown (Object β) :=
  if object.isArray ∧ key = lengthKey then
    match slot with
    | .value value =>
        match primitives.toLength value with
        | some length => .ok (object.truncate primitives length)
        | none => .error .rangeError
    | .object _ => .error .rangeError
  else if object.isArray ∧ (toIndex key).any (object.arrayLength primitives ≤ ·) then
    let length := .data (.value (primitives.number ((toIndex key).getD 0 + 1))) true
    .ok ((object.put lengthKey length).put key (.data slot true))
  else
    .ok (object.put key (.data slot true))

namespace Heap

/-- The own property of an object. -/
def own (heap : Heap β) (ref : Ref) (key : JsString) : Option (Property β) :=
  heap[ref]?.bind fun object => object.properties key

/-- The property of an object or of its prototypes.  A chain of prototypes is no
longer than the heap. -/
def find (heap : Heap β) (key : JsString) : Nat → Ref → Option (Property β)
  | 0, _ => none
  | fuel + 1, ref =>
      match heap[ref]? with
      | none => none
      | some object =>
          match object.properties key, object.link with
          | some property, _ => some property
          | none, .object next => heap.find key fuel next
          | none, _ => none

/-- `object[key]`. -/
def get (primitives : Primitives β) (heap : Heap β) (ref : Ref) (key : JsString) : Slot β :=
  match heap.find key heap.length ref with
  | some (.data slot _) => slot
  | some .proto =>
      match heap[ref]?.map Object.link with
      | some (.object next) => .object next
      | some (.foreign value) => .value value
      | _ => .value primitives.undefined
  | none => .value primitives.undefined

/-- Whether a value counts as true. -/
def truthy (primitives : Primitives β) : Slot β → Bool
  | .value value => primitives.truthy value
  | .object _ => true

/-- The setter of `__proto__`, which ignores primitives other than `null`. -/
def setLink (primitives : Primitives β) (heap : Heap β) (ref : Ref) (object : Object β)
    (slot : Slot β) : Except Thrown (Heap β) :=
  let link : Option (Link β) :=
    match slot with
    | .object next => some (.object next)
    | .value value =>
        if primitives.isNull value then some .null
        else if primitives.isObject value then some (.foreign value)
        else none
  match link with
  | none => .ok heap
  | some link =>
      if object.extensible then .ok (heap.set ref { object with link := link })
      else .error .typeError

/-- `object[key] = slot`. -/
def assign (primitives : Primitives β) (heap : Heap β) (ref : Ref) (key : JsString)
    (slot : Slot β) : Except Thrown (Heap β) :=
  match heap[ref]? with
  | none => .error .typeError
  | some object =>
      match heap.find key heap.length ref with
      | some .proto => heap.setLink primitives ref object slot
      | some (.data _ false) => .error .typeError
      | some (.data _ true) | none =>
          if (object.properties key).isSome ∨ object.extensible then
            (object.define primitives key slot).map fun defined => heap.set ref defined
          else
            .error .typeError

/-- A new object, and its address. -/
def allocate (heap : Heap β) (object : Object β) : Heap β × Ref :=
  (heap ++ [object], heap.length)

end Heap

/-- The key `__proto__`. -/
def protoKey : JsString :=
  units "__proto__"

/-- A heap with `Object.prototype` and `Array.prototype`, where only the former
has the accessor `__proto__`. -/
structure Realm (β : Type) where
  heap : Heap β
  objectPrototype : Ref
  arrayPrototype : Ref
  distinct : arrayPrototype ≠ objectPrototype
  objectLink : heap[objectPrototype]?.map Object.link = some .null
  arrayLink : heap[arrayPrototype]?.map Object.link = some (.object objectPrototype)
  objectProto (key : JsString) : heap.own objectPrototype key = some .proto ↔ key = protoKey
  arrayProto (key : JsString) : heap.own arrayPrototype key ≠ some .proto

namespace Realm

/-- `{}`. -/
def newObject (realm : Realm β) : Object β where
  link := .object realm.objectPrototype
  extensible := true
  isArray := false
  properties _ := none

/-- `new Array(length)`. -/
def newArray (realm : Realm β) (primitives : Primitives β) (length : Nat) : Object β where
  link := .object realm.arrayPrototype
  extensible := true
  isArray := true
  properties key :=
    if key = lengthKey then some (.data (.value (primitives.number length)) true) else none

/-- A small realm, where the objects inherit a function `toString` only. -/
def small : Realm β where
  heap := [
    { link := .null
      extensible := true
      isArray := false
      properties := fun key =>
        if key = protoKey then some .proto
        else if key = units "toString" then some (.data (.object 2) true)
        else none },
    { link := .object 0
      extensible := true
      isArray := false
      properties := fun _ => none },
    { link := .object 0
      extensible := true
      isArray := false
      properties := fun _ => none }]
  objectPrototype := 0
  arrayPrototype := 1
  distinct := by decide
  objectLink := rfl
  arrayLink := rfl
  objectProto key := by
    show (if key = protoKey then some Property.proto
      else if key = units "toString" then some (.data (.object 2) true) else none) = _ ↔ _
    by_cases isProto : key = protoKey
    · simp [isProto]
    · rw [if_neg isProto]
      split <;> simp [isProto]
  arrayProto key := by rintro ⟨⟩

end Realm

end Mysql2.Script

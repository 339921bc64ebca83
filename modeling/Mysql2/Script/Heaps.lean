import Mathlib.Data.List.Infix
import Mathlib.Data.Option.Basic
import Mysql2.Script.Objects

/-!
# Objects that are added to a heap

A script that makes objects and assigns their properties leaves all other objects as they are,
as long as it does not come upon one of them through an inherited property.
-/

namespace Mysql2.Script

variable {β : Type} {primitives : Primitives β} {realm : Realm β} {before heap : Heap β}
  {object after : Object β} {ref : Ref} {key : JsString} {slot : Slot β}

/-! ## Plain objects -/

/-- An object that takes new properties, and whose own ones can be assigned. -/
structure Object.IsPlain (object : Object β) : Prop where
  extensible : object.extensible = true
  data : ∀ key property, object.properties key = some property → ∃ slot, property = .data slot true

theorem Object.IsPlain.put (plain : object.IsPlain) (key : JsString) (slot : Slot β) :
    (object.put key (.data slot true)).IsPlain where
  extensible := plain.extensible
  data := by
    intro other property own
    simp only [Object.put] at own
    split at own
    · exact ⟨slot, (Option.some.inj own).symm⟩
    · exact plain.data other property own

theorem Object.IsPlain.truncate (plain : object.IsPlain) (length : Nat) :
    (object.truncate primitives length).IsPlain where
  extensible := plain.extensible
  data := by
    intro other property own
    simp only [Object.truncate] at own
    split at own
    · exact ⟨_, (Option.some.inj own).symm⟩
    · split at own
      · cases own
      · exact plain.data other property own

/-- What the definition of a property leaves of an object, and what it makes. -/
structure Object.Defines (object after : Object β) (slot : Slot β) : Prop where
  plain : object.IsPlain → after.IsPlain
  link : after.link = object.link
  isArray : after.isArray = object.isArray
  /-- Objects that it refers to are the assigned one, and those from before. -/
  refers : ∀ key inner writable, after.properties key = some (.data (.object inner) writable) →
    slot = .object inner ∨ ∃ key writable,
      object.properties key = some (.data (.object inner) writable)

theorem Object.defines_put (object : Object β) (key : JsString) (slot : Slot β) :
    object.Defines (object.put key (.data slot true)) slot where
  plain plain := plain.put key slot
  link := rfl
  isArray := rfl
  refers := by
    intro other inner writable own
    simp only [Object.put] at own
    split at own
    · cases own
      exact .inl rfl
    · exact .inr ⟨other, writable, own⟩

theorem Object.defines (defined : object.define primitives key slot = .ok after) :
    object.Defines after slot := by
  unfold Object.define at defined
  split at defined
  · cases slot with
    | object inner => cases defined
    | value value =>
        dsimp only at defined
        cases lengthEq : primitives.toLength value with
        | none =>
            rw [lengthEq] at defined
            cases defined
        | some length =>
            rw [lengthEq] at defined
            cases defined
            refine ⟨fun plain => plain.truncate length, rfl, rfl, ?_⟩
            intro other inner writable own
            simp only [Object.truncate] at own
            split at own
            · cases own
            · split at own
              · cases own
              · exact .inr ⟨other, writable, own⟩
  · split at defined
    · cases defined
      have first := object.defines_put lengthKey
        (.value (primitives.number ((toIndex key).getD 0 + 1)))
      have second := (object.put lengthKey (.data
        (.value (primitives.number ((toIndex key).getD 0 + 1))) true)).defines_put key slot
      refine ⟨fun plain => second.plain (first.plain plain), rfl, rfl, ?_⟩
      intro other inner writable own
      rcases second.refers other inner writable own with isSlot | ⟨between, writable', own'⟩
      · exact .inl isSlot
      · rcases first.refers between inner writable' own' with isLength | earlier
        · cases isLength
        · exact .inr earlier
    · cases defined
      exact object.defines_put key slot

/-- Objects that are no arrays take any property. -/
theorem Object.define_of_not_isArray (notArray : object.isArray = false) :
    object.define primitives key slot = .ok (object.put key (.data slot true)) := by
  simp [Object.define, notArray]

/-- An object that is assigned becomes a property, and the others stay. -/
theorem Object.define_object {inner : Ref}
    (defined : object.define primitives key (.object inner) = .ok after) :
    after.properties key = some (.data (.object inner) true) ∧
      (object.isArray = true → key ≠ lengthKey) ∧
      ∀ other, other ≠ key → (other = lengthKey → object.isArray = false) →
        after.properties other = object.properties other := by
  unfold Object.define at defined
  split at defined
  · cases defined
  · next notLength =>
      have keyEq : object.isArray = true → key ≠ lengthKey :=
        fun isArray isLength => notLength ⟨isArray, isLength⟩
      split at defined
      · next isElement =>
          cases defined
          refine ⟨if_pos rfl, keyEq, ?_⟩
          intro other different notArray
          have otherEq : other ≠ lengthKey := by
            intro isLength
            rw [notArray isLength] at isElement
            exact absurd isElement.1 Bool.false_ne_true
          simp only [Object.put]
          rw [if_neg different, if_neg otherEq]
      · cases defined
        refine ⟨if_pos rfl, keyEq, ?_⟩
        intro other different _
        simp only [Object.put]
        rw [if_neg different]

/-! ## Inherited properties -/

/-- A prototype that new objects have. -/
def Realm.IsPrototype (realm : Realm β) (link : Link β) : Prop :=
  link = .object realm.objectPrototype ∨ link = .object realm.arrayPrototype

/-- What objects with a prototype inherit. -/
def Realm.inherited (realm : Realm β) (link : Link β) (key : JsString) : Option (Property β) :=
  match link with
  | .object ref =>
      if ref = realm.arrayPrototype then
        (realm.heap.own realm.arrayPrototype key).or (realm.heap.own realm.objectPrototype key)
      else
        realm.heap.own realm.objectPrototype key
  | _ => none

theorem Realm.objectPrototype_lt (realm : Realm β) : realm.objectPrototype < realm.heap.length := by
  have linked := realm.objectLink
  by_contra outside
  rw [List.getElem?_eq_none (Nat.not_lt.mp outside)] at linked
  cases linked

theorem Realm.arrayPrototype_lt (realm : Realm β) : realm.arrayPrototype < realm.heap.length := by
  have linked := realm.arrayLink
  by_contra outside
  rw [List.getElem?_eq_none (Nat.not_lt.mp outside)] at linked
  cases linked

theorem Heap.find_of_own {property : Property β} (at_ : heap[ref]? = some object)
    (own : object.properties key = some property) (fuel : Nat) :
    heap.find key (fuel + 1) ref = some property := by
  rw [Heap.find, at_]
  simp only [own]

theorem Heap.find_of_link {next : Ref} (at_ : heap[ref]? = some object)
    (own : object.properties key = none) (link : object.link = .object next) (fuel : Nat) :
    heap.find key (fuel + 1) ref = heap.find key fuel next := by
  rw [Heap.find, at_]
  simp only [own, link]

theorem Realm.getElem?_of_isPrefix (isRealm : realm.heap <+: heap) {ref : Ref}
    (inside : ref < realm.heap.length) : heap[ref]? = realm.heap[ref]? := by
  obtain ⟨more, rfl⟩ := isRealm
  exact List.getElem?_append_left inside

theorem Realm.find_objectPrototype (isRealm : realm.heap <+: heap) (key : JsString) (fuel : Nat) :
    heap.find key (fuel + 1) realm.objectPrototype = realm.heap.own realm.objectPrototype key := by
  have same := realm.getElem?_of_isPrefix isRealm realm.objectPrototype_lt
  have linked := realm.objectLink
  rw [Heap.find, Heap.own, same]
  cases at_ : realm.heap[realm.objectPrototype]? with
  | none => rfl
  | some object =>
      rw [at_] at linked
      have link : object.link = .null := Option.some.inj linked
      cases own : object.properties key with
      | some property => simp only [Option.bind_some, own]
      | none => simp only [Option.bind_some, own, link]

theorem Realm.find_arrayPrototype (isRealm : realm.heap <+: heap) (key : JsString) (fuel : Nat) :
    heap.find key (fuel + 2) realm.arrayPrototype =
      (realm.heap.own realm.arrayPrototype key).or
        (realm.heap.own realm.objectPrototype key) := by
  have same := realm.getElem?_of_isPrefix isRealm realm.arrayPrototype_lt
  have linked := realm.arrayLink
  rw [Heap.find, Heap.own, same]
  cases at_ : realm.heap[realm.arrayPrototype]? with
  | none =>
      rw [at_] at linked
      cases linked
  | some object =>
      rw [at_] at linked
      have link : object.link = .object realm.objectPrototype := Option.some.inj linked
      cases own : object.properties key with
      | some property => simp only [Option.bind_some, own, Option.some_or]
      | none =>
          simp only [Option.bind_some, own, link, Option.none_or]
          exact realm.find_objectPrototype isRealm key fuel

theorem Realm.two_le_length (realm : Realm β) : 2 ≤ realm.heap.length := by
  rcases Nat.lt_or_gt_of_ne realm.distinct with less | less
  · exact Nat.lt_of_le_of_lt (Nat.succ_le_of_lt (Nat.zero_lt_of_lt less)) realm.objectPrototype_lt
  · exact Nat.lt_of_le_of_lt (Nat.succ_le_of_lt (Nat.zero_lt_of_lt less)) realm.arrayPrototype_lt

/-- The property of a new object is its own or an inherited one. -/
theorem Realm.find_eq (isRealm : realm.heap <+: heap) (isNew : realm.heap.length ≤ ref)
    (at_ : heap[ref]? = some object) (isPrototype : realm.IsPrototype object.link)
    (key : JsString) :
    heap.find key heap.length ref =
      (object.properties key).or (realm.inherited object.link key) := by
  have two := realm.two_le_length
  obtain ⟨inside, -⟩ := List.getElem?_eq_some_iff.mp at_
  obtain ⟨fuel, lengthEq⟩ : ∃ fuel, heap.length = fuel + 3 := ⟨heap.length - 3, by omega⟩
  rw [lengthEq]
  cases own : object.properties key with
  | some property =>
      rw [Heap.find_of_own at_ own, Option.some_or]
  | none =>
      rcases isPrototype with link | link
      · rw [Heap.find_of_link at_ own link, Option.none_or, link, Realm.inherited,
          if_neg realm.distinct.symm]
        exact realm.find_objectPrototype isRealm key (fuel + 1)
      · rw [Heap.find_of_link at_ own link, Option.none_or, link, Realm.inherited, if_pos rfl]
        exact realm.find_arrayPrototype isRealm key fuel

/-- The accessor is inherited under one key. -/
theorem Realm.inherited_ne_proto (realm : Realm β) (link : Link β) {key : JsString}
    (notProto : key ≠ protoKey) : realm.inherited link key ≠ some .proto := by
  have object := (realm.objectProto key).not.mpr notProto
  have array := realm.arrayProto key
  unfold Realm.inherited
  split
  · split
    · cases own : realm.heap.own realm.arrayPrototype key with
      | none => exact object
      | some property =>
          rw [own] at array
          rw [Option.some_or]
          exact array
    · exact object
  · exact nofun

/-! ## Assignments -/

/-- An assignment neither makes nor removes an object. -/
theorem Heap.length_assign {assigned : Heap β}
    (run : heap.assign primitives ref key slot = .ok assigned) :
    assigned.length = heap.length := by
  have ofDefine {object : Object β} (run : (object.define primitives key slot).map
      (fun defined => heap.set ref defined) = .ok assigned) : assigned.length = heap.length := by
    cases defined : object.define primitives key slot with
    | error thrown =>
        rw [defined] at run
        cases run
    | ok after =>
        rw [defined] at run
        cases run
        exact List.length_set
  unfold Heap.assign at run
  split at run
  · cases run
  · split at run
    · -- the accessor sets the prototype of an object, or nothing
      unfold Heap.setLink at run
      dsimp only at run
      split at run
      · cases run
        rfl
      · split at run
        · cases run
          exact List.length_set
        · cases run
    · cases run
    · split at run
      · exact ofDefine run
      · cases run
    · split at run
      · exact ofDefine run
      · cases run

/-- An assignment to a new object throws, or defines an own property of it. -/
theorem Realm.assign_cases (isRealm : realm.heap <+: heap) (isNew : realm.heap.length ≤ ref)
    (at_ : heap[ref]? = some object) (isPrototype : realm.IsPrototype object.link)
    (plain : object.IsPlain) (notProto : key ≠ protoKey) :
    (∃ thrown, heap.assign primitives ref key slot = .error thrown) ∨
      ∃ after, object.define primitives key slot = .ok after ∧
        heap.assign primitives ref key slot = .ok (heap.set ref after) := by
  have found := realm.find_eq isRealm isNew at_ isPrototype key
  have defines : (∃ thrown, (object.define primitives key slot).map
        (fun defined => heap.set ref defined) = .error thrown) ∨
      ∃ after, object.define primitives key slot = .ok after ∧
        (object.define primitives key slot).map (fun defined => heap.set ref defined) =
          .ok (heap.set ref after) := by
    cases defined : object.define primitives key slot with
    | error thrown => exact .inl ⟨thrown, rfl⟩
    | ok after => exact .inr ⟨after, rfl, rfl⟩
  rw [Heap.assign, at_]
  dsimp only
  rw [found]
  cases own : object.properties key with
  | some property =>
      obtain ⟨inner, rfl⟩ := plain.data key property own
      simp only [Option.some_or, Option.isSome_some, plain.extensible, or_self, if_true]
      exact defines
  | none =>
      have notAccessor := realm.inherited_ne_proto object.link notProto
      rw [Option.none_or]
      cases inherits : realm.inherited object.link key with
      | none =>
          simp only [plain.extensible, or_true, if_true]
          exact defines
      | some property =>
          cases property with
          | proto => exact absurd inherits notAccessor
          | data inner writable =>
              cases writable with
              | false => exact .inl ⟨.typeError, rfl⟩
              | true =>
                  simp only [plain.extensible, or_true, if_true]
                  exact defines

/-- No inherited property keeps an assignment to this key from defining an own one. -/
def Realm.Settable (realm : Realm β) (link : Link β) (key : JsString) : Prop :=
  ∀ property, realm.inherited link key = some property → ∃ slot, property = .data slot true

theorem Realm.assign_of_settable (isRealm : realm.heap <+: heap)
    (isNew : realm.heap.length ≤ ref) (at_ : heap[ref]? = some object)
    (isPrototype : realm.IsPrototype object.link) (plain : object.IsPlain)
    (settable : realm.Settable object.link key)
    (defined : object.define primitives key slot = .ok after) :
    heap.assign primitives ref key slot = .ok (heap.set ref after) := by
  have found := realm.find_eq isRealm isNew at_ isPrototype key
  have assigned : (object.define primitives key slot).map (fun defined => heap.set ref defined) =
      .ok (heap.set ref after) := by
    rw [defined]
    rfl
  rw [Heap.assign, at_]
  dsimp only
  rw [found]
  cases own : object.properties key with
  | some property =>
      obtain ⟨inner, rfl⟩ := plain.data key property own
      simp only [Option.some_or, Option.isSome_some, true_or, if_true]
      exact assigned
  | none =>
      rw [Option.none_or]
      cases inherits : realm.inherited object.link key with
      | none =>
          simp only [plain.extensible, or_true, if_true]
          exact assigned
      | some property =>
          obtain ⟨inner, rfl⟩ := settable property inherits
          simp only [plain.extensible, or_true, if_true]
          exact assigned

/-! ## Heaps that only get new objects -/

/-- The heap has new objects besides those from before, which are plain, have the prototypes of
new objects, and refer to new objects only. -/
structure Realm.Adds (realm : Realm β) (before heap : Heap β) : Prop where
  isPrefix : before <+: heap
  plain : ∀ ref object, before.length ≤ ref → heap[ref]? = some object →
    object.IsPlain ∧ realm.IsPrototype object.link
  refers : ∀ ref object key inner writable, before.length ≤ ref → heap[ref]? = some object →
    object.properties key = some (.data (.object inner) writable) → before.length ≤ inner

namespace Realm.Adds

theorem refl (realm : Realm β) (before : Heap β) : realm.Adds before before where
  isPrefix := List.prefix_rfl
  plain := by
    intro ref object isNew at_
    rw [List.getElem?_eq_none isNew] at at_
    cases at_
  refers := by
    intro ref object key inner writable isNew at_
    rw [List.getElem?_eq_none isNew] at at_
    cases at_

theorem length_le (adds : realm.Adds before heap) : before.length ≤ heap.length :=
  adds.isPrefix.length_le

theorem allocate (adds : realm.Adds before heap) (plain : object.IsPlain)
    (isPrototype : realm.IsPrototype object.link)
    (values : ∀ key inner writable,
      object.properties key ≠ some (.data (.object inner) writable)) :
    realm.Adds before (heap ++ [object]) := by
  -- an object of the new heap is one of the heap, or the new one
  have cases {ref : Ref} {other : Object β} (at_ : (heap ++ [object])[ref]? = some other) :
      heap[ref]? = some other ∨ other = object := by
    rcases Nat.lt_or_ge ref heap.length with inside | outside
    · rw [List.getElem?_append_left inside] at at_
      exact .inl at_
    · rw [List.getElem?_append_right outside] at at_
      have single := List.mem_of_getElem? at_
      exact .inr (List.mem_singleton.mp single)
  refine ⟨adds.isPrefix.trans (List.prefix_append _ _), ?_, ?_⟩
  · intro ref other isNew at_
    rcases cases at_ with at_ | rfl
    · exact adds.plain ref other isNew at_
    · exact ⟨plain, isPrototype⟩
  · intro ref other key inner writable isNew at_ own
    rcases cases at_ with at_ | rfl
    · exact adds.refers ref other key inner writable isNew at_ own
    · exact absurd own (values key inner writable)

theorem set (adds : realm.Adds before heap) (isNew : before.length ≤ ref)
    (at_ : heap[ref]? = some object) (defines : object.Defines after slot)
    (isNewSlot : ∀ inner, slot = .object inner → before.length ≤ inner) :
    realm.Adds before (heap.set ref after) := by
  have cases {other : Ref} {found : Object β} (at' : (heap.set ref after)[other]? = some found) :
      heap[other]? = some found ∨ other = ref ∧ found = after := by
    rcases eq_or_ne ref other with rfl | different
    · rw [List.getElem?_set_self (List.getElem?_eq_some_iff.mp at_).1] at at'
      exact .inr ⟨rfl, (Option.some.inj at').symm⟩
    · rw [List.getElem?_set_ne different] at at'
      exact .inl at'
  obtain ⟨plain, isPrototype⟩ := adds.plain ref object isNew at_
  refine ⟨?_, ?_, ?_⟩
  · obtain ⟨more, rfl⟩ := adds.isPrefix
    rw [List.set_append_right _ _ isNew]
    exact List.prefix_append _ _
  · intro other found isNew' at'
    rcases cases at' with at' | ⟨rfl, rfl⟩
    · exact adds.plain other found isNew' at'
    · exact ⟨defines.plain plain, by rwa [defines.link]⟩
  · intro other found key inner writable isNew' at' own
    rcases cases at' with at' | ⟨rfl, rfl⟩
    · exact adds.refers other found key inner writable isNew' at' own
    · rcases defines.refers key inner writable own with isSlot | ⟨key', writable', own'⟩
      · exact isNewSlot inner isSlot
      · exact adds.refers other object key' inner writable' isNew at_ own'

/-- An assignment to a new object that does not throw defines an own property. -/
theorem exists_define (adds : realm.Adds before heap) (isRealm : realm.heap <+: before)
    (isNew : before.length ≤ ref) (notProto : key ≠ protoKey) {assigned : Heap β}
    (run : heap.assign primitives ref key slot = .ok assigned) :
    ∃ object after, heap[ref]? = some object ∧
      object.define primitives key slot = .ok after ∧ assigned = heap.set ref after := by
  cases at_ : heap[ref]? with
  | none =>
      rw [Heap.assign, at_] at run
      cases run
  | some object =>
      obtain ⟨plain, isPrototype⟩ := adds.plain ref object isNew at_
      have cases : (∃ thrown, heap.assign primitives ref key slot = .error thrown) ∨
          ∃ after, object.define primitives key slot = .ok after ∧
            heap.assign primitives ref key slot = .ok (heap.set ref after) :=
        realm.assign_cases (isRealm.trans adds.isPrefix) (isRealm.length_le.trans isNew) at_
          isPrototype plain notProto
      rcases cases with ⟨thrown, failed⟩ | ⟨after, defined, assigns⟩
      · rw [failed] at run
        cases run
      · rw [assigns] at run
        exact ⟨object, after, rfl, defined, (Except.ok.inj run).symm⟩

theorem assign (adds : realm.Adds before heap) (isRealm : realm.heap <+: before)
    (isNew : before.length ≤ ref) (notProto : key ≠ protoKey)
    (isNewSlot : ∀ inner, slot = .object inner → before.length ≤ inner)
    {assigned : Heap β} (run : heap.assign primitives ref key slot = .ok assigned) :
    realm.Adds before assigned := by
  obtain ⟨object, after, at_, defined, rfl⟩ := adds.exists_define isRealm isNew notProto run
  exact adds.set isNew at_ (Object.defines defined) isNewSlot

end Realm.Adds

theorem Realm.isPlain_newObject (realm : Realm β) : realm.newObject.IsPlain where
  extensible := rfl
  data := by
    rintro key property ⟨⟩

theorem Realm.isPlain_newArray (realm : Realm β) (primitives : Primitives β) (length : Nat) :
    (realm.newArray primitives length).IsPlain where
  extensible := rfl
  data := by
    intro key property own
    simp only [Realm.newArray] at own
    split at own
    · exact ⟨_, (Option.some.inj own).symm⟩
    · cases own

end Mysql2.Script

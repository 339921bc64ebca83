import Mathlib.Logic.Function.Basic
import Mysql2.Parsers.RowObjects
import Mysql2.Parsers.Twins

/-!
# What a row holds

A row holds the value of each column at a place that the options tell: under an index, under a
name, or in the object of a table.  Each of the row parsers makes such a row from the values that
it reads.
-/

namespace Mysql2.Parsers

open Mysql2.Packets Mysql2.Script

variable {α β φ : Type}

/-! ## Rows without a heap -/

/-- Where a value stands in a row: under a key, or under a name in a nested table. -/
inductive Place
  | key (key : JsString)
  | nested (table name : JsString)
  deriving DecidableEq, Repr

/-- What a row holds. -/
abbrev Contents (α : Type) :=
  Place → Option (Value α)

/-- The place of a column. -/
def Place.ofField (options : Options φ) (index : Nat) (field : Field) : Place :=
  if options.rowsAsArray then .key (indexKey index)
  else
    match options.nestTables with
    | .separator separator => .key (field.table ++ separator ++ field.name)
    | .true => .nested field.table field.name
    | _ => .key field.name

/-- The contents with the values of columns, from an index on.  A column replaces an earlier one
at its place. -/
def Contents.fill (options : Options φ) :
    Nat → List Field → List (Value α) → Contents α → Contents α
  | index, field :: fields, value :: values, contents =>
      Contents.fill options (index + 1) fields values
        (Function.update contents (.ofField options index field) (some value))
  | _, _, _, contents => contents

/-- A row of all columns. -/
def Contents.ofValues (options : Options φ) (fields : List Field) (values : List (Value α)) :
    Contents α :=
  Contents.fill options 0 fields values fun _ => none

/-! ## Rows in a heap -/

/-- The property that holds a value. -/
def valueProperty (value : Value α) : Property (Value α) :=
  .data (.value value) true

/-- The property at a place. -/
def propertyAt (heap : Heap (Value α)) (result : Ref) : Place → Option (Property (Value α))
  | .key key => heap.own result key
  | .nested table name =>
      match heap.own result table with
      | some (.data (.object inner) _) => heap.own inner name
      | _ => none

/-- The prototype of a row. -/
def rowLink (realm : Realm (Value α)) (options : Options φ) : Link (Value α) :=
  if options.rowsAsArray then .object realm.arrayPrototype else .object realm.objectPrototype

/-- The row holds the contents under keys.  An array has its length besides. -/
def HoldsKeys (options : Options φ) (heap : Heap (Value α)) (result : Ref)
    (contents : Contents α) : Prop :=
  ∀ key, (options.rowsAsArray = true → key ≠ lengthKey) →
    heap.own result key = (contents (.key key)).map valueProperty

/-- The row holds the contents in nested tables, which are objects of their own. -/
structure HoldsTables (realm : Realm (Value α)) (heap : Heap (Value α)) (result : Ref)
    (contents : Contents α) : Prop where
  table : ∀ table property, heap.own result table = some property → ∃ inner object,
    property = .data (.object inner) true ∧ inner ≠ result ∧ heap[inner]? = some object ∧
      object.isArray = false ∧ object.link = .object realm.objectPrototype
  distinct : ∀ first second inner, heap.own result first = some (.data (.object inner) true) →
    heap.own result second = some (.data (.object inner) true) → first = second
  holds : ∀ table name, propertyAt heap result (.nested table name) =
    (contents (.nested table name)).map valueProperty

/-- A new object holds the contents as the options tell.  If it is an array it has that length. -/
structure HoldsRow (realm : Realm (Value α)) (before : Heap (Value α)) (options : Options φ)
    (length : Nat) (heap : Heap (Value α)) (result : Ref) (contents : Contents α) : Prop where
  adds : realm.Adds before heap
  isNew : before.length ≤ result
  object : ∃ object, heap[result]? = some object ∧ object.isArray = options.rowsAsArray ∧
    object.link = rowLink realm options
  length : options.rowsAsArray = true →
    heap.own result lengthKey = some (valueProperty (.number length))
  keys : options.nestTables ≠ .true → HoldsKeys options heap result contents
  tables : options.nestTables = .true → HoldsTables realm heap result contents

namespace HoldsRow

variable {runtime : Runtime α} {realm : Realm (Value α)} {before heap : Heap (Value α)}
  {options : Options φ} {length : Nat} {result : Ref} {contents : Contents α}

/-! ### Keys -/

theorem own_set_self {heap : Heap (Value α)} {ref : Ref} (inside : ref < heap.length)
    (after : Object (Value α)) (key : JsString) :
    Heap.own (heap.set ref after) ref key = after.properties key := by
  rw [Heap.own, List.getElem?_set_self inside, Option.bind_some]

/-- The definition of a key of a row that is no array. -/
theorem assign_key (runtime : Runtime α)
    (row : HoldsRow realm before options length heap result contents)
    (isRealm : realm.heap <+: before) (notArray : options.rowsAsArray = false)
    (flat : options.nestTables ≠ .true) {key : JsString}
    (settable : realm.Settable (.object realm.objectPrototype) key) (value : Value α) :
    ∃ assigned, heap.assign runtime.primitives result key (.value value) = .ok assigned ∧
      HoldsRow realm before options length assigned result
        (Function.update contents (.key key) (some value)) := by
  obtain ⟨object, at_, isArray, link⟩ := row.object
  obtain ⟨plain, isPrototype⟩ := row.adds.plain result object row.isNew at_
  have inside := (List.getElem?_eq_some_iff.mp at_).1
  rw [notArray] at isArray
  rw [rowLink, notArray, if_neg Bool.false_ne_true] at link
  have defined : object.define runtime.primitives key (.value value) =
      .ok (object.put key (.data (.value value) true)) :=
    Object.define_of_not_isArray isArray
  rw [← link] at settable
  refine ⟨_, realm.assign_of_settable (isRealm.trans row.adds.isPrefix)
    (isRealm.length_le.trans row.isNew) at_ isPrototype plain settable defined, ?_⟩
  refine ⟨row.adds.set row.isNew at_ (Object.defines defined) (by rintro _ ⟨⟩), row.isNew,
    ⟨_, List.getElem?_set_self inside, ?_, ?_⟩, ?_, fun _ other notLength => ?_,
    fun nests => absurd nests flat⟩
  · rw [notArray]
    exact isArray
  · rw [rowLink, notArray, if_neg Bool.false_ne_true]
    exact link
  · intro array
    rw [notArray] at array
    cases array
  · have held := row.keys flat other notLength
    rw [Heap.own, at_, Option.bind_some] at held
    rw [own_set_self inside]
    simp only [Object.put]
    rcases eq_or_ne other key with rfl | different
    · rw [if_pos rfl, Function.update_self]
      rfl
    · have otherPlace : Place.key other ≠ .key key := fun same => different (Place.key.inj same)
      rw [if_neg different, Function.update_of_ne otherPlace]
      exact held

/-! ### Elements of an array -/

theorem toLength_number (runtime : Runtime α) {length : Nat} (small : length < 4294967296) :
    runtime.primitives.toLength (.number length) = some length := by
  have range : (0 : Int) ≤ length ∧ (length : Int) < 4294967296 := by omega
  simp only [Runtime.primitives]
  rw [if_pos range, Int.toNat_natCast]

/-- An element within the length of an array, or right behind it, which makes it longer. -/
theorem define_element (runtime : Runtime α) {object : Object (Value α)}
    (isArray : object.isArray = true) {length index : Nat}
    (lengthEq : object.properties lengthKey = some (valueProperty (.number length)))
    (small : length < 4294967296) (smallIndex : index < 4294967295) (near : index ≤ length)
    (value : Value α) : ∃ after,
      object.define runtime.primitives (indexKey index) (.value value) = .ok after ∧
        after.properties lengthKey = some (valueProperty (.number (max length (index + 1) : Nat))) ∧
        after.properties (indexKey index) = some (valueProperty value) ∧
        ∀ key, key ≠ lengthKey → key ≠ indexKey index →
          after.properties key = object.properties key := by
  have notLength : ¬(object.isArray = true ∧ indexKey index = lengthKey) :=
    fun both => indexKey_ne_lengthKey index both.2
  have arrayLength : object.arrayLength runtime.primitives = length := by
    rw [Object.arrayLength, lengthEq]
    show (runtime.primitives.toLength (.number length)).getD 0 = length
    rw [toLength_number runtime (by omega), Option.getD_some]
  rw [Object.define, if_neg notLength, toIndex_indexKey smallIndex, arrayLength]
  rcases Nat.lt_or_ge index length with within | behind
  · have inside : ¬(object.isArray = true ∧
        (some index).any (fun index => decide (length ≤ index)) = true) := by
      rintro ⟨-, isBehind⟩
      exact absurd (of_decide_eq_true isBehind) (Nat.not_le.mpr within)
    rw [if_neg inside]
    refine ⟨_, rfl, ?_, if_pos rfl, fun key _ different => if_neg different⟩
    simp only [Object.put]
    rw [if_neg (indexKey_ne_lengthKey index).symm, lengthEq, Nat.max_eq_left (by omega)]
  · have atEnd : object.isArray = true ∧
        (some index).any (fun index => decide (length ≤ index)) = true :=
      ⟨isArray, decide_eq_true behind⟩
    rw [if_pos atEnd]
    refine ⟨_, rfl, ?_, if_pos rfl, ?_⟩
    · simp only [Object.put, if_true]
      rw [if_neg (indexKey_ne_lengthKey index).symm, Nat.max_eq_right (by omega)]
      rfl
    · intro key notLengthKey different
      simp only [Object.put]
      rw [if_neg different, if_neg notLengthKey]

theorem assign_index (runtime : Runtime α)
    (row : HoldsRow realm before options length heap result contents)
    (isRealm : realm.heap <+: before) (array : options.rowsAsArray = true)
    (flat : options.nestTables ≠ .true) {index : Nat} (small : length < 4294967296)
    (smallIndex : index < 4294967295) (near : index ≤ length)
    (settable : realm.Settable (.object realm.arrayPrototype) (indexKey index)) (value : Value α) :
    ∃ assigned, heap.assign runtime.primitives result (indexKey index) (.value value) =
        .ok assigned ∧
      HoldsRow realm before options (max length (index + 1)) assigned result
        (Function.update contents (.key (indexKey index)) (some value)) := by
  obtain ⟨object, at_, isArray, link⟩ := row.object
  obtain ⟨plain, isPrototype⟩ := row.adds.plain result object row.isNew at_
  have inside := (List.getElem?_eq_some_iff.mp at_).1
  have lengthEq := row.length array
  rw [Heap.own, at_, Option.bind_some] at lengthEq
  rw [array] at isArray
  rw [rowLink, array, if_pos rfl] at link
  obtain ⟨after, defined, newLength, isElement, others⟩ :=
    define_element runtime isArray lengthEq small smallIndex near value
  have defines := Object.defines defined
  rw [← link] at settable
  refine ⟨_, realm.assign_of_settable (isRealm.trans row.adds.isPrefix)
    (isRealm.length_le.trans row.isNew) at_ isPrototype plain settable defined, ?_⟩
  refine ⟨row.adds.set row.isNew at_ defines (by rintro _ ⟨⟩), row.isNew,
    ⟨after, List.getElem?_set_self inside, ?_, ?_⟩, fun _ => ?_, fun _ key notLength => ?_,
    fun nests => absurd nests flat⟩
  · rw [array, defines.isArray]
    exact isArray
  · rw [rowLink, array, if_pos rfl, defines.link]
    exact link
  · rw [own_set_self inside]
    exact newLength
  · have held := row.keys flat key notLength
    rw [Heap.own, at_, Option.bind_some] at held
    rw [own_set_self inside]
    rcases eq_or_ne key (indexKey index) with rfl | different
    · rw [isElement, Function.update_self]
      rfl
    · have otherPlace : Place.key key ≠ .key (indexKey index) :=
        fun same => different (Place.key.inj same)
      rw [others key (notLength array) different, Function.update_of_ne otherPlace]
      exact held

/-! ### Nested tables -/

/-- An empty table of a row that has nested tables. -/
theorem makeTable (runtime : Runtime α)
    (row : HoldsRow realm before options length heap result contents)
    (isRealm : realm.heap <+: before) (notArray : options.rowsAsArray = false)
    (nests : options.nestTables = .true) {table : JsString}
    (settable : realm.Settable (.object realm.objectPrototype) table)
    (empty : ∀ name, contents (.nested table name) = none) :
    ∃ assigned, (heap ++ [realm.newObject]).assign runtime.primitives result table
        (.object heap.length) = .ok assigned ∧
      HoldsRow realm before options length assigned result contents ∧
        assigned.own result table = some (.data (.object heap.length) true) := by
  obtain ⟨object, at_, isArray, link⟩ := row.object
  have inside := (List.getElem?_eq_some_iff.mp at_).1
  have held := row.tables nests
  have adds := row.adds.allocate realm.isPlain_newObject (.inl rfl) fun _ _ _ => nofun
  have at' : (heap ++ [realm.newObject])[result]? = some object := by
    rwa [List.getElem?_append_left inside]
  have inside' : result < (heap ++ [realm.newObject]).length := by
    rw [List.length_append]
    exact Nat.lt_add_right 1 inside
  obtain ⟨plain, isPrototype⟩ := adds.plain result object row.isNew at'
  rw [notArray] at isArray
  rw [rowLink, notArray, if_neg Bool.false_ne_true] at link
  have defined : object.define runtime.primitives table (.object heap.length) =
      .ok (object.put table (.data (.object heap.length) true)) :=
    Object.define_of_not_isArray isArray
  rw [← link] at settable
  -- own properties of the row, and objects besides it
  have ownOf (key : JsString) : Heap.own (List.set (heap ++ [realm.newObject]) result
      (object.put table (.data (.object heap.length) true))) result key =
        if key = table then some (.data (.object heap.length) true) else heap.own result key := by
    rw [own_set_self inside', Heap.own, at_, Option.bind_some]
    rfl
  have otherAt {inner : Ref} (different : inner ≠ result) : (List.set (heap ++ [realm.newObject])
      result (object.put table (.data (.object heap.length) true)))[inner]? =
        (heap ++ [realm.newObject])[inner]? :=
    List.getElem?_set_ne different.symm
  have fresh : (heap ++ [realm.newObject])[heap.length]? = some realm.newObject :=
    List.getElem?_concat_length
  have freshNe : heap.length ≠ result := (Nat.ne_of_lt inside).symm
  refine ⟨_, realm.assign_of_settable (isRealm.trans adds.isPrefix)
    (isRealm.length_le.trans row.isNew) at' isPrototype plain settable defined, ?_, ?_⟩
  · refine ⟨adds.set row.isNew at' (Object.defines defined) ?_, row.isNew,
      ⟨_, List.getElem?_set_self inside', ?_, ?_⟩, ?_, fun flat => absurd nests flat, fun _ => ?_⟩
    · rintro inner ⟨⟩
      exact row.adds.length_le
    · rw [notArray]
      exact isArray
    · rw [rowLink, notArray, if_neg Bool.false_ne_true]
      exact link
    · intro array
      rw [notArray] at array
      cases array
    · refine ⟨?_, ?_, ?_⟩
      · intro key property own
        rw [ownOf] at own
        split at own
        · cases own
          exact ⟨heap.length, realm.newObject, rfl, freshNe, (otherAt freshNe).trans fresh,
            rfl, rfl⟩
        · obtain ⟨inner, found, propertyEq, different, innerAt, foundArray, foundLink⟩ :=
            held.table key property own
          refine ⟨inner, found, propertyEq, different, ?_, foundArray, foundLink⟩
          rw [otherAt different,
            List.getElem?_append_left (List.getElem?_eq_some_iff.mp innerAt).1]
          exact innerAt
      · -- an older table is not the fresh object
        have older {key : JsString} (own : heap.own result key =
            some (.data (.object heap.length) true)) : False := by
          obtain ⟨inner, found, propertyEq, -, innerAt, -⟩ := held.table key _ own
          cases propertyEq
          exact Nat.lt_irrefl _ (List.getElem?_eq_some_iff.mp innerAt).1
        intro first second inner firstOwn secondOwn
        rw [ownOf] at firstOwn secondOwn
        split at firstOwn
        · next isFirst =>
            split at secondOwn
            · next isSecond => rw [isFirst, isSecond]
            · cases firstOwn
              exact absurd secondOwn older
        · split at secondOwn
          · cases secondOwn
            exact absurd firstOwn older
          · exact held.distinct first second inner firstOwn secondOwn
      · intro key name
        rw [propertyAt, ownOf]
        split
        · next found =>
            split at found
            · next isTable =>
                cases found
                rw [isTable, empty name, Heap.own, otherAt freshNe, fresh]
                rfl
            · obtain ⟨inner, object', propertyEq, different, innerAt, -⟩ := held.table key _ found
              cases propertyEq
              have before := held.holds key name
              rw [propertyAt, found] at before
              refine Eq.trans ?_ before
              dsimp only
              rw [Heap.own, Heap.own, otherAt different,
                List.getElem?_append_left (List.getElem?_eq_some_iff.mp innerAt).1]
        · next other =>
            split at other
            · next isTable => exact absurd rfl (other heap.length true)
            · have before := held.holds key name
              rw [propertyAt] at before
              split at before
              · next inner writable found => exact absurd found (other inner writable)
              · exact before
  · rw [ownOf, if_pos rfl]

/-- A table name that makes a table: nothing that counts as true is inherited under it. -/
def NamesTable (realm : Realm (Value α)) (runtime : Runtime α) (table : JsString) : Prop :=
  realm.Settable (.object realm.objectPrototype) table ∧
    ∀ slot writable, realm.inherited (.object realm.objectPrototype) table =
      some (.data slot writable) → Heap.truthy runtime.primitives slot = false

/-- `if (!result[table]) result[table] = {};` leaves a row that has the table. -/
theorem ensureTable (row : HoldsRow realm before options length heap result contents)
    (isRealm : realm.heap <+: before) (notArray : options.rowsAsArray = false)
    (nests : options.nestTables = .true) {table : JsString} (notProto : table ≠ protoKey)
    (names : NamesTable realm runtime table) (packet : Packet) (calls : List Nat) :
    ∃ after, outcome (ensureTable runtime realm result table) ⟨packet, heap, calls⟩ =
        (.ok ⟨⟩, ⟨packet, after, calls⟩) ∧
      HoldsRow realm before options length after result contents ∧
        ∃ inner, after.own result table = some (.data (.object inner) true) := by
  obtain ⟨object, at_, isArray, link⟩ := row.object
  rw [rowLink, notArray, if_neg Bool.false_ne_true] at link
  have held := row.tables nests
  have getEq := get_eq runtime isRealm row.adds row.isNew at_ notProto
  have run : outcome (Parsers.ensureTable runtime realm result table) ⟨packet, heap, calls⟩ =
      outcome (if ¬Heap.truthy runtime.primitives (heap.get runtime.primitives result table) then
        allocate realm.newObject >>= fun ref => assign runtime result table (.object ref)
      else pure ⟨⟩ : RowM α PUnit) ⟨packet, heap, calls⟩ := rfl
  cases own : object.properties table with
  | some property =>
      have ownEq : heap.own result table = some property := by
        rw [Heap.own, at_, Option.bind_some, own]
      obtain ⟨inner, found, rfl, -⟩ := held.table table property ownEq
      rw [own, Option.some_or] at getEq
      refine ⟨heap, ?_, row, inner, ownEq⟩
      rw [run, getEq, if_neg (by simp [Heap.truthy])]
      rfl
  | none =>
      have ownEq : heap.own result table = none := by
        rw [Heap.own, at_, Option.bind_some, own]
      have empty : ∀ name, contents (.nested table name) = none := by
        intro name
        have nothing := held.holds table name
        rw [propertyAt, ownEq] at nothing
        exact Option.map_eq_none_iff.mp nothing.symm
      obtain ⟨assigned, assignEq, made, isTable⟩ :=
        row.makeTable runtime isRealm notArray nests names.1 empty
      have falsy : Heap.truthy runtime.primitives (heap.get runtime.primitives result table) =
          false := by
        rw [getEq, own, Option.none_or, link]
        split
        · next slot writable inherits => exact names.2 slot writable inherits
        · rfl
      refine ⟨assigned, ?_, made, heap.length, isTable⟩
      rw [run, if_pos (by simp [falsy]), outcome_bind, outcome_allocate]
      dsimp only
      rw [outcome_assign, assignEq]

/-- `result[table][name] = value`, where the row has the table. -/
theorem assignNested (runtime : Runtime α)
    (row : HoldsRow realm before options length heap result contents)
    (isRealm : realm.heap <+: before) (notArray : options.rowsAsArray = false)
    (nests : options.nestTables = .true) {table name : JsString} (notProto : table ≠ protoKey)
    (has : ∃ inner, heap.own result table = some (.data (.object inner) true))
    (settable : realm.Settable (.object realm.objectPrototype) name) (value : Value α)
    (packet : Packet) (calls : List Nat) :
    ∃ after, outcome (assignNested runtime result table name value) ⟨packet, heap, calls⟩ =
        (.ok ⟨⟩, ⟨packet, after, calls⟩) ∧
      HoldsRow realm before options length after result
        (Function.update contents (.nested table name) (some value)) := by
  obtain ⟨object, at_, isArray, link⟩ := row.object
  obtain ⟨inner, ownEq⟩ := has
  have held := row.tables nests
  obtain ⟨inner', table', propertyEq, different, innerAt, tableArray, tableLink⟩ :=
    held.table table _ ownEq
  cases propertyEq
  have inside := (List.getElem?_eq_some_iff.mp innerAt).1
  have own := ownEq
  rw [Heap.own, at_, Option.bind_some] at own
  have isNew := row.adds.refers result object table inner true row.isNew at_ own
  have getEq := get_eq runtime isRealm row.adds row.isNew at_ notProto
  rw [own, Option.some_or] at getEq
  obtain ⟨plain, isPrototype⟩ := row.adds.plain inner table' isNew innerAt
  have defined : table'.define runtime.primitives name (.value value) =
      .ok (table'.put name (.data (.value value) true)) :=
    Object.define_of_not_isArray tableArray
  rw [← tableLink] at settable
  have assignEq := realm.assign_of_settable (isRealm.trans row.adds.isPrefix)
    (isRealm.length_le.trans isNew) innerAt isPrototype plain settable defined
  have run : outcome (Parsers.assignNested runtime result table name value)
      ⟨packet, heap, calls⟩ =
        outcome (assign runtime inner name (.value value)) ⟨packet, heap, calls⟩ := by
    have got : outcome (get : RowM α (RowState α)) ⟨packet, heap, calls⟩ =
        (.ok ⟨packet, heap, calls⟩, ⟨packet, heap, calls⟩) := rfl
    rw [Parsers.assignNested, outcome_bind, got]
    dsimp only
    rw [getEq]
  -- own properties of the row stay
  have ownOf (key : JsString) : Heap.own (List.set heap inner
      (table'.put name (.data (.value value) true))) result key = heap.own result key :=
    own_set_of_ne different _ key
  refine ⟨List.set heap inner (table'.put name (.data (.value value) true)), ?_, ?_⟩
  · rw [run, outcome_assign, assignEq]
  refine ⟨row.adds.set isNew innerAt (Object.defines defined) (by rintro _ ⟨⟩), row.isNew,
    ⟨object, ?_, isArray, link⟩, ?_, fun flat => absurd nests flat, fun _ => ⟨?_, ?_, ?_⟩⟩
  · rw [List.getElem?_set_ne different]
    exact at_
  · intro array
    rw [notArray] at array
    cases array
  · intro key property found
    rw [ownOf] at found
    obtain ⟨other, found', propertyEq, notResult, otherAt, otherArray, otherLink⟩ :=
      held.table key property found
    rcases eq_or_ne inner other with rfl | distinct
    · exact ⟨inner, _, propertyEq, notResult, List.getElem?_set_self inside, tableArray,
        tableLink⟩
    · exact ⟨other, found', propertyEq, notResult,
        (List.getElem?_set_ne distinct).trans otherAt, otherArray, otherLink⟩
  · intro first second other firstOwn secondOwn
    rw [ownOf] at firstOwn secondOwn
    exact held.distinct first second other firstOwn secondOwn
  · intro key other
    have before := held.holds key other
    rw [propertyAt] at before ⊢
    rw [ownOf]
    rcases eq_or_ne key table with rfl | notTable
    · rw [ownEq] at before ⊢
      dsimp only at before ⊢
      rw [own_set_self inside]
      rw [Heap.own, innerAt, Option.bind_some] at before
      simp only [Object.put]
      rcases eq_or_ne other name with rfl | notName
      · rw [if_pos rfl, Function.update_self]
        rfl
      · have otherPlace : Place.nested key other ≠ .nested key name :=
          fun same => notName (Place.nested.inj same).2
        rw [if_neg notName, Function.update_of_ne otherPlace]
        exact before
    · have otherPlace : Place.nested key other ≠ .nested table name :=
        fun same => notTable (Place.nested.inj same).1
      rw [Function.update_of_ne otherPlace]
      refine Eq.trans ?_ before
      split
      · next found writable foundOwn =>
          obtain ⟨_, _, propertyEq, -⟩ := held.table key _ foundOwn
          cases propertyEq
          have notSame : inner ≠ found := by
            rintro rfl
            exact notTable (held.distinct key table inner foundOwn ownEq)
          exact own_set_of_ne notSame _ other
      · rfl

end HoldsRow

/-! ## Columns -/

/-- The names of fields with which each column gets its place. -/
structure PlainNames (realm : Realm (Value α)) (runtime : Runtime α) (fields : List Field)
    (options : Options φ) : Prop where
  name : ∀ field ∈ fields, isPrivate field.name = false
  table : options.nestTables ≠ .absent → ∀ field ∈ fields, isPrivate field.table = false
  joined : ∀ separator, options.nestTables = .separator separator → ∀ field ∈ fields,
    isPrivate (field.table ++ separator ++ field.name) = false
  key : ∀ index field key, fields[index]? = some field →
    Place.ofField options index field = .key key → realm.Settable (rowLink realm options) key
  nested : ∀ index field table name, fields[index]? = some field →
    Place.ofField options index field = .nested table name →
      HoldsRow.NamesTable realm runtime table ∧
        realm.Settable (.object realm.objectPrototype) name

/-- Options that all row parsers read alike. -/
structure PlainOptions (options : Options φ) : Prop where
  alone : options.rowsAsArray = true → options.nestTables = .absent
  notTruthy : options.nestTables ≠ .truthy

section Columns

variable {runtime : Runtime α} {realm : Realm (Value α)} {before : Heap (Value α)}
  {options : Options φ} {start : Nat} {result : Ref}

/-- A computation that puts the value of a column into its place. -/
def Puts (realm : Realm (Value α)) (before : Heap (Value α)) (options : Options φ) (start : Nat)
    (result : Ref) (index : Nat) (field : Field) (put : Value α → RowM α PUnit) : Prop :=
  ∀ heap contents value packet calls,
    HoldsRow realm before options (max start index) heap result contents →
      ∃ after, outcome (put value) ⟨packet, heap, calls⟩ = (.ok ⟨⟩, ⟨packet, after, calls⟩) ∧
        HoldsRow realm before options (max start (index + 1)) after result
          (Function.update contents (.ofField options index field) (some value))

/-- A computation that reads a column, and puts its value into its place. -/
def Takes (realm : Realm (Value α)) (before : Heap (Value α)) (options : Options φ) (start : Nat)
    (result : Ref) (index : Nat) (field : Field) (column : Column α) (step : RowM α PUnit) :
    Prop :=
  ∀ heap contents packet calls,
    HoldsRow realm before options (max start index) heap result contents →
      (∀ value behind, column.read.run packet = .ok (value, behind) →
        ∃ after calls', outcome step ⟨packet, heap, calls⟩ = (.ok ⟨⟩, ⟨behind, after, calls'⟩) ∧
          HoldsRow realm before options (max start (index + 1)) after result
            (Function.update contents (.ofField options index field) (some value))) ∧
      ∀ error, column.read.run packet = .error error →
        ∃ final, outcome step ⟨packet, heap, calls⟩ = (.error error, final)

theorem outcome_readColumn (index : Nat) (column : Column α) (packet : Packet)
    (heap : Heap (Value α)) (calls : List Nat) : ∃ calls',
    outcome (readColumn index column) ⟨packet, heap, calls⟩ =
      match column.read.run packet with
      | .ok (value, behind) => (.ok value, ⟨behind, heap, calls'⟩)
      | .error error => (.error error, ⟨packet, heap, calls'⟩) := by
  rw [readColumn]
  split
  · refine ⟨calls ++ [index], ?_⟩
    show outcome (readPacket column.read) ⟨packet, heap, calls ++ [index]⟩ = _
    rw [outcome_readPacket]
    cases column.read.run packet <;> rfl
  · refine ⟨calls, ?_⟩
    show outcome (readPacket column.read) ⟨packet, heap, calls⟩ = _
    rw [outcome_readPacket]
    cases column.read.run packet <;> rfl

theorem Puts.takes {index : Nat} {field : Field} {put : Value α → RowM α PUnit}
    (puts : Puts realm before options start result index field put) (column : Column α) :
    Takes realm before options start result index field column
      (readColumn index column >>= put) := by
  intro heap contents packet calls row
  obtain ⟨calls', run⟩ := outcome_readColumn index column packet heap calls
  rw [outcome_bind, run]
  constructor
  · intro value behind read
    rw [read]
    obtain ⟨after, putRun, isRow⟩ := puts heap contents value behind calls' row
    exact ⟨after, calls', putRun, isRow⟩
  · intro error read
    rw [read]
    exact ⟨_, rfl⟩

/-- Computations one after the other. -/
def runAll : List (RowM α PUnit) → RowM α PUnit
  | [] => return
  | step :: steps => do
      step
      runAll steps

/-- Each computation takes one column. -/
inductive TakesAll (realm : Realm (Value α)) (before : Heap (Value α)) (options : Options φ)
    (start : Nat) (result : Ref) :
    Nat → List Field → List (Column α) → List (RowM α PUnit) → Prop
  | nil (index : Nat) : TakesAll realm before options start result index [] [] []
  | cons {index : Nat} {field : Field} {fields : List Field} {column : Column α}
      {columns : List (Column α)} {step : RowM α PUnit} {steps : List (RowM α PUnit)}
      (takes : Takes realm before options start result index field column step)
      (others : TakesAll realm before options start result (index + 1) fields columns steps) :
      TakesAll realm before options start result index (field :: fields) (column :: columns)
        (step :: steps)

/-- All columns are taken, up to one whose reader throws. -/
theorem TakesAll.run {index : Nat} {fields : List Field} {columns : List (Column α)}
    {steps : List (RowM α PUnit)}
    (all : TakesAll realm before options start result index fields columns steps)
    {heap : Heap (Value α)} {contents : Contents α} (packet : Packet) (calls : List Nat)
    (row : HoldsRow realm before options (max start index) heap result contents) :
    (∀ values behind, readAll columns packet = (values, .ok behind) →
      ∃ after calls', outcome (runAll steps) ⟨packet, heap, calls⟩ =
          (.ok ⟨⟩, ⟨behind, after, calls'⟩) ∧
        HoldsRow realm before options (max start (index + fields.length)) after result
          (contents.fill options index fields values)) ∧
    ∀ values error, readAll columns packet = (values, .error error) →
      ∃ final, outcome (runAll steps) ⟨packet, heap, calls⟩ = (.error error, final) := by
  induction all generalizing heap contents packet calls with
  | nil index =>
      constructor
      · rintro values behind ⟨⟩
        exact ⟨heap, calls, rfl, row⟩
      · rintro values error ⟨⟩
  | cons takes others ih =>
      rename_i index field fields column columns step steps
      obtain ⟨returns, throws⟩ := takes heap contents packet calls row
      cases read : column.read.run packet with
      | error error =>
          rw [readAll_cons_of_error read]
          obtain ⟨final, run⟩ := throws error read
          constructor
          · rintro values behind ⟨⟩
          · rintro values _ ⟨⟩
            exact ⟨final, by rw [runAll, outcome_bind, run]⟩
      | ok result =>
          obtain ⟨value, between⟩ := result
          obtain ⟨middle, calls', run, isRow⟩ := returns value between read
          obtain ⟨later, failing⟩ := ih between calls' isRow
          have runEq : outcome (runAll (step :: steps)) ⟨packet, heap, calls⟩ =
              outcome (runAll steps) ⟨between, middle, calls'⟩ := by
            rw [runAll, outcome_bind, run]
          have count : index + (field :: fields).length = index + 1 + fields.length := by
            rw [List.length_cons]
            omega
          rw [readAll_cons_of_ok read, runEq, count]
          constructor
          · rintro values behind same
            obtain ⟨rfl, isBehind⟩ := Prod.mk.inj same
            exact later _ behind (Prod.ext rfl isBehind)
          · rintro values error same
            obtain ⟨rfl, isError⟩ := Prod.mk.inj same
            exact failing _ error (Prod.ext rfl isError)

end Columns

end Mysql2.Parsers

import Mysql2.Parsers.Caching
import Mysql2.Script.Heaps
import Mysql2.Script.Indices
import Mysql2.Script.Triples

/-!
# Objects that a row parser touches

A row parser makes an object for the row and one for each nested table.  It comes upon an older
object only where the name of a nested table is a name that rows inherit.  The generated text
parser makes all its tables first, so it never does.
-/

namespace Mysql2.Parsers

open Mysql2.Packets Mysql2.Script

variable {α β : Type}

/-- A row parser, generated or not. -/
inductive RowParser
  | compiled
  | static
  deriving DecidableEq, Repr

/-- Parsing a row. -/
def RowParser.next (parser : RowParser) (runtime : Runtime α) (realm : Realm (Value α))
    (fields : List Field) (options : Options (TypeCastFunction α))
    (config : Config (TypeCastFunction α)) (protocol : Protocol) : RowM α Ref :=
  match parser with
  | .compiled => compiledNext runtime realm fields options protocol config
  | .static => staticNext runtime realm fields options config protocol

/-! ## Steps of a row parser -/

section Steps

variable (runtime : Runtime α) (realm : Realm (Value α))

theorem outcome_readPacket (reader : Reader β) (state : RowState α) :
    outcome (readPacket reader) state =
      match reader.run state.packet with
      | .ok (value, packet) => (.ok value, { state with packet := packet })
      | .error error => (.error error, state) := by
  show outcome (match reader.run state.packet with
    | .ok (value, packet) => (do
        modify fun state : RowState α => { state with packet := packet }
        return value : RowM α β)
    | .error error => throw error) state = _
  cases reader.run state.packet with
  | error error => rfl
  | ok read => rfl

theorem outcome_allocate (object : Object (Value α)) (state : RowState α) :
    outcome (allocate object) state =
      (.ok state.heap.length, { state with heap := state.heap ++ [object] }) :=
  rfl

theorem outcome_assign (ref : Ref) (key : JsString) (slot : Slot (Value α))
    (state : RowState α) : outcome (assign runtime ref key slot) state =
      match state.heap.assign runtime.primitives ref key slot with
      | .ok heap => (.ok ⟨⟩, { state with heap := heap })
      | .error thrown => (.error (thrownError thrown), state) := by
  rw [assign, outcome_bind]
  show outcome (match state.heap.assign runtime.primitives ref key slot with
    | .ok heap => modify fun state : RowState α => { state with heap := heap }
    | .error thrown => throw (thrownError thrown)) state = _
  cases state.heap.assign runtime.primitives ref key slot with
  | ok heap => rfl
  | error thrown => rfl

end Steps

/-! ## Computations that only add objects -/

section Adds

variable {runtime : Runtime α} {realm : Realm (Value α)} {before : Heap (Value α)}

/-- The computation only adds objects to those from before, given what is known of the heap. -/
def AddsObjects (realm : Realm (Value α)) (before : Heap (Value α))
    (known : Heap (Value α) → Prop) (computation : RowM α β)
    (after : β → Heap (Value α) → Prop) : Prop :=
  Triple (fun state : RowState α => realm.Adds before state.heap ∧ known state.heap) computation
    (fun value state => realm.Adds before state.heap ∧ after value state.heap)
    (fun _ state => realm.Adds before state.heap)

variable {known : Heap (Value α) → Prop}

theorem AddsObjects.bind {γ : Type} {first : RowM α β} {next : β → RowM α γ}
    {between : β → Heap (Value α) → Prop} {after : γ → Heap (Value α) → Prop}
    (firstAdds : AddsObjects realm before known first between)
    (nextAdds : ∀ value, AddsObjects realm before (between value) (next value) after) :
    AddsObjects realm before known (first >>= next) after :=
  Triple.bind firstAdds nextAdds

theorem AddsObjects.pure (value : β) {after : β → Heap (Value α) → Prop}
    (returns : ∀ heap, known heap → after value heap) :
    AddsObjects realm before known (pure value : RowM α β) after :=
  (Triple.pure value).strengthen fun _ holds => ⟨holds.1, returns _ holds.2⟩

theorem addsObjects_readPacket (reader : Reader β) :
    AddsObjects realm before known (readPacket reader) (fun _ => known) := by
  intro state holds
  rw [outcome_readPacket]
  cases reader.run state.packet with
  | error error =>
      refine ⟨?_, ?_⟩
      · rintro _ _ ⟨⟩
      · rintro _ _ ⟨⟩
        exact holds.1
  | ok read =>
      refine ⟨?_, ?_⟩
      · rintro _ _ ⟨⟩
        exact holds
      · rintro _ _ ⟨⟩

theorem addsObjects_readColumn (index : Nat) (column : Column α) :
    AddsObjects realm before known (readColumn index column) (fun _ => known) := by
  have calls : AddsObjects realm before known
      (modify fun state : RowState α => { state with calls := state.calls ++ [index] })
      (fun _ => known) :=
    (Triple.modify _).strengthen fun _ holds => holds
  rw [readColumn]
  split
  · exact calls.bind fun _ => addsObjects_readPacket column.read
  · exact addsObjects_readPacket column.read

theorem addsObjects_orThrow (result : Except JsError β) {after : β → Heap (Value α) → Prop}
    (returns : ∀ value, result = .ok value → ∀ heap, known heap → after value heap) :
    AddsObjects realm before known (orThrow result) after := by
  intro state holds
  cases result with
  | error error =>
      refine ⟨?_, ?_⟩
      · rintro _ _ ⟨⟩
      · rintro _ _ ⟨⟩
        exact holds.1
  | ok value =>
      refine ⟨?_, ?_⟩
      · rintro _ _ ⟨⟩
        exact ⟨holds.1, returns value rfl _ holds.2⟩
      · rintro _ _ ⟨⟩

theorem addsObjects_allocate {object : Object (Value α)} (plain : object.IsPlain)
    (isPrototype : realm.IsPrototype object.link)
    (values : ∀ key inner writable,
      object.properties key ≠ some (.data (.object inner) writable))
    {after : Ref → Heap (Value α) → Prop}
    (returns : ∀ heap, realm.Adds before heap → known heap →
      after heap.length (heap ++ [object])) :
    AddsObjects realm before known (allocate object) after := by
  intro state holds
  rw [outcome_allocate]
  refine ⟨?_, ?_⟩
  · rintro _ _ ⟨⟩
    exact ⟨holds.1.allocate plain isPrototype values, returns _ holds.1 holds.2⟩
  · rintro _ _ ⟨⟩

theorem addsObjects_assign (isRealm : realm.heap <+: before) {ref : Ref}
    (isNew : before.length ≤ ref) {key : JsString} (notProto : key ≠ protoKey)
    {slot : Slot (Value α)}
    (isNewSlot : ∀ heap, known heap → ∀ inner, slot = .object inner → before.length ≤ inner)
    {after : Heap (Value α) → Prop}
    (assigns : ∀ heap assigned, realm.Adds before heap → known heap →
      heap.assign runtime.primitives ref key slot = .ok assigned → after assigned) :
    AddsObjects realm before known (assign runtime ref key slot) (fun _ => after) := by
  intro state holds
  rw [outcome_assign]
  cases run : state.heap.assign runtime.primitives ref key slot with
  | error thrown =>
      refine ⟨?_, ?_⟩
      · rintro _ _ ⟨⟩
      · rintro _ _ ⟨⟩
        exact holds.1
  | ok assigned =>
      refine ⟨?_, ?_⟩
      · rintro _ _ ⟨⟩
        exact ⟨holds.1.assign isRealm isNew notProto (isNewSlot _ holds.2) run,
          assigns _ _ holds.1 holds.2 run⟩
      · rintro _ _ ⟨⟩

/-! ### Nested tables -/

/-- The object that a nested table is looked up to is a new one. -/
def Guarded (runtime : Runtime α) (realm : Realm (Value α)) (before : Heap (Value α))
    (known : Heap (Value α) → Prop) (result : Ref) (table : JsString) : Prop :=
  ∀ heap, realm.Adds before heap → known heap → ∀ inner,
    heap.get runtime.primitives result table = .object inner → before.length ≤ inner

/-- Looking up a table of a row. -/
theorem get_eq (runtime : Runtime α) (isRealm : realm.heap <+: before) {heap : Heap (Value α)}
    (adds : realm.Adds before heap) {result : Ref} (isNew : before.length ≤ result)
    {object : Object (Value α)} (at_ : heap[result]? = some object) {table : JsString}
    (notProto : table ≠ protoKey) : heap.get runtime.primitives result table =
      match (object.properties table).or (realm.inherited object.link table) with
      | some (.data slot _) => slot
      | _ => .value .undefined := by
  obtain ⟨plain, isPrototype⟩ := adds.plain result object isNew at_
  rw [Heap.get, realm.find_eq (isRealm.trans adds.isPrefix) (isRealm.length_le.trans isNew) at_
    isPrototype table]
  cases own : object.properties table with
  | some property =>
      obtain ⟨slot, rfl⟩ := plain.data table property own
      rfl
  | none =>
      have notAccessor := realm.inherited_ne_proto object.link notProto
      rw [Option.none_or]
      cases inherits : realm.inherited object.link table with
      | none => rfl
      | some property =>
          cases property with
          | data slot writable => rfl
          | proto => exact absurd inherits notAccessor

theorem get_of_outside {heap : Heap (Value α)} {result : Ref} (outside : heap[result]? = none)
    (table : JsString) : heap.get runtime.primitives result table = .value .undefined := by
  have found : heap.find table heap.length result = none := by
    cases heap.length with
    | zero => rfl
    | succ fuel => rw [Heap.find, outside]
  rw [Heap.get, found]
  rfl

/-- A name that rows do not inherit an object under. -/
def Realm.NamesNoObject (realm : Realm (Value α)) (name : JsString) : Prop :=
  ∀ link, realm.IsPrototype link → ∀ inner writable,
    realm.inherited link name ≠ some (.data (.object inner) writable)

theorem guarded_of_namesNoObject (isRealm : realm.heap <+: before) {result : Ref}
    (isNew : before.length ≤ result) {table : JsString} (notProto : table ≠ protoKey)
    (namesNoObject : Realm.NamesNoObject realm table) :
    Guarded runtime realm before known result table := by
  intro heap adds _ inner isObject
  cases at_ : heap[result]? with
  | none =>
      rw [get_of_outside at_] at isObject
      cases isObject
  | some object =>
      rw [get_eq runtime isRealm adds isNew at_ notProto] at isObject
      cases own : object.properties table with
      | some property =>
          obtain ⟨slot, rfl⟩ := (adds.plain result object isNew at_).1.data table property own
          rw [own] at isObject
          obtain rfl : slot = .object inner := isObject
          exact adds.refers result object table inner true isNew at_ own
      | none =>
          rw [own, Option.none_or] at isObject
          cases inherits : realm.inherited object.link table with
          | none =>
              rw [inherits] at isObject
              cases isObject
          | some property =>
              rw [inherits] at isObject
              cases property with
              | proto => cases isObject
              | data slot writable =>
                  obtain rfl : slot = .object inner := isObject
                  exact absurd inherits
                    (namesNoObject object.link (adds.plain result object isNew at_).2 inner
                      writable)

theorem addsObjects_ensureTable (isRealm : realm.heap <+: before) {result : Ref}
    (isNew : before.length ≤ result) {table : JsString} (notProto : table ≠ protoKey)
    {after : Heap (Value α) → Prop}
    (has : ∀ heap, realm.Adds before heap → known heap →
      Heap.truthy runtime.primitives (heap.get runtime.primitives result table) = true →
        after heap)
    (makes : ∀ heap assigned, realm.Adds before heap → known heap →
      Heap.truthy runtime.primitives (heap.get runtime.primitives result table) = false →
      (heap ++ [realm.newObject]).assign runtime.primitives result table (.object heap.length) =
        .ok assigned → after assigned) :
    AddsObjects realm before known (ensureTable runtime realm result table)
      (fun _ => after) := by
  rw [ensureTable]
  refine Triple.get fun state holds => ?_
  obtain ⟨adds, isKnown⟩ := holds
  cases truthy : Heap.truthy runtime.primitives
      (state.heap.get runtime.primitives result table) with
  | true =>
      dsimp only
      rw [if_neg (by simp [truthy])]
      refine (Triple.pure PUnit.unit).strengthen ?_
      rintro _ rfl
      exact ⟨adds, has _ adds isKnown truthy⟩
  | false =>
      dsimp only
      rw [if_pos (by simp [truthy])]
      have allocated : AddsObjects realm before (· = state.heap)
          (allocate realm.newObject) fun ref heap =>
            ref = state.heap.length ∧ heap = state.heap ++ [realm.newObject] := by
        refine addsObjects_allocate realm.isPlain_newObject (.inl rfl) (fun _ _ _ => nofun) ?_
        rintro heap - rfl
        exact ⟨rfl, rfl⟩
      have assigned (ref : Ref) : AddsObjects realm before
          (fun heap => ref = state.heap.length ∧ heap = state.heap ++ [realm.newObject])
          (assign runtime result table (.object ref)) (fun _ => after) := by
        refine addsObjects_assign isRealm isNew notProto ?_ ?_
        · rintro heap ⟨rfl, -⟩ inner ⟨⟩
          exact adds.length_le
        · rintro heap assigned - ⟨rfl, rfl⟩ run
          exact makes _ _ adds isKnown truthy run
      refine (allocated.bind assigned).strengthen ?_
      rintro _ rfl
      exact ⟨adds, rfl⟩

theorem addsObjects_assignNested (isRealm : realm.heap <+: before) {result : Ref}
    {table name : JsString} (guarded : Guarded runtime realm before known result table)
    (notProto : name ≠ protoKey) (value : Value α) {after : Heap (Value α) → Prop}
    (assigns : ∀ heap inner assigned, realm.Adds before heap → known heap →
      heap.get runtime.primitives result table = .object inner →
      heap.assign runtime.primitives inner name (.value value) = .ok assigned → after assigned) :
    AddsObjects realm before known (assignNested runtime result table name value)
      (fun _ => after) := by
  rw [assignNested]
  refine Triple.get fun state holds => ?_
  obtain ⟨adds, isKnown⟩ := holds
  cases slot : state.heap.get runtime.primitives result table with
  | value value =>
      dsimp only
      refine (Triple.throw _).strengthen ?_
      rintro _ rfl
      exact adds
  | object inner =>
      dsimp only
      have assigned : AddsObjects realm before (· = state.heap)
          (assign runtime inner name (.value value)) (fun _ => after) := by
        refine addsObjects_assign isRealm (guarded _ adds isKnown inner slot) notProto
          (by rintro _ - _ ⟨⟩) ?_
        rintro heap assigned - rfl run
        exact assigns _ inner _ adds isKnown slot run
      refine Triple.strengthen assigned ?_
      rintro _ rfl
      exact ⟨adds, rfl⟩

end Adds

/-! ## Statements of generated parsers -/

theorem ne_protoKey_of_not_isPrivate {key : JsString} (escapes : isPrivate key = false) :
    key ≠ protoKey := by
  rintro rfl
  exact absurd escapes (by decide)

theorem fieldEscape_eq_ok_iff {field escaped : JsString} :
    fieldEscape field = .ok escaped ↔ isPrivate field = false ∧ escaped = field := by
  rw [fieldEscape]
  cases isPrivate field with
  | true => simp
  | false => simp [eq_comm]

/-- The statements of generated parsers, but for those that make tables first. -/
inductive IsCompiled (fields : List Field) (nestTables : NestTables) : Statement → Prop
  | ensureTable {field : Field} (member : field ∈ fields) (nests : nestTables = .true)
      (escapes : isPrivate field.table = false) :
      IsCompiled fields nestTables (.ensureTable field.table)
  | index (column : Nat) (nullBit : Option NullBit) (index : Nat) (code : ValueCode)
      (flat : nestTables ≠ .true) :
      IsCompiled fields nestTables (.column column nullBit (.index index) code)
  | key (column : Nat) (nullBit : Option NullBit) (code : ValueCode) {key : JsString}
      (flat : nestTables ≠ .true) (escapes : isPrivate key = false) :
      IsCompiled fields nestTables (.column column nullBit (.key key) code)
  | nested (column : Nat) (nullBit : Option NullBit) (code : ValueCode) {field : Field}
      (member : field ∈ fields) (nests : nestTables = .true)
      (tableEscapes : isPrivate field.table = false) (nameEscapes : isPrivate field.name = false) :
      IsCompiled fields nestTables (.column column nullBit (.nested field.table field.name) code)

variable {φ : Type} {options : Options φ} {config : Config φ} {fields : List Field}

/-- The statements for one column. -/
theorem compileTarget_isCompiled {field : Field} (member : field ∈ fields) {index : Nat}
    {statements : List Statement} {target : Lvalue}
    (compiled : compileTarget options field index = .ok (statements, target)) :
    (∀ statement ∈ statements, IsCompiled fields options.nestTables statement) ∧
      ∀ column nullBit code, IsCompiled fields options.nestTables
        (.column column nullBit target code) := by
  rw [compileTarget, bind_eq_ok_iff] at compiled
  obtain ⟨fieldName, nameEq, compiled⟩ := compiled
  obtain ⟨nameEscapes, rfl⟩ := fieldEscape_eq_ok_iff.mp nameEq
  cases nests : options.nestTables with
  | separator separator =>
      rw [nests] at compiled
      dsimp only at compiled
      rw [bind_eq_ok_iff] at compiled
      obtain ⟨key, keyEq, compiled⟩ := compiled
      obtain ⟨escapes, rfl⟩ := fieldEscape_eq_ok_iff.mp keyEq
      cases compiled
      exact ⟨List.forall_mem_nil _,
        fun column nullBit code => .key column nullBit code (by rintro ⟨⟩) escapes⟩
  | true =>
      rw [nests] at compiled
      dsimp only at compiled
      rw [bind_eq_ok_iff] at compiled
      obtain ⟨tableName, tableEq, compiled⟩ := compiled
      obtain ⟨tableEscapes, rfl⟩ := fieldEscape_eq_ok_iff.mp tableEq
      cases compiled
      refine ⟨?_, fun column nullBit code =>
        .nested column nullBit code member rfl tableEscapes nameEscapes⟩
      intro statement isMember
      rw [List.mem_singleton.mp isMember]
      exact .ensureTable member rfl tableEscapes
  | _ =>
      rw [nests] at compiled
      cases compiled
      refine ⟨List.forall_mem_nil _, fun column nullBit code => ?_⟩
      cases options.rowsAsArray with
      | true => exact .index column nullBit index code (by rintro ⟨⟩)
      | false => exact .key column nullBit code (by rintro ⟨⟩) nameEscapes

theorem compileTextFields_isCompiled {rest : List Field} (members : ∀ field ∈ rest, field ∈ fields)
    {index : Nat} {statements : List Statement}
    (compiled : compileTextFields options config index rest = .ok statements) :
    ∀ statement ∈ statements, IsCompiled fields options.nestTables statement := by
  induction rest generalizing index statements with
  | nil =>
      cases compiled
      exact nofun
  | cons field rest ih =>
      obtain ⟨member, others⟩ := List.forall_mem_cons.mp members
      rw [compileTextFields, bind_eq_ok_iff] at compiled
      obtain ⟨⟨first, target⟩, targetEq, compiled⟩ := compiled
      obtain ⟨firstCompiled, column⟩ := compileTarget_isCompiled member targetEq
      rw [bind_eq_ok_iff] at compiled
      obtain ⟨later, laterEq, compiled⟩ := compiled
      cases compiled
      intro statement isMember
      rw [List.mem_append, List.mem_append, List.mem_singleton] at isMember
      rcases isMember with (isFirst | rfl) | isLater
      · exact firstCompiled statement isFirst
      · exact column index none _
      · exact ih others laterEq statement isLater

theorem compileBinaryFields_isCompiled {rest : List Field}
    (members : ∀ field ∈ rest, field ∈ fields) {index : Nat} {nullBit : NullBit}
    {statements : List Statement}
    (compiled : compileBinaryFields options config index nullBit rest = .ok statements) :
    ∀ statement ∈ statements, IsCompiled fields options.nestTables statement := by
  induction rest generalizing index nullBit statements with
  | nil =>
      cases compiled
      exact nofun
  | cons field rest ih =>
      obtain ⟨member, others⟩ := List.forall_mem_cons.mp members
      rw [compileBinaryFields, bind_eq_ok_iff] at compiled
      obtain ⟨⟨first, target⟩, targetEq, compiled⟩ := compiled
      obtain ⟨firstCompiled, column⟩ := compileTarget_isCompiled member targetEq
      rw [bind_eq_ok_iff] at compiled
      obtain ⟨later, laterEq, compiled⟩ := compiled
      cases compiled
      intro statement isMember
      rw [List.mem_append, List.mem_append, List.mem_singleton] at isMember
      rcases isMember with (isFirst | rfl) | isLater
      · exact firstCompiled statement isFirst
      · exact column index (some nullBit) _
      · exact ih others laterEq statement isLater

/-! ## Running generated parsers -/

section Running

variable {runtime : Runtime α} {realm : Realm (Value α)} {before : Heap (Value α)}
  {known : Heap (Value α) → Prop} {fields : List Field} {options : Options (TypeCastFunction α)}
  {protocol : Protocol} {nullBytes : List (Option Nat)} {result : Ref}

/-- The row is an object of the heap. -/
def Inside (result : Ref) (heap : Heap (Value α)) : Prop :=
  result < heap.length

theorem Inside.assign {heap assigned : Heap (Value α)} (inside : Inside result heap) {ref : Ref}
    {key : JsString} {slot : Slot (Value α)}
    (run : heap.assign runtime.primitives ref key slot = .ok assigned) :
    Inside result assigned := by
  rw [Inside, Heap.length_assign run]
  exact inside

theorem Inside.allocate {heap : Heap (Value α)} (inside : Inside result heap)
    (object : Object (Value α)) : Inside result (heap ++ [object]) := by
  rw [Inside, List.length_append]
  exact Nat.lt_add_right 1 inside

theorem AddsObjects.given {given : Prop} {computation : RowM α β}
    {after : β → Heap (Value α) → Prop}
    (adds : given → AddsObjects realm before known computation after) :
    AddsObjects realm before (fun heap => given ∧ known heap) computation after :=
  fun state holds => adds holds.2.1 state ⟨holds.1, holds.2.2⟩

theorem runBody_append (first second : List Statement) :
    runBody runtime realm fields options protocol nullBytes result (first ++ second) = (do
      runBody runtime realm fields options protocol nullBytes result first
      runBody runtime realm fields options protocol nullBytes result second) := by
  induction first with
  | nil => rfl
  | cons statement first ih =>
      rw [List.cons_append, runBody, runBody, ih, bind_assoc]

/-- Statements that keep what is known of the heap, one after the other. -/
theorem addsObjects_runBody {body : List Statement}
    (adds : ∀ statement ∈ body, AddsObjects realm before known
      (statement.run runtime realm fields options protocol nullBytes result) (fun _ => known)) :
    AddsObjects realm before known
      (runBody runtime realm fields options protocol nullBytes result body)
      (fun _ => known) := by
  induction body with
  | nil => exact AddsObjects.pure PUnit.unit fun _ isKnown => isKnown
  | cons statement body ih =>
      obtain ⟨first, rest⟩ := List.forall_mem_cons.mp adds
      rw [runBody]
      exact first.bind fun _ => ih rest

/-- A column is read, and assigned to its place. -/
theorem addsObjects_column {index : Nat} {nullBit : Option NullBit} {target : Lvalue}
    {code : ValueCode}
    (assigns : ∀ value, AddsObjects realm before known (assignTo runtime result value target)
      (fun _ => known)) :
    AddsObjects realm before known
      ((Statement.column index nullBit target code).run runtime realm fields options protocol
        nullBytes result) (fun _ => known) := by
  rw [Statement.run]
  exact (addsObjects_readColumn index _).bind assigns

/-- With names that lead to no object from before, any statement only adds objects. -/
theorem IsCompiled.addsObjects (isRealm : realm.heap <+: before) (isNew : before.length ≤ result)
    {statement : Statement} (isCompiled : IsCompiled fields options.nestTables statement)
    (safe : options.nestTables = .true → ∀ field ∈ fields,
      Realm.NamesNoObject realm field.table) :
    AddsObjects realm before (Inside result)
      (statement.run runtime realm fields options protocol nullBytes result)
      (fun _ => Inside result) := by
  cases isCompiled with
  | ensureTable member nests escapes =>
      exact addsObjects_ensureTable isRealm isNew (ne_protoKey_of_not_isPrivate escapes)
        (fun _ _ inside _ => inside) (fun _ _ _ inside _ run => (inside.allocate _).assign run)
  | index column nullBit index code flat =>
      exact addsObjects_column fun value => addsObjects_assign isRealm isNew
        (indexKey_ne_protoKey index) (by rintro _ - _ ⟨⟩) (fun _ _ _ inside run => inside.assign run)
  | key column nullBit code flat escapes =>
      exact addsObjects_column fun value => addsObjects_assign isRealm isNew
        (ne_protoKey_of_not_isPrivate escapes) (by rintro _ - _ ⟨⟩) (fun _ _ _ inside run => inside.assign run)
  | nested column nullBit code member nests tableEscapes nameEscapes =>
      have guarded : Guarded runtime realm before (Inside result) result _ :=
        guarded_of_namesNoObject isRealm isNew (ne_protoKey_of_not_isPrivate tableEscapes)
          (safe nests _ member)
      exact addsObjects_column fun value => addsObjects_assignNested isRealm guarded
        (ne_protoKey_of_not_isPrivate nameEscapes) value (fun _ _ _ _ inside _ run => inside.assign run)

/-! ### Tables that are made first -/

/-- The tables of a row are own properties of it, and other objects than the row. -/
structure MadeTables (tables : List JsString) (result : Ref) (heap : Heap (Value α)) : Prop where
  inside : result < heap.length
  made : ∀ table ∈ tables, ∃ inner,
    heap.own result table = some (.data (.object inner) true) ∧ inner ≠ result
  notLength : ∀ table ∈ tables, table = lengthKey → ∀ object, heap[result]? = some object →
    object.isArray = false

/-- A table that has been made is found. -/
theorem MadeTables.get_eq (runtime : Runtime α) {tables : List JsString} {heap : Heap (Value α)}
    (made : MadeTables tables result heap) (isRealm : realm.heap <+: before)
    (adds : realm.Adds before heap) (isNew : before.length ≤ result) {table : JsString}
    (member : table ∈ tables) (notProto : table ≠ protoKey) : ∃ inner,
      heap.get runtime.primitives result table = .object inner ∧ before.length ≤ inner ∧
        inner ≠ result := by
  obtain ⟨inner, own, different⟩ := made.made table member
  have at_ := List.getElem?_eq_getElem made.inside
  rw [Heap.own, at_, Option.bind_some] at own
  refine ⟨inner, ?_, adds.refers result _ table inner true isNew at_ own, different⟩
  rw [Parsers.get_eq runtime isRealm adds isNew at_ notProto, own]
  rfl

theorem MadeTables.guarded {tables : List JsString} (isRealm : realm.heap <+: before)
    (isNew : before.length ≤ result) {table : JsString} (member : table ∈ tables)
    (notProto : table ≠ protoKey) :
    Guarded runtime realm before (MadeTables tables result) result table := by
  intro heap adds made inner isObject
  obtain ⟨found, getEq, isNewTable, -⟩ :=
    made.get_eq runtime isRealm adds isNew member notProto
  rw [getEq] at isObject
  cases isObject
  exact isNewTable

/-- Elements of a heap but for one are kept. -/
theorem own_set_of_ne {heap : Heap (Value α)} {ref other : Ref} (different : other ≠ ref)
    (after : Object (Value α)) (key : JsString) :
    Heap.own (heap.set other after) ref key = heap.own ref key := by
  rw [Heap.own, Heap.own, List.getElem?_set_ne different]

/-- An assignment to another object keeps the tables. -/
theorem MadeTables.assign {tables : List JsString} {heap assigned : Heap (Value α)}
    (made : MadeTables tables result heap) (isRealm : realm.heap <+: before)
    (adds : realm.Adds before heap) {ref : Ref} (isNew : before.length ≤ ref)
    (different : ref ≠ result) {name : JsString} (notProto : name ≠ protoKey)
    {slot : Slot (Value α)}
    (run : heap.assign runtime.primitives ref name slot = .ok assigned) :
    MadeTables tables result assigned := by
  obtain ⟨object, after, -, -, rfl⟩ := adds.exists_define isRealm isNew notProto run
  refine ⟨?_, ?_, ?_⟩
  · rw [List.length_set]
    exact made.inside
  · intro table member
    rw [own_set_of_ne different]
    exact made.made table member
  · intro table member isLength found
    rw [List.getElem?_set_ne different]
    exact made.notLength table member isLength found

/-- Another table is made. -/
theorem MadeTables.initTable {tables : List JsString} {heap assigned : Heap (Value α)}
    (made : MadeTables tables result heap) (isRealm : realm.heap <+: before)
    (adds : realm.Adds before (heap ++ [realm.newObject])) (isNew : before.length ≤ result)
    {table : JsString} (notProto : table ≠ protoKey)
    (run : (heap ++ [realm.newObject]).assign runtime.primitives result table
      (.object heap.length) = .ok assigned) :
    MadeTables (table :: tables) result assigned := by
  obtain ⟨object, after, at_, defined, rfl⟩ := adds.exists_define isRealm isNew notProto run
  obtain ⟨isTable, notLength, others⟩ := Object.define_object defined
  have inside := made.inside
  have at' : heap[result]? = some object := by
    rwa [List.getElem?_append_left inside] at at_
  have grown : result < (heap ++ [realm.newObject]).length := by
    rw [List.length_append]
    exact Nat.lt_add_right 1 inside
  have isArray := (Object.defines defined).isArray
  have found : (List.set (heap ++ [realm.newObject]) result after)[result]? = some after :=
    List.getElem?_set_self grown
  refine ⟨by rwa [List.length_set], ?_, ?_⟩
  · intro other member
    rw [Heap.own, found, Option.bind_some]
    rcases eq_or_ne other table with rfl | different
    · exact ⟨heap.length, isTable, (Nat.ne_of_lt inside).symm⟩
    · have isOther : other ∈ tables := by
        rcases List.mem_cons.mp member with same | isOther
        · exact absurd same different
        · exact isOther
      obtain ⟨inner, own, isDifferent⟩ := made.made other isOther
      rw [Heap.own, at', Option.bind_some] at own
      refine ⟨inner, ?_, isDifferent⟩
      rw [others other different fun isLength => made.notLength other isOther isLength object at']
      exact own
  · intro other member isLength other' found'
    rw [found] at found'
    obtain rfl := Option.some.inj found'
    rw [isArray]
    rcases List.mem_cons.mp member with rfl | isOther
    · cases array : object.isArray with
      | false => rfl
      | true => exact absurd isLength (notLength array)
    · exact made.notLength other isOther isLength object at'

theorem addsObjects_initTable (isRealm : realm.heap <+: before) (isNew : before.length ≤ result)
    {tables : List JsString} {table : JsString} (notProto : table ≠ protoKey) :
    AddsObjects realm before (MadeTables tables result)
      ((Statement.initTable table).run runtime realm fields options protocol nullBytes result)
      (fun _ => MadeTables (table :: tables) result) := by
  have allocated : AddsObjects realm before (MadeTables tables result)
      (allocate realm.newObject) fun ref heap => ∃ old, MadeTables tables result old ∧
        ref = old.length ∧ heap = old ++ [realm.newObject] ∧ before.length ≤ ref := by
    refine addsObjects_allocate realm.isPlain_newObject (.inl rfl) (fun _ _ _ => nofun) ?_
    intro heap adds made
    exact ⟨heap, made, rfl, rfl, adds.length_le⟩
  rw [Statement.run]
  refine allocated.bind fun ref => addsObjects_assign isRealm isNew notProto ?_ ?_
  · rintro heap ⟨old, -, -, -, isNewTable⟩ inner ⟨⟩
    exact isNewTable
  · rintro heap assigned adds ⟨old, made, rfl, rfl, -⟩ run
    exact made.initTable isRealm adds isNew notProto run

/-- The statements in front of the columns make all tables. -/
theorem addsObjects_initTables (isRealm : realm.heap <+: before) (isNew : before.length ≤ result)
    {tables made : List JsString} (notProto : ∀ table ∈ tables, table ≠ protoKey) :
    AddsObjects realm before (MadeTables made result)
      (runBody runtime realm fields options protocol nullBytes result
        (tables.map Statement.initTable))
      (fun _ => MadeTables (tables.reverse ++ made) result) := by
  induction tables generalizing made with
  | nil => exact AddsObjects.pure PUnit.unit fun _ isMade => isMade
  | cons table tables ih =>
      obtain ⟨first, rest⟩ := List.forall_mem_cons.mp notProto
      rw [List.map_cons, runBody, List.reverse_cons, List.append_assoc]
      exact (addsObjects_initTable isRealm isNew first).bind fun _ => ih rest

/-- Where all tables have been made, statements about nested tables only add objects. -/
theorem IsCompiled.addsObjects_of_made (isRealm : realm.heap <+: before)
    (isNew : before.length ≤ result) {statement : Statement}
    (isCompiled : IsCompiled fields options.nestTables statement)
    (nests : options.nestTables = .true) {tables : List JsString}
    (all : ∀ field ∈ fields, field.table ≠ protoKey → field.table ∈ tables) :
    AddsObjects realm before (MadeTables tables result)
      (statement.run runtime realm fields options protocol nullBytes result)
      (fun _ => MadeTables tables result) := by
  cases isCompiled with
  | ensureTable member _ escapes =>
      have notProto := ne_protoKey_of_not_isPrivate escapes
      refine addsObjects_ensureTable isRealm isNew notProto (fun _ _ made _ => made) ?_
      intro heap assigned adds made notFound
      obtain ⟨inner, getEq, -⟩ :=
        made.get_eq runtime isRealm adds isNew (all _ member notProto) notProto
      rw [getEq] at notFound
      cases notFound
  | index column nullBit index code flat => exact absurd nests flat
  | key column nullBit code flat escapes => exact absurd nests flat
  | nested column nullBit code member _ tableEscapes nameEscapes =>
      have notProto := ne_protoKey_of_not_isPrivate tableEscapes
      have isTable := all _ member notProto
      have name := ne_protoKey_of_not_isPrivate nameEscapes
      refine addsObjects_column fun value => addsObjects_assignNested isRealm
        (MadeTables.guarded isRealm isNew isTable notProto) name value ?_
      intro heap inner assigned adds made isObject run
      obtain ⟨found, getEq, isNewTable, different⟩ :=
        made.get_eq runtime isRealm adds isNew isTable notProto
      rw [getEq] at isObject
      cases isObject
      exact made.assign isRealm adds isNewTable different name run

/-! ### Whole rows -/

theorem newResult_isPlain (runtime : Runtime α) (realm : Realm (Value α))
    (arrayLength : Option Nat) : (newResult runtime realm arrayLength).IsPlain ∧
      realm.IsPrototype (newResult runtime realm arrayLength).link ∧
      ∀ key inner writable, (newResult runtime realm arrayLength).properties key ≠
        some (.data (.object inner) writable) := by
  cases arrayLength with
  | none => exact ⟨realm.isPlain_newObject, .inl rfl, fun _ _ _ => nofun⟩
  | some length =>
      refine ⟨realm.isPlain_newArray runtime.primitives length, .inr rfl, ?_⟩
      intro key inner writable
      simp only [newResult, Realm.newArray]
      split
      · rintro ⟨⟩
      · rintro ⟨⟩

/-- The result of a row is a new object. -/
theorem addsObjects_newResult (arrayLength : Option Nat) :
    AddsObjects realm before known (allocate (newResult runtime realm arrayLength))
      (fun result heap => before.length ≤ result ∧ MadeTables [] result heap) := by
  obtain ⟨plain, isPrototype, values⟩ := newResult_isPlain runtime realm arrayLength
  refine addsObjects_allocate plain isPrototype values ?_
  intro heap adds _
  refine ⟨adds.length_le, ?_, nofun, nofun⟩
  rw [List.length_append]
  exact Nat.lt_succ_self _

/-- A generated parser whose statements only add objects. -/
theorem addsObjects_program {program : RowProgram}
    (body : ∀ result nullBytes, before.length ≤ result →
      AddsObjects realm before (MadeTables [] result)
        (runBody runtime realm fields options program.protocol nullBytes result program.body)
        (fun _ => Inside result)) :
    AddsObjects realm before known (program.next runtime realm fields options)
      (fun result heap => before.length ≤ result ∧ Inside result heap) := by
  have columns (result : Ref) (nullBytes : List (Option Nat)) : AddsObjects realm before
      (fun heap => before.length ≤ result ∧ MadeTables [] result heap)
      (runBody runtime realm fields options program.protocol nullBytes result program.body)
      (fun _ heap => before.length ≤ result ∧ Inside result heap) :=
    .given fun isNew => Triple.weaken (body result nullBytes isNew)
      (fun _ _ holds => ⟨holds.1, isNew, holds.2⟩) fun _ _ holds => holds
  have row (result : Ref) (nullBytes : List (Option Nat)) : AddsObjects realm before
      (fun heap => before.length ≤ result ∧ MadeTables [] result heap)
      (do
        runBody runtime realm fields options program.protocol nullBytes result program.body
        return result)
      (fun result heap => before.length ≤ result ∧ Inside result heap) :=
    (columns result nullBytes).bind fun _ => AddsObjects.pure result fun _ isRow => isRow
  rw [RowProgram.next]
  refine (addsObjects_newResult program.arrayLength).bind fun result => ?_
  dsimp only
  split
  · exact row result []
  · exact (addsObjects_readPacket _).bind (row result)

/-! ### The two generators -/

theorem mapM_initTable {tables : List JsString} {statements : List Statement}
    (compiled : tables.mapM (fun table => do
      return Statement.initTable (← fieldEscape table)) = (.ok statements : Except JsError _)) :
    statements = tables.map Statement.initTable ∧ ∀ table ∈ tables, isPrivate table = false := by
  induction tables generalizing statements with
  | nil =>
      cases compiled
      exact ⟨rfl, nofun⟩
  | cons table tables ih =>
      rw [List.mapM_cons, bind_eq_ok_iff] at compiled
      obtain ⟨statement, first, compiled⟩ := compiled
      rw [bind_eq_ok_iff] at first compiled
      obtain ⟨escaped, escapeEq, isStatement⟩ := first
      obtain ⟨rest, restEq, isRest⟩ := compiled
      obtain ⟨escapes, rfl⟩ := fieldEscape_eq_ok_iff.mp escapeEq
      obtain ⟨rfl, others⟩ := ih restEq
      cases isStatement
      cases isRest
      exact ⟨rfl, List.forall_mem_cons.mpr ⟨escapes, others⟩⟩

theorem mem_resultTables {fields : List Field} {table : JsString} :
    table ∈ resultTables fields ↔ table ∈ fields.map Field.table ∧ table ≠ protoKey := by
  have split : ∀ option : Option Nat, option.isSome = true ∨ option.isNone = true := by
    rintro (_ | _) <;> simp
  rw [resultTables, List.mem_append, List.mem_mergeSort, List.mem_filter, List.mem_filter,
    List.mem_eraseDups, List.mem_filter]
  constructor
  · rintro (⟨⟨member, isOther⟩, -⟩ | ⟨⟨member, isOther⟩, -⟩)
    · exact ⟨member, of_decide_eq_true isOther⟩
    · exact ⟨member, of_decide_eq_true isOther⟩
  · rintro ⟨member, isOther⟩
    exact (split (toIndex table)).imp (fun isIndex => ⟨⟨member, decide_eq_true isOther⟩, isIndex⟩)
      fun isName => ⟨⟨member, decide_eq_true isOther⟩, isName⟩

/-- The generated text parser makes all tables before it looks for one. -/
theorem addsObjects_compileText {config : Config (TypeCastFunction α)} {program : RowProgram}
    (isRealm : realm.heap <+: before)
    (compiled : compileText fields options config = .ok program) :
    AddsObjects realm before known
      (program.next runtime realm fields (withConfigTypeCast options config))
      (fun result heap => before.length ≤ result ∧ Inside result heap) := by
  rw [compileText] at compiled
  generalize configured : withConfigTypeCast options config = options' at compiled ⊢
  rw [bind_eq_ok_iff] at compiled
  obtain ⟨inits, initsEq, compiled⟩ := compiled
  rw [bind_eq_ok_iff] at compiled
  obtain ⟨columns, columnsEq, compiled⟩ := compiled
  cases compiled
  have areCompiled := compileTextFields_isCompiled (fun _ member => member) columnsEq
  obtain ⟨rfl, escape⟩ := mapM_initTable initsEq
  apply addsObjects_program
  intro result nullBytes isNew
  dsimp only
  rw [runBody_append]
  by_cases nests : options'.nestTables = .true
  · rw [if_pos nests] at escape ⊢
    have all : ∀ field ∈ fields, field.table ≠ protoKey →
        field.table ∈ (resultTables fields).reverse ++ [] := by
      intro field isField notProto
      rw [List.append_nil, List.mem_reverse]
      exact mem_resultTables.mpr ⟨List.mem_map_of_mem isField, notProto⟩
    refine AddsObjects.bind (addsObjects_initTables isRealm isNew fun table member =>
      ne_protoKey_of_not_isPrivate (escape table member)) fun _ => ?_
    refine Triple.weaken (addsObjects_runBody fun statement member =>
      (areCompiled statement member).addsObjects_of_made isRealm isNew nests all)
      (fun _ _ holds => ⟨holds.1, holds.2.inside⟩) fun _ _ holds => holds
  · rw [if_neg nests]
    refine Triple.strengthen (addsObjects_runBody fun statement member =>
      (areCompiled statement member).addsObjects isRealm isNew fun isNested =>
        absurd isNested nests) fun _ holds => ⟨holds.1, holds.2.inside⟩

/-- The generated binary parser looks for a table before it makes one. -/
theorem addsObjects_compileBinary {config : Config (TypeCastFunction α)} {program : RowProgram}
    (isRealm : realm.heap <+: before)
    (safe : options.nestTables = .true → ∀ field ∈ fields,
      Realm.NamesNoObject realm field.table)
    (compiled : compileBinary fields options config = .ok program) :
    AddsObjects realm before known
      (program.next runtime realm fields (withConfigTypeCast options config))
      (fun result heap => before.length ≤ result ∧ Inside result heap) := by
  rw [← nestTables_withConfigTypeCast options config] at safe
  rw [compileBinary] at compiled
  generalize withConfigTypeCast options config = options' at compiled safe ⊢
  rw [bind_eq_ok_iff] at compiled
  obtain ⟨columns, columnsEq, compiled⟩ := compiled
  cases compiled
  have areCompiled := compileBinaryFields_isCompiled (fun _ member => member) columnsEq
  apply addsObjects_program
  intro result nullBytes isNew
  exact Triple.strengthen (addsObjects_runBody fun statement member =>
    (areCompiled statement member).addsObjects isRealm isNew safe)
    fun _ holds => ⟨holds.1, holds.2.inside⟩

/-! ### Static parsers -/

/-- The names of the fields lead to no object from before: nested tables have other names than
the objects that rows inherit, and no joined name is that of the prototype. -/
structure SafeNames (realm : Realm (Value α)) (fields : List Field)
    (options : Options (TypeCastFunction α)) : Prop where
  tables : options.nestTables = .true ∨ options.nestTables = .truthy → ∀ field ∈ fields,
    Realm.NamesNoObject realm field.table
  keys : ∀ separator, options.nestTables = .separator separator → ∀ field ∈ fields,
    field.table ++ separator ++ field.name ≠ protoKey

/-- A value is assigned to a key that is not private. -/
theorem addsObjects_assignValue (isRealm : realm.heap <+: before)
    (isNew : before.length ≤ result) {key : JsString} (notProto : key ≠ protoKey)
    (value : Value α) :
    AddsObjects realm before (Inside result) (assign runtime result key (.value value))
      (fun _ => Inside result) :=
  addsObjects_assign isRealm isNew notProto (by rintro _ - _ ⟨⟩)
    fun _ _ _ inside run => inside.assign run

/-- What has been escaped is used behind it. -/
theorem addsObjects_fieldEscape {key : JsString} {next : JsString → RowM α β}
    {after : β → Heap (Value α) → Prop}
    (later : isPrivate key = false → AddsObjects realm before known (next key) after) :
    AddsObjects realm before known (orThrow (fieldEscape key) >>= next) after := by
  have escaped : AddsObjects realm before known (orThrow (fieldEscape key))
      (fun name heap => (isPrivate key = false ∧ name = key) ∧ known heap) :=
    addsObjects_orThrow _ fun name nameEq heap isKnown =>
      ⟨fieldEscape_eq_ok_iff.mp nameEq, isKnown⟩
  refine escaped.bind fun name => .given ?_
  rintro ⟨escapes, rfl⟩
  exact later escapes

theorem addsObjects_placeNested (isRealm : realm.heap <+: before)
    (isNew : before.length ≤ result) {field : Field}
    (namesNoObject : Realm.NamesNoObject realm field.table) (value : Value α) :
    AddsObjects realm before (Inside result) (placeNested runtime realm result field value)
      (fun _ => Inside result) := by
  rw [placeNested]
  refine addsObjects_fieldEscape fun tableEscapes => ?_
  have notProto := ne_protoKey_of_not_isPrivate tableEscapes
  have ensured : AddsObjects realm before (Inside result)
      (ensureTable runtime realm result field.table) (fun _ => Inside result) :=
    addsObjects_ensureTable isRealm isNew notProto (fun _ _ inside _ => inside)
      fun _ _ _ inside _ run => (inside.allocate _).assign run
  refine ensured.bind fun _ => addsObjects_fieldEscape fun nameEscapes => ?_
  exact addsObjects_assignNested isRealm
    (guarded_of_namesNoObject isRealm isNew notProto namesNoObject)
    (ne_protoKey_of_not_isPrivate nameEscapes) value fun _ _ _ _ inside _ run => inside.assign run

theorem addsObjects_push (isRealm : realm.heap <+: before) (isNew : before.length ≤ result)
    (value : Value α) :
    AddsObjects realm before (Inside result) (push runtime result value) (fun _ => Inside result) := by
  rw [push]
  refine Triple.get fun state holds => ?_
  refine Triple.strengthen (addsObjects_assignValue isRealm isNew (indexKey_ne_protoKey _) value) ?_
  rintro _ rfl
  exact holds

theorem addsObjects_placeText (isRealm : realm.heap <+: before) (isNew : before.length ≤ result)
    {field : Field} (member : field ∈ fields) (safe : SafeNames realm fields options)
    (value : Value α) :
    AddsObjects realm before (Inside result) (placeText runtime realm options result field value)
      (fun _ => Inside result) := by
  rw [placeText]
  split
  · exact addsObjects_push isRealm isNew value
  · cases nests : options.nestTables with
    | separator separator =>
        exact addsObjects_fieldEscape fun _ => addsObjects_fieldEscape fun _ =>
          addsObjects_assignValue isRealm isNew (safe.keys separator nests field member) value
    | true =>
        exact addsObjects_placeNested isRealm isNew (safe.tables (.inl nests) field member) value
    | truthy =>
        exact addsObjects_placeNested isRealm isNew (safe.tables (.inr nests) field member) value
    | absent =>
        exact addsObjects_fieldEscape fun escapes => addsObjects_assignValue isRealm isNew
          (ne_protoKey_of_not_isPrivate escapes) value

theorem addsObjects_placeBinary (isRealm : realm.heap <+: before) (isNew : before.length ≤ result)
    {field : Field} (member : field ∈ fields) (safe : SafeNames realm fields options)
    (index : Nat) (value : Value α) :
    AddsObjects realm before (Inside result)
      (placeBinary runtime realm options result field index value) (fun _ => Inside result) := by
  have named {key : JsString} : AddsObjects realm before (Inside result) (do
      let key ← orThrow (fieldEscape key)
      assign runtime result key (.value value)) (fun _ => Inside result) :=
    addsObjects_fieldEscape fun escapes => addsObjects_assignValue isRealm isNew
      (ne_protoKey_of_not_isPrivate escapes) value
  rw [placeBinary]
  split
  · exact addsObjects_assignValue isRealm isNew (indexKey_ne_protoKey index) value
  · cases nests : options.nestTables with
    | separator separator => exact named
    | true =>
        exact addsObjects_placeNested isRealm isNew (safe.tables (.inl nests) field member) value
    | truthy => exact named
    | absent => exact named

variable {config : Config (TypeCastFunction α)}

theorem addsObjects_nextText (isRealm : realm.heap <+: before) (isNew : before.length ≤ result)
    {rest : List Field} (members : ∀ field ∈ rest, field ∈ fields)
    (safe : SafeNames realm fields options) (index : Nat) :
    AddsObjects realm before (Inside result)
      (nextText runtime realm options config result index rest) (fun _ => Inside result) := by
  induction rest generalizing index with
  | nil => exact AddsObjects.pure PUnit.unit fun _ inside => inside
  | cons field rest ih =>
      obtain ⟨member, others⟩ := List.forall_mem_cons.mp members
      rw [nextText]
      exact (addsObjects_readColumn index _).bind fun value =>
        (addsObjects_placeText isRealm isNew member safe value).bind fun _ =>
          ih others (index + 1)

theorem addsObjects_nextBinary (isRealm : realm.heap <+: before)
    (isNew : before.length ≤ result) {rest : List Field}
    (members : ∀ field ∈ rest, field ∈ fields) (safe : SafeNames realm fields options)
    (index : Nat) (nullBit : NullBit) :
    AddsObjects realm before (Inside result)
      (nextBinary runtime realm fields options config nullBytes result index nullBit rest)
      (fun _ => Inside result) := by
  induction rest generalizing index nullBit with
  | nil => exact AddsObjects.pure PUnit.unit fun _ inside => inside
  | cons field rest ih =>
      obtain ⟨member, others⟩ := List.forall_mem_cons.mp members
      rw [nextBinary]
      exact (addsObjects_readColumn index _).bind fun value =>
        (addsObjects_placeBinary isRealm isNew member safe index value).bind fun _ =>
          ih others (index + 1) nullBit.next

theorem addsObjects_staticNext (isRealm : realm.heap <+: before)
    (safe : SafeNames realm fields options) :
    AddsObjects realm before known (staticNext runtime realm fields options config protocol)
      (fun result heap => before.length ≤ result ∧ Inside result heap) := by
  -- the row is returned behind a loop over its columns
  have row {columns : Ref → RowM α PUnit} (arrayLength : Option Nat)
      (adds : ∀ result, before.length ≤ result →
        AddsObjects realm before (Inside result) (columns result) (fun _ => Inside result)) :
      AddsObjects realm before known (do
        let result ← allocate (newResult runtime realm arrayLength)
        columns result
        return result) (fun result heap => before.length ≤ result ∧ Inside result heap) := by
    refine (addsObjects_newResult arrayLength).bind fun result => .given fun isNew => ?_
    have all : AddsObjects realm before (MadeTables [] result) (columns result)
        (fun _ heap => before.length ≤ result ∧ Inside result heap) :=
      (Triple.strengthen (adds result isNew) fun _ holds => ⟨holds.1, holds.2.inside⟩).weaken
        (fun _ _ holds => ⟨holds.1, isNew, holds.2⟩) fun _ _ holds => holds
    exact all.bind fun _ => AddsObjects.pure result fun _ isRow => isRow
  cases protocol with
  | text =>
      exact row _ fun result isNew =>
        addsObjects_nextText isRealm isNew (fun _ member => member) safe 0
  | binary =>
      exact (addsObjects_readPacket _).bind fun nullBytes => row _ fun result isNew =>
        addsObjects_nextBinary isRealm isNew (fun _ member => member) safe 0 .first

end Running

/-- Whatever a row parser reads, whether it throws or not, it leaves the objects from before as
they are, and adds plain objects with the prototypes of new ones, of which the row is one.  The
generated text parser does so for all names. -/
theorem RowParser.next_addsObjects (parser : RowParser) (runtime : Runtime α)
    {realm : Realm (Value α)} {fields : List Field} {options : Options (TypeCastFunction α)}
    (config : Config (TypeCastFunction α)) {protocol : Protocol}
    (safe : parser = .compiled ∧ protocol = .text ∨ SafeNames realm fields options)
    {state : RowState α} (isRealm : realm.heap <+: state.heap) :
    let parsed := outcome (parser.next runtime realm fields options config protocol) state
    realm.Adds state.heap parsed.2.heap ∧ ∀ result, parsed.1 = .ok result →
      state.heap.length ≤ result ∧ result < parsed.2.heap.length := by
  have adds : AddsObjects realm state.heap (fun _ => True)
      (parser.next runtime realm fields options config protocol)
      (fun result heap => state.heap.length ≤ result ∧ Inside result heap) := by
    cases parser with
    | static =>
        rcases safe with ⟨isCompiled, -⟩ | safe
        · cases isCompiled
        · exact addsObjects_staticNext isRealm safe
    | compiled =>
        have compiled : AddsObjects realm state.heap (fun _ => True)
            (orThrow (compile protocol fields options config))
            (fun program _ => compile protocol fields options config = .ok program ∧ True) :=
          addsObjects_orThrow _ fun program compiled _ _ => ⟨compiled, trivial⟩
        refine compiled.bind fun program => .given fun compiled => ?_
        cases protocol with
        | text => exact addsObjects_compileText isRealm compiled
        | binary =>
            rcases safe with ⟨-, isText⟩ | safe
            · cases isText
            · exact addsObjects_compileBinary isRealm (fun nests => safe.tables (.inl nests))
                compiled
  obtain ⟨returns, throws⟩ := adds state ⟨.refl realm state.heap, trivial⟩
  dsimp only
  cases run : outcome (parser.next runtime realm fields options config protocol) state with
  | mk result final =>
      cases result with
      | error error =>
          refine ⟨throws error final run, ?_⟩
          rintro _ ⟨⟩
      | ok value =>
          obtain ⟨isAdded, isRow⟩ := returns value final run
          refine ⟨isAdded, ?_⟩
          rintro result ⟨⟩
          exact isRow

/-- A nested table whose name is that of an inherited function. -/
def toStringField : Field :=
  { dateField with table := units "toString" }

theorem RowParser.next_addsObjects_toString :
    let row : RowState Unit :=
      { packet := .new 0 [0, 0, 0, 0, 0xfb] 0 5, heap := Realm.small.heap, calls := [] }
    let parsed := outcome (RowParser.compiled.next utcRuntime Realm.small [toStringField]
      { noOptions with nestTables := .true } noConfig .text) row
    Realm.small.Adds row.heap parsed.2.heap ∧ ∀ result, parsed.1 = .ok result →
      row.heap.length ≤ result ∧ result < parsed.2.heap.length :=
  RowParser.next_addsObjects .compiled utcRuntime noConfig (.inl ⟨rfl, rfl⟩) List.prefix_rfl

end Mysql2.Parsers

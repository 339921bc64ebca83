import Mysql2.Parsers.RowContents

/-!
# Row parsers make rows

Each row parser is the computations that take its columns, one after the other, on a new row.
-/

namespace Mysql2.Parsers

open Mysql2.Packets Mysql2.Script

variable {α : Type}

section Building

variable {runtime : Runtime α} {realm : Realm (Value α)} {before : Heap (Value α)}
  {fields : List Field} {options : Options (TypeCastFunction α)} {start : Nat} {result : Ref}

/-! ## Places -/

theorem ofField_of_array (array : options.rowsAsArray = true) (index : Nat) (field : Field) :
    Place.ofField options index field = .key (indexKey index) :=
  if_pos array

theorem ofField_of_separator (notArray : options.rowsAsArray = false) {separator : JsString}
    (nests : options.nestTables = .separator separator) (index : Nat) (field : Field) :
    Place.ofField options index field = .key (field.table ++ separator ++ field.name) := by
  rw [Place.ofField, notArray, nests]
  rfl

theorem ofField_of_nested (notArray : options.rowsAsArray = false)
    (nests : options.nestTables = .true) (index : Nat) (field : Field) :
    Place.ofField options index field = .nested field.table field.name := by
  rw [Place.ofField, notArray, nests]
  rfl

theorem ofField_of_absent (notArray : options.rowsAsArray = false)
    (nests : options.nestTables = .absent) (index : Nat) (field : Field) :
    Place.ofField options index field = .key field.name := by
  rw [Place.ofField, notArray, nests]
  rfl

theorem fieldEscape_of_not_isPrivate {key : JsString} (escapes : isPrivate key = false) :
    fieldEscape key = .ok key :=
  fieldEscape_eq_ok_iff.mpr ⟨escapes, rfl⟩

/-! ## New rows -/

/-- The length is that of arrays only. -/
theorem HoldsRow.ofNotArray {length : Nat} {heap : Heap (Value α)} {contents : Contents α}
    (row : HoldsRow realm before options length heap result contents)
    (notArray : options.rowsAsArray = false) (other : Nat) :
    HoldsRow realm before options other heap result contents :=
  { row with length := fun array => absurd (notArray.symm.trans array) Bool.false_ne_true }

/-- A new result is a row without contents. -/
theorem isRow_newResult (runtime : Runtime α) (realm : Realm (Value α)) (before : Heap (Value α))
    (plain : PlainOptions options) (start : Nat) :
    HoldsRow realm before options start
      (before ++ [newResult runtime realm (if options.rowsAsArray then some start else none)])
      before.length (fun _ => none) := by
  have at_ {object : Object (Value α)} : (before ++ [object])[before.length]? = some object :=
    List.getElem?_concat_length
  have own (object : Object (Value α)) (key : JsString) :
      (before ++ [object]).own before.length key = object.properties key := by
    rw [Heap.own, at_, Option.bind_some]
  obtain ⟨isPlain, isPrototype, values⟩ :=
    newResult_isPlain runtime realm (if options.rowsAsArray then some start else none)
  refine ⟨(Realm.Adds.refl realm before).allocate isPlain isPrototype values, Nat.le_refl _, ?_,
    fun array => ?_, fun _ key notLength => ?_, fun nests => ?_⟩
  · rw [at_, rowLink]
    cases options.rowsAsArray with
    | true => exact ⟨_, rfl, rfl, rfl⟩
    | false => exact ⟨_, rfl, rfl, rfl⟩
  · rw [own, if_pos array]
    simp only [newResult, Realm.newArray, if_true]
    rfl
  · rw [own]
    cases array : options.rowsAsArray with
    | true => exact if_neg (notLength array)
    | false => rfl
  · have notArray : options.rowsAsArray = false := by
      cases array : options.rowsAsArray with
      | false => rfl
      | true =>
          rw [plain.alone array] at nests
          cases nests
    have nothing (key : JsString) : (before ++ [newResult runtime realm
        (if options.rowsAsArray then some start else none)]).own before.length key = none := by
      rw [own, notArray]
      rfl
    refine ⟨?_, ?_, ?_⟩
    · intro table property found
      rw [nothing] at found
      cases found
    · intro first second inner found
      rw [nothing] at found
      cases found
    · intro table name
      rw [propertyAt, nothing]
      rfl

/-! ## Assignments -/

theorem puts_key (isRealm : realm.heap <+: before) (notArray : options.rowsAsArray = false)
    (flat : options.nestTables ≠ .true) {index : Nat} {field : Field} {key : JsString}
    (place : Place.ofField options index field = .key key)
    (settable : realm.Settable (rowLink realm options) key) :
    Puts realm before options start result index field
      (fun value => assign runtime result key (.value value)) := by
  intro heap contents value packet calls row
  rw [rowLink, notArray, if_neg Bool.false_ne_true] at settable
  obtain ⟨assigned, assignEq, isRow⟩ :=
    row.assign_key runtime isRealm notArray flat settable value
  refine ⟨assigned, ?_, ?_⟩
  · rw [outcome_assign, assignEq]
  · rw [place]
    exact isRow.ofNotArray notArray _

theorem puts_index (isRealm : realm.heap <+: before) (array : options.rowsAsArray = true)
    (flat : options.nestTables ≠ .true) {index : Nat} {field : Field}
    (startSmall : start < 4294967296) (small : index < 4294967295)
    (settable : realm.Settable (rowLink realm options) (indexKey index)) :
    Puts realm before options start result index field
      (fun value => assign runtime result (indexKey index) (.value value)) := by
  intro heap contents value packet calls row
  rw [rowLink, array, if_pos rfl] at settable
  have lengthSmall : max start index < 4294967296 := by omega
  obtain ⟨assigned, assignEq, isRow⟩ := row.assign_index runtime isRealm array flat lengthSmall
    small (Nat.le_max_right _ _) settable value
  refine ⟨assigned, ?_, ?_⟩
  · rw [outcome_assign, assignEq]
  · have longer : max (max start index) (index + 1) = max start (index + 1) := by omega
    rw [ofField_of_array array, ← longer]
    exact isRow

/-- An array that is as long as the index takes the element at its end. -/
theorem puts_push (isRealm : realm.heap <+: before) (array : options.rowsAsArray = true)
    (flat : options.nestTables ≠ .true) {index : Nat} {field : Field}
    (small : index < 4294967295)
    (settable : realm.Settable (rowLink realm options) (indexKey index)) :
    Puts realm before options 0 result index field (push runtime result) := by
  intro heap contents value packet calls row
  obtain ⟨object, at_, -⟩ := row.object
  have lengthEq := row.length array
  rw [Heap.own, at_, Option.bind_some, Nat.zero_max] at lengthEq
  have arrayLength : object.arrayLength runtime.primitives = index := by
    rw [Object.arrayLength, lengthEq]
    show (runtime.primitives.toLength (.number index)).getD 0 = index
    rw [HoldsRow.toLength_number runtime (by omega), Option.getD_some]
  have run : outcome (push runtime result value) ⟨packet, heap, calls⟩ =
      outcome (assign runtime result
        (indexKey ((heap[result]?.map (Object.arrayLength runtime.primitives)).getD 0))
          (.value value)) ⟨packet, heap, calls⟩ := rfl
  rw [run, at_, Option.map_some, Option.getD_some, arrayLength]
  exact puts_index isRealm array flat (by decide) small settable heap contents value packet calls
    row

/-! ## Nested tables -/

/-- A table is looked for, made if it is not there, and gets the value. -/
theorem puts_nested (isRealm : realm.heap <+: before)
    (notArray : options.rowsAsArray = false) (nests : options.nestTables = .true) {index : Nat}
    {field : Field} (notProto : field.table ≠ protoKey)
    (names : HoldsRow.NamesTable realm runtime field.table)
    (settable : realm.Settable (.object realm.objectPrototype) field.name) :
    Puts realm before options start result index field fun value =>
      ensureTable runtime realm result field.table >>= fun _ =>
        assignNested runtime result field.table field.name value := by
  intro heap contents value packet calls row
  obtain ⟨between, ensureRun, isRow, has⟩ :=
    row.ensureTable isRealm notArray nests notProto names packet calls
  obtain ⟨after, assignRun, isRow'⟩ :=
    isRow.assignNested runtime isRealm notArray nests notProto has settable value packet calls
  refine ⟨after, ?_, ?_⟩
  · rw [outcome_bind, ensureRun]
    exact assignRun
  · rw [ofField_of_nested notArray nests]
    exact isRow'.ofNotArray notArray _

/-- The assignment of a value to a place of a row. -/
def Place.put (runtime : Runtime α) (realm : Realm (Value α)) (result : Ref) :
    Place → Value α → RowM α PUnit
  | .key name, value => assign runtime result name (.value value)
  | .nested table name, value => do
      ensureTable runtime realm result table
      assignNested runtime result table name value

/-- A value gets its place. -/
theorem puts_place (plain : PlainOptions options)
    (names : PlainNames realm runtime fields options) (isRealm : realm.heap <+: before)
    (small : fields.length < 4294967296) (startSmall : start < 4294967296) (result : Ref)
    {index : Nat} {field : Field} (fieldAt : fields[index]? = some field) :
    Puts realm before options start result index field
      (Place.put runtime realm result (.ofField options index field)) := by
  have member := List.mem_of_getElem? fieldAt
  have inside := (List.getElem?_eq_some_iff.mp fieldAt).1
  cases array : options.rowsAsArray with
  | true =>
      have flat : options.nestTables ≠ .true := by
        rw [plain.alone array]
        rintro ⟨⟩
      have place := ofField_of_array array index field
      rw [place]
      exact puts_index isRealm array flat startSmall (by omega)
        (names.key index field _ fieldAt place)
  | false =>
      cases nests : options.nestTables with
      | true =>
          have place := ofField_of_nested array nests index field
          have escapes := names.table (by rw [nests]; rintro ⟨⟩) field member
          obtain ⟨isTable, settable⟩ := names.nested index field _ _ fieldAt place
          rw [place]
          exact puts_nested isRealm array nests (ne_protoKey_of_not_isPrivate escapes) isTable
            settable
      | separator separator =>
          have place := ofField_of_separator array nests index field
          rw [place]
          exact puts_key isRealm array (by rw [nests]; rintro ⟨⟩) place
            (names.key index field _ fieldAt place)
      | truthy => exact absurd nests plain.notTruthy
      | absent =>
          have place := ofField_of_absent array nests index field
          rw [place]
          exact puts_key isRealm array (by rw [nests]; rintro ⟨⟩) place
            (names.key index field _ fieldAt place)

/-- Generated code makes the table before it reads the value. -/
theorem takes_nested (isRealm : realm.heap <+: before)
    (notArray : options.rowsAsArray = false) (nests : options.nestTables = .true) {index : Nat}
    {field : Field} (notProto : field.table ≠ protoKey)
    (names : HoldsRow.NamesTable realm runtime field.table)
    (settable : realm.Settable (.object realm.objectPrototype) field.name) (column : Column α) :
    Takes realm before options start result index field column
      (ensureTable runtime realm result field.table >>= fun _ => readColumn index column >>=
        assignNested runtime result field.table field.name) := by
  intro heap contents packet calls row
  obtain ⟨between, ensureRun, isRow, has⟩ :=
    row.ensureTable isRealm notArray nests notProto names packet calls
  obtain ⟨calls', run⟩ := outcome_readColumn index column packet between calls
  rw [outcome_bind, ensureRun]
  dsimp only
  rw [outcome_bind, run]
  constructor
  · intro value behind read
    rw [read]
    obtain ⟨after, assignRun, isRow'⟩ :=
      isRow.assignNested runtime isRealm notArray nests notProto has settable value behind calls'
    refine ⟨after, calls', assignRun, ?_⟩
    rw [ofField_of_nested notArray nests]
    exact isRow'.ofNotArray notArray _
  · intro error read
    rw [read]
    exact ⟨_, rfl⟩

/-- The tables that the generated text parser starts with are empty. -/
theorem run_initTables (isRealm : realm.heap <+: before)
    (notArray : options.rowsAsArray = false) (nests : options.nestTables = .true)
    {options' : Options (TypeCastFunction α)} {protocol : Protocol}
    {nullBytes : List (Option Nat)} {tables : List JsString}
    (settable : ∀ table ∈ tables, realm.Settable (.object realm.objectPrototype) table)
    {heap : Heap (Value α)} (packet : Packet) (calls : List Nat)
    (row : HoldsRow realm before options start heap result fun _ => none) : ∃ after,
      outcome (runBody runtime realm fields options' protocol nullBytes result
        (tables.map Statement.initTable)) ⟨packet, heap, calls⟩ =
          (.ok ⟨⟩, ⟨packet, after, calls⟩) ∧
      HoldsRow realm before options start after result fun _ => none := by
  induction tables generalizing heap with
  | nil => exact ⟨heap, rfl, row⟩
  | cons table tables ih =>
      obtain ⟨first, rest⟩ := List.forall_mem_cons.mp settable
      obtain ⟨assigned, assignEq, made, -⟩ :=
        row.makeTable runtime isRealm notArray nests first fun _ => rfl
      obtain ⟨after, run, isRow⟩ := ih rest made
      refine ⟨after, ?_, isRow⟩
      rw [List.map_cons, runBody, outcome_bind, Statement.run, outcome_bind, outcome_allocate]
      dsimp only
      rw [outcome_assign, assignEq]
      exact run

/-! ## Generated parsers -/

/-- The statements that take a column. -/
theorem exists_compileTarget (plain : PlainOptions options)
    (names : PlainNames realm runtime fields options) (isRealm : realm.heap <+: before)
    (small : fields.length < 4294967296) (startSmall : start < 4294967296)
    {options' : Options (TypeCastFunction α)}
    (sameTarget : ∀ field index, compileTarget options' field index =
      compileTarget options field index) {index : Nat} {field : Field}
    (fieldAt : fields[index]? = some field) : ∃ first target,
      compileTarget options' field index = .ok (first, target) ∧
        ∀ protocol nullBytes result nullBit code,
          Takes realm before options start result index field
            (if nullBit.any (·.isSet nullBytes) then code.nullColumn fields options' index
              else code.column runtime fields options' protocol index)
            (runBody runtime realm fields options' protocol nullBytes result
              (first ++ [.column index nullBit target code])) := by
  have member := List.mem_of_getElem? fieldAt
  have nameEq := fieldEscape_of_not_isPrivate (names.name field member)
  -- without a nested table there is one statement
  have flatTarget {target : Lvalue} (targetEq : ∀ result, (fun value =>
      assignTo runtime result value target) =
        Place.put runtime realm result (.ofField options index field)) (protocol : Protocol)
      (nullBytes : List (Option Nat)) (result : Ref) (nullBit : Option NullBit)
      (code : ValueCode) : Takes realm before options start result index field
        (if nullBit.any (·.isSet nullBytes) then code.nullColumn fields options' index
          else code.column runtime fields options' protocol index)
        (runBody runtime realm fields options' protocol nullBytes result
          ([] ++ [.column index nullBit target code])) := by
    have puts := puts_place plain names isRealm small startSmall result fieldAt
    rw [← targetEq result] at puts
    rw [List.nil_append, runBody, runBody, Statement.run]
    simp only [bind_pure_unit]
    exact puts.takes _
  simp only [sameTarget]
  cases array : options.rowsAsArray with
  | true =>
      have absent := plain.alone array
      refine ⟨[], .index index, ?_, flatTarget fun result => ?_⟩
      · rw [compileTarget, nameEq, absent, array]
        rfl
      · rw [ofField_of_array array]
        rfl
  | false =>
      cases nests : options.nestTables with
      | separator separator =>
          refine ⟨[], .key (field.table ++ separator ++ field.name), ?_,
            flatTarget fun result => ?_⟩
          · rw [compileTarget, nameEq, nests]
            dsimp only
            rw [fieldEscape_of_not_isPrivate (names.joined separator nests field member)]
            rfl
          · rw [ofField_of_separator array nests]
            rfl
      | true =>
          have place := ofField_of_nested array nests index field
          have escapes := names.table (by rw [nests]; rintro ⟨⟩) field member
          obtain ⟨isTable, settable⟩ := names.nested index field _ _ fieldAt place
          refine ⟨[.ensureTable field.table], .nested field.table field.name, ?_,
            fun protocol nullBytes result nullBit code => ?_⟩
          · rw [compileTarget, nameEq, nests]
            dsimp only
            rw [fieldEscape_of_not_isPrivate escapes]
            rfl
          · rw [List.singleton_append, runBody, runBody, runBody, Statement.run, Statement.run]
            simp only [bind_pure_unit]
            exact takes_nested isRealm array nests (ne_protoKey_of_not_isPrivate escapes)
              isTable settable _
      | truthy => exact absurd nests plain.notTruthy
      | absent =>
          refine ⟨[], .key field.name, ?_, flatTarget fun result => ?_⟩
          · rw [compileTarget, nameEq, nests, array]
            rfl
          · rw [ofField_of_absent array nests]
            rfl

/-- A body that takes the columns of fields. -/
def TakesBody (runtime : Runtime α) (realm : Realm (Value α)) (before : Heap (Value α))
    (fields : List Field) (options options' : Options (TypeCastFunction α)) (start : Nat)
    (protocol : Protocol) (index : Nat) (rest : List Field)
    (columns : List (Option Nat) → List (Column α)) (body : List Statement) : Prop :=
  ∀ nullBytes result, ∃ steps,
    runBody runtime realm fields options' protocol nullBytes result body = runAll steps ∧
      TakesAll realm before options start result index rest (columns nullBytes) steps

theorem exists_compileTextFields (plain : PlainOptions options)
    (names : PlainNames realm runtime fields options) (isRealm : realm.heap <+: before)
    (small : fields.length < 4294967296) (startSmall : start < 4294967296)
    {options' : Options (TypeCastFunction α)} (config : Config (TypeCastFunction α))
    (sameTarget : ∀ field index, compileTarget options' field index =
      compileTarget options field index) {rest : List Field} {index : Nat}
    (restFrom : RestFrom fields rest index) : ∃ body,
      compileTextFields options' config index rest = .ok body ∧
        TakesBody runtime realm before fields options options' start .text index rest
          (fun _ => textColumns (compiledTextColumn runtime fields options' config) index rest)
          body := by
  induction rest generalizing index with
  | nil => exact ⟨[], rfl, fun nullBytes result => ⟨[], rfl, .nil index⟩⟩
  | cons field rest ih =>
      obtain ⟨later, laterEq, laterTakes⟩ := ih restFrom.tail
      obtain ⟨first, target, targetEq, takes⟩ :=
        exists_compileTarget plain names isRealm small startSmall sameTarget restFrom.head
      let code := valueCode options' ⟨textReadCodeFor field (.ofField index) config options', false⟩
      have compiled : compileTextFields options' config index (field :: rest) =
          .ok (first ++ [.column index none target code] ++ later) := by
        rw [compileTextFields, targetEq, laterEq]
        rfl
      refine ⟨_, compiled, fun nullBytes result => ?_⟩
      obtain ⟨steps, runEq, takesAll⟩ := laterTakes nullBytes result
      refine ⟨_ :: steps, ?_, .cons (takes .text nullBytes result none code) takesAll⟩
      rw [runBody_append, runEq, runAll]

theorem exists_compileBinaryFields (plain : PlainOptions options)
    (names : PlainNames realm runtime fields options) (isRealm : realm.heap <+: before)
    (small : fields.length < 4294967296) (startSmall : start < 4294967296)
    {options' : Options (TypeCastFunction α)} (config : Config (TypeCastFunction α))
    (sameTarget : ∀ field index, compileTarget options' field index =
      compileTarget options field index) {rest : List Field} {index : Nat}
    (restFrom : RestFrom fields rest index) (nullBit : NullBit) : ∃ body,
      compileBinaryFields options' config index nullBit rest = .ok body ∧
        TakesBody runtime realm before fields options options' start .binary index rest
          (fun nullBytes => binaryColumns
            (compiledBinaryColumn runtime fields options' config nullBytes) index nullBit rest)
          body := by
  induction rest generalizing index nullBit with
  | nil => exact ⟨[], rfl, fun nullBytes result => ⟨[], rfl, .nil index⟩⟩
  | cons field rest ih =>
      obtain ⟨later, laterEq, laterTakes⟩ := ih restFrom.tail nullBit.next
      obtain ⟨first, target, targetEq, takes⟩ :=
        exists_compileTarget plain names isRealm small startSmall sameTarget restFrom.head
      let code := valueCode options' (binaryReadCodeFor field config options' index)
      have compiled : compileBinaryFields options' config index nullBit (field :: rest) =
          .ok (first ++ [.column index (some nullBit) target code] ++ later) := by
        rw [compileBinaryFields, targetEq, laterEq]
        rfl
      refine ⟨_, compiled, fun nullBytes result => ?_⟩
      obtain ⟨steps, runEq, takesAll⟩ := laterTakes nullBytes result
      refine ⟨_ :: steps, ?_, .cons (takes .binary nullBytes result (some nullBit) code) takesAll⟩
      rw [runBody_append, runEq, runAll]

/-! ## Static parsers -/

/-- Where names are plain the static parsers check them in vain. -/
theorem placeNested_eq {field : Field} (tableEscapes : isPrivate field.table = false)
    (nameEscapes : isPrivate field.name = false) :
    placeNested runtime realm result field =
      Place.put runtime realm result (.nested field.table field.name) := by
  funext value
  rw [placeNested, fieldEscape_of_not_isPrivate tableEscapes,
    fieldEscape_of_not_isPrivate nameEscapes]
  rfl

theorem placeText_eq (plain : PlainOptions options)
    (names : PlainNames realm runtime fields options) (array : options.rowsAsArray = false)
    {field : Field} (member : field ∈ fields) (index : Nat) :
    placeText runtime realm options result field =
      Place.put runtime realm result (.ofField options index field) := by
  have nameEq := fieldEscape_of_not_isPrivate (names.name field member)
  have notArray : ¬options.rowsAsArray = true := by
    rw [array]
    exact Bool.false_ne_true
  funext value
  rw [placeText, if_neg notArray]
  cases nests : options.nestTables with
  | separator separator =>
      have escapes := names.table (by rw [nests]; rintro ⟨⟩) field member
      dsimp only
      rw [ofField_of_separator array nests, fieldEscape_of_not_isPrivate escapes, nameEq]
      rfl
  | true =>
      have escapes := names.table (by rw [nests]; rintro ⟨⟩) field member
      dsimp only
      rw [ofField_of_nested array nests, placeNested_eq escapes (names.name field member)]
  | truthy => exact absurd nests plain.notTruthy
  | absent =>
      dsimp only
      rw [ofField_of_absent array nests, nameEq]
      rfl

theorem placeBinary_eq (plain : PlainOptions options)
    (names : PlainNames realm runtime fields options) {field : Field} (member : field ∈ fields)
    (index : Nat) :
    placeBinary runtime realm options result field index =
      Place.put runtime realm result (.ofField options index field) := by
  funext value
  rw [placeBinary]
  cases array : options.rowsAsArray with
  | true =>
      rw [if_pos rfl, ofField_of_array array]
      rfl
  | false =>
      rw [if_neg Bool.false_ne_true]
      cases nests : options.nestTables with
      | separator separator =>
          dsimp only
          rw [ofField_of_separator array nests,
            fieldEscape_of_not_isPrivate (names.joined separator nests field member)]
          rfl
      | true =>
          have escapes := names.table (by rw [nests]; rintro ⟨⟩) field member
          dsimp only
          rw [ofField_of_nested array nests, placeNested_eq escapes (names.name field member)]
      | truthy => exact absurd nests plain.notTruthy
      | absent =>
          dsimp only
          rw [ofField_of_absent array nests,
            fieldEscape_of_not_isPrivate (names.name field member)]
          rfl

theorem puts_placeText (plain : PlainOptions options)
    (names : PlainNames realm runtime fields options) (isRealm : realm.heap <+: before)
    (small : fields.length < 4294967296) (result : Ref) {index : Nat} {field : Field}
    (fieldAt : fields[index]? = some field) :
    Puts realm before options 0 result index field
      (placeText runtime realm options result field) := by
  have inside := (List.getElem?_eq_some_iff.mp fieldAt).1
  cases array : options.rowsAsArray with
  | true =>
      have flat : options.nestTables ≠ .true := by
        rw [plain.alone array]
        rintro ⟨⟩
      have place : placeText runtime realm options result field = push runtime result := by
        funext value
        rw [placeText, if_pos array]
      rw [place]
      exact puts_push isRealm array flat (by omega)
        (names.key index field _ fieldAt (ofField_of_array array index field))
  | false =>
      rw [placeText_eq plain names array (List.mem_of_getElem? fieldAt) index]
      exact puts_place plain names isRealm small (by decide) result fieldAt

theorem exists_nextText (plain : PlainOptions options)
    (names : PlainNames realm runtime fields options) (isRealm : realm.heap <+: before)
    (small : fields.length < 4294967296) (config : Config (TypeCastFunction α)) (result : Ref)
    {rest : List Field} {index : Nat} (restFrom : RestFrom fields rest index) : ∃ steps,
      nextText runtime realm options config result index rest = runAll steps ∧
        TakesAll realm before options 0 result index rest
          (textColumns (fun _ => staticTextColumn runtime options config) index rest) steps := by
  induction rest generalizing index with
  | nil => exact ⟨[], rfl, .nil index⟩
  | cons field rest ih =>
      obtain ⟨steps, runEq, takesAll⟩ := ih restFrom.tail
      have puts := puts_placeText plain names isRealm small result restFrom.head
      refine ⟨_ :: steps, ?_, .cons (puts.takes _) takesAll⟩
      rw [nextText, runAll, runEq, bind_assoc]

theorem exists_nextBinary (plain : PlainOptions options)
    (names : PlainNames realm runtime fields options) (isRealm : realm.heap <+: before)
    (small : fields.length < 4294967296) (startSmall : start < 4294967296)
    (config : Config (TypeCastFunction α)) (nullBytes : List (Option Nat)) (result : Ref)
    {rest : List Field} {index : Nat} (restFrom : RestFrom fields rest index)
    (nullBit : NullBit) : ∃ steps,
      nextBinary runtime realm fields options config nullBytes result index nullBit rest =
          runAll steps ∧
        TakesAll realm before options start result index rest
          (binaryColumns (fun index nullBit field =>
            staticBinaryColumn runtime fields options config nullBytes field index nullBit)
            index nullBit rest) steps := by
  induction rest generalizing index nullBit with
  | nil => exact ⟨[], rfl, .nil index⟩
  | cons field rest ih =>
      obtain ⟨steps, runEq, takesAll⟩ := ih restFrom.tail nullBit.next
      have puts : Puts realm before options start result index field
          (placeBinary runtime realm options result field index) := by
        rw [placeBinary_eq plain names (List.mem_of_getElem? restFrom.head)]
        exact puts_place plain names isRealm small startSmall result restFrom.head
      refine ⟨_ :: steps, ?_, .cons (puts.takes _) takesAll⟩
      rw [nextBinary, runAll, runEq, bind_assoc]

/-! ## Whole rows -/

/-- The row holds what has been read, or what a reader throws is thrown. -/
def Builds (realm : Realm (Value α)) (options : Options (TypeCastFunction α))
    (fields : List Field) (before : Heap (Value α))
    (read : List (Value α) × Except JsError Packet) (parsed : Except JsError Ref × RowState α) :
    Prop :=
  match read.2 with
  | .ok behind => ∃ result, parsed.1 = .ok result ∧ parsed.2.packet = behind ∧
      HoldsRow realm before options fields.length parsed.2.heap result
        (.ofValues options fields read.1)
  | .error error => parsed.1 = .error error

theorem TakesAll.builds {columns : List (Column α)} {steps : List (RowM α PUnit)}
    (all : TakesAll realm before options start result 0 fields columns steps)
    (shorter : start ≤ fields.length) {heap : Heap (Value α)}
    (row : HoldsRow realm before options start heap result fun _ => none) (packet : Packet)
    (calls : List Nat) : Builds realm options fields before (readAll columns packet)
      (outcome (runAll steps >>= fun _ => pure result) ⟨packet, heap, calls⟩) := by
  have lengthEq : max start (0 + fields.length) = fields.length := by omega
  rw [← Nat.max_zero start] at row
  obtain ⟨returns, throws⟩ := all.run packet calls row
  rw [lengthEq] at returns
  cases read : readAll columns packet with
  | mk values after =>
      rw [outcome_bind, Builds]
      cases after with
      | ok behind =>
          obtain ⟨final, calls', run, isRow⟩ := returns values behind read
          rw [run]
          exact ⟨result, rfl, rfl, isRow⟩
      | error error =>
          obtain ⟨final, run⟩ := throws values error read
          rw [run]

theorem compileTarget_withConfigTypeCast (options : Options (TypeCastFunction α))
    (config : Config (TypeCastFunction α)) (field : Field) (index : Nat) :
    compileTarget (withConfigTypeCast options config) field index =
      compileTarget options field index := by
  rw [compileTarget, compileTarget, nestTables_withConfigTypeCast, rowsAsArray_withConfigTypeCast]

theorem mapM_initTable_eq_ok {tables : List JsString}
    (escape : ∀ table ∈ tables, isPrivate table = false) :
    tables.mapM (fun table => do return Statement.initTable (← fieldEscape table)) =
      (.ok (tables.map Statement.initTable) : Except JsError _) := by
  induction tables with
  | nil => rfl
  | cons table tables ih =>
      obtain ⟨first, rest⟩ := List.forall_mem_cons.mp escape
      rw [List.mapM_cons, fieldEscape_of_not_isPrivate first, ih rest]
      rfl

/-- The tables that the generated text parser starts with. -/
def startTables (fields : List Field) (options : Options (TypeCastFunction α)) : List JsString :=
  if options.nestTables = .true then resultTables fields else []

theorem startTables_isPrivate (names : PlainNames realm runtime fields options) :
    ∀ table ∈ startTables fields options, isPrivate table = false := by
  intro table member
  rw [startTables] at member
  split at member
  · next nests =>
      obtain ⟨field, isField, rfl⟩ := List.mem_map.mp (mem_resultTables.mp member).1
      exact names.table (by rw [nests]; rintro ⟨⟩) field isField
  · cases member

theorem run_startTables (plain : PlainOptions options)
    (names : PlainNames realm runtime fields options) (isRealm : realm.heap <+: before)
    (options' : Options (TypeCastFunction α)) (protocol : Protocol)
    (nullBytes : List (Option Nat)) {heap : Heap (Value α)} (packet : Packet)
    (calls : List Nat) (row : HoldsRow realm before options start heap result fun _ => none) :
    ∃ after, outcome (runBody runtime realm fields options' protocol nullBytes result
        ((startTables fields options).map Statement.initTable)) ⟨packet, heap, calls⟩ =
          (.ok ⟨⟩, ⟨packet, after, calls⟩) ∧
      HoldsRow realm before options start after result fun _ => none := by
  rw [startTables]
  split
  · next nests =>
      have notArray : options.rowsAsArray = false := by
        cases array : options.rowsAsArray with
        | false => rfl
        | true => exact absurd (nests.symm.trans (plain.alone array)) (by rintro ⟨⟩)
      refine run_initTables isRealm notArray nests ?_ packet calls row
      intro table member
      obtain ⟨field, isField, rfl⟩ := List.mem_map.mp (mem_resultTables.mp member).1
      obtain ⟨index, fieldAt⟩ := List.getElem?_of_mem isField
      exact (names.nested index field _ _ fieldAt
        (ofField_of_nested notArray nests index field)).1.1
  · exact ⟨heap, rfl, row⟩

theorem exists_compileText (plain : PlainOptions options)
    (names : PlainNames realm runtime fields options) (isRealm : realm.heap <+: before)
    (small : fields.length < 4294967296) (config : Config (TypeCastFunction α)) :
    ∃ columns,
      compileText fields options config = .ok {
        protocol := .text
        checksTimezone := fields.any fun field =>
          usesLocalDate field (withConfigTypeCast options config) config
        wraps := (withConfigTypeCast options config).typeCast.isFunction
        arrayLength := if options.rowsAsArray then some fields.length else none
        nullBitmapLength := 0
        body := (startTables fields options).map Statement.initTable ++ columns } ∧
      TakesBody runtime realm before fields options (withConfigTypeCast options config)
        fields.length .text 0 fields (fun _ => textColumns
          (compiledTextColumn runtime fields (withConfigTypeCast options config) config) 0 fields)
        columns := by
  obtain ⟨columns, columnsEq, takes⟩ := exists_compileTextFields plain names isRealm small small
    config (compileTarget_withConfigTypeCast options config) (.self fields)
  have compiled := mapM_initTable_eq_ok (startTables_isPrivate names)
  rw [startTables, ← nestTables_withConfigTypeCast options config] at compiled
  refine ⟨columns, ?_, takes⟩
  rw [compileText, compiled, columnsEq, ← rowsAsArray_withConfigTypeCast options config,
    startTables, ← nestTables_withConfigTypeCast options config]
  rfl

theorem exists_compileBinary (plain : PlainOptions options)
    (names : PlainNames realm runtime fields options) (isRealm : realm.heap <+: before)
    (small : fields.length < 4294967296) (config : Config (TypeCastFunction α)) :
    ∃ columns,
      compileBinary fields options config = .ok {
        protocol := .binary
        checksTimezone := fields.any fun field =>
          usesLocalDate field (withConfigTypeCast options config) config
        wraps := false
        arrayLength := if options.rowsAsArray then some fields.length else none
        nullBitmapLength := nullBitmapLength fields
        body := columns } ∧
      TakesBody runtime realm before fields options (withConfigTypeCast options config)
        fields.length .binary 0 fields (fun nullBytes => binaryColumns
          (compiledBinaryColumn runtime fields (withConfigTypeCast options config) config nullBytes)
            0 .first fields) columns := by
  obtain ⟨columns, columnsEq, takes⟩ := exists_compileBinaryFields plain names isRealm small small
    config (compileTarget_withConfigTypeCast options config) (.self fields) .first
  refine ⟨columns, ?_, takes⟩
  rw [compileBinary, columnsEq, ← rowsAsArray_withConfigTypeCast options config]
  rfl

theorem compiledNext_text_builds (plain : PlainOptions options) {state : RowState α}
    (names : PlainNames realm runtime fields options) (isRealm : realm.heap <+: state.heap)
    (small : fields.length < 4294967296) (config : Config (TypeCastFunction α)) :
    Builds realm options fields state.heap
      (compiledValues runtime fields options config .text state.packet)
      (outcome (compiledNext runtime realm fields options .text config) state) := by
  obtain ⟨packet, heap, calls⟩ := state
  obtain ⟨columns, compiled, takes⟩ :=
    exists_compileText plain names isRealm small config
  let object := newResult runtime realm (if options.rowsAsArray then some fields.length else none)
  let options' := withConfigTypeCast options config
  have row := isRow_newResult runtime realm heap plain fields.length
  obtain ⟨after, startRun, isRow⟩ := run_startTables plain names isRealm options' .text [] packet
    calls row
  obtain ⟨steps, stepsEq, all⟩ := takes [] heap.length
  have run : outcome (compiledNext runtime realm fields options .text config)
      ⟨packet, heap, calls⟩ = outcome (
        (runBody runtime realm fields options' .text [] heap.length
          ((startTables fields options).map Statement.initTable) >>= fun _ =>
            runAll steps) >>= fun _ => pure heap.length)
        ⟨packet, heap ++ [object], calls⟩ := by
    rw [← stepsEq, ← runBody_append, compiledNext, compile, compiled]
    rfl
  rw [run, bind_assoc, outcome_bind, startRun]
  exact all.builds (Nat.le_refl _) isRow packet calls

theorem compiledNext_binary_builds (plain : PlainOptions options) {state : RowState α}
    (names : PlainNames realm runtime fields options) (isRealm : realm.heap <+: state.heap)
    (small : fields.length < 4294967296) (config : Config (TypeCastFunction α)) :
    Builds realm options fields state.heap
      (compiledValues runtime fields options config .binary state.packet)
      (outcome (compiledNext runtime realm fields options .binary config) state) := by
  obtain ⟨packet, heap, calls⟩ := state
  obtain ⟨columns, compiled, takes⟩ := exists_compileBinary plain names isRealm small config
  let object := newResult runtime realm (if options.rowsAsArray then some fields.length else none)
  let options' := withConfigTypeCast options config
  have row := isRow_newResult runtime realm heap plain fields.length
  have run : outcome (compiledNext runtime realm fields options .binary config)
      ⟨packet, heap, calls⟩ = outcome (
        readPacket (readNullBitmap (nullBitmapLength fields)) >>= fun nullBytes =>
          runBody runtime realm fields options' .binary nullBytes heap.length columns >>= fun _ =>
            pure heap.length)
        ⟨packet, heap ++ [object], calls⟩ := by
    rw [compiledNext, compile, compiled]
    rfl
  rw [run, outcome_bind, outcome_readPacket, compiledValues]
  cases header : (readNullBitmap (nullBitmapLength fields)).run packet with
  | error error => exact rfl
  | ok read =>
      obtain ⟨nullBytes, behind⟩ := read
      obtain ⟨steps, stepsEq, all⟩ := takes nullBytes heap.length
      dsimp only
      rw [stepsEq]
      exact all.builds (Nat.le_refl _) row behind calls

theorem staticNext_text_builds (plain : PlainOptions options) {state : RowState α}
    (names : PlainNames realm runtime fields options) (isRealm : realm.heap <+: state.heap)
    (small : fields.length < 4294967296) (config : Config (TypeCastFunction α)) :
    Builds realm options fields state.heap
      (staticValues runtime fields options config .text state.packet)
      (outcome (staticNext runtime realm fields options config .text) state) := by
  obtain ⟨packet, heap, calls⟩ := state
  have row := isRow_newResult runtime realm heap plain 0
  obtain ⟨steps, stepsEq, all⟩ :=
    exists_nextText plain names isRealm small config heap.length (.self fields)
  have run : outcome (staticNext runtime realm fields options config .text)
      ⟨packet, heap, calls⟩ = outcome (runAll steps >>= fun _ => pure heap.length)
        ⟨packet, heap ++ [newResult runtime realm
          (if options.rowsAsArray then some 0 else none)], calls⟩ := by
    rw [← stepsEq]
    rfl
  rw [run]
  exact all.builds (Nat.zero_le _) row packet calls

theorem staticNext_binary_builds (plain : PlainOptions options) {state : RowState α}
    (names : PlainNames realm runtime fields options) (isRealm : realm.heap <+: state.heap)
    (small : fields.length < 4294967296) (config : Config (TypeCastFunction α)) :
    Builds realm options fields state.heap
      (staticValues runtime fields options config .binary state.packet)
      (outcome (staticNext runtime realm fields options config .binary) state) := by
  obtain ⟨packet, heap, calls⟩ := state
  have row := isRow_newResult runtime realm heap plain fields.length
  rw [staticNext, outcome_bind, outcome_readPacket, staticValues]
  cases header : (readNullBitmap (nullBitmapLength fields)).run packet with
  | error error => exact rfl
  | ok read =>
      obtain ⟨nullBytes, behind⟩ := read
      obtain ⟨steps, stepsEq, all⟩ := exists_nextBinary plain names isRealm small small config
        nullBytes heap.length (.self fields) .first
      dsimp only
      rw [outcome_bind, outcome_allocate]
      dsimp only
      rw [stepsEq]
      exact all.builds (Nat.le_refl _) row behind calls

end Building

/-- What a row parser reads from a row packet, column after column. -/
def RowParser.values (parser : RowParser) (runtime : Runtime α) (fields : List Field)
    (options : Options (TypeCastFunction α)) (config : Config (TypeCastFunction α))
    (protocol : Protocol) (packet : Packet) : List (Value α) × Except JsError Packet :=
  match parser with
  | .compiled => compiledValues runtime fields options config protocol packet
  | .static => staticValues runtime fields options config protocol packet

theorem inherited_small (α : Type) (key : JsString) (notProto : key ≠ protoKey)
    (other : key ≠ units "toString") :
    (Realm.small : Realm (Value α)).inherited
      (.object (Realm.small : Realm (Value α)).objectPrototype) key = none := by
  show Heap.own Realm.small.heap 0 key = none
  simp [Realm.small, Heap.own, notProto, other]

theorem plainNames_dateField : PlainNames Realm.small utcRuntime [dateField]
    ({ noOptions with nestTables := .true } : Options (TypeCastFunction Unit)) := by
  have table := inherited_small Unit (units "t") (by decide) (by decide)
  have name := inherited_small Unit (units "d") (by decide) (by decide)
  refine ⟨?_, fun _ => ?_, fun _ => nofun, ?_, ?_⟩
  · exact List.forall_mem_singleton.mpr (by decide)
  · exact List.forall_mem_singleton.mpr (by decide)
  · intro index field key fieldAt place
    cases place
  · intro index field table' name' fieldAt place
    obtain rfl := List.mem_singleton.mp (List.mem_of_getElem? fieldAt)
    cases place
    refine ⟨⟨fun property own => ?_, fun slot writable own => ?_⟩, fun property own => ?_⟩
    · exact absurd (table.symm.trans own) nofun
    · exact absurd (table.symm.trans own) nofun
    · exact absurd (name.symm.trans own) nofun

theorem plainOptions_nested :
    PlainOptions ({ noOptions with nestTables := .true } : Options (TypeCastFunction Unit)) where
  alone array := absurd array Bool.false_ne_true
  notTruthy same := by cases same

end Mysql2.Parsers

import Mysql2.Parsers.BinaryRows
import Mysql2.Parsers.RowBuilding

/-!
# Names of columns

Row parsers do not take the names of private properties.  A generated parser looks at names when
it is compiled, a static one when it puts a value into its place, and they do not look at the same
names.
-/

namespace Mysql2.Parsers

open Mysql2.Packets Mysql2.Packets.Packet Mysql2.Script

variable {α φ : Type}

/-! ## Names that are looked at -/

/-- The names that a generator looks at for a column. -/
def compiledNames (options : Options φ) (field : Field) : List JsString :=
  match options.nestTables with
  | .separator separator => [field.name, field.table ++ separator ++ field.name]
  | .true => [field.name, field.table]
  | _ => [field.name]

/-- The names that a static parser looks at for a column. -/
def staticNames (protocol : Protocol) (options : Options φ) (field : Field) : List JsString :=
  if options.rowsAsArray then []
  else
    match protocol, options.nestTables with
    | .text, .separator _ | .text, .true | .text, .truthy | .binary, .true =>
        [field.table, field.name]
    | .binary, .separator separator => [field.table ++ separator ++ field.name]
    | _, _ => [field.name]

/-- Whether a parser throws for a column because of a name. -/
def RowParser.rejects (parser : RowParser) (protocol : Protocol) (options : Options φ)
    (field : Field) : Bool :=
  match parser with
  | .compiled => (compiledNames options field).any isPrivate
  | .static => (staticNames protocol options field).any isPrivate

/-- The tables that the generated text parser makes first.  `__proto__` is none of them. -/
def rejectsTable (field : Field) : Bool :=
  isPrivate field.table && decide (field.table ≠ protoKey)

/-- The column for which a parser throws because of a name.  The text generator looks at nested
tables before it looks at columns. -/
def RowParser.rejected (parser : RowParser) (protocol : Protocol) (options : Options φ)
    (fields : List Field) : Option Nat :=
  let columns := fields.findIdx? (parser.rejects protocol options)
  if parser = .compiled ∧ protocol = .text ∧ options.nestTables = .true then
    (fields.findIdx? rejectsTable).or columns
  else
    columns

/-! ### Generated parsers -/

/-- A generator takes a column exactly if none of its names is private. -/
theorem exists_target_iff (options : Options φ) (field : Field) (index : Nat) :
    (∃ compiled, compileTarget options field index = .ok compiled) ↔
      ∀ name ∈ compiledNames options field, isPrivate name = false := by
  have escapes (key : JsString) : (∃ escaped, fieldEscape key = .ok escaped) ↔
      isPrivate key = false := by
    simp only [fieldEscape_eq_ok_iff, exists_and_left, exists_eq, and_true]
  have named : (∃ compiled, compileTarget options field index = .ok compiled) ↔
      isPrivate field.name = false ∧ ∃ compiled, (match options.nestTables with
        | .separator separator => do
            return (([] : List Statement),
              Lvalue.key (← fieldEscape (field.table ++ separator ++ field.name)))
        | .true => do
            let tableName ← fieldEscape field.table
            return ([.ensureTable tableName], .nested tableName field.name)
        | _ =>
            return ([], if options.rowsAsArray then .index index else .key field.name)) =
              (.ok compiled : Except JsError _) := by
    simp only [compileTarget, bind_eq_ok_iff, fieldEscape_eq_ok_iff]
    constructor
    · rintro ⟨compiled, name, ⟨notPrivate, rfl⟩, compiledEq⟩
      exact ⟨notPrivate, compiled, compiledEq⟩
    · rintro ⟨notPrivate, compiled, compiledEq⟩
      exact ⟨compiled, field.name, ⟨notPrivate, rfl⟩, compiledEq⟩
  rw [named, compiledNames]
  cases options.nestTables with
  | separator separator =>
      rw [List.forall_mem_cons, List.forall_mem_singleton, ← escapes (_ ++ _ ++ _)]
      refine and_congr_right fun _ => ⟨?_, ?_⟩
      · rintro ⟨compiled, compiledEq⟩
        obtain ⟨key, keyEq, -⟩ := bind_eq_ok_iff.mp compiledEq
        exact ⟨key, keyEq⟩
      · rintro ⟨key, keyEq⟩
        exact ⟨_, bind_eq_ok_iff.mpr ⟨key, keyEq, rfl⟩⟩
  | true =>
      rw [List.forall_mem_cons, List.forall_mem_singleton, ← escapes field.table]
      refine and_congr_right fun _ => ⟨?_, ?_⟩
      · rintro ⟨compiled, compiledEq⟩
        obtain ⟨key, keyEq, -⟩ := bind_eq_ok_iff.mp compiledEq
        exact ⟨key, keyEq⟩
      · rintro ⟨key, keyEq⟩
        exact ⟨_, bind_eq_ok_iff.mpr ⟨key, keyEq, rfl⟩⟩
  | _ =>
      rw [List.forall_mem_singleton]
      exact and_iff_left ⟨_, rfl⟩

theorem rejects_compiled_iff {protocol : Protocol} {options : Options φ} {field : Field} :
    RowParser.compiled.rejects protocol options field = false ↔
      ∀ name ∈ compiledNames options field, isPrivate name = false := by
  rw [RowParser.rejects, List.any_eq_false]
  exact forall₂_congr fun name _ => iff_of_eq (Bool.not_eq_true (isPrivate name))

theorem exists_textFields_iff (options : Options φ) (config : Config φ) (protocol : Protocol)
    {fields : List Field} (index : Nat) :
    (∃ body, compileTextFields options config index fields = .ok body) ↔
      ∀ field ∈ fields, RowParser.compiled.rejects protocol options field = false := by
  induction fields generalizing index with
  | nil => exact iff_of_true ⟨[], rfl⟩ (List.forall_mem_nil _)
  | cons field fields ih =>
      rw [List.forall_mem_cons, rejects_compiled_iff, ← exists_target_iff options field index,
        ← ih (index + 1)]
      constructor
      · rintro ⟨body, compiled⟩
        obtain ⟨target, targetEq, compiled⟩ := bind_eq_ok_iff.mp compiled
        obtain ⟨rest, restEq, -⟩ := bind_eq_ok_iff.mp compiled
        exact ⟨⟨target, targetEq⟩, rest, restEq⟩
      · rintro ⟨⟨target, targetEq⟩, rest, restEq⟩
        exact ⟨_, bind_eq_ok_iff.mpr ⟨target, targetEq, bind_eq_ok_iff.mpr ⟨rest, restEq, rfl⟩⟩⟩

theorem exists_binaryFields_iff (options : Options φ) (config : Config φ) (protocol : Protocol)
    {fields : List Field} (index : Nat) (nullBit : NullBit) :
    (∃ body, compileBinaryFields options config index nullBit fields = .ok body) ↔
      ∀ field ∈ fields, RowParser.compiled.rejects protocol options field = false := by
  induction fields generalizing index nullBit with
  | nil => exact iff_of_true ⟨[], rfl⟩ (List.forall_mem_nil _)
  | cons field fields ih =>
      rw [List.forall_mem_cons, rejects_compiled_iff, ← exists_target_iff options field index,
        ← ih (index + 1) nullBit.next]
      constructor
      · rintro ⟨body, compiled⟩
        obtain ⟨target, targetEq, compiled⟩ := bind_eq_ok_iff.mp compiled
        obtain ⟨rest, restEq, -⟩ := bind_eq_ok_iff.mp compiled
        exact ⟨⟨target, targetEq⟩, rest, restEq⟩
      · rintro ⟨⟨target, targetEq⟩, rest, restEq⟩
        exact ⟨_, bind_eq_ok_iff.mpr ⟨target, targetEq, bind_eq_ok_iff.mpr ⟨rest, restEq, rfl⟩⟩⟩

theorem rejects_withConfigTypeCast (parser : RowParser) (protocol : Protocol)
    (options : Options φ) (config : Config φ) (field : Field) :
    parser.rejects protocol (withConfigTypeCast options config) field =
      parser.rejects protocol options field := by
  cases parser with
  | compiled =>
      show (compiledNames _ field).any isPrivate = (compiledNames _ field).any isPrivate
      rw [compiledNames, compiledNames, nestTables_withConfigTypeCast]
  | static =>
      show (staticNames protocol _ field).any isPrivate =
        (staticNames protocol _ field).any isPrivate
      unfold staticNames
      rw [nestTables_withConfigTypeCast, rowsAsArray_withConfigTypeCast]

/-- No column is rejected. -/
theorem rejected_eq_none_iff {parser : RowParser} {protocol : Protocol} {options : Options φ}
    {fields : List Field} : parser.rejected protocol options fields = none ↔
      ∀ field ∈ fields, parser.rejects protocol options field = false := by
  rw [RowParser.rejected]
  split
  · next isText =>
      obtain ⟨rfl, -, nests⟩ := isText
      rw [Option.or_eq_none_iff, List.findIdx?_eq_none_iff, List.findIdx?_eq_none_iff,
        and_iff_right_iff_imp]
      -- the tables are among the names of the columns
      intro plain field member
      have names := rejects_compiled_iff.mp (plain field member)
      rw [compiledNames, nests, List.forall_mem_cons, List.forall_mem_singleton] at names
      rw [rejectsTable, names.2, Bool.false_and]
  · exact List.findIdx?_eq_none_iff

/-- A parser is compiled exactly if no column is rejected. -/
theorem exists_compile_iff (protocol : Protocol) (fields : List Field)
    (options : Options (TypeCastFunction α)) (config : Config (TypeCastFunction α)) :
    (∃ program, compile protocol fields options config = .ok program) ↔
      RowParser.compiled.rejected protocol options fields = none := by
  have plain : (∀ field ∈ fields, RowParser.compiled.rejects protocol options field = false) ↔
      ∀ field ∈ fields, RowParser.compiled.rejects protocol (withConfigTypeCast options config)
        field = false := by
    simp only [rejects_withConfigTypeCast]
  rw [rejected_eq_none_iff, plain]
  cases protocol with
  | text =>
      rw [← exists_textFields_iff _ config _ 0]
      constructor
      · rintro ⟨program, compiled⟩
        obtain ⟨inits, -, compiled⟩ := bind_eq_ok_iff.mp compiled
        obtain ⟨columns, columnsEq, -⟩ := bind_eq_ok_iff.mp compiled
        exact ⟨columns, columnsEq⟩
      · rintro ⟨columns, columnsEq⟩
        have taken := (exists_textFields_iff (withConfigTypeCast options config) config .text 0).mp
          ⟨columns, columnsEq⟩
        have tables : ∀ table ∈ startTables fields (withConfigTypeCast options config),
            isPrivate table = false := by
          intro table member
          rw [startTables] at member
          split at member
          · next nests =>
              obtain ⟨field, isField, rfl⟩ := List.mem_map.mp (mem_resultTables.mp member).1
              have names := rejects_compiled_iff.mp (taken field isField)
              rw [compiledNames, nests, List.forall_mem_cons, List.forall_mem_singleton] at names
              exact names.2
          · cases member
        exact ⟨_, bind_eq_ok_iff.mpr ⟨_, mapM_initTable_eq_ok tables,
          bind_eq_ok_iff.mpr ⟨columns, columnsEq, rfl⟩⟩⟩
  | binary =>
      rw [← exists_binaryFields_iff _ config _ 0 .first]
      constructor
      · rintro ⟨program, compiled⟩
        obtain ⟨columns, columnsEq, -⟩ := bind_eq_ok_iff.mp compiled
        exact ⟨columns, columnsEq⟩
      · rintro ⟨columns, columnsEq⟩
        exact ⟨_, bind_eq_ok_iff.mpr ⟨columns, columnsEq, rfl⟩⟩

/-! ### Static parsers -/

section Static

variable (runtime : Runtime α) (realm : Realm (Value α)) {fields : List Field}
  {options : Options (TypeCastFunction α)} {config : Config (TypeCastFunction α)} {result : Ref}

/-- A computation that throws, whatever it starts from. -/
def Throws {β : Type} (computation : RowM α β) : Prop :=
  ∀ state, ∃ error final, outcome computation state = (.error error, final)

theorem Throws.bind {β γ : Type} {first : RowM α β} (throws : Throws first)
    (next : β → RowM α γ) : Throws (first >>= next) := by
  intro state
  obtain ⟨error, final, run⟩ := throws state
  exact ⟨error, final, by rw [outcome_bind, run]⟩

/-- What follows throws, if what is in front does not. -/
theorem Throws.behind {β γ : Type} (first : RowM α β) {next : β → RowM α γ}
    (throws : ∀ value, Throws (next value)) : Throws (first >>= next) := by
  intro state
  rw [outcome_bind]
  cases run : outcome first state with
  | mk returned between =>
      cases returned with
      | error error => exact ⟨error, between, rfl⟩
      | ok value => exact throws value between

theorem throws_fieldEscape {key : JsString} (isPrivateKey : isPrivate key = true) :
    Throws (orThrow (fieldEscape key) : RowM α JsString) := by
  rw [fieldEscape, if_pos isPrivateKey]
  exact fun state => ⟨privateError key, state, rfl⟩

/-- Two names that are looked at, one behind the other. -/
theorem throws_fieldEscapes {β : Type} {first second : JsString}
    (between : JsString → RowM α PUnit) (next : JsString → JsString → RowM α β)
    (isPrivateName : ∃ name ∈ [first, second], isPrivate name = true) :
    Throws (orThrow (fieldEscape first) >>= fun table => between table >>= fun _ =>
      orThrow (fieldEscape second) >>= next table) := by
  obtain ⟨name, member, isPrivateName⟩ := isPrivateName
  rcases List.mem_pair.mp member with rfl | rfl
  · exact (throws_fieldEscape isPrivateName).bind _
  · exact .behind _ fun table => .behind _ fun _ => (throws_fieldEscape isPrivateName).bind _

theorem exists_of_rejects_static {protocol : Protocol} {field : Field}
    (rejects : RowParser.static.rejects protocol options field = true) :
    ∃ name ∈ staticNames protocol options field, isPrivate name = true :=
  List.any_eq_true.mp rejects

theorem placeText_throws {field : Field}
    (rejects : RowParser.static.rejects .text options field = true) (value : Value α) :
    Throws (placeText runtime realm options result field value) := by
  have names := exists_of_rejects_static rejects
  unfold staticNames at names
  rw [placeText]
  cases array : options.rowsAsArray with
  | true => simp [array] at names
  | false =>
      rw [array, if_neg Bool.false_ne_true] at names
      rw [if_neg Bool.false_ne_true]
      cases nests : options.nestTables with
      | absent =>
          rw [nests] at names
          obtain ⟨name, member, isPrivateName⟩ := names
          obtain rfl := List.mem_singleton.mp member
          exact (throws_fieldEscape isPrivateName).bind _
      | separator separator =>
          rw [nests] at names
          exact throws_fieldEscapes (fun _ => pure ⟨⟩) _ names
      | _ =>
          rw [nests] at names
          exact throws_fieldEscapes _ _ names

theorem placeBinary_throws {field : Field}
    (rejects : RowParser.static.rejects .binary options field = true) (index : Nat)
    (value : Value α) : Throws (placeBinary runtime realm options result field index value) := by
  have names := exists_of_rejects_static rejects
  unfold staticNames at names
  rw [placeBinary]
  cases array : options.rowsAsArray with
  | true => simp [array] at names
  | false =>
      rw [array, if_neg Bool.false_ne_true] at names
      rw [if_neg Bool.false_ne_true]
      cases nests : options.nestTables with
      | true =>
          rw [nests] at names
          exact throws_fieldEscapes _ _ names
      | _ =>
          rw [nests] at names
          obtain ⟨name, member, isPrivateName⟩ := names
          obtain rfl := List.mem_singleton.mp member
          exact (throws_fieldEscape isPrivateName).bind _

theorem nextText_throws {rest : List Field}
    (rejects : ∃ field ∈ rest, RowParser.static.rejects .text options field = true) (index : Nat) :
    Throws (nextText runtime realm options config result index rest) := by
  induction rest generalizing index with
  | nil => exact absurd rejects (by simp)
  | cons field rest ih =>
      rw [nextText]
      refine .behind _ fun value => ?_
      obtain ⟨other, member, isRejected⟩ := rejects
      rcases List.mem_cons.mp member with rfl | later
      · exact (placeText_throws runtime realm isRejected value).bind _
      · exact .behind _ fun _ => ih ⟨other, later, isRejected⟩ (index + 1)

theorem nextBinary_throws {nullBytes : List (Option Nat)} {rest : List Field}
    (rejects : ∃ field ∈ rest, RowParser.static.rejects .binary options field = true)
    (index : Nat) (nullBit : NullBit) :
    Throws
      (nextBinary runtime realm fields options config nullBytes result index nullBit rest) := by
  induction rest generalizing index nullBit with
  | nil => exact absurd rejects (by simp)
  | cons field rest ih =>
      rw [nextBinary]
      refine .behind _ fun value => ?_
      obtain ⟨other, member, isRejected⟩ := rejects
      rcases List.mem_cons.mp member with rfl | later
      · exact (placeBinary_throws runtime realm isRejected index value).bind _
      · exact .behind _ fun _ => ih ⟨other, later, isRejected⟩ (index + 1) nullBit.next

end Static

/-- A parser that rejects a column parses no row. -/
theorem RowParser.next_throws (parser : RowParser) (runtime : Runtime α)
    (realm : Realm (Value α)) {fields : List Field} {options : Options (TypeCastFunction α)}
    (config : Config (TypeCastFunction α)) {protocol : Protocol}
    (rejects : parser.rejected protocol options fields ≠ none) :
    Throws (parser.next runtime realm fields options config protocol) := by
  cases parser with
  | compiled =>
      have notCompiled := mt (exists_compile_iff protocol fields options config).mp rejects
      cases compiled : compile protocol fields options config with
      | ok program => exact absurd ⟨program, compiled⟩ notCompiled
      | error error =>
          intro state
          refine ⟨error, state, ?_⟩
          show outcome (compiledNext runtime realm fields options protocol config) state = _
          rw [compiledNext, compiled]
          rfl
  | static =>
      have some : ∃ field ∈ fields, RowParser.static.rejects protocol options field = true := by
        simpa [rejected_eq_none_iff] using rejects
      cases protocol with
      | text =>
          exact .behind _ fun result => (nextText_throws runtime realm some 0).bind _
      | binary =>
          exact .behind _ fun nullBytes => .behind _ fun result =>
            (nextBinary_throws runtime realm some 0 .first).bind _

/-! ## Rows of named columns -/

theorem textColumns_congr {first second : Nat → Field → Column α} {fields : List Field}
    {index : Nat} (same : ∀ offset field, fields[offset]? = some field →
      first (index + offset) field = second (index + offset) field) :
    textColumns first index fields = textColumns second index fields := by
  induction fields generalizing index with
  | nil => rfl
  | cons field fields ih =>
      have others : ∀ offset other, fields[offset]? = some other →
          first (index + 1 + offset) other = second (index + 1 + offset) other := by
        intro offset other otherAt
        rw [Nat.add_assoc, Nat.add_comm 1]
        exact same (offset + 1) other otherAt
      have head : first index field = second index field := same 0 field rfl
      rw [textColumns, textColumns, head, ih others]

/-- The bit of a column is that of its index. -/
theorem binaryColumns_eq (column : Nat → NullBit → Field → Column α) (index : Nat)
    (fields : List Field) : binaryColumns column index (.ofField index) fields =
      textColumns (fun index => column index (.ofField index)) index fields := by
  induction fields generalizing index with
  | nil => rfl
  | cons field fields ih => rw [binaryColumns, textColumns, NullBit.next_ofField, ih]

section Rows

variable (runtime : Runtime α) (fields : List Field) (options : Options (TypeCastFunction α))
  (config : Config (TypeCastFunction α))

/-- What a static parser throws behind the value of a column. -/
def nameError (protocol : Protocol) (field : Field) : Option JsError :=
  ((staticNames protocol options field).find? isPrivate).map privateError

/-- A column that is read, and then put into its place. -/
def Column.named (column : Column α) (error? : Option JsError) : Column α :=
  { column with
    read := do
      let value ← column.read
      match error? with
      | none => return value
      | some error => throw error }

/-- The columns of a static parser.  Those of the binary protocol are told which are `NULL`. -/
def namedColumns (protocol : Protocol) (nullBytes : List (Option Nat)) : List (Column α) :=
  match protocol with
  | .text =>
      textColumns (fun _ field =>
        (staticTextColumn runtime options config field).named (nameError options .text field))
        0 fields
  | .binary =>
      binaryColumns (fun index nullBit field =>
        (staticBinaryColumn runtime fields options config nullBytes field index nullBit).named
          (nameError options .binary field)) 0 .first fields

/-- What the static parser reads from a row packet up to a name that it does not take. -/
def namedValues (protocol : Protocol) (packet : Packet) :
    List (Value α) × Except JsError Packet :=
  match protocol with
  | .text => readAll (namedColumns runtime fields options config .text []) packet
  | .binary =>
      match (readNullBitmap (nullBitmapLength fields)).run packet with
      | .error error => ([], .error error)
      | .ok (nullBytes, after) =>
          readAll (namedColumns runtime fields options config .binary nullBytes) after

/-- The values of a row and the packet behind them, or the column at which a parser throws. -/
def rowOf (read : List (Value α) × Except JsError Packet) : Except Nat (List (Value α) × Packet) :=
  match read.2 with
  | .ok after => .ok (read.1, after)
  | .error _ => .error read.1.length

/-- What a parser makes of a row packet.  A generated one is not compiled if it rejects a
column. -/
def RowParser.row (parser : RowParser) (protocol : Protocol) (packet : Packet) :
    Except Nat (List (Value α) × Packet) :=
  match parser with
  | .compiled =>
      match RowParser.compiled.rejected protocol options fields with
      | some column => .error column
      | none => rowOf (compiledValues runtime fields options config protocol packet)
  | .static => rowOf (namedValues runtime fields options config protocol packet)

variable {runtime fields options config}

theorem nameError_eq_none {protocol : Protocol} {field : Field}
    (taken : RowParser.static.rejects protocol options field = false) :
    nameError options protocol field = none := by
  rw [RowParser.rejects, List.any_eq_false] at taken
  rw [nameError, Option.map_eq_none_iff, List.find?_eq_none]
  exact taken

theorem Column.named_none (column : Column α) : column.named none = column := by
  show { column with read := column.read >>= pure } = column
  rw [bind_pure]

theorem namedColumns_eq (runtime : Runtime α) (config : Config (TypeCastFunction α))
    {protocol : Protocol} (taken : RowParser.static.rejected protocol options fields = none)
    (nullBytes : List (Option Nat)) : namedColumns runtime fields options config protocol nullBytes =
      match protocol with
      | .text => textColumns (fun _ => staticTextColumn runtime options config) 0 fields
      | .binary => binaryColumns (fun index nullBit field =>
          staticBinaryColumn runtime fields options config nullBytes field index nullBit)
          0 .first fields := by
  have named := rejected_eq_none_iff.mp taken
  have taken (offset : Nat) (field : Field) (fieldAt : fields[offset]? = some field) :
      nameError options protocol field = none :=
    nameError_eq_none (named field (List.mem_of_getElem? fieldAt))
  cases protocol with
  | text =>
      refine textColumns_congr fun offset field fieldAt => ?_
      rw [taken offset field fieldAt, Column.named_none]
  | binary =>
      dsimp only [namedColumns]
      rw [NullBit.first_eq, binaryColumns_eq, binaryColumns_eq]
      refine textColumns_congr fun offset field fieldAt => ?_
      rw [taken offset field fieldAt, Column.named_none]

/-- A static parser that rejects no column reads as if columns had no names. -/
theorem namedValues_eq (runtime : Runtime α) (config : Config (TypeCastFunction α))
    {protocol : Protocol} (taken : RowParser.static.rejected protocol options fields = none)
    (packet : Packet) : namedValues runtime fields options config protocol packet =
      staticValues runtime fields options config protocol packet := by
  cases protocol with
  | text =>
      rw [namedValues, namedColumns_eq runtime config taken]
      rfl
  | binary =>
      simp only [namedValues, namedColumns_eq runtime config taken]
      rfl

/-- A parser that rejects no column makes a row of what it reads. -/
theorem RowParser.row_eq {parser : RowParser} (runtime : Runtime α)
    (config : Config (TypeCastFunction α)) {protocol : Protocol}
    (taken : parser.rejected protocol options fields = none) (packet : Packet) :
    parser.row runtime fields options config protocol packet =
      rowOf (parser.values runtime fields options config protocol packet) := by
  cases parser with
  | compiled =>
      rw [RowParser.row, taken]
      rfl
  | static =>
      show rowOf (namedValues runtime fields options config protocol packet) = _
      rw [namedValues_eq runtime config taken]
      rfl

end Rows

end Mysql2.Parsers

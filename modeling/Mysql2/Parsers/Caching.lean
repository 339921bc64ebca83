import Mathlib.Data.List.Forall2
import Mysql2.Parsers.ParserCache
import Mysql2.Parsers.TimeZone

/-!
# Parsers from the cache

A parser from the cache was compiled for arguments of an earlier call.  It does
what a parser of the call's own arguments would do if both calls agree on what
the key leaves out: `config.decimalNumbers`, `config.typeCast`, and whether
`options.nestTables` is `true`.
-/

namespace Mysql2.Parsers

open Mysql2.Packets Mysql2.Script

variable {φ : Type}

/-! ## What the option bits tell -/

theorem testBit_flag (condition : Prop) [Decidable condition] (number bit : Nat) :
    (if condition then number else 0).testBit bit =
      (decide condition && decide (number / 2 ^ bit % 2 = 1)) := by
  rw [← Nat.testBit_eq_decide_div_mod_eq]
  by_cases holds : condition <;> simp [holds]

theorem testBit_typeCastKind (typeCast : TypeCast φ) {bit : Nat} (high : 2 ≤ bit) :
    (typeCastKind typeCast).testBit bit = false := by
  have small : typeCastKind typeCast < 2 ^ 2 := by
    cases typeCast <;> exact of_decide_eq_true rfl
  exact Nat.testBit_lt_two_pow
    (Nat.lt_of_lt_of_le small (Nat.pow_le_pow_right (by decide) high))

theorem typeCastKind_eq_of_testBit {first second : TypeCast φ}
    (low : (typeCastKind first).testBit 0 = (typeCastKind second).testBit 0)
    (high : (typeCastKind first).testBit 1 = (typeCastKind second).testBit 1) :
    typeCastKind first = typeCastKind second := by
  apply Nat.eq_of_testBit_eq
  rintro (_ | _ | bit)
  · exact low
  · exact high
  · rw [testBit_typeCastKind first (by omega), testBit_typeCastKind second (by omega)]

/-- The bits, one by one. -/
theorem testBit_optionBits (type : Protocol) (options : Options φ) (config : Config φ)
    (nestTables : NestTables) (strings : DateStrings) :
    (optionBits type options config nestTables strings).testBit 0 = decide (type = .binary) ∧
    (optionBits type options config nestTables strings).testBit 1 = options.rowsAsArray ∧
    (optionBits type options config nestTables strings).testBit 2 =
      supportBigNumbers options config ∧
    (optionBits type options config nestTables strings).testBit 3 =
      bigNumberStrings options config ∧
    (optionBits type options config nestTables strings).testBit 4 =
      (typeCastKind options.typeCast).testBit 0 ∧
    (optionBits type options config nestTables strings).testBit 5 =
      (typeCastKind options.typeCast).testBit 1 ∧
    (optionBits type options config nestTables strings).testBit 7 = config.jsonStrings ∧
    (optionBits type options config nestTables strings).testBit 10 =
      decide (strings = .truthy) ∧
    (optionBits type options config nestTables strings).testBit 11 =
      strings.isList := by
  simp only [optionBits, Nat.testBit_or, Nat.testBit_shiftLeft, testBit_flag]
  simp [testBit_typeCastKind, supportBigNumbers, bigNumberStrings]

/-! ## What generators use -/

/-- A column of type `DECIMAL`, which is read as a number or as a string. -/
def Field.readsDecimal (field : Field) : Bool :=
  !field.isJsonFormat &&
    (match Types.ofNat field.columnType with
      | .DECIMAL | .NEWDECIMAL => true
      | _ => false)

/-- Options and configurations that only differ in how decimals are read. -/
structure SameSettings (options options' : Options φ) (config config' : Config φ) : Prop where
  rowsAsArray : options.rowsAsArray = options'.rowsAsArray
  nestTables : options.nestTables = options'.nestTables
  typeCast : typeCastKind options.typeCast = typeCastKind options'.typeCast
  bigNumbers : supportBigNumbers options config = supportBigNumbers options' config'
  strings : bigNumberStrings options config = bigNumberStrings options' config'
  jsonStrings : config.jsonStrings = config'.jsonStrings
  zone : timezoneKey options config = timezoneKey options' config'
  dates : dateStrings options config = dateStrings options' config'

/-- Columns that a generator does not tell apart. -/
def SameColumn (nestTables : NestTables) (field field' : Field) : Prop :=
  field.key = field'.key ∧ (nestTables ≠ .absent → field.table = field'.table)

section Generators

variable {options options' : Options φ} {config config' : Config φ} {field field' : Field}
  {fields fields' : List Field}

theorem SameSettings.textReadCodeFor_eq (same : SameSettings options options' config config')
    (key : field.key = field'.key)
    (decimals : config.decimalNumbers = config'.decimalNumbers ∨ field'.readsDecimal = false)
    (encodingExpr : EncodingExpr) :
    textReadCodeFor field encodingExpr config options =
      textReadCodeFor field' encodingExpr config' options' := by
  simp only [Field.key, ColumnKey.mk.injEq] at key
  obtain ⟨typeEq, charsetEq, _, _, _, _, formatEq⟩ := key
  have jsonEq : field.isJsonFormat = field'.isJsonFormat := by
    rw [Field.isJsonFormat, Field.isJsonFormat, formatEq]
  have zoneEq : timezoneLiteral (timezone options config) =
      timezoneLiteral (timezone options' config') := same.zone
  unfold textReadCodeFor
  rw [typeEq, charsetEq, jsonEq, same.bigNumbers, same.strings, same.jsonStrings, zoneEq,
    same.dates]
  rcases decimals with equal | notDecimal
  · rw [equal]
  · cases json : field'.isJsonFormat with
    | true => rfl
    | false =>
        rw [Field.readsDecimal, json] at notDecimal
        cases type : Types.ofNat field'.columnType <;> first | rfl | simp [type] at notDecimal

theorem SameSettings.binaryReadCodeFor_eq (same : SameSettings options options' config config')
    (key : field.key = field'.key)
    (decimals : config.decimalNumbers = config'.decimalNumbers ∨ field'.readsDecimal = false)
    (fieldNum : Nat) :
    binaryReadCodeFor field config options fieldNum =
      binaryReadCodeFor field' config' options' fieldNum := by
  simp only [Field.key, ColumnKey.mk.injEq] at key
  obtain ⟨typeEq, charsetEq, flagsEq, decimalsEq, _, _, formatEq⟩ := key
  have jsonEq : field.isJsonFormat = field'.isJsonFormat := by
    rw [Field.isJsonFormat, Field.isJsonFormat, formatEq]
  have unsignedEq : field.unsigned = field'.unsigned := by
    rw [Field.unsigned, Field.unsigned, flagsEq]
  have zoneEq : timezoneLiteral (timezone options config) =
      timezoneLiteral (timezone options' config') := same.zone
  unfold binaryReadCodeFor
  rw [typeEq, charsetEq, jsonEq, unsignedEq, decimalsEq, same.bigNumbers, same.strings,
    same.jsonStrings, zoneEq, same.dates]
  rcases decimals with equal | notDecimal
  · rw [equal]
  · cases json : field'.isJsonFormat with
    | true => rfl
    | false =>
        rw [Field.readsDecimal, json] at notDecimal
        cases type : Types.ofNat field'.columnType <;> first | rfl | simp [type] at notDecimal

theorem SameSettings.compileTarget_eq (same : SameSettings options options' config config')
    (column : SameColumn options'.nestTables field field') (index : Nat) :
    compileTarget options field index = compileTarget options' field' index := by
  obtain ⟨key, table⟩ := column
  have nameEq : field.name = field'.name := congrArg ColumnKey.name key
  rw [compileTarget, compileTarget, nameEq, same.nestTables, same.rowsAsArray]
  cases nest : options'.nestTables with
  | absent => rfl
  | truthy => rfl
  | true =>
      rw [nest] at table
      rw [table (by rintro ⟨⟩)]
  | separator text =>
      rw [nest] at table
      rw [table (by rintro ⟨⟩)]

/-- The code of a value depends on the read code unless `typeCast` is `false`. -/
theorem SameSettings.valueCode_eq (same : SameSettings options options' config config')
    {code code' : ReadCode} (codeEq : options'.typeCast ≠ .false → code = code') :
    valueCode options code = valueCode options' code' := by
  have kindEq := same.typeCast
  unfold valueCode
  cases first : options.typeCast <;> cases second : options'.typeCast <;>
    simp_all [typeCastKind]

/-- Whether the generators agree on how decimals are read. -/
def SameDecimals (fields : List Field) (options : Options φ) (config config' : Config φ) : Prop :=
  config.decimalNumbers = config'.decimalNumbers ∨ options.typeCast = .false ∨
    ∀ field ∈ fields, field.readsDecimal = false

theorem SameDecimals.head (decimals : SameDecimals (field' :: fields') options' config config')
    (notFalse : options'.typeCast ≠ .false) :
    config.decimalNumbers = config'.decimalNumbers ∨ field'.readsDecimal = false := by
  rcases decimals with equal | isFalse | none
  · exact .inl equal
  · exact absurd isFalse notFalse
  · exact .inr (none field' (List.mem_cons_self ..))

theorem SameDecimals.tail (decimals : SameDecimals (field' :: fields') options' config config') :
    SameDecimals fields' options' config config' :=
  decimals.imp_right fun rest => rest.imp_right fun none field member =>
    none field (List.mem_cons_of_mem _ member)

theorem SameSettings.compileTextFields_eq (same : SameSettings options options' config config')
    (columns : List.Forall₂ (SameColumn options'.nestTables) fields fields')
    (decimals : SameDecimals fields' options' config config') (index : Nat) :
    compileTextFields options config index fields =
      compileTextFields options' config' index fields' := by
  induction columns generalizing index with
  | nil => rfl
  | @cons field field' fields fields' column columns ih =>
      have codeEq : valueCode options ⟨textReadCodeFor field (.ofField index) config options, false⟩ =
          valueCode options' ⟨textReadCodeFor field' (.ofField index) config' options', false⟩ := by
        apply same.valueCode_eq
        intro notFalse
        rw [same.textReadCodeFor_eq column.1 (decimals.head notFalse)]
      rw [compileTextFields, compileTextFields, same.compileTarget_eq column, ih decimals.tail]
      dsimp only
      rw [codeEq]

theorem SameSettings.compileBinaryFields_eq (same : SameSettings options options' config config')
    (columns : List.Forall₂ (SameColumn options'.nestTables) fields fields')
    (decimals : SameDecimals fields' options' config config') (index : Nat) (nullBit : NullBit) :
    compileBinaryFields options config index nullBit fields =
      compileBinaryFields options' config' index nullBit fields' := by
  induction columns generalizing index nullBit with
  | nil => rfl
  | @cons field field' fields fields' column columns ih =>
      have codeEq : valueCode options (binaryReadCodeFor field config options index) =
          valueCode options' (binaryReadCodeFor field' config' options' index) := by
        apply same.valueCode_eq
        intro notFalse
        exact same.binaryReadCodeFor_eq column.1 (decimals.head notFalse) index
      rw [compileBinaryFields, compileBinaryFields, same.compileTarget_eq column, ih decimals.tail]
      dsimp only
      rw [codeEq]

/-! ## Parsers of the same rows -/

/-- Generated parsers that differ in their constructors only. -/
structure SameRows (first second : RowProgram) : Prop where
  protocol : first.protocol = second.protocol
  arrayLength : first.arrayLength = second.arrayLength
  nullBitmapLength : first.nullBitmapLength = second.nullBitmapLength
  body : first.body = second.body

theorem map_table_eq_of_columns {nestTables : NestTables} (nested : nestTables ≠ .absent)
    (columns : List.Forall₂ (SameColumn nestTables) fields fields') :
    fields.map Field.table = fields'.map Field.table := by
  induction columns with
  | nil => rfl
  | cons column _ ih => rw [List.map_cons, List.map_cons, column.2 nested, ih]

/-- Both computations throw, or their results are related. -/
def SameOutcome {ε β : Type} (related : β → β → Prop) : Except ε β → Except ε β → Prop
  | .ok first, .ok second => related first second
  | .error first, .error second => first = second
  | _, _ => False

theorem sameOutcome_bind {ε β γ : Type} {related : γ → γ → Prop} (first : Except ε β)
    {next next' : β → Except ε γ} (same : ∀ value, SameOutcome related (next value) (next' value)) :
    SameOutcome related (first >>= next) (first >>= next') := by
  cases first with
  | error error => rfl
  | ok value => exact same value

theorem resultTables_eq_of_columns {nestTables : NestTables} (nested : nestTables ≠ .absent)
    (columns : List.Forall₂ (SameColumn nestTables) fields fields') :
    resultTables fields = resultTables fields' := by
  rw [resultTables, resultTables, map_table_eq_of_columns nested columns]

/-- The tables that the text generator makes objects for. -/
theorem tables_eq_of_columns {nestTables : NestTables}
    (columns : List.Forall₂ (SameColumn nestTables) fields fields') :
    (if nestTables = .true then resultTables fields else []) =
      if nestTables = .true then resultTables fields' else [] := by
  by_cases nested : nestTables = .true
  · rw [if_pos nested, if_pos nested, resultTables_eq_of_columns (by rw [nested]; rintro ⟨⟩) columns]
  · rw [if_neg nested, if_neg nested]

theorem nestTables_withConfigTypeCast (options : Options φ) (config : Config φ) :
    (withConfigTypeCast options config).nestTables = options.nestTables := by
  unfold withConfigTypeCast
  split <;> rfl

theorem rowsAsArray_withConfigTypeCast (options : Options φ) (config : Config φ) :
    (withConfigTypeCast options config).rowsAsArray = options.rowsAsArray := by
  unfold withConfigTypeCast
  split <;> rfl

theorem SameSettings.compileText_sameRows
    (same : SameSettings (withConfigTypeCast options config) (withConfigTypeCast options' config')
      config config')
    (columns : List.Forall₂ (SameColumn options'.nestTables) fields fields')
    (decimals : SameDecimals fields' (withConfigTypeCast options' config') config config') :
    SameOutcome SameRows (compileText fields options config)
      (compileText fields' options' config') := by
  rw [← nestTables_withConfigTypeCast options' config'] at columns
  rw [compileText, compileText]
  rw [same.nestTables, tables_eq_of_columns columns, same.compileTextFields_eq columns decimals]
  apply sameOutcome_bind
  intro inits
  apply sameOutcome_bind
  intro statements
  exact ⟨rfl, by rw [same.rowsAsArray, columns.length_eq], rfl, rfl⟩

theorem SameSettings.compileBinary_sameRows
    (same : SameSettings (withConfigTypeCast options config) (withConfigTypeCast options' config')
      config config')
    (columns : List.Forall₂ (SameColumn options'.nestTables) fields fields')
    (decimals : SameDecimals fields' (withConfigTypeCast options' config') config config') :
    SameOutcome SameRows (compileBinary fields options config)
      (compileBinary fields' options' config') := by
  rw [← nestTables_withConfigTypeCast options' config'] at columns
  rw [compileBinary, compileBinary]
  rw [same.compileBinaryFields_eq columns decimals]
  apply sameOutcome_bind
  intro statements
  exact ⟨rfl, by rw [same.rowsAsArray, columns.length_eq],
    by rw [nullBitmapLength, nullBitmapLength, columns.length_eq], rfl⟩

/-- Without columns there is only the result. -/
theorem compile_nil_sameRows (protocol : Protocol)
    (rowsAsArray : options.rowsAsArray = options'.rowsAsArray) :
    SameOutcome SameRows (compile protocol [] options config)
      (compile protocol [] options' config') := by
  cases protocol with
  | text =>
      have noTables : resultTables [] = [] := by simp [resultTables]
      show SameOutcome SameRows (compileText ..) (compileText ..)
      rw [compileText, compileText, noTables, ite_self, ite_self]
      refine ⟨rfl, ?_, rfl, rfl⟩
      rw [rowsAsArray_withConfigTypeCast, rowsAsArray_withConfigTypeCast, rowsAsArray]
  | binary =>
      refine ⟨rfl, ?_, rfl, rfl⟩
      show (if (withConfigTypeCast options config).rowsAsArray then _ else _) =
        if (withConfigTypeCast options' config').rowsAsArray then _ else _
      rw [rowsAsArray_withConfigTypeCast, rowsAsArray_withConfigTypeCast, rowsAsArray]

end Generators

/-! ## Keys that match -/

/-- What equal option bits tell. -/
theorem eq_of_optionBits_eq {type type' : Protocol} {options options' : Options φ}
    {config config' : Config φ} {nestTables nestTables' : NestTables} {strings strings' : DateStrings}
    (bits : optionBits type options config nestTables strings =
      optionBits type' options' config' nestTables' strings') :
    type = type' ∧ options.rowsAsArray = options'.rowsAsArray ∧
      supportBigNumbers options config = supportBigNumbers options' config' ∧
      bigNumberStrings options config = bigNumberStrings options' config' ∧
      typeCastKind options.typeCast = typeCastKind options'.typeCast ∧
      config.jsonStrings = config'.jsonStrings ∧
      (strings'.isList = false → strings = strings') := by
  obtain ⟨type₀, rows, numbers, texts, low, high, json, truthy, list⟩ :=
    testBit_optionBits type options config nestTables strings
  obtain ⟨type₀', rows', numbers', texts', low', high', json', truthy', list'⟩ :=
    testBit_optionBits type' options' config' nestTables' strings'
  rw [bits] at type₀ rows numbers texts low high json truthy list
  refine ⟨?_, rows.symm.trans rows', numbers.symm.trans numbers', texts.symm.trans texts',
    typeCastKind_eq_of_testBit (low.symm.trans low') (high.symm.trans high'),
    json.symm.trans json', ?_⟩
  · have typeEq := type₀.symm.trans type₀'
    cases type <;> cases type' <;> first | rfl | exact absurd typeEq (by decide)
  · intro noList
    have truthyEq := truthy.symm.trans truthy'
    have listEq := list.symm.trans list'
    cases strings' with
    | list names => exact Bool.noConfusion noList
    | truthy => exact of_decide_eq_true (truthyEq.trans (by decide))
    | falsy =>
        cases strings with
        | falsy => rfl
        | truthy => exact absurd truthyEq (by decide)
        | list names => exact Bool.noConfusion listEq

/-- What a call leaves open in the key of its parser, if it has columns. -/
structure AgreesOnSettings (earlier later : Call φ) : Prop where
  decimals : SameDecimals later.fields later.options earlier.config later.config
  nestTables : earlier.options.nestTables = .true ↔ later.options.nestTables = .true
  typeCast : later.config.typeCast.isFunction = true → later.options.typeCast.isFunction = true

/-- Two calls agree on what the key of a parser leaves out. -/
def Call.Agrees (earlier later : Call φ) : Prop :=
  later.fields = [] ∨ AgreesOnSettings earlier later

theorem withConfigTypeCast_eq_self {options : Options φ} {config : Config φ}
    (own : config.typeCast.isFunction = true → options.typeCast.isFunction = true) :
    withConfigTypeCast options config = options := by
  rw [withConfigTypeCast, if_neg]
  rintro ⟨isFunction, notFunction⟩
  exact notFunction (own isFunction)

theorem nestTables_eq_of_key {first second : NestTables}
    (key : nestTablesKey first = nestTablesKey second) (isTrue : first = .true ↔ second = .true) :
    first = second := by
  cases first <;> cases second <;> simp_all [nestTablesKey]

/-- Columns with the same keys, and the same tables if rows are nested by table. -/
theorem columns_of_keys {nestTables : NestTables} {fields fields' : List Field}
    (keys : fields.map Field.key = fields'.map Field.key)
    (tables : nestTables ≠ .absent → fields.map Field.table = fields'.map Field.table) :
    List.Forall₂ (SameColumn nestTables) fields fields' := by
  induction fields generalizing fields' with
  | nil =>
      cases fields' with
      | nil => exact .nil
      | cons field' fields' => exact absurd keys (by simp)
  | cons field fields ih =>
      cases fields' with
      | nil => exact absurd keys (by simp)
      | cons field' fields' =>
          obtain ⟨key, keys⟩ := List.cons.inj keys
          exact .cons ⟨key, fun nested => (List.cons.inj (tables nested)).1⟩
            (ih keys fun nested => (List.cons.inj (tables nested)).2)

/-- The parts of a match. -/
theorem matches_new {parser : RowProgram} {type type' : Protocol} {fields fields' : List Field}
    {options options' : Options φ} {config config' : Config φ}
    (matched : (Entry.new parser type fields options config).matches type' fields' options' config' =
      true) :
    optionBits type options config (nestTablesKey options.nestTables) (dateStrings options config) =
        optionBits type' options' config' (nestTablesKey options'.nestTables)
          (dateStrings options' config') ∧
      nestTablesKey options.nestTables = nestTablesKey options'.nestTables ∧
      timezoneKey options config = timezoneKey options' config' ∧
      ((dateStrings options' config').isList = true →
        dateStrings options config = dateStrings options' config') ∧
      fields.map Field.key = fields'.map Field.key ∧
      (nestTablesKey options'.nestTables ≠ .absent →
        fields.map Field.table = fields'.map Field.table) := by
  simp only [Entry.matches, Bool.and_eq_true] at matched
  obtain ⟨⟨⟨⟨⟨⟨bits, nest⟩, zone⟩, _⟩, list⟩, keys⟩, tables⟩ := matched
  have nestEq : nestTablesKey options.nestTables = nestTablesKey options'.nestTables :=
    of_decide_eq_true nest
  refine ⟨of_decide_eq_true bits, nestEq, of_decide_eq_true zone, ?_, of_decide_eq_true keys, ?_⟩
  · intro isList
    have listEq : (if (dateStrings options' config').isList then
        decide (dateStrings options config = dateStrings options' config') else true) = true := list
    rw [if_pos isList] at listEq
    exact of_decide_eq_true listEq
  · intro nested
    have tablesEq : ((if nestTablesKey options.nestTables = .absent then none
        else some (fields.map Field.table)).all fun tables => tables = fields'.map Field.table) = true :=
      tables
    rw [if_neg (show nestTablesKey options.nestTables ≠ .absent from nestEq ▸ nested)] at tablesEq
    exact of_decide_eq_true tablesEq

/-- A parser that serves a later call that agrees is as good as its own. -/
theorem sameRows_of_serves {earlier later : Call φ} (serves : (parserMemo φ).Serves earlier later)
    (agrees : earlier.Agrees later) : SameOutcome SameRows earlier.compile later.compile := by
  obtain ⟨parser, _, matched⟩ := serves
  obtain ⟨bits, nest, zone, list, keys, tables⟩ := matches_new matched
  obtain ⟨type, rows, numbers, texts, kind, json, strings⟩ := eq_of_optionBits_eq bits
  rw [Call.compile, Call.compile, type]
  rcases agrees with none | ⟨decimals, isTrue, own⟩
  · have noFields : earlier.fields = [] := by
      rw [none, List.map_nil] at keys
      exact List.map_eq_nil_iff.mp keys
    rw [none, noFields]
    apply compile_nil_sameRows
    rw [← rows, rowsAsArray_withConfigTypeCast]
  · rw [nestTables_withConfigTypeCast] at nest
    have nestEq := nestTables_eq_of_key nest isTrue
    have same : SameSettings (withConfigTypeCast earlier.options earlier.config) later.options
        earlier.config later.config := by
      refine ⟨rows, ?_, kind, numbers, texts, json, zone, ?_⟩
      · rw [nestTables_withConfigTypeCast, nestEq]
      · cases isList : (dateStrings later.options later.config).isList with
        | true => exact list isList
        | false => exact strings isList
    have columns : List.Forall₂ (SameColumn later.options.nestTables) earlier.fields later.fields := by
      apply columns_of_keys keys
      intro nested
      apply tables
      cases option : later.options.nestTables <;> simp_all [nestTablesKey]
    have ownOptions := withConfigTypeCast_eq_self own
    rw [← ownOptions] at same decimals
    cases later.type with
    | text => exact same.compileText_sameRows columns decimals
    | binary => exact same.compileBinary_sameRows columns decimals

/-! ## Runs -/

section Runs

variable {α : Type}

/-- Parsers that do the same with every row packet. -/
def BehavesLike (α : Type) (first second : RowProgram) : Prop :=
  ∀ (runtime : Runtime α) (realm : Realm (Value α)) (fields : List Field)
    (options : Options (TypeCastFunction α)),
    first.next runtime realm fields options = second.next runtime realm fields options

theorem SameRows.behavesLike {first second : RowProgram} (same : SameRows first second) :
    BehavesLike α first second := by
  intro runtime realm fields options
  obtain ⟨protocol, arrayLength, nullBitmapLength, body⟩ := same
  rw [RowProgram.next, RowProgram.next, protocol, arrayLength, nullBitmapLength, body]

/-- What a call returns is as good as what its own arguments compile to. -/
def ReturnsOwn (call : Call (TypeCastFunction α)) (returned : Except JsError RowProgram) : Prop :=
  SameOutcome (BehavesLike α) returned call.compile

theorem SameOutcome.imp {ε β : Type} {first second : β → β → Prop}
    (implies : ∀ value value', first value value' → second value value') {left right : Except ε β}
    (same : SameOutcome first left right) : SameOutcome second left right := by
  cases left <;> cases right <;> first | exact same | exact implies _ _ same

theorem SameOutcome.refl {ε β : Type} {related : β → β → Prop} (same : ∀ value, related value value)
    (outcome : Except ε β) : SameOutcome related outcome outcome := by
  cases outcome with
  | error error => rfl
  | ok value => exact same value

/-- A run of `getParser`, from an empty cache. -/
def runCache (events : List (Store.Event (Call φ) UInt32)) :
    List (Call φ × Except JsError RowProgram) :=
  (Transition.run (parserMemo φ).step (fun _ => none) events).2

/-- In every run whose calls agree where an entry of one matches another, every
call returns a parser as good as its own. -/
theorem runCache_returnsOwn (events : List (Store.Event (Call (TypeCastFunction α)) UInt32))
    (agree : (Store.Event.inputs events).Pairwise fun earlier later =>
      (parserMemo (TypeCastFunction α)).Serves earlier later → earlier.Agrees later) :
    ∀ output ∈ runCache events, ReturnsOwn output.1 output.2 := by
  have own : ∀ call : Call (TypeCastFunction α), ReturnsOwn call call.compile := by
    intro call
    exact .refl (fun parser _ _ _ _ => rfl) _
  have served : ∀ earlier later : Call (TypeCastFunction α),
      (parserMemo (TypeCastFunction α)).Serves earlier later → earlier.Agrees later →
        ReturnsOwn later earlier.compile := by
    intro earlier later serves agrees
    exact (sameRows_of_serves serves agrees).imp fun _ _ same => same.behavesLike
  exact Store.Memo.madeOf_nil.run own served (by simp) agree

end Runs

/-! ## Decimals on two connections -/

/-- A query of one `DECIMAL` column. -/
def decimalCall (decimalNumbers : Bool) : Call (TypeCastFunction Unit) where
  type := .text
  fields := [{ dateField with columnType := Types.NEWDECIMAL.toNat }]
  options := noOptions
  config := { noConfig with decimalNumbers := decimalNumbers }

/-- A second query of a connection gets the parser of the first one. -/
theorem runCache_returnsOwn_decimals :
    (runCache [.get (decimalCall true), .drop 0, .get (decimalCall true)]).length = 2 ∧
      ∀ output ∈ runCache [.get (decimalCall true), .drop 0, .get (decimalCall true)],
        ReturnsOwn output.1 output.2 := by
  refine ⟨rfl, runCache_returnsOwn _ ?_⟩
  have agrees : (decimalCall true).Agrees (decimalCall true) :=
    .inr ⟨.inl rfl, Iff.rfl, fun isFunction => isFunction⟩
  exact List.pairwise_pair.mpr fun _ => agrees

/-- A runtime in which a decimal text is one. -/
def oneRuntime : Runtime Unit :=
  { utcRuntime with decimal := fun _ => .number 1 }

/-- The parser of a connection that reads decimals by a call. -/
def decimalParser (call : PacketCall) : RowProgram where
  protocol := .text
  checksTimezone := false
  wraps := false
  arrayLength := none
  nullBitmapLength := 0
  body := [.column 0 none (.key (units "d")) (.read ⟨call, false⟩)]

/-- What a parser makes of the text `1`. -/
def decimalCell (parser : RowProgram) : Option (Property (Value Unit)) :=
  let row : RowState Unit :=
    { packet := cellPacket (1 :: textBytes "1"), heap := Realm.small.heap, calls := [] }
  (parser.next oneRuntime Realm.small (decimalCall true).fields noOptions row).2.heap.own 3 (units "d")

/-- A query of a connection with `decimalNumbers` gets the parser of a connection
without, which reads strings. -/
theorem not_forall_returnsOwn :
    ¬∀ events : List (Store.Event (Call (TypeCastFunction Unit)) UInt32),
      ∀ output ∈ runCache events, ReturnsOwn output.1 output.2 := by
  let text := decimalParser (.readLengthCodedString (.literal "ascii"))
  let number := decimalParser .parseLengthCodedFloat
  intro always
  have returned : (decimalCall true, .ok text) ∈
      runCache [.get (decimalCall false), .get (decimalCall true)] := by
    have runEq : runCache [.get (decimalCall false), .get (decimalCall true)] =
        [(decimalCall false, .ok text), (decimalCall true, .ok text)] := by
      rfl
    rw [runEq]
    exact List.mem_cons_of_mem _ (List.mem_cons_self ..)
  have own : (decimalCall true).compile = .ok number := by
    rfl
  have same := always _ _ returned
  rw [ReturnsOwn, own] at same
  have cellEq : decimalCell text = decimalCell number := by
    have nextEq : BehavesLike Unit text number := same
    rw [decimalCell, nextEq]
    rfl
  exact absurd cellEq (by decide)

end Mysql2.Parsers

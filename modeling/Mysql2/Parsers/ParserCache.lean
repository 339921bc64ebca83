import Mysql2.Parsers.Rows
import Mysql2.Store.Memo

/-!
# The cache of generated parsers

Parsers are kept in buckets by a hash of what they were compiled for.  A bucket
may go at any time, as the cache is limited and can be resized and cleared.
-/

namespace Mysql2.Parsers

open Mysql2.Packets Mysql2.Script

variable {φ : Type}

/-! ## Keys -/

/-- `typeCastKind(typeCast)`: `TYPE_CAST_FALSE`, `TYPE_CAST_FUNCTION` or
`TYPE_CAST_DEFAULT`. -/
def typeCastKind : TypeCast φ → Nat
  | .false => 1
  | .function _ => 2
  | .absent | .true => 3

/-- `nestTablesKey(nestTables)`: a separator, or whether the option is truthy. -/
def nestTablesKey : NestTables → NestTables
  | .separator text => .separator text
  | .true | .truthy => .true
  | .absent => .absent

/-- `dateStringsKey(dateStrings)`, which the option is already. -/
def dateStringsKey (dateStrings : DateStrings) : DateStrings :=
  dateStrings

/-- `Array.isArray(dateStrings)`. -/
def DateStrings.isList : DateStrings → Bool
  | .list _ => true
  | _ => false

/-- `optionBits(type, options, config, nestTables, dateStrings)`. -/
def optionBits (type : Protocol) (options : Options φ) (config : Config φ)
    (nestTables : NestTables) (dateStrings : DateStrings) : Nat :=
  (if type = .binary then 1 else 0) |||
  (if options.rowsAsArray then 2 else 0) |||
  (if options.supportBigNumbers || config.supportBigNumbers then 4 else 0) |||
  (if options.bigNumberStrings || config.bigNumberStrings then 8 else 0) |||
  typeCastKind options.typeCast <<< 4 |||
  (if options.decimalNumbers then 64 else 0) |||
  (if config.jsonStrings then 128 else 0) |||
  (if nestTables = .true then 256 else 0) |||
  (if nestTables matches .separator _ then 512 else 0) |||
  (if dateStrings = .truthy then 1024 else 0) |||
  (if dateStrings.isList then 2048 else 0)

/-- The key of the time zone, `String(options.timezone || config.timezone)`. -/
def timezoneKey (options : Options φ) (config : Config φ) : JsString :=
  timezoneLiteral (timezone options config)

/-! ## Hashes -/

/-- `mixNumber(hash, value)`. -/
def mixNumber (hash value : UInt32) : UInt32 :=
  (hash ^^^ value) * 0x9e3779b1

/-- `mixString(hash, string)`, where a string may be `undefined`. -/
def mixString (hash : UInt32) : Option JsString → UInt32
  | none => mixNumber hash (-1)
  | some string =>
      string.foldl (fun hash unit => hash * 31 + unit.toUInt32)
        (mixNumber hash (UInt32.ofNat string.length))

/-- What a field adds to a hash. -/
def mixField (includeTable : Bool) (hash : UInt32) (field : Field) : UInt32 :=
  let hash := mixNumber hash (UInt32.ofNat field.columnType |||
    UInt32.ofNat field.characterSet <<< 8 ||| UInt32.ofNat field.decimals <<< 24)
  let hash := mixNumber hash (UInt32.ofNat field.flags)
  let hash := mixString hash (some field.name)
  let hash := if field.extendedTypeName.isSome then mixString hash field.extendedTypeName else hash
  let hash := if field.extendedFormat.isSome then mixString hash field.extendedFormat else hash
  if includeTable then mixString hash (some field.table) else hash

/-- `hashKey(type, fields, options, config)`. -/
def hashKey (type : Protocol) (fields : List Field) (options : Options φ) (config : Config φ) :
    UInt32 :=
  let nestTables := nestTablesKey options.nestTables
  let dateStrings := dateStringsKey (Parsers.dateStrings options config)
  let hash := mixNumber 0x811c9dc5
    (UInt32.ofNat (optionBits type options config nestTables dateStrings))
  let hash := mixString hash (some (timezoneKey options config))
  let hash := match nestTables with
    | .separator text => mixString hash (some text)
    | _ => hash
  let hash := match dateStrings with
    | .list names => names.foldl (fun hash name => mixString hash (some name)) hash
    | _ => hash
  let hash := mixNumber hash (UInt32.ofNat fields.length)
  fields.foldl (mixField (nestTables ≠ .absent)) hash &&& 0x3fffffff

/-! ## Entries -/

/-- What an entry keeps of a column. -/
structure ColumnKey where
  columnType : Nat
  characterSet : Nat
  flags : Nat
  decimals : Nat
  name : JsString
  extendedTypeName : Option JsString
  extendedFormat : Option JsString
  deriving DecidableEq, Repr

/-- `Entry`, with its arrays of column data as one list.  The tables are there if
rows are nested by table. -/
structure Entry where
  parser : RowProgram
  nestTables : NestTables
  dateStrings : DateStrings
  optionBits : Nat
  timezone : JsString
  columns : List ColumnKey
  tables : Option (List JsString)
  deriving DecidableEq, Repr

/-- What is kept of a column. -/
def Field.key (field : Field) : ColumnKey where
  columnType := field.columnType
  characterSet := field.characterSet
  flags := field.flags
  decimals := field.decimals
  name := field.name
  extendedTypeName := field.extendedTypeName
  extendedFormat := field.extendedFormat

/-- `new Entry(parser, type, fields, options, config)`. -/
def Entry.new (parser : RowProgram) (type : Protocol) (fields : List Field) (options : Options φ)
    (config : Config φ) : Entry :=
  let nestTables := nestTablesKey options.nestTables
  let dateStrings := dateStringsKey (Parsers.dateStrings options config)
  { parser := parser
    nestTables := nestTables
    dateStrings := dateStrings
    optionBits := Parsers.optionBits type options config nestTables dateStrings
    timezone := timezoneKey options config
    columns := fields.map Field.key
    tables := if nestTables = .absent then none else some (fields.map Field.table) }

/-- `entry.matches(type, fields, options, config)`. -/
def Entry.matches (entry : Entry) (type : Protocol) (fields : List Field) (options : Options φ)
    (config : Config φ) : Bool :=
  let nestTables := nestTablesKey options.nestTables
  let dateStrings := dateStringsKey (Parsers.dateStrings options config)
  entry.optionBits = Parsers.optionBits type options config nestTables dateStrings &&
    entry.nestTables = nestTables &&
    entry.timezone = timezoneKey options config &&
    entry.columns.length = fields.length &&
    -- equal bits: both are lists, or both are not
    (if dateStrings.isList then entry.dateStrings = dateStrings else true) &&
    entry.columns = fields.map Field.key &&
    entry.tables.all fun tables => tables = fields.map Field.table

/-! ## The cache -/

/-- Arguments of `getParser`. -/
structure Call (φ : Type) where
  type : Protocol
  fields : List Field
  options : Options φ
  config : Config φ
  deriving DecidableEq, Repr

/-- `compiler(fields, options, config)`. -/
def Call.compile (call : Call φ) : Except JsError RowProgram :=
  Parsers.compile call.type call.fields call.options call.config

/-- The entry that is kept after compiling, which has replaced the option
`typeCast`. -/
def Call.entry (call : Call φ) (parser : RowProgram) : Entry :=
  let options := withConfigTypeCast call.options call.config
  .new parser call.type call.fields options call.config

/-- Whether an entry matches the arguments. -/
def Call.matchedBy (entry : Entry) (call : Call φ) : Bool :=
  entry.matches call.type call.fields call.options call.config

/-- `parserCache`, without what it evicts by itself. -/
abbrev Cache :=
  Store.Buckets UInt32 Entry

/-- `getParser(type, fields, options, config, compiler)`. -/
def getParser (parserCache : Cache) (call : Call φ) : Cache × Except JsError RowProgram :=
  let hash := hashKey call.type call.fields call.options call.config
  let entries := parserCache hash
  match entries.bind (·.find? (call.matchedBy ·)) with
  | some entry => (parserCache, .ok entry.parser)
  | none =>
      match call.compile with
      | .error error => (parserCache, .error error)
      | .ok parser =>
          (Function.update parserCache hash (some (entries.getD [] ++ [call.entry parser])),
            .ok parser)

/-- The cache as a memo table. -/
def parserMemo (φ : Type) : Store.Memo (Call φ) UInt32 Entry RowProgram JsError where
  hash call := hashKey call.type call.fields call.options call.config
  make := Call.compile
  entry := Call.entry
  result := Entry.parser
  serves entry call := call.matchedBy entry
  result_entry _ _ := rfl

theorem parserMemo_get (parserCache : Cache) (call : Call φ) :
    (parserMemo φ).get parserCache call = getParser parserCache call := by
  rw [Store.Memo.get, getParser]
  cases found : (parserMemo φ).kept parserCache call with
  | some entry =>
      have foundEntry : (parserCache (hashKey call.type call.fields call.options call.config)).bind
          (·.find? (call.matchedBy ·)) = some entry := found
      rw [foundEntry]
      rfl
  | none =>
      have notFound : (parserCache (hashKey call.type call.fields call.options call.config)).bind
          (·.find? (call.matchedBy ·)) = none := found
      have madeEq : (parserMemo φ).make call = call.compile := rfl
      rw [notFound, madeEq]
      cases call.compile with
      | error error => rfl
      | ok parser => rfl

end Mysql2.Parsers

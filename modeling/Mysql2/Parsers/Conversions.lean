import Mysql2.Parsers.BinaryRows

/-!
# Values that throw

Numbers, dates, times, vectors and buffers are read from all their encodings.  A text is decoded,
JSON is parsed, and so is a geometry: a column throws exactly for the texts that its decoder or its
parser throws for.
-/

namespace Mysql2.Parsers

open Mysql2.Packets Mysql2.Packets.Packet Mysql2.Script

variable {α φ : Type}

/-- What makes the values of a column, by its type, its format and its character set. -/
def Field.conversion (protocol : Protocol) (options : Options φ) (config : Config φ)
    (field : Field) : Conversion :=
  let bigNumbers := supportBigNumbers options config
  let ofCharacterSet :=
    if field.characterSet = Charsets.BINARY then .safe else .decode field.encoding
  if field.isJsonFormat then
    if config.jsonStrings then .decode field.encoding else .json field.encoding bigNumbers
  else
    match Types.ofNat field.columnType, protocol with
    | .TINY, _ | .SHORT, _ | .LONG, _ | .INT24, _ | .YEAR, _ | .LONGLONG, _ | .FLOAT, _
    | .DOUBLE, _ | .NULL, _ | .VECTOR, _ => .safe
    | .DECIMAL, _ | .NEWDECIMAL, _ =>
        if config.decimalNumbers then .safe else .decode (some "ascii")
    | .GEOMETRY, _ => .geometry
    | .JSON, _ =>
        if config.jsonStrings then .decode (some "utf8") else .json (some "utf8") bigNumbers
    | .DATE, .text | .DATETIME, .text | .TIMESTAMP, .text =>
        if typeMatch field.columnType (dateStrings options config) then .decode (some "ascii")
        else .safe
    | .TIME, .text => .decode (some "ascii")
    | .DATE, .binary | .DATETIME, .binary | .TIMESTAMP, .binary | .NEWDATE, .binary
    | .TIME, .binary => .safe
    | _, _ => ofCharacterSet

section Calls

variable {fields : List Field} {index : Nat} {field : Field} (config : Config φ)
  (options : Options φ)

theorem conversion_textReadCodeFor (fieldAt : fields[index]? = some field) :
    (textReadCodeFor field (.ofField index) config options).conversion fields =
      field.conversion .text options config := by
  have encodingEq : (EncodingExpr.ofField index).encoding fields = field.encoding := by
    simp [EncodingExpr.encoding, fieldAt]
  cases json : field.isJsonFormat with
  | true =>
      simp only [textReadCodeFor, Field.conversion, json, if_true, ← encodingEq]
      split <;> rfl
  | false =>
      simp only [textReadCodeFor, Field.conversion, json, Bool.false_eq_true, if_false,
        ← encodingEq]
      cases Types.ofNat field.columnType <;> dsimp only <;> first | rfl | (split <;> rfl)

theorem conversion_binaryReadCodeFor (fieldAt : fields[index]? = some field) :
    (binaryReadCodeFor field config options index).call.conversion fields =
      field.conversion .binary options config := by
  have encodingEq : (EncodingExpr.ofField index).encoding fields = field.encoding := by
    simp [EncodingExpr.encoding, fieldAt]
  cases json : field.isJsonFormat with
  | true =>
      simp only [binaryReadCodeFor, Field.conversion, json, if_true, ← encodingEq]
      split <;> rfl
  | false =>
      simp only [binaryReadCodeFor, Field.conversion, json, Bool.false_eq_true, if_false,
        ← encodingEq]
      cases Types.ofNat field.columnType with
      | LONGLONG =>
          cases supportBigNumbers options config <;> cases bigNumberStrings options config <;>
            cases field.unsigned <;> rfl
      | TINY | SHORT | LONG | INT24 => cases field.unsigned <;> rfl
      | _ =>
          dsimp only
          first | rfl | (split <;> rfl)

/-- The time zone is of no account. -/
theorem conversion_unset (protocol : Protocol) (field : Field) :
    field.conversion protocol { options with timezone := none } (inLocalTime config) =
      field.conversion protocol options config :=
  rfl

end Calls

theorem ReadsBy.throws_iff {runtime : Runtime α} {conversion : Conversion}
    {reader : Reader (Value α)} {bytes : Bytes} (reads : ReadsBy runtime conversion reader bytes) :
    (∃ error, Reads reader bytes (.error error)) ↔
      ∃ content, IsCell content bytes ∧ conversion.ThrowsFor runtime content := by
  obtain ⟨result, resultReads, throws⟩ := reads
  rw [← throws]
  constructor
  · rintro ⟨error, errorReads⟩
    exact ⟨error, resultReads.unique errorReads⟩
  · rintro ⟨error, rfl⟩
    exact ⟨error, resultReads⟩

section Static

variable (runtime : Runtime α) {field : Field} {config : Config φ} {options : Options φ}
  {bytes : Bytes}

/-- The static text parser throws where the conversion of its column does. -/
theorem readField_readsBy (notNull : field.isNullColumn = false)
    (carries : ∃ content, IsCell content bytes ∧ field.EndsBehind config options content) :
    ReadsBy runtime (field.conversion .text options config)
      (readField runtime field config options) bytes := by
  -- with a time zone, the call of the generated code
  have zoned {config : Config φ} {options : Options φ} (set : timezone options config ≠ none)
      (carries : ∃ content, IsCell content bytes ∧ field.EndsBehind config options content) :
      ReadsBy runtime (field.conversion .text options config)
        (readField runtime field config options) bytes := by
    have fieldAt : [field][0]? = some field := rfl
    rw [← textReadCodeFor_run_eq runtime fieldAt (.inl set) notNull,
      ← conversion_textReadCodeFor config options fieldAt]
    exact reads_of_encodes runtime [field]
      ((encodes_iff_of_isLengthCoded (isLengthCoded_textReadCodeFor ..) bytes).mpr carries)
  cases zoneEq : timezone options config with
  | some zone => exact zoned (by rw [zoneEq]; rintro ⟨⟩) carries
  | none =>
      obtain ⟨content, isCell, ends⟩ := carries
      rw [readField_unset runtime field zoneEq, ← conversion_unset]
      refine zoned (by rintro ⟨⟩) ⟨content, isCell, ?_⟩
      rwa [Field.EndsBehind, ← endsBehind_shape,
        shape_textReadCodeFor field (.ofField 0) (.ofField 0), endsBehind_shape]

/-- The static binary parser throws where the conversion of its column does. -/
theorem readCode_readsBy {fields : List Field} {index : Nat} (fieldAt : fields[index]? = some field)
    (encodes : field.Encodes bytes) :
    ReadsBy runtime (field.conversion .binary options config)
      (readCode runtime fields field config options index) bytes := by
  have zoned {config : Config φ} {options : Options φ} (set : timezone options config ≠ none) :
      ReadsBy runtime (field.conversion .binary options config)
        (readCode runtime fields field config options index) bytes := by
    rw [← binaryReadCodeFor_run_eq runtime fieldAt (.inl set),
      ← conversion_binaryReadCodeFor config options fieldAt]
    exact reads_of_encodes runtime fields (encodes_binaryReadCodeFor config options index encodes)
  cases zoneEq : timezone options config with
  | some zone => exact zoned (by rw [zoneEq]; rintro ⟨⟩)
  | none =>
      rw [readCode_unset runtime fields field zoneEq, ← conversion_unset]
      exact zoned (by rintro ⟨⟩)

end Static

end Mysql2.Parsers

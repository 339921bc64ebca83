import Mathlib.Data.List.Forall2
import Mysql2.Packets.Execute
import Mysql2.Packets.RequestLayout

/-!
# Parameters that a server gets back

What a client sends for a list of parameters, and what the server's reader makes
of it.  The values come back if each of them comes back alone and nothing else in
the packet looks like a type.
-/

namespace Mysql2.Packets

open Mysql2.Script Packet

variable {α : Type}

/-! ## Parameters -/

/-- Fields of a date are in their ranges. -/
structure DateFields.Valid (fields : DateFields) : Prop where
  month : 1 ≤ fields.month ∧ fields.month ≤ 12
  day : fields.day ≤ 31
  hours : fields.hours < 24
  minutes : fields.minutes < 60
  seconds : fields.seconds < 60
  milliseconds : fields.milliseconds < 1000

/-- The fields of a time value in a time zone, without them for one that the time
zone moves out of range. -/
structure Calendar where
  fields : Int → String → Option DateFields
  valid : ∀ {time timezone some}, fields time timezone = .some some → some.Valid

/-- A parameter of an execution.  A JSON value is given by what `JSON.stringify`
makes of it. -/
inductive Argument
  | null
  | number (double : UInt64) (safeInteger : Option Int)
  | boolean (value : Bool)
  | string (text : JsString)
  | buffer (bytes : Bytes)
  | date (time : Option Int)
  | json (text : JsString)

/-- The parameter as a JavaScript value. -/
def Argument.toJsValue (calendar : Calendar) : Argument → JsValue
  | .null => .null
  | .number double safeInteger => .number double safeInteger
  | .boolean value => .boolean value
  | .string text => .string (.ok text)
  | .buffer bytes => .buffer bytes
  | .date time => .date fun timezone => time.bind (calendar.fields · timezone)
  | .json text => .json (.ok text)

/-- Whether a value of the server is the parameter: booleans are the numbers 0
and 1, a number is the one with the same bits, and a JSON value is the one that
`JSON.parse` makes of the text. -/
def Argument.Same (runtime : Runtime α) : Argument → Value α → Prop
  | .null, value => value = .null
  | .number double safeInteger, value =>
      value = .other (runtime.readDoubleLE (writeUIntLE double.toNat 8)) ∨
        ∃ integer, safeInteger = some integer ∧ value = .number integer
  | .boolean flag, value => value = .number (if flag then 1 else 0)
  | .string text, value => ∃ decoded, value = .string decoded ∧ units decoded = text
  | .buffer bytes, value => value = .buffer bytes
  | .date time, value => value = .date time
  | .json text, value =>
      ∃ decoded, units decoded = text ∧ runtime.jsonParse false (some decoded) = .ok value

/-- The time value of fields that are read in the time zone of the server. -/
def receivedTime (runtime : Runtime α) (fields : DateFields) : Option Int :=
  runtime.localTime ⟨some fields.year, some fields.month, some fields.day, some fields.hours,
    some fields.minutes, some fields.seconds, some ↑(fields.milliseconds * 1000)⟩

/-- A text that is encoded by the client and decoded by the server. -/
def receivedText (settings : RequestSettings) (runtime : Runtime α) (encoding : Option String)
    (text : JsString) : Except JsError String := do
  runtime.decode encoding (← settings.encode text)

/-- What comes back for a parameter alone, whose type the client has inferred. -/
def Argument.received (settings : RequestSettings) (calendar : Calendar) (runtime : Runtime α)
    (encoding : Option String) : Argument → Except JsError (Value α)
  | .null => .ok .null
  | .number double _ => .ok (.other (runtime.readDoubleLE (writeUIntLE double.toNat 8)))
  | .boolean value => .ok (.number (if value then 1 else 0))
  | .string text => (receivedText settings runtime encoding text).map .string
  | .buffer bytes => .ok (.buffer bytes)
  | .date time =>
      .ok (.date ((time.bind (calendar.fields · settings.timezone)).bind (receivedTime runtime)))
  | .json text => do
      let decoded ← receivedText settings runtime encoding text
      if settings.jsonAsString then return .string decoded
      else runtime.jsonParse false (some decoded)

/-! ## One parameter -/

/-- A parameter whose type the server looks for, and what is read of it. -/
structure Parameter.Received (runtime : Runtime α) (encoding : Option String)
    (parameter : Parameter) (received : Except JsError (Value α)) : Prop where
  scanned : parameter.type.Scanned
  signed : parameter.unsigned = false
  read : ∀ {bytes rest : Bytes} {packet : Packet}, writeValue parameter = .ok bytes →
    bytes.length ≤ kMaxLength → packet.ahead = bytes ++ rest →
      (readParameter runtime encoding parameter.type).run packet =
        received.map (·, packet.advance bytes.length)

/-- The bytes of a date behind its length. -/
def dateBytes (fields : DateFields) : Bytes :=
  writeUIntLE fields.year.toNat 2 ++ (toByte fields.month :: toByte fields.day ::
    toByte fields.hours :: toByte fields.minutes :: toByte fields.seconds ::
      writeUIntLE (fields.milliseconds * 1000) 4)

theorem writeDate_ok {fields : DateFields} {bytes : Bytes}
    (ok : writeDate (some fields) = .ok bytes) :
    bytes = 11 :: dateBytes fields ∧ 0 ≤ fields.year ∧ fields.year ≤ 0xffff := by
  rw [writeDate] at ok
  by_cases outside : fields.year < 0 ∨ 0xffff < fields.year
  · rw [if_pos outside] at ok
    cases ok
  · rw [if_neg outside] at ok
    cases ok
    refine ⟨?_, by omega, by omega⟩
    simp [dateBytes]

theorem readDateTimeFields_run {fields : DateFields} (year : fields.year ≤ 0xffff)
    (bytes : fields.month < 256 ∧ fields.day < 256 ∧ fields.hours < 256 ∧ fields.minutes < 256 ∧
      fields.seconds < 256) {packet : Packet} {rest : Bytes}
    (aheadEq : packet.ahead = 11 :: dateBytes fields ++ rest) :
    readDateTimeFields.run packet =
      .ok ((some 11, ⟨fields.year.toNat, some fields.month, some fields.day, some fields.hours,
        some fields.minutes, some fields.seconds⟩), packet.advance 8) := by
  obtain ⟨month, day, hours, minutes, seconds⟩ := bytes
  have small : ∀ {number : Nat}, number < 256 → (toByte number).toNat = number := by
    rintro number bound
    rw [toByte_toNat, Nat.mod_eq_of_lt bound]
  have yearEq : uintLE (writeUIntLE fields.year.toNat 2) = fields.year.toNat :=
    uintLE_writeUIntLE_of_lt (by omega)
  rw [dateBytes, List.cons_append, List.append_assoc] at aheadEq
  have yearAhead : (packet.advance 1).ahead = _ := ahead_advance_of_append [11] aheadEq rfl
  have monthAhead : ((packet.advance 1).advance 2).ahead = _ :=
    ahead_advance_of_append _ yearAhead (length_writeUIntLE _ 2)
  have dayAhead : (((packet.advance 1).advance 2).advance 1).ahead = _ :=
    ahead_advance_of_append [_] monthAhead rfl
  have hoursAhead : ((((packet.advance 1).advance 2).advance 1).advance 1).ahead = _ :=
    ahead_advance_of_append [_] dayAhead rfl
  rw [advance_advance, advance_advance, advance_advance] at hoursAhead
  have minutesAhead : ((packet.advance 5).advance 1).ahead = _ :=
    ahead_advance_of_append [_] hoursAhead rfl
  have secondsAhead : (((packet.advance 5).advance 1).advance 1).ahead = _ :=
    ahead_advance_of_append [_] minutesAhead rfl
  rw [readDateTimeFields, run_bind_of_ok (readInt8_run_cons aheadEq)]
  dsimp only
  rw [if_pos (by decide), run_bind_of_ok (readInt16_run yearAhead (length_writeUIntLE _ 2)), yearEq,
    run_bind_of_ok (readInt8_run_cons monthAhead), run_bind_of_ok (readInt8_run_cons dayAhead),
    advance_advance, advance_advance, advance_advance, if_pos (by decide),
    run_bind_of_ok (readInt8_run_cons hoursAhead), run_bind_of_ok (readInt8_run_cons minutesAhead),
    run_bind_of_ok (readInt8_run_cons secondsAhead), advance_advance, advance_advance,
    small month, small day, small hours, small minutes, small seconds]
  rfl

/-- The fraction of a second is ahead behind the fields. -/
theorem ahead_dateFields {fields : DateFields} {packet : Packet} {rest : Bytes}
    (aheadEq : packet.ahead = 11 :: dateBytes fields ++ rest) :
    (packet.advance 8).ahead = writeUIntLE (fields.milliseconds * 1000) 4 ++ rest := by
  have fieldsLength : (11 :: writeUIntLE fields.year.toNat 2 ++ [toByte fields.month,
      toByte fields.day, toByte fields.hours, toByte fields.minutes,
        toByte fields.seconds]).length = 8 := by
    simp [length_writeUIntLE]
  refine ahead_advance_of_append _ ?_ fieldsLength
  rw [aheadEq, dateBytes]
  simp

/-- The arguments of the date that is made of the fields. -/
def DateFields.arguments (fields : DateFields) : DateArguments :=
  ⟨some fields.year, some fields.month, some fields.day, some fields.hours, some fields.minutes,
    some fields.seconds, some ↑(fields.milliseconds * 1000)⟩

/-- The fields are read as arguments of a date, unless they have to be written as a text. -/
theorem readDateTime_arguments_run (runtime : Runtime α) {timezone : Option JsString}
    (direct : isLocal timezone = true ∨ isUTC timezone = true) {fields : DateFields}
    (valid : fields.Valid) (year : 0 ≤ fields.year ∧ fields.year ≤ 0xffff) {packet : Packet}
    {rest : Bytes} (aheadEq : packet.ahead = 11 :: dateBytes fields ++ rest) :
    (readDateTime runtime timezone).run packet =
      .ok (.date (if isUTC timezone then runtime.utcTime fields.arguments
        else runtime.localTime fields.arguments), packet.advance 12) := by
  have bytes : fields.month < 256 ∧ fields.day < 256 ∧ fields.hours < 256 ∧ fields.minutes < 256 ∧
      fields.seconds < 256 := by
    obtain ⟨⟨-, month⟩, day, hours, minutes, seconds, -⟩ := valid
    omega
  have notNull : packet.peekByte ≠ some 0xfb := by
    rw [peekByte_eq, aheadEq]
    show some 11 ≠ some 0xfb
    decide
  have microsRun := readInt32_run (ahead_dateFields aheadEq) (length_writeUIntLE _ 4)
  have microsEq : uintLE (writeUIntLE (fields.milliseconds * 1000) 4) = fields.milliseconds * 1000 :=
    uintLE_writeUIntLE_of_lt (by have := valid.milliseconds; omega)
  rw [readDateTime, if_pos direct, run_get_bind, if_neg notNull,
    run_bind_of_ok (readDateTimeFields_run year.2 bytes aheadEq)]
  dsimp only
  rw [if_pos (by decide), run_bind_of_ok microsRun, microsEq, if_neg ?_]
  · rw [Int.toNat_of_nonneg year.1, advance_advance]
    cases isUTC timezone
    · rfl
    · rfl
  · rintro ⟨zero, -⟩
    have month : fields.month = 0 := Option.some.inj (congrArg DateTimeFields.month zero)
    have positive := valid.month.1
    omega

theorem readDateTime_run (runtime : Runtime α) {fields : DateFields} (valid : fields.Valid)
    (year : 0 ≤ fields.year ∧ fields.year ≤ 0xffff) {packet : Packet} {rest : Bytes}
    (aheadEq : packet.ahead = 11 :: dateBytes fields ++ rest) :
    (readDateTime runtime none).run packet =
      .ok (.date (receivedTime runtime fields), packet.advance 12) :=
  readDateTime_arguments_run runtime (.inl rfl) valid year aheadEq

theorem readDateTime_invalid (runtime : Runtime α) {packet : Packet} {rest : Bytes}
    (aheadEq : packet.ahead = 11 :: List.replicate 11 0 ++ rest) :
    (readDateTime runtime none).run packet = .ok (.date none, packet.advance 12) := by
  have aheadEq : packet.ahead = 11 :: dateBytes ⟨0, 0, 0, 0, 0, 0, 0⟩ ++ rest := aheadEq
  have notNull : packet.peekByte ≠ some 0xfb := by
    rw [peekByte_eq, aheadEq]
    show some 11 ≠ some 0xfb
    decide
  rw [readDateTime, if_pos (.inl rfl), run_get_bind, if_neg notNull,
    run_bind_of_ok (readDateTimeFields_run (by decide) (by decide) aheadEq)]
  dsimp only
  rw [if_pos (by decide),
    run_bind_of_ok (readInt32_run (ahead_dateFields aheadEq) (length_writeUIntLE _ 4)),
    if_pos (by decide), advance_advance]
  rfl

/-! ## What is read of a parameter -/

theorem length_dateBytes (fields : DateFields) : (dateBytes fields).length = 11 := by
  simp [dateBytes, length_writeUIntLE]

theorem received_date (runtime : Runtime α) (encoding : Option String) {fields : Option DateFields}
    (valid : ∀ some, fields = .some some → some.Valid) :
    Parameter.Received runtime encoding ⟨.DATETIME, false, false, 12, writeDate fields⟩
      (.ok (.date (fields.bind (receivedTime runtime)))) where
  scanned := show Types.Scanned .DATETIME by decide
  signed := rfl
  read := by
    rintro bytes rest packet ok short aheadEq
    have ok : writeDate fields = .ok bytes := ok
    cases fields with
    | none =>
        cases ok
        exact readDateTime_invalid runtime aheadEq
    | some fields =>
        obtain ⟨rfl, year⟩ := writeDate_ok ok
        rw [List.length_cons, length_dateBytes]
        exact readDateTime_run runtime (valid fields rfl) year aheadEq

theorem received_number (runtime : Runtime α) (encoding : Option String) (double : UInt64) :
    Parameter.Received runtime encoding
      ⟨.DOUBLE, false, false, 8, .ok (writeUIntLE double.toNat 8)⟩
      (.ok (.other (runtime.readDoubleLE (writeUIntLE double.toNat 8)))) where
  scanned := show Types.Scanned .DOUBLE by decide
  signed := rfl
  read := by
    rintro bytes rest packet ok short aheadEq
    cases ok
    have doubleRun := readDouble_run runtime aheadEq (length_writeUIntLE _ 8)
    show StateT.run (Value.other <$> readDouble runtime) packet = _
    rw [StateT.run_map, doubleRun, length_writeUIntLE]
    rfl

theorem received_tiny (runtime : Runtime α) (encoding : Option String) (byte : UInt8) :
    Parameter.Received runtime encoding ⟨.TINY, false, false, 1, .ok [byte]⟩
      (.ok (.number byte.toNat)) where
  scanned := show Types.Scanned .TINY by decide
  signed := rfl
  read := by
    rintro bytes rest packet ok short aheadEq
    cases ok
    show StateT.run (readInt8 >>= _) packet = _
    rw [run_bind_of_ok (readInt8_run_cons aheadEq)]
    rfl

theorem received_null (runtime : Runtime α) (encoding : Option String) :
    Parameter.Received runtime encoding ⟨.NULL, false, true, 0, .ok []⟩ (.ok .null) where
  scanned := show Types.Scanned .NULL by decide
  signed := rfl
  read := by
    rintro bytes rest packet ok short aheadEq
    cases ok
    rfl

theorem received_buffer (runtime : Runtime α) (encoding : Option String) (buffer : Bytes) :
    Parameter.Received runtime encoding (lengthCodedParameter .BLOB buffer) (.ok (.buffer buffer)) where
  scanned := show Types.Scanned .BLOB by decide
  signed := rfl
  read := by
    rintro bytes rest packet ok short aheadEq
    cases ok
    rw [length_writeLengthCodedBuffer, kMaxLength] at short
    exact readLengthCodedBuffer_run aheadEq (by omega)

/-- The two writers of a string append the same bytes. -/
theorem encodeString_ok {settings : RequestSettings} {text : JsString} {encoded : Encoded}
    (ok : encodeString settings text = .ok encoded) :
    ∃ bytes, settings.encode text = .ok bytes ∧ encoded.2 = .ok (writeLengthCodedBuffer bytes) := by
  rw [encodeString] at ok
  by_cases fast : settings.fastUtf8 = true
  · rw [if_pos fast] at ok
    cases ok
    refine ⟨utf8 text, Encoding.encode_of_isUtf8 (Bool.and_eq_true_iff.mp fast).2 text, ?_⟩
    show Except.ok (writeLengthCodedUtf8String text (utf8ByteLength text)) = _
    rw [writeLengthCodedUtf8String, ← length_utf8, List.take_length]
    rfl
  · rw [if_neg fast, map_eq_ok_iff] at ok
    obtain ⟨bytes, bytesOk, rfl⟩ := ok
    exact ⟨bytes, bytesOk, rfl⟩

theorem received_string (runtime : Runtime α) (encoding : Option String)
    {settings : RequestSettings} {text : JsString} {parameter : Parameter}
    (ok : stringParameter settings .VAR_STRING text = .ok parameter) :
    parameter.Received runtime encoding ((receivedText settings runtime encoding text).map .string) := by
  rw [stringParameter, map_eq_ok_iff] at ok
  obtain ⟨encoded, encodedOk, rfl⟩ := ok
  obtain ⟨written, writtenOk, writeEq⟩ := encodeString_ok encodedOk
  refine ⟨show Types.Scanned .VAR_STRING by decide, rfl, ?_⟩
  rintro bytes rest packet valueOk short aheadEq
  obtain rfl : writeLengthCodedBuffer written = bytes := Except.ok.inj (writeEq.symm.trans valueOk)
  rw [length_writeLengthCodedBuffer, kMaxLength] at short
  have textRun := readLengthCodedString_run runtime.toDecoding encoding aheadEq (by omega)
  show StateT.run (readStringValue runtime encoding) packet = _
  rw [readStringValue, receivedText, writtenOk, ok_bind, StateT.run_bind, textRun]
  cases runtime.decode encoding written with
  | error error => rfl
  | ok decoded => rfl

theorem received_json (runtime : Runtime α) (encoding : Option String)
    {settings : RequestSettings} {text : JsString} {parameter : Parameter}
    (ok : stringParameter settings .JSON text = .ok parameter) :
    parameter.Received runtime encoding
      (receivedText settings runtime encoding text >>= fun decoded =>
        runtime.jsonParse false (some decoded)) := by
  rw [stringParameter, map_eq_ok_iff] at ok
  obtain ⟨encoded, encodedOk, rfl⟩ := ok
  obtain ⟨written, writtenOk, writeEq⟩ := encodeString_ok encodedOk
  refine ⟨show Types.Scanned .JSON by decide, rfl, ?_⟩
  rintro bytes rest packet valueOk short aheadEq
  obtain rfl : writeLengthCodedBuffer written = bytes := Except.ok.inj (writeEq.symm.trans valueOk)
  rw [length_writeLengthCodedBuffer, kMaxLength] at short
  have textRun := readLengthCodedString_run runtime.toDecoding encoding aheadEq (by omega)
  show StateT.run (readLengthCodedString runtime.toDecoding encoding >>= _) packet = _
  rw [receivedText, writtenOk, ok_bind, StateT.run_bind, textRun]
  cases runtime.decode encoding written with
  | error error => rfl
  | ok decoded =>
      show runtime.jsonParse false (some decoded) >>= (fun value => .ok (value, _)) =
        (runtime.jsonParse false (some decoded)).map _
      cases runtime.jsonParse false (some decoded) with
      | error error => rfl
      | ok value => rfl

/-- What comes back for a parameter whose type the client infers. -/
theorem received_inferParameter {settings : RequestSettings} (calendar : Calendar)
    (runtime : Runtime α) (encoding : Option String) {argument : Argument} {parameter : Parameter}
    (ok : inferParameter settings settings.timezone settings.jsonAsString
      (argument.toJsValue calendar) = .ok parameter) :
    parameter.Received runtime encoding (argument.received settings calendar runtime encoding) := by
  cases argument with
  | null =>
      cases ok
      exact received_null runtime encoding
  | number double safeInteger =>
      cases ok
      exact received_number runtime encoding double
  | boolean value =>
      cases ok
      cases value with
      | false => exact received_tiny runtime encoding _
      | true => exact received_tiny runtime encoding _
  | string text => exact received_string runtime encoding ok
  | buffer bytes =>
      cases ok
      exact received_buffer runtime encoding bytes
  | date time =>
      cases ok
      refine received_date runtime encoding ?_
      rintro fields fieldsEq
      obtain ⟨time, -, fieldsEq⟩ := Option.bind_eq_some_iff.mp fieldsEq
      exact calendar.valid fieldsEq
  | json text =>
      rw [Argument.received]
      rw [Argument.toJsValue, inferParameter, ok_bind] at ok
      cases asString : settings.jsonAsString with
      | false =>
          rw [asString, if_neg Bool.false_ne_true] at ok
          exact received_json runtime encoding ok
      | true =>
          rw [asString, if_pos rfl] at ok
          exact received_string runtime encoding ok

/-! ### Types that the server has reported -/

/-- What comes back for a parameter alone: an integer that is sent in the type
that the server has reported, or the value in the type that the client infers. -/
def Argument.receivedAs (settings : RequestSettings) (calendar : Calendar) (runtime : Runtime α)
    (encoding : Option String) (hint : Option ColumnDefinition) (argument : Argument) :
    Except JsError (Value α) :=
  match hint.bind (integerHint (argument.toJsValue calendar)) with
  | some ⟨_, .integer toInteger, _, _⟩ => toInteger.map .number
  | _ => argument.received settings calendar runtime encoding

/-- The server does not look for the types that it has reported, a signed `TINY`
apart, which it reads as unsigned. -/
def Argument.Carried (calendar : Calendar) (hint : Option ColumnDefinition) (argument : Argument) :
    Prop :=
  ∀ hinted, hint.bind (integerHint (argument.toJsValue calendar)) = some hinted →
    hinted.type = .TINY ∧ hinted.unsigned = false ∧
      ∃ integer, 0 ≤ integer ∧ hinted.value = .integer (.ok integer)

theorem received_hinted (runtime : Runtime α) (encoding : Option String)
    {settings : RequestSettings} {timezone : String} {jsonAsString : Bool} {integer : Int}
    (positive : 0 ≤ integer) {fits : (TypedValue.integer (.ok integer)).fits (encoderKind .TINY) = true}
    {parameter : Parameter}
    (ok : encodeTypedParameter settings timezone jsonAsString
      ⟨.TINY, .integer (.ok integer), false, fits⟩ = .ok parameter) :
    parameter.Received runtime encoding (.ok (.number integer)) := by
  have ok : (encodeTyped settings timezone ⟨.TINY, .integer (.ok integer), false, fits⟩).map _ =
      .ok parameter := ok
  obtain ⟨encoded, encodedOk, rfl⟩ := map_eq_ok_iff.mp ok
  have encodedOk : (checkedInteger (.ok integer) "TINY" 1 false).map _ = .ok encoded := encodedOk
  obtain ⟨value, valueOk, rfl⟩ := map_eq_ok_iff.mp encodedOk
  rw [checkedInteger, ok_bind] at valueOk
  by_cases outside : integer < (integerRange 1 false).1 ∨ (integerRange 1 false).2 < integer
  · simp only [if_pos outside] at valueOk
    cases valueOk
  · simp only [if_neg outside] at valueOk
    cases valueOk
    have small : integer ≤ 127 := Int.not_lt.mp (not_or.mp outside).2
    have same : ((toByte (integer % 2 ^ (8 * 1)).toNat).toNat : Int) = integer := by
      rw [toByte_toNat]
      omega
    have received := received_tiny runtime encoding (toByte (integer % 2 ^ (8 * 1)).toNat)
    rw [same] at received
    exact received

theorem received_toParameter {settings : RequestSettings} {calendar : Calendar}
    (runtime : Runtime α) (encoding : Option String) {hint : Option ColumnDefinition}
    {argument : Argument} {parameter : Parameter} (carried : argument.Carried calendar hint)
    (ok : toParameter settings settings.timezone settings.jsonAsString
      (argument.toJsValue calendar) hint = .ok parameter) :
    parameter.Received runtime encoding
      (argument.receivedAs settings calendar runtime encoding hint) := by
  rw [toParameter] at ok
  rw [Argument.receivedAs]
  cases hintedEq : hint.bind (integerHint (argument.toJsValue calendar)) with
  | none =>
      rw [hintedEq] at ok
      exact received_inferParameter calendar runtime encoding ok
  | some hinted =>
      rw [hintedEq] at ok
      obtain ⟨type, value, unsigned, fits⟩ := hinted
      obtain ⟨rfl, rfl, integer, positive, rfl⟩ := carried _ hintedEq
      exact received_hinted runtime encoding positive ok

/-! ## All parameters -/

/-- What comes back for each parameter alone. -/
def receivedEach (settings : RequestSettings) (calendar : Calendar) (runtime : Runtime α)
    (encoding : Option String) (definitions : List ColumnDefinition) :
    Nat → List Argument → List (Except JsError (Value α))
  | _, [] => []
  | index, argument :: arguments =>
      argument.receivedAs settings calendar runtime encoding definitions[index]? ::
        receivedEach settings calendar runtime encoding definitions (index + 1) arguments

theorem received_bindParameters {settings : RequestSettings} {calendar : Calendar}
    (runtime : Runtime α) (encoding : Option String) {definitions : List ColumnDefinition}
    {index : Nat} {arguments : List Argument} {parameters : List Parameter}
    (carried : ∀ (position : Nat) (argument : Argument), arguments[position]? = some argument →
      argument.Carried calendar definitions[index + position]?)
    (ok : bindParameters settings definitions index
      (arguments.map (Argument.toJsValue calendar)) = .ok parameters) :
    List.Forall₂ (Parameter.Received runtime encoding) parameters
      (receivedEach settings calendar runtime encoding definitions index arguments) := by
  induction arguments generalizing index parameters with
  | nil =>
      cases ok
      exact .nil
  | cons argument arguments ih =>
      rw [List.map_cons, bindParameters] at ok
      simp only [bind_eq_ok_iff, pure_eq_ok_iff] at ok
      obtain ⟨parameter, parameterOk, others, othersOk, rfl⟩ := ok
      refine .cons (received_toParameter runtime encoding (carried 0 argument rfl) parameterOk)
        (ih ?_ othersOk)
      rintro position other found
      rw [Nat.add_assoc, Nat.add_comm 1]
      exact carried (position + 1) other found

/-- The values are what comes back for each parameter alone. -/
theorem readParameters_iff {runtime : Runtime α} {encoding : Option String}
    {parameters : List Parameter} {receiveds : List (Except JsError (Value α))}
    (received : List.Forall₂ (Parameter.Received runtime encoding) parameters receiveds)
    {bytes rest : Bytes} {packet : Packet} (ok : writeValues parameters = .ok bytes)
    (short : bytes.length ≤ kMaxLength) (aheadEq : packet.ahead = bytes ++ rest)
    (values : List (Value α)) :
    (∃ after, (readParameters runtime encoding (parameters.map (·.type))).run packet =
      .ok (values, after)) ↔ List.Forall₂ (fun received value => received = .ok value) receiveds values := by
  induction received generalizing packet bytes values with
  | nil =>
      constructor
      · rintro ⟨after, run⟩
        cases run
        exact .nil
      · rintro ⟨⟩
        exact ⟨packet, rfl⟩
  | @cons parameter result parameters receiveds first _ ih =>
      obtain ⟨value, others, valueOk, othersOk, rfl⟩ := writeValues_cons ok
      rw [List.length_append] at short
      rw [List.append_assoc] at aheadEq
      have firstRun := first.read valueOk (by omega) aheadEq
      have othersAhead := ahead_advance_of_append _ aheadEq rfl
      rw [List.map_cons, readParameters]
      cases result with
      | error error =>
          rw [run_bind_of_error firstRun]
          constructor
          · rintro ⟨after, run⟩
            cases run
          · rintro (_ | ⟨sameValue, -⟩)
            cases sameValue
      | ok read =>
          rw [run_bind_of_ok firstRun]
          constructor
          · rintro ⟨after, run⟩
            rw [StateT.run_bind, bind_eq_ok_iff] at run
            obtain ⟨⟨tail, after'⟩, tailRun, same⟩ := run
            cases same
            exact .cons rfl ((ih othersOk (by omega) othersAhead tail).mp ⟨_, tailRun⟩)
          · rintro (_ | ⟨sameValue, tailSame⟩)
            cases sameValue
            obtain ⟨after, tailRun⟩ := (ih othersOk (by omega) othersAhead _).mpr tailSame
            rw [run_bind_of_ok tailRun]
            exact ⟨after, rfl⟩

/-! ## The packet -/

theorem writeTypes_unnamed {parameters : List Parameter} {bytes : Bytes}
    (signed : ∀ parameter ∈ parameters, parameter.unsigned = false)
    (ok : writeTypes parameters (List.replicate parameters.length []) = .ok bytes) :
    bytes = typeBytes (parameters.map (·.type)) := by
  induction parameters generalizing bytes with
  | nil =>
      cases ok
      rfl
  | cons parameter parameters ih =>
      rw [List.length_cons, List.replicate_succ, writeTypes] at ok
      simp only [bind_eq_ok_iff, pure_eq_ok_iff] at ok
      obtain ⟨entry, entryOk, others, othersOk, rfl⟩ := ok
      obtain ⟨-, rfl⟩ := typeEntry_ok entryOk
      rw [signed parameter List.mem_cons_self,
        ih (fun other member => signed other (List.mem_cons_of_mem _ member)) othersOk]
      rfl

/-- The bytes of an execution behind the count of iterations. -/
def parameterBytes (parameters : List Parameter) (values : Bytes) : Bytes :=
  if parameters = [] then []
  else nullBitmap 0 1 parameters ++ 1 :: (typeBytes (parameters.map (·.type)) ++ values)

theorem of_filledPacket_ok {name : String} {length : Nat} {bytes : Bytes} {packet : Packet}
    (ok : filledPacket name length bytes = .ok packet) :
    length = 4 + bytes.length ∧ packet = .new 0 ([0, 0, 0, 0] ++ bytes) 0 (4 + bytes.length) := by
  rw [filledPacket] at ok
  by_cases fills : bytes.length + 4 = length
  · rw [if_pos fills] at ok
    cases ok
    rw [← fills, Nat.add_comm]
    exact ⟨rfl, rfl⟩
  · rw [if_neg fills] at ok
    cases ok

theorem writeOptionalParameters_ok {parameters : List Parameter} {block : Bytes}
    (ok : writeOptionalParameters parameters (List.replicate parameters.length []) = .ok block) :
    ∃ values, writeValues parameters = .ok values ∧ values.length ≤ block.length ∧
      ((∀ parameter ∈ parameters, parameter.unsigned = false) →
        block = parameterBytes parameters values) := by
  cases parameters with
  | nil =>
      cases ok
      exact ⟨[], rfl, Nat.le_refl 0, fun _ => rfl⟩
  | cons parameter parameters =>
      rw [writeOptionalParameters, if_pos (by simp), writeParameters] at ok
      simp only [bind_eq_ok_iff, pure_eq_ok_iff] at ok
      obtain ⟨types, typesOk, values, valuesOk, rfl⟩ := ok
      refine ⟨values, valuesOk, ?_, fun signed => ?_⟩
      · rw [List.length_append]
        exact Nat.le_add_left _ _
      · rw [writeTypes_unnamed signed typesOk, parameterBytes, if_neg (List.cons_ne_nil _ _)]
        simp

/-- What an execution without attributes looks like. -/
theorem executeToPacket_ok {settings : RequestSettings} {statementId : Nat}
    {definitions : List ColumnDefinition} {arguments : List JsValue} {packet : Packet}
    (noAttributes : settings.queryAttributes = false)
    (ok : executeToPacket settings statementId definitions arguments [] = .ok packet) :
    ∃ parameters values, bindParameters settings definitions 0 arguments = .ok parameters ∧
      writeValues parameters = .ok values ∧ values.length ≤ kMaxLength ∧ statementId < 2 ^ 32 ∧
      ((∀ parameter ∈ parameters, parameter.unsigned = false) → ∃ bytes,
        bytes = [0x17] ++ writeUIntLE statementId 4 ++ [0] ++ writeUIntLE 1 4 ++
          parameterBytes parameters values ∧
        packet = .new 0 ([0, 0, 0, 0] ++ bytes) 0 (4 + bytes.length)) := by
  rw [executeToPacket, executeParameters, noAttributes] at ok
  simp only [Bool.false_eq_true, if_false, attributeParameters, attributeNames, bind_eq_ok_iff,
    pure_eq_ok_iff, Except.ok.injEq] at ok
  obtain ⟨_, ⟨parameters, parametersOk, _, rfl, _, rfl, rfl⟩, _, allocated, id, idOk, block, blockOk,
    filled⟩ := ok
  obtain ⟨isId, rfl⟩ := writeWhole_finite_ok idOk
  simp only [List.append_nil] at allocated blockOk filled
  rw [← (wellFormed_bindParameters parametersOk).1] at blockOk
  obtain ⟨values, valuesOk, valuesLength, blockEq⟩ := writeOptionalParameters_ok blockOk
  obtain ⟨lengthEq, packetEq⟩ := of_filledPacket_ok filled
  have short := allocUnsafe_ok allocated
  rw [lengthEq, List.length_append] at short
  refine ⟨parameters, values, parametersOk, valuesOk, by omega, isId, fun signed => ⟨_, ?_, packetEq⟩⟩
  rw [blockEq signed]

/-- Nothing in the packet looks like a type but the types: no three bytes of the
null bitmap look like the flag in front of them, and no byte of a value is the
code of a type in front of a zero byte. -/
def Unambiguous (settings : RequestSettings) (definitions : List ColumnDefinition)
    (arguments : List JsValue) : Prop :=
  ∀ parameters values, bindParameters settings definitions 0 arguments = .ok parameters →
    writeValues parameters = .ok values →
      looksLikeTypes (nullBitmap 0 1 parameters) = false ∧ typesIn values = []

theorem fromPacket_run (runtime : Runtime α) (encoding : Option String) {packet : Packet}
    {statementId : Nat} {body : Bytes} (isId : statementId < 2 ^ 32)
    (aheadEq : packet.ahead = writeUIntLE statementId 4 ++ ([0] ++ (writeUIntLE 1 4 ++ body)))
    (whole : packet.Whole) :
    ∃ after, after.ahead =
        body.drop (seekCount body + 2 * (typesIn (body.drop (seekCount body + 1))).length + 1) ∧
      (Execute.fromPacket runtime encoding).run packet =
        StateT.run ((fun values => ⟨statementId, some 0, 1, values⟩) <$>
          readParameters runtime encoding (typesIn (body.drop (seekCount body + 1)))) after := by
  have idEq : uintLE (writeUIntLE statementId 4) = statementId := uintLE_writeUIntLE_of_lt isId
  have countEq : uintLE (writeUIntLE 1 4) = 1 := by decide
  have flagsAhead : (packet.advance 4).ahead = _ :=
    ahead_advance_of_append _ aheadEq (length_writeUIntLE _ 4)
  have countAhead : ((packet.advance 4).advance 1).ahead = _ := ahead_advance_of_append [0] flagsAhead rfl
  have bodyAhead : (((packet.advance 4).advance 1).advance 4).ahead = _ :=
    ahead_advance_of_append _ countAhead (length_writeUIntLE _ 4)
  rw [Execute.fromPacket, run_bind_of_ok (readInt32_run aheadEq (length_writeUIntLE _ 4)), idEq,
    run_bind_of_ok (readInt8_run_cons flagsAhead),
    run_bind_of_ok (readInt32_run countAhead (length_writeUIntLE _ 4)), countEq, run_get_bind]
  generalize bodyPacketEq : ((packet.advance 4).advance 1).advance 4 = bodyPacket at bodyAhead
  have bodyWhole : bodyPacket.Whole := bodyPacketEq ▸ whole
  have soughtWhole : (bodyPacket.advance (seekCount body)).Whole := bodyWhole
  have seekRun := seekTypes_run bodyWhole (bodyWhole.length_ahead ▸ Nat.sub_le _ _)
  rw [bodyAhead] at seekRun
  have behindFlag : bodyPacket.buffer.drop (bodyPacket.offset + seekCount body + 1) =
      body.drop (seekCount body + 1) := by
    rw [Nat.add_assoc, ← List.drop_drop, ← bodyAhead]
    rfl
  have collectRun := @collectTypes_run _ bodyPacket.endOffset (bodyPacket.offset + seekCount body + 1)
    soughtWhole (by rw [buffer_advance, ← bodyWhole]; omega)
  rw [buffer_advance, behindFlag, advance_advance] at collectRun
  refine ⟨bodyPacket.advance
    (seekCount body + 2 * (typesIn (body.drop (seekCount body + 1))).length + 1), ?_, ?_⟩
  · rw [ahead_advance, bodyAhead]
  · rw [run_bind_of_ok seekRun, run_get_bind]
    show StateT.run (collectTypes bodyPacket.endOffset (bodyPacket.offset + seekCount body + 1) >>= _)
      _ = _
    rw [run_bind_of_ok collectRun, run_bind_of_ok (skip_run _ 1), map_eq_pure_bind, advance_advance]
    rfl

theorem length_readParameters {runtime : Runtime α} {encoding : Option String} {types : List Types}
    {packet after : Packet} {values : List (Value α)}
    (run : (readParameters runtime encoding types).run packet = .ok (values, after)) :
    values.length = types.length := by
  induction types generalizing packet values with
  | nil =>
      cases run
      rfl
  | cons type types ih =>
      rw [readParameters, StateT.run_bind, bind_eq_ok_iff] at run
      obtain ⟨⟨value, next⟩, -, run⟩ := run
      rw [StateT.run_bind, bind_eq_ok_iff] at run
      obtain ⟨⟨others, last⟩, othersRun, same⟩ := run
      cases same
      rw [List.length_cons, List.length_cons, ih othersRun]

theorem scanned_of_received {runtime : Runtime α} {encoding : Option String}
    {parameters : List Parameter} {receiveds : List (Except JsError (Value α))}
    (received : List.Forall₂ (Parameter.Received runtime encoding) parameters receiveds) :
    ∀ type ∈ parameters.map (·.type), type.Scanned := by
  induction received with
  | nil => exact fun type member => absurd member List.not_mem_nil
  | cons first _ ih => exact List.forall_mem_cons.mpr ⟨first.scanned, ih⟩

theorem signed_of_received {runtime : Runtime α} {encoding : Option String}
    {parameters : List Parameter} {receiveds : List (Except JsError (Value α))}
    (received : List.Forall₂ (Parameter.Received runtime encoding) parameters receiveds) :
    ∀ parameter ∈ parameters, parameter.unsigned = false := by
  induction received with
  | nil => exact fun parameter member => absurd member List.not_mem_nil
  | cons first _ ih => exact List.forall_mem_cons.mpr ⟨first.signed, ih⟩

theorem length_typeBytes (types : List Types) : (typeBytes types).length = 2 * types.length := by
  simp [typeBytes, List.length_flatMap, List.map_const', Nat.mul_comm]

/-- The reader returns given values, one for each parameter, if and only if
nothing else looks like a type and each value comes back alone. -/
theorem parameterBytes_iff {runtime : Runtime α} {encoding : Option String}
    {parameters : List Parameter} {receiveds : List (Except JsError (Value α))}
    (received : List.Forall₂ (Parameter.Received runtime encoding) parameters receiveds)
    {bytes body : Bytes} {packet : Packet} (ok : writeValues parameters = .ok bytes)
    (short : bytes.length ≤ kMaxLength) (bodyEq : body = parameterBytes parameters bytes)
    (aheadEq : packet.ahead =
      body.drop (seekCount body + 2 * (typesIn (body.drop (seekCount body + 1))).length + 1))
    {values : List (Value α)} (each : values.length = parameters.length) :
    (∃ after, (readParameters runtime encoding (typesIn (body.drop (seekCount body + 1)))).run
        packet = .ok (values, after)) ↔
      (looksLikeTypes (nullBitmap 0 1 parameters) = false ∧ typesIn bytes = []) ∧
        List.Forall₂ (fun received value => received = .ok value) receiveds values := by
  by_cases empty : parameters = []
  · subst empty
    cases received
    cases ok
    cases List.length_eq_zero_iff.mp each
    rw [bodyEq]
    exact ⟨fun _ => ⟨⟨rfl, rfl⟩, .nil⟩, fun _ => ⟨packet, rfl⟩⟩
  · rw [parameterBytes, if_neg empty] at bodyEq
    have nonempty : parameters.map (·.type) ≠ [] := fun none => empty (List.map_eq_nil_iff.mp none)
    obtain ⟨clear, unclear⟩ := typesIn_found nonempty (scanned_of_received received) bodyEq
    cases looks : looksLikeTypes (nullBitmap 0 1 parameters) with
    | true =>
        have more := unclear looks
        constructor
        · rintro ⟨after, run⟩
          rw [← length_readParameters run, each, List.length_map] at more
          exact absurd more (Nat.lt_irrefl _)
        · rintro ⟨⟨looks, -⟩, -⟩
          cases looks
    | false =>
        obtain ⟨count, found⟩ := clear looks
        rw [found]
        rw [found, count] at aheadEq
        cases extra : typesIn bytes with
        | nil =>
            rw [extra, List.append_nil, bodyEq] at aheadEq
            rw [List.append_nil]
            have valuesAhead : packet.ahead = bytes ++ [] := by
              rw [aheadEq, Nat.add_assoc, ← List.drop_drop, List.drop_left, Nat.add_comm,
                ← List.drop_drop, List.drop_one, List.tail_cons, ← length_typeBytes, List.drop_left,
                List.append_nil]
            rw [readParameters_iff received ok short valuesAhead]
            exact ⟨fun same => ⟨⟨rfl, rfl⟩, same⟩, And.right⟩
        | cons type types =>
            constructor
            · rintro ⟨after, run⟩
              have lengthEq := length_readParameters run
              rw [each, List.length_append, List.length_cons, List.length_map] at lengthEq
              omega
            · rintro ⟨⟨-, none⟩, -⟩
              cases none

/-- Values that come back, and are the same. -/
theorem forall₂_values_iff {runtime : Runtime α} {arguments : List Argument}
    {receiveds : List (Except JsError (Value α))} :
    (∃ values, List.Forall₂ (fun received value => received = .ok value) receiveds values ∧
      List.Forall₂ (Argument.Same runtime) arguments values) ↔
        List.Forall₂ (fun argument received => ∃ value, received = .ok value ∧
          argument.Same runtime value) arguments receiveds := by
  constructor
  · rintro ⟨values, read, same⟩
    induction same generalizing receiveds with
    | nil =>
        cases read
        exact .nil
    | cons firstSame _ ih =>
        cases read with
        | cons firstRead othersRead => exact .cons ⟨_, firstRead, firstSame⟩ (ih othersRead)
  · rintro each
    induction each with
    | nil => exact ⟨[], .nil, .nil⟩
    | cons first _ ih =>
        obtain ⟨value, read, same⟩ := first
        obtain ⟨values, othersRead, othersSame⟩ := ih
        exact ⟨value :: values, .cons read othersRead, .cons same othersSame⟩

/-- The parameters come back if and only if nothing but their types looks like a
type, and each of them comes back alone. -/
theorem dispatchExecute_iff {settings : RequestSettings} {calendar : Calendar} (runtime : Runtime α)
    (encoding : Option String) {statementId : Nat} {definitions : List ColumnDefinition}
    {arguments : List Argument} {packet : Packet} (noAttributes : settings.queryAttributes = false)
    (carried : ∀ (index : Nat) (argument : Argument), arguments[index]? = some argument →
      argument.Carried calendar definitions[index]?)
    (ok : executeToPacket settings statementId definitions
      (arguments.map (Argument.toJsValue calendar)) [] = .ok packet) :
    (∃ values after, (dispatchExecute runtime encoding).run packet =
        .ok (⟨statementId, some 0, 1, values⟩, after) ∧
          List.Forall₂ (Argument.Same runtime) arguments values) ↔
      Unambiguous settings definitions (arguments.map (Argument.toJsValue calendar)) ∧
        List.Forall₂ (fun argument received => ∃ value, received = .ok value ∧
          argument.Same runtime value) arguments
            (receivedEach settings calendar runtime encoding definitions 0 arguments) := by
  obtain ⟨parameters, bytes, parametersOk, bytesOk, short, isId, layout⟩ :=
    executeToPacket_ok noAttributes ok
  have received := received_bindParameters runtime encoding (fun position argument found => by
    rw [Nat.zero_add]
    exact carried position argument found) parametersOk
  have count : parameters.length = arguments.length :=
    (wellFormed_bindParameters parametersOk).1.trans (List.length_map _)
  obtain ⟨written, writtenEq, rfl⟩ := layout (signed_of_received received)
  rw [List.append_assoc, List.append_assoc, List.append_assoc] at writtenEq
  have aheadEq := (ahead_new 0 [0, 0, 0, 0] written (4 + written.length) rfl).trans writtenEq
  have idAhead : (Packet.advance _ 1).ahead = _ := ahead_advance_of_append [0x17] aheadEq rfl
  obtain ⟨after, afterAhead, run⟩ := fromPacket_run runtime encoding isId idAhead (whole_packetOf written)
  have unambiguous : Unambiguous settings definitions (arguments.map (Argument.toJsValue calendar)) ↔
      looksLikeTypes (nullBitmap 0 1 parameters) = false ∧ typesIn bytes = [] := by
    constructor
    · exact fun all => all parameters bytes parametersOk bytesOk
    · rintro clear others values othersOk valuesOk
      obtain rfl := Except.ok.inj (othersOk.symm.trans parametersOk)
      obtain rfl := Except.ok.inj (valuesOk.symm.trans bytesOk)
      exact clear
  rw [dispatchExecute, run_bind_of_ok (readInt8_run_cons aheadEq), run, unambiguous,
    ← forall₂_values_iff]
  constructor
  · rintro ⟨values, last, fieldsRun, same⟩
    rw [StateT.run_map] at fieldsRun
    obtain ⟨⟨values', last'⟩, valuesRun, fieldsEq⟩ := map_eq_ok_iff.mp fieldsRun
    cases fieldsEq
    obtain ⟨clear, read⟩ := (parameterBytes_iff received bytesOk short rfl afterAhead
      (same.length_eq.symm.trans count.symm)).mp ⟨_, valuesRun⟩
    exact ⟨clear, values', read, same⟩
  · rintro ⟨clear, values, read, same⟩
    obtain ⟨last, valuesRun⟩ := (parameterBytes_iff received bytesOk short rfl afterAhead
      (same.length_eq.symm.trans count.symm)).mpr ⟨clear, read⟩
    refine ⟨values, last, ?_, same⟩
    rw [StateT.run_map, valuesRun]
    rfl

/-- Requests in UTF-8 without query attributes. -/
def plainSettings : RequestSettings where
  encoding := .utf8
  hasFastUtf8Write := true
  queryAttributes := false
  timezone := "local"
  jsonAsString := false

/-- A calendar without dates. -/
def noCalendar : Calendar where
  fields _ _ := none
  valid some := nomatch some

theorem dispatchExecute_iff_three :
    ∃ packet, executeToPacket plainSettings 7 []
        ([Argument.boolean false, .null, .string (units "a")].map (Argument.toJsValue noCalendar))
          [] = .ok packet ∧
      ∃ values after, (dispatchExecute utcRuntime (some "utf8")).run packet =
          .ok (⟨7, some 0, 1, values⟩, after) ∧
        List.Forall₂ (Argument.Same utcRuntime) [.boolean false, .null, .string (units "a")] values := by
  obtain ⟨packet, ok⟩ : ∃ packet, executeToPacket plainSettings 7 []
      ([Argument.boolean false, .null, .string (units "a")].map (Argument.toJsValue noCalendar)) [] =
        .ok packet := ⟨_, rfl⟩
  refine ⟨packet, ok, (dispatchExecute_iff utcRuntime (some "utf8") rfl ?_ ok).mpr ⟨?_, ?_⟩⟩
  · rintro index argument found hinted hint
    cases hint
  · rintro parameters values parametersOk valuesOk
    cases parametersOk
    cases valuesOk
    decide
  · exact .cons ⟨_, rfl, rfl⟩ (.cons ⟨_, rfl, rfl⟩ (.cons ⟨_, rfl, _, rfl, by decide⟩ .nil))

/-- The value of the first parameter, in front of the second, looks like a type. -/
theorem booleans_read :
    (executeToPacket plainSettings 7 []
        ([Argument.boolean true, .boolean false].map (Argument.toJsValue noCalendar)) []).bind
      (fun packet => ((dispatchExecute utcRuntime (some "utf8")).run packet).map (·.1.values)) =
        .ok [.undefined, .undefined, .undefined] := by
  decide

theorem not_forall_dispatchExecute :
    ¬ ∀ (arguments : List Argument) (packet : Packet),
      executeToPacket plainSettings 7 [] (arguments.map (Argument.toJsValue noCalendar)) [] =
        .ok packet →
      ∃ values after, (dispatchExecute utcRuntime (some "utf8")).run packet =
          .ok (⟨7, some 0, 1, values⟩, after) ∧
        List.Forall₂ (Argument.Same utcRuntime) arguments values := by
  intro all
  obtain ⟨packet, ok⟩ : ∃ packet, executeToPacket plainSettings 7 []
      ([Argument.boolean true, .boolean false].map (Argument.toJsValue noCalendar)) [] =
        .ok packet := ⟨_, rfl⟩
  obtain ⟨values, after, run, same⟩ := all [.boolean true, .boolean false] packet ok
  have read := booleans_read
  rw [ok] at read
  have read : ((dispatchExecute utcRuntime (some "utf8")).run packet).map _ = _ := read
  rw [run] at read
  have lengthEq := congrArg List.length (Except.ok.inj read)
  have sameLength : 2 = values.length := same.length_eq
  rw [← sameLength] at lengthEq
  cases lengthEq

end Mysql2.Packets

import Mysql2.Packets.RequestGrammar
import Mysql2.Script.Throwing

/-!
# Parameters and their layouts

A parameter that is accepted writes as many bytes as it predicts, in the layout
of the type that is sent for it.  Writes that check their range are all that can
fail.
-/

namespace Mysql2.Packets

open Mysql2.Stream Mysql2.Script

/-! ## Numbers and texts -/

namespace RequestGrammar

theorem spells_number {n bytes : Nat} (fits : n < 256 ^ bytes) :
    Spells (number bytes) (writeUIntLE n bytes) n := by
  have taken : Spells (number bytes) (writeUIntLE n bytes) (uintLE (writeUIntLE n bytes)) :=
    (Spells.take (length_writeUIntLE n bytes)).map
  rwa [uintLE_writeUIntLE_of_lt fits] at taken

theorem spells_lengthCodedNumber {n : Nat} (fits : n < 256 ^ 8) :
    Spells lengthCodedNumber (writeLengthCodedNumber n) n := by
  have marked : ∀ (marker : UInt8) (bytes : Nat), n < 256 ^ bytes →
      (∀ stream, lengthCodedNumber.run (marker :: stream) = (number bytes).run stream) →
        Spells lengthCodedNumber (marker :: writeUIntLE n bytes) n := by
    rintro marker bytes small run rest
    rw [List.cons_append, run]
    exact spells_number small rest
  rw [writeLengthCodedNumber]
  by_cases one : n < 0xfb
  · rw [if_pos one]
    rintro rest
    have toNat : (toByte n).toNat = n := by
      rw [toByte_toNat]
      exact Nat.mod_eq_of_lt (by omega)
    have small : toByte n < 0xfb := by
      rw [UInt8.lt_iff_toNat_lt, toNat]
      exact one
    show StateT.run (if toByte n < 0xfb then _ else _) rest = _
    rw [if_pos small, toNat]
    rfl
  · rw [if_neg one]
    by_cases two : n < 0xffff
    · rw [if_pos two]
      exact marked 0xfc 2 (by omega) fun stream => rfl
    · rw [if_neg two]
      by_cases three : n < 0xffffff
      · rw [if_pos three]
        exact marked 0xfd 3 (by omega) fun stream => rfl
      · rw [if_neg three]
        exact marked 0xfe 8 fits fun stream => rfl

theorem spells_lengthCoded {bytes : Bytes} (fits : bytes.length < 256 ^ 8) :
    Spells lengthCoded (writeLengthCodedBuffer bytes) bytes :=
  (spells_lengthCodedNumber fits).bind (Spells.take rfl)

theorem spells_shortValue {length : UInt8} {bytes : Bytes} (lengthEq : bytes.length = length.toNat) :
    Spells shortValue (length :: bytes) bytes :=
  (Spells.symbol length).bind (Spells.take lengthEq)

end RequestGrammar

/-! ## Parameters -/

open RequestGrammar

/-- A writer appends as many bytes as are predicted, in the layout of a type, or
fails because a number is out of range. -/
structure Encoded.Fits (grammar : Grammar UInt8 Bytes) (encoded : Encoded) : Prop where
  length_eq : ∀ bytes, encoded.2 = .ok bytes → bytes.length = encoded.1
  spells : ∀ bytes, encoded.2 = .ok bytes → bytes.length ≤ kMaxLength →
    ∃ value, Spells grammar bytes value
  outOfRange : ∀ error, encoded.2 = .error error → error.code = some (.name "ERR_OUT_OF_RANGE")

theorem Encoded.Fits.of_ok {grammar : Grammar UInt8 Bytes} {length : Nat} {bytes value : Bytes}
    (lengthEq : bytes.length = length)
    (spells : bytes.length ≤ kMaxLength → Spells grammar bytes value) :
    Encoded.Fits grammar (length, .ok bytes) where
  length_eq := by
    rintro _ ⟨⟩
    exact lengthEq
  spells := by
    rintro _ ⟨⟩ short
    exact ⟨value, spells short⟩
  outOfRange := by rintro _ ⟨⟩

theorem fits_take {bytes : Bytes} {count : Nat} (lengthEq : bytes.length = count) :
    Encoded.Fits (Grammar.take count) (count, .ok bytes) :=
  .of_ok lengthEq fun _ => Spells.take lengthEq

theorem fits_lengthCoded (bytes : Bytes) :
    Encoded.Fits lengthCoded
      (lengthCodedNumberLength bytes.length + bytes.length, .ok (writeLengthCodedBuffer bytes)) := by
  refine .of_ok (Packet.length_writeLengthCodedBuffer bytes) fun short => spells_lengthCoded ?_
  rw [Packet.length_writeLengthCodedBuffer] at short
  exact Nat.lt_of_le_of_lt (Nat.le_trans (Nat.le_add_left _ _) short) (by decide)

theorem fits_encodeString {settings : RequestSettings} {string : JsString} {encoded : Encoded}
    (ok : encodeString settings string = .ok encoded) : encoded.Fits lengthCoded := by
  rw [encodeString] at ok
  split at ok
  · -- the size of the string in UTF-8 is the number of its bytes
    cases ok
    rw [writeLengthCodedUtf8String, ← length_utf8, List.take_length]
    exact fits_lengthCoded (utf8 string)
  · cases encode : settings.encode string with
    | error error =>
        rw [encode] at ok
        cases ok
    | ok bytes =>
        rw [encode] at ok
        cases ok
        exact fits_lengthCoded bytes

theorem fits_lengthCodedEncoder {settings : RequestSettings} {value : TextValue}
    {encoded : Encoded} (ok : lengthCodedEncoder settings value = .ok encoded) :
    encoded.Fits lengthCoded := by
  cases value with
  | buffer bytes =>
      cases ok
      exact fits_lengthCoded bytes
  | string text =>
      cases text with
      | error error => cases ok
      | ok string => exact fits_encodeString ok

theorem fits_writeDate (fields : Option DateFields) :
    Encoded.Fits shortValue (12, writeDate fields) := by
  cases fields with
  | none => exact .of_ok rfl fun _ => spells_shortValue rfl
  | some fields =>
      rw [writeDate]
      split
      · constructor
        · rintro _ ⟨⟩
        · rintro _ ⟨⟩
        · rintro _ ⟨⟩
          rfl
      · exact .of_ok rfl fun _ => spells_shortValue rfl

/-! ### Times -/

theorem writeWhole_finite_ok {bytes value : Nat} {written : Bytes}
    (ok : writeWhole bytes (.finite value) = .ok written) :
    value < 256 ^ bytes ∧ written = writeUIntLE value bytes := by
  rw [writeWhole] at ok
  split at ok
  · rename_i small
    cases ok
    exact ⟨small, rfl⟩
  · cases ok

theorem writeWhole_finite_error {bytes value : Nat} {error : JsError}
    (failed : writeWhole bytes (.finite value) = .error error) : 256 ^ bytes ≤ value := by
  rw [writeWhole] at failed
  split at failed
  · cases failed
  · rename_i large
    exact Nat.not_lt.mp large

theorem length_writeWhole {bytes : Nat} {number : WholeNumber} {written : Bytes}
    (ok : writeWhole bytes number = .ok written) : written.length = bytes := by
  cases number with
  | nan =>
      cases ok
      exact length_writeUIntLE 0 bytes
  | finite value =>
      obtain ⟨_, rfl⟩ := writeWhole_finite_ok ok
      exact length_writeUIntLE value bytes
  | infinity => cases ok

theorem outOfRange_writeWhole {bytes : Nat} {number : WholeNumber} {error : JsError}
    (failed : writeWhole bytes number = .error error) :
    error.code = some (.name "ERR_OUT_OF_RANGE") := by
  cases number with
  | nan => cases failed
  | finite value =>
      rw [writeWhole] at failed
      split at failed <;> cases failed
      rfl
  | infinity =>
      cases failed
      rfl

/-- Whether all parts of a time are zero. -/
def TimeParts.isZero (parts : TimeParts) : Bool :=
  !parts.days.truthy && !parts.hours.truthy && !parts.minutes.truthy && !parts.seconds.truthy &&
    !parts.microseconds.truthy

/-- A time is a byte with the length of the rest, which `timeLength` counts too. -/
theorem writeTime_ok {parts : TimeParts} {bytes : Bytes} (ok : writeTime parts = .ok bytes) :
    bytes.length = timeLength parts ∧
      ∃ (length : UInt8) (body : Bytes), bytes = length :: body ∧ body.length = length.toNat := by
  cases zero : parts.isZero with
  | true =>
      rw [TimeParts.isZero] at zero
      rw [writeTime, if_pos zero] at ok
      cases ok
      rw [timeLength, if_pos zero]
      exact ⟨rfl, 0, [], rfl, rfl⟩
  | false =>
      rw [TimeParts.isZero] at zero
      rw [writeTime, zero, if_neg Bool.false_ne_true] at ok
      rw [timeLength, zero, if_neg Bool.false_ne_true]
      simp only [bind_eq_ok_iff, pure_eq_ok_iff] at ok
      obtain ⟨days, daysOk, hours, hoursOk, minutes, minutesOk, seconds, secondsOk, microseconds,
        microsecondsOk, rfl⟩ := ok
      have daysLength := length_writeWhole daysOk
      have hoursLength := length_writeWhole hoursOk
      have minutesLength := length_writeWhole minutesOk
      have secondsLength := length_writeWhole secondsOk
      rw [writeMicroseconds] at microsecondsOk
      cases precise : parts.microseconds.truthy with
      | true =>
          rw [precise, if_pos rfl] at microsecondsOk
          have microsecondsLength := length_writeWhole microsecondsOk
          refine ⟨?_, 12, _, rfl, ?_⟩ <;>
            simp [daysLength, hoursLength, minutesLength, secondsLength, microsecondsLength]
      | false =>
          rw [precise, if_neg Bool.false_ne_true] at microsecondsOk
          cases microsecondsOk
          refine ⟨?_, 8, _, rfl, ?_⟩ <;>
            simp [daysLength, hoursLength, minutesLength, secondsLength]

theorem outOfRange_writeTime {parts : TimeParts} {error : JsError}
    (failed : writeTime parts = .error error) : error.code = some (.name "ERR_OUT_OF_RANGE") := by
  rw [writeTime] at failed
  split at failed
  · cases failed
  · simp only [bind_eq_error_iff] at failed
    rcases failed with failed | ⟨days, _, failed | ⟨hours, _, failed | ⟨minutes, _, failed |
      ⟨seconds, _, failed | ⟨microseconds, _, failed⟩⟩⟩⟩⟩
    · exact outOfRange_writeWhole failed
    · exact outOfRange_writeWhole failed
    · exact outOfRange_writeWhole failed
    · exact outOfRange_writeWhole failed
    · rw [writeMicroseconds] at failed
      split at failed
      · exact outOfRange_writeWhole failed
      · cases failed
    · cases failed

theorem fits_writeTime (parts : TimeParts) :
    Encoded.Fits shortValue (timeLength parts, writeTime parts) where
  length_eq := fun _ ok => (writeTime_ok ok).1
  spells := by
    rintro bytes ok _
    obtain ⟨_, length, body, rfl, lengthEq⟩ := writeTime_ok ok
    exact ⟨body, spells_shortValue lengthEq⟩
  outOfRange := fun _ failed => outOfRange_writeTime failed

/-! ### Encoders -/

/-- The layout of the values that an encoder writes. -/
def EncoderKind.layout : EncoderKind → Grammar UInt8 Bytes
  | .integer bytes _ => Grammar.take bytes
  | .double => Grammar.take 8
  | .float => Grammar.take 4
  | .temporal | .time => shortValue
  | .text => lengthCoded

/-- The type that is sent for an encoder's values has their layout. -/
theorem layout_wireType {type : Types} {kind : EncoderKind}
    (kindEq : encoderKind type = some kind) (jsonAsString : Bool) :
    layout (Types.ofNat (wireType type jsonAsString).toNat) = kind.layout := by
  cases type <;> cases kindEq <;> first | rfl | (cases jsonAsString <;> rfl)

theorem fits_encodeTyped {settings : RequestSettings} {timezone : String}
    {parameter : TypedParameter} {encoded : Encoded}
    (ok : encodeTyped settings timezone parameter = .ok encoded) :
    ∃ kind, encoderKind parameter.type = some kind ∧ encoded.Fits kind.layout := by
  rw [encodeTyped] at ok
  split at ok
  case h_1 bytes name toInteger kindEq _ =>
    obtain ⟨value, _, rfl⟩ := map_eq_ok_iff.mp ok
    exact ⟨_, kindEq, fits_take (length_writeUIntLE _ bytes)⟩
  case h_2 number kindEq _ =>
    obtain ⟨bits, _, rfl⟩ := map_eq_ok_iff.mp ok
    exact ⟨_, kindEq, fits_take (length_writeUIntLE _ 8)⟩
  case h_3 number kindEq _ =>
    obtain ⟨bits, _, rfl⟩ := map_eq_ok_iff.mp ok
    exact ⟨_, kindEq, fits_take (length_writeUIntLE _ 4)⟩
  case h_4 toDate kindEq _ =>
    obtain ⟨fields, _, rfl⟩ := map_eq_ok_iff.mp ok
    exact ⟨_, kindEq, fits_writeDate _⟩
  case h_5 toTimeParts kindEq _ =>
    obtain ⟨parts, _, rfl⟩ := map_eq_ok_iff.mp ok
    exact ⟨_, kindEq, fits_writeTime parts⟩
  case h_6 value kindEq _ => exact ⟨_, kindEq, fits_lengthCodedEncoder ok⟩
  case h_7 => cases ok

/-! ### Parameters -/

/-- The writer of a parameter appends as many bytes as are predicted, in the
layout of its type, or fails because a number is out of range. -/
structure Parameter.WellFormed (parameter : Parameter) : Prop where
  length_eq : ∀ bytes, parameter.isNull = false → parameter.write = .ok bytes →
    bytes.length = parameter.length
  spells : ∀ bytes, parameter.isNull = false → parameter.write = .ok bytes →
    bytes.length ≤ kMaxLength → Spells (value parameter.type.toNat) bytes bytes
  outOfRange : ∀ error, parameter.isNull = false → parameter.write = .error error →
    error.code = some (.name "ERR_OUT_OF_RANGE")

theorem wellFormed_null (type : Types) (unsigned : Bool) :
    Parameter.WellFormed ⟨type, unsigned, true, 0, .ok []⟩ where
  length_eq := by rintro _ ⟨⟩
  spells := by rintro _ ⟨⟩
  outOfRange := by rintro _ ⟨⟩

theorem Encoded.Fits.wellFormed {grammar : Grammar UInt8 Bytes} {encoded : Encoded} {type : Types}
    (fits : encoded.Fits grammar) (layoutEq : layout (Types.ofNat type.toNat) = grammar)
    (unsigned : Bool) :
    Parameter.WellFormed ⟨type, unsigned, false, encoded.1, encoded.2⟩ where
  length_eq := fun bytes _ ok => fits.length_eq bytes ok
  spells := by
    rintro bytes _ ok short
    obtain ⟨value, spells⟩ := fits.spells bytes ok short
    rw [← layoutEq] at spells
    exact spells.consumed
  outOfRange := fun error _ failed => fits.outOfRange error failed

theorem wellFormed_encodeTypedParameter {settings : RequestSettings} {timezone : String}
    {jsonAsString : Bool} {typed : TypedParameter} {parameter : Parameter}
    (ok : encodeTypedParameter settings timezone jsonAsString typed = .ok parameter) :
    parameter.WellFormed := by
  rw [encodeTypedParameter] at ok
  split at ok
  · cases ok
    exact wellFormed_null _ _
  · cases ok
    exact wellFormed_null _ _
  · obtain ⟨⟨length, write⟩, encodedOk, rfl⟩ := map_eq_ok_iff.mp ok
    obtain ⟨kind, kindEq, fits⟩ := fits_encodeTyped encodedOk
    exact fits.wellFormed (layout_wireType kindEq jsonAsString) typed.unsigned

theorem wellFormed_stringParameter {settings : RequestSettings} {type : Types} {string : JsString}
    {parameter : Parameter} (isText : layout (Types.ofNat type.toNat) = lengthCoded)
    (ok : stringParameter settings type string = .ok parameter) : parameter.WellFormed := by
  obtain ⟨⟨length, write⟩, encodedOk, rfl⟩ := map_eq_ok_iff.mp ok
  exact (fits_encodeString encodedOk).wellFormed isText false

theorem wellFormed_inferParameter {settings : RequestSettings} {timezone : String}
    {jsonAsString : Bool} {value : JsValue} {parameter : Parameter}
    (ok : inferParameter settings timezone jsonAsString value = .ok parameter) :
    parameter.WellFormed := by
  cases value with
  | undefined => cases ok
  | null =>
      cases ok
      exact wellFormed_null .NULL false
  | number double safeInteger =>
      cases ok
      have fits : Encoded.Fits (Grammar.take 8) (8, .ok (writeUIntLE double.toNat 8)) :=
        fits_take (length_writeUIntLE _ 8)
      exact fits.wellFormed rfl false
  | boolean value =>
      cases ok
      have fits : Encoded.Fits (Grammar.take 1) (1, .ok [if value then 1 else 0]) := fits_take rfl
      exact fits.wellFormed rfl false
  | bigint value => exact wellFormed_stringParameter rfl ok
  | string text =>
      obtain ⟨string, _, stringOk⟩ := bind_eq_ok_iff.mp ok
      exact wellFormed_stringParameter rfl stringOk
  | date fields =>
      cases ok
      exact (fits_writeDate (fields timezone)).wellFormed rfl false
  | json stringify =>
      obtain ⟨string, _, stringOk⟩ := bind_eq_ok_iff.mp ok
      exact wellFormed_stringParameter (by cases jsonAsString <;> rfl) stringOk
  | buffer bytes =>
      cases ok
      exact (fits_lengthCoded bytes).wellFormed rfl false
  | object bytes =>
      obtain ⟨bytes, _, rfl⟩ := map_eq_ok_iff.mp ok
      exact (fits_lengthCoded bytes).wellFormed rfl false
  | typed typed => exact wellFormed_encodeTypedParameter ok

/-- Every parameter that is accepted is well formed. -/
theorem wellFormed_toParameter {settings : RequestSettings} {timezone : String}
    {jsonAsString : Bool} {value : JsValue} {hint : Option ColumnDefinition} {parameter : Parameter}
    (ok : toParameter settings timezone jsonAsString value hint = .ok parameter) :
    parameter.WellFormed := by
  rw [toParameter] at ok
  split at ok
  · exact wellFormed_encodeTypedParameter ok
  · exact wellFormed_inferParameter ok

end Mysql2.Packets

import Mysql2.Packets.Integers
import Mysql2.Packets.LengthCoded
import Mysql2.Packets.TypedValues

/-!
# Typed integers

Which values a factory of integer parameters accepts, and what is sent for them.
-/

namespace Mysql2.Packets

open Mysql2.Script

/-! ## Widths -/

/-- A value has a place in so many bytes. -/
def InWidth (bytes : Nat) (unsigned : Bool) (value : Int) : Prop :=
  (integerRange bytes unsigned).1 ≤ value ∧ value ≤ (integerRange bytes unsigned).2

instance (bytes : Nat) (unsigned : Bool) (value : Int) : Decidable (InWidth bytes unsigned value) :=
  inferInstanceAs (Decidable (_ ∧ _))

/-- The two's complement of a value, the lowest byte first. -/
def twosComplement (bytes : Nat) (value : Int) : Bytes :=
  writeUIntLE (value % 2 ^ (8 * bytes)).toNat bytes

/-- The integer that some bytes stand for. -/
def ofTwosComplement (unsigned : Bool) (bytes : Bytes) : Int :=
  if unsigned then uintLE bytes else toSigned (8 * bytes.length) (uintLE bytes)

theorem uintLE_of_twosComplement (bytes : Nat) (value : Int) :
    uintLE (twosComplement bytes value) = (value % 2 ^ (8 * bytes)).toNat :=
  uintLE_writeUIntLE_emod bytes value

theorem length_of_twosComplement (bytes : Nat) (value : Int) :
    (twosComplement bytes value).length = bytes :=
  length_writeUIntLE _ _

/-- The value comes back in the width and with the sign that it was written with. -/
theorem ofTwosComplement_twosComplement {bytes : Nat} {unsigned : Bool} {value : Int}
    (positive : 0 < bytes) (inWidth : InWidth bytes unsigned value) :
    ofTwosComplement unsigned (twosComplement bytes value) = value := by
  obtain ⟨least, greatest⟩ := inWidth
  rw [ofTwosComplement, length_of_twosComplement, uintLE_of_twosComplement]
  cases unsigned with
  | true =>
      have nonneg : 0 ≤ value := least
      have below : value ≤ 2 ^ (8 * bytes) - 1 := greatest
      rw [if_pos rfl, Int.emod_eq_of_lt nonneg (by omega), Int.toNat_of_nonneg nonneg]
  | false =>
      have above : -2 ^ (8 * bytes - 1) ≤ value := least
      have below : value ≤ 2 ^ (8 * bytes - 1) - 1 := greatest
      rw [if_neg Bool.false_ne_true]
      exact toSigned_emod (by omega) above (by omega)

theorem checkedInteger_ok {value : Int} {name : String} {bytes : Nat} {unsigned : Bool}
    (inWidth : InWidth bytes unsigned value) :
    checkedInteger (.ok value) name bytes unsigned = .ok value := by
  have inside : ¬(value < (integerRange bytes unsigned).1 ∨
      (integerRange bytes unsigned).2 < value) := by
    have := inWidth.1
    have := inWidth.2
    omega
  rw [checkedInteger, ok_bind]
  exact if_neg inside

theorem checkedInteger_error {value : Int} {name : String} {bytes : Nat} {unsigned : Bool}
    (outside : ¬InWidth bytes unsigned value) :
    checkedInteger (.ok value) name bytes unsigned =
      .error (integerRangeError value name (integerRange bytes unsigned) unsigned) := by
  have above : value < (integerRange bytes unsigned).1 ∨
      (integerRange bytes unsigned).2 < value := by
    rw [InWidth] at outside
    omega
  rw [checkedInteger, ok_bind]
  exact if_pos above

/-! ## Sending -/

section Sending

variable {settings : RequestSettings} {timezone : String} {jsonAsString : Bool}
  {numberText : UInt64 → String} {type : Types} {bytes : Nat} {name : String}
  {isInteger : INTEGER_BYTES type = some (bytes, name)} {unsigned : Bool}

/-- What is sent for a value that a factory gets. -/
def sendInteger (settings : RequestSettings) (timezone : String) (jsonAsString : Bool)
    (numberText : UInt64 → String) {type : Types} {bytes : Nat} {name : String}
    (isInteger : INTEGER_BYTES type = some (bytes, name)) (unsigned : Bool)
    (value : IntegerInput) : Except JsError Parameter := do
  encodeTypedParameter settings timezone jsonAsString
    (← integerFactory numberText isInteger unsigned value)

/-- The parameter of an integer. -/
def integerParameter (type : Types) (jsonAsString : Bool) (bytes : Nat) (unsigned : Bool)
    (value : Int) : Parameter where
  type := wireType type jsonAsString
  unsigned := unsigned
  isNull := false
  length := bytes
  write := .ok (twosComplement bytes value)

theorem encodeTypedParameter_integer (isInteger : INTEGER_BYTES type = some (bytes, name))
    {value : Int} (inWidth : InWidth bytes unsigned value)
    (fits : (TypedValue.integer (.ok value)).fits (encoderKind type) = true) :
    encodeTypedParameter settings timezone jsonAsString
        ⟨type, .integer (.ok value), unsigned, fits⟩ =
      .ok (integerParameter type jsonAsString bytes unsigned value) := by
  have kind : encoderKind type = some (.integer bytes name) := encoderKind_integer isInteger
  have encoded : encodeTyped settings timezone ⟨type, .integer (.ok value), unsigned, fits⟩ =
      .ok (bytes, .ok (twosComplement bytes value)) := by
    rw [encodeTyped]
    simp only [kind]
    rw [checkedInteger_ok inWidth]
    rfl
  unfold encodeTypedParameter
  split
  · next isNull =>
      cases isNull
      cases isInteger
  · next isNull _ => cases isNull
  · rw [encoded]
    rfl

theorem integerValue_of_ne_null {input : IntegerInput} (notNull : input ≠ .null) :
    integerValue numberText name bytes unsigned input =
      (checkedInteger (toInteger numberText name input) name bytes unsigned).map some := by
  cases input with
  | null => exact absurd rfl notNull
  | _ => rfl

/-- A value that is an integer is sent if it is in the width. -/
theorem sendInteger_of_toInteger {input : IntegerInput} {value : Int} (notNull : input ≠ .null)
    (toIntegerEq : toInteger numberText name input = .ok value) :
    sendInteger settings timezone jsonAsString numberText isInteger unsigned input =
      if InWidth bytes unsigned value then
        .ok (integerParameter type jsonAsString bytes unsigned value)
      else .error (integerRangeError value name (integerRange bytes unsigned) unsigned) := by
  rw [sendInteger, integerFactory, integerValue_of_ne_null notNull, toIntegerEq]
  by_cases inWidth : InWidth bytes unsigned value
  · rw [if_pos inWidth, checkedInteger_ok inWidth]
    exact encodeTypedParameter_integer isInteger inWidth _
  · rw [if_neg inWidth, checkedInteger_error inWidth]
    rfl

theorem sendInteger_of_error {input : IntegerInput} {error : JsError} (notNull : input ≠ .null)
    (toIntegerEq : toInteger numberText name input = .error error) :
    sendInteger settings timezone jsonAsString numberText isInteger unsigned input =
      .error error := by
  rw [sendInteger, integerFactory, integerValue_of_ne_null notNull, toIntegerEq]
  rfl

/-- The width is that of the type which is sent. -/
theorem wireType_width (isInteger : INTEGER_BYTES type = some (bytes, name)) (jsonAsString : Bool) :
    ∃ wireName, INTEGER_BYTES (wireType type jsonAsString) = some (bytes, wireName) := by
  revert isInteger
  cases type <;> intro isInteger <;> cases isInteger <;> exact ⟨_, rfl⟩

/-! ## Numbers -/

/-- The integer that a value is: a bigint, a boolean, or a number that is a safe integer. -/
def IntegerInput.IsNumeric (value : Int) : IntegerInput → Prop
  | .bigint integer => value = integer
  | .boolean flag => value = if flag then 1 else 0
  | .number double => safeIntegerBits double = some value
  | _ => False

theorem toInteger_of_isNumeric {input : IntegerInput} {value : Int}
    (isNumeric : input.IsNumeric value) : toInteger numberText name input = .ok value := by
  cases input with
  | bigint integer => rw [toInteger, show value = integer from isNumeric]
  | boolean flag => rw [toInteger, show value = if flag then 1 else 0 from isNumeric]
  | number double =>
      have safe : safeIntegerBits double = some value := isNumeric
      rw [toInteger, if_pos (isIntegerBits_of_safeInteger safe), safe]
  | null => exact isNumeric.elim
  | string text => exact isNumeric.elim
  | other typeOf => exact isNumeric.elim

/-- An integer is accepted if it has a place in the width of its type.  Its two's complement is
sent, in the width of the type that is sent, and with the sign of the factory. -/
theorem sendInteger_iff (settings : RequestSettings) (timezone : String) (jsonAsString : Bool)
    (numberText : UInt64 → String) {type : Types} {bytes : Nat} {name : String}
    (isInteger : INTEGER_BYTES type = some (bytes, name)) (unsigned : Bool) {input : IntegerInput}
    {value : Int} (isNumeric : input.IsNumeric value) :
    ((∃ parameter, sendInteger settings timezone jsonAsString numberText isInteger unsigned input =
        .ok parameter) ↔ InWidth bytes unsigned value) ∧
      ∀ parameter, sendInteger settings timezone jsonAsString numberText isInteger unsigned input =
        .ok parameter →
          parameter.type = wireType type jsonAsString ∧ parameter.unsigned = unsigned ∧
          parameter.isNull = false ∧ parameter.length = bytes ∧
          (∃ wireName, INTEGER_BYTES parameter.type = some (bytes, wireName)) ∧
          parameter.write = .ok (twosComplement bytes value) ∧
          ofTwosComplement unsigned (twosComplement bytes value) = value := by
  have notNull : input ≠ .null := by
    rintro rfl
    exact isNumeric
  rw [sendInteger_of_toInteger notNull (toInteger_of_isNumeric isNumeric)]
  have positive : 0 < bytes := by
    cases type <;> cases isInteger <;> decide
  by_cases inWidth : InWidth bytes unsigned value
  · rw [if_pos inWidth]
    refine ⟨⟨fun _ => inWidth, fun _ => ⟨_, rfl⟩⟩, ?_⟩
    rintro _ ⟨⟩
    exact ⟨rfl, rfl, rfl, rfl, wireType_width isInteger jsonAsString, rfl,
      ofTwosComplement_twosComplement positive inWidth⟩
  · rw [if_neg inWidth]
    refine ⟨⟨?_, fun inside => absurd inside inWidth⟩, ?_⟩
    · rintro ⟨_, ⟨⟩⟩
    · rintro _ ⟨⟩

/-- The settings of a plain connection. -/
def typedSettings : RequestSettings where
  encoding := .utf8
  hasFastUtf8Write := true
  queryAttributes := false
  timezone := "local"
  jsonAsString := false

theorem sendInteger_iff_least :
    ((∃ parameter, sendInteger typedSettings "local" false (fun _ => "")
        (show INTEGER_BYTES .YEAR = some (2, "YEAR") from rfl) false (.bigint (-32768)) =
        .ok parameter) ↔ InWidth 2 false (-32768)) ∧
      ∀ parameter, sendInteger typedSettings "local" false (fun _ => "")
        (show INTEGER_BYTES .YEAR = some (2, "YEAR") from rfl) false (.bigint (-32768)) =
        .ok parameter →
          parameter.type = .SHORT ∧ parameter.unsigned = false ∧ parameter.isNull = false ∧
          parameter.length = 2 ∧
          (∃ wireName, INTEGER_BYTES parameter.type = some (2, wireName)) ∧
          parameter.write = .ok (twosComplement 2 (-32768)) ∧
          ofTwosComplement false (twosComplement 2 (-32768)) = -32768 :=
  sendInteger_iff typedSettings "local" false (fun _ => "") rfl false rfl

/-- The factory of INT24 accepts values of four bytes, not of three. -/
theorem not_forall_int24 :
    ¬∀ (numberText : UInt64 → String) (value : Int),
      (∃ parameter, integerFactory numberText
        (show INTEGER_BYTES .INT24 = some (4, "INT24") from rfl) false (.bigint value) =
          .ok parameter) ↔ -2 ^ 23 ≤ value ∧ value < 2 ^ 23 := by
  intro inThreeBytes
  have accepted : ∃ parameter, integerFactory (fun _ => "")
      (show INTEGER_BYTES .INT24 = some (4, "INT24") from rfl) false (.bigint 8388608) =
        .ok parameter := ⟨_, rfl⟩
  have inside := (inThreeBytes (fun _ => "") 8388608).mp accepted
  exact absurd inside.2 (by decide)

/-! ## Strings -/

/-- A factory and the encoder take just the decimal numerals in the width, with white space around
them. -/
def TakesDecimals (settings : RequestSettings) (timezone : String) (jsonAsString : Bool)
    (numberText : UInt64 → String) {type : Types} {bytes : Nat} {name : String}
    (isInteger : INTEGER_BYTES type = some (bytes, name)) (unsigned : Bool) (text : JsString) :
    Prop :=
  (∀ value, IsDecimalNumeral (trim text) value → InWidth bytes unsigned value →
    ∃ parameter, sendInteger settings timezone jsonAsString numberText isInteger unsigned
        (.string text) = .ok parameter ∧
      parameter.isNull = false ∧ parameter.write = .ok (twosComplement bytes value)) ∧
  ((∀ value, IsDecimalNumeral (trim text) value → ¬InWidth bytes unsigned value) →
    ∃ error, sendInteger settings timezone jsonAsString numberText isInteger unsigned
      (.string text) = .error error)

theorem toInteger_string {text : JsString} {value : Int}
    (found : stringToBigInt (trim text) = some value) :
    toInteger numberText name (.string text) = .ok value := by
  rw [toInteger, found]

theorem zero_inWidth {type : Types} {bytes : Nat} {name : String}
    (isInteger : INTEGER_BYTES type = some (bytes, name)) (unsigned : Bool) :
    InWidth bytes unsigned 0 := by
  cases type <;> cases isInteger <;> cases unsigned <;> decide

/-- Strings are taken as decimal numerals unless they are empty, or literals with a radix for
values in the width. -/
theorem takesDecimals_iff (settings : RequestSettings) (timezone : String) (jsonAsString : Bool)
    (numberText : UInt64 → String) {type : Types} {bytes : Nat} {name : String}
    (isInteger : INTEGER_BYTES type = some (bytes, name)) (unsigned : Bool) (text : JsString) :
    TakesDecimals settings timezone jsonAsString numberText isInteger unsigned text ↔
      trim text ≠ [] ∧
        ∀ number : Nat, nonDecimal (trim text) = some number → ¬InWidth bytes unsigned number := by
  have notNull : IntegerInput.string text ≠ .null := by rintro ⟨⟩
  -- What is neither a decimal numeral nor out of the width must not be accepted.
  have rejected (value : Int) (takes : TakesDecimals settings timezone jsonAsString numberText
      isInteger unsigned text) (found : stringToBigInt (trim text) = some value)
      (notDecimal : ∀ value, ¬IsDecimalNumeral (trim text) value) :
      ¬InWidth bytes unsigned value := by
    intro inWidth
    obtain ⟨error, failed⟩ := takes.2 fun value isDecimal => absurd isDecimal (notDecimal value)
    rw [sendInteger_of_toInteger notNull (toInteger_string found), if_pos inWidth] at failed
    cases failed
  constructor
  · intro takes
    constructor
    · intro empty
      refine rejected 0 takes ?_ ?_ (zero_inWidth isInteger unsigned)
      · exact stringToBigInt_eq_some_iff.mpr (.inl ⟨by rw [trim_trim, empty], rfl⟩)
      · intro value isDecimal
        exact isDecimal.ne_nil empty
    · intro number radix
      refine rejected number takes ?_ ?_
      · exact stringToBigInt_eq_some_iff.mpr (.inr (.inl ⟨number, by rw [trim_trim, radix], rfl⟩))
      · intro value isDecimal
        rw [isDecimal.nonDecimal] at radix
        cases radix
  · rintro ⟨nonempty, notLiteral⟩
    constructor
    · intro value isDecimal inWidth
      have found : stringToBigInt (trim text) = some value :=
        stringToBigInt_eq_some_iff.mpr (.inr (.inr (by rw [trim_trim]; exact isDecimal)))
      rw [sendInteger_of_toInteger notNull (toInteger_string found), if_pos inWidth]
      exact ⟨_, rfl, rfl, rfl⟩
    · intro outside
      cases found : stringToBigInt (trim text) with
      | none =>
          have failed : toInteger numberText name (.string text) =
              .error (notIntegerError name (quoteJSONString text)) := by
            rw [toInteger, found]
          exact ⟨_, sendInteger_of_error notNull failed⟩
      | some value =>
          have notInWidth : ¬InWidth bytes unsigned value := by
            have cases := stringToBigInt_eq_some_iff.mp found
            rw [trim_trim] at cases
            rcases cases with ⟨empty, -⟩ | ⟨number, radix, rfl⟩ | isDecimal
            · exact absurd empty nonempty
            · exact notLiteral number radix
            · exact outside value isDecimal
          rw [sendInteger_of_toInteger notNull (toInteger_string found), if_neg notInWidth]
          exact ⟨_, rfl⟩

theorem takesDecimals_iff_hexadecimal :
    TakesDecimals typedSettings "local" false (fun _ => "")
        (show INTEGER_BYTES .TINY = some (1, "TINY") from rfl) false (units "0x7f") ↔
      trim (units "0x7f") ≠ [] ∧
        ∀ number : Nat, nonDecimal (trim (units "0x7f")) = some number →
          ¬InWidth 1 false number :=
  takesDecimals_iff typedSettings "local" false (fun _ => "") rfl false (units "0x7f")

/-- A string of blanks is sent as zero. -/
theorem blanks_not_takesDecimals :
    ¬TakesDecimals typedSettings "local" false (fun _ => "")
      (show INTEGER_BYTES .LONG = some (4, "LONG") from rfl) false (units "  ") := by
  rintro ⟨-, rejects⟩
  have noNumeral : ∀ value, IsDecimalNumeral (trim (units "  ")) value →
      ¬InWidth 4 false value := fun value isDecimal => absurd rfl isDecimal.ne_nil
  obtain ⟨error, failed⟩ := rejects noNumeral
  cases failed

end Sending

end Mysql2.Packets

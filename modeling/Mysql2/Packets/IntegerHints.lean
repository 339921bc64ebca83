import Mysql2.Packets.TypedIntegers

/-!
# Hints for integers

A hint of a server changes the type in which an integer is sent, and not the integer.
-/

namespace Mysql2.Packets

open Mysql2.Script

/-! ## Numbers that are sent -/

/-- A number is given by its bits, and by the safe integer that these stand for. -/
def JsValue.IsValue : JsValue → Prop
  | .number double safeInteger => safeInteger = safeIntegerBits double
  | _ => True

/-- The number that the bytes of an integer or of a double stand for. -/
def Parameter.number? (parameter : Parameter) : Option ℚ :=
  match parameter.write with
  | .error _ => none
  | .ok bytes =>
      if parameter.type = .DOUBLE then bitsValue (UInt64.ofNat (uintLE bytes))
      else (INTEGER_BYTES parameter.type).map fun _ => (ofTwosComplement parameter.unsigned bytes : ℚ)

/-- An integer is sent: as a number, or as a decimal text. -/
inductive SendsInteger (settings : RequestSettings) (n : Int) (parameter : Parameter) : Prop
  | double (type : parameter.type = .DOUBLE) (number : parameter.number? = some (n : ℚ))
  | tiny (type : parameter.type = .TINY) (number : parameter.number? = some (n : ℚ))
  | text (type : parameter.type = .VAR_STRING) (string : JsString)
      (encoded : encodeString settings string = .ok (parameter.length, parameter.write))
      (number : stringToBigInt string = some n)

/-! ## Hints -/

/-- The integer that a hint may be adopted for. -/
def hintedInteger : JsValue → Option Int
  | .bigint value => some value
  | .boolean value => some (if value then 1 else 0)
  | .number _ safeInteger => safeInteger
  | _ => none

/-- A hint that is adopted is for an integer that fits. -/
theorem integerHint_eq_some {value : JsValue} {hint : ColumnDefinition} {hinted : TypedParameter}
    (adopted : integerHint value hint = some hinted) :
    ∃ (n : Int) (code : Nat) (type : Types) (bytes : Nat)
      (fits : (TypedValue.integer (.ok n)).fits (encoderKind type) = true),
      hintedInteger value = some n ∧ hint.columnType = some code ∧
      HINT_UPGRADABLE code = some (type, bytes) ∧
      InWidth bytes (hasFlag hint.flags 0x20) n ∧
      hinted = ⟨type, .integer (.ok n), hasFlag hint.flags 0x20, fits⟩ := by
  unfold integerHint at adopted
  dsimp only at adopted
  split at adopted
  · next integer type bytes isInteger upgradable =>
      split at adopted
      · cases adopted
      · next inside =>
          obtain ⟨code, columnType, found⟩ := Option.bind_eq_some_iff.mp upgradable
          obtain rfl := Option.some.inj adopted
          have inWidth : InWidth bytes (hasFlag hint.flags 0x20) integer := by
            rw [InWidth]
            omega
          refine ⟨integer, code, type, bytes, _, ?_, columnType, found, inWidth, rfl⟩
          rw [← isInteger]
          cases value <;> rfl
  · cases adopted

/-- The types of hints are integer types, which are sent as they are. -/
theorem upgradable_integer {code : Nat} {type : Types} {bytes : Nat}
    (upgradable : HINT_UPGRADABLE code = some (type, bytes)) (jsonAsString : Bool) :
    (∃ name, INTEGER_BYTES type = some (bytes, name)) ∧ wireType type jsonAsString = type := by
  unfold HINT_UPGRADABLE at upgradable
  split at upgradable <;> cases upgradable <;> exact ⟨⟨_, rfl⟩, rfl⟩

theorem number_integerParameter {type : Types} {bytes : Nat} {name : String} {unsigned : Bool}
    {n : Int} (isInteger : INTEGER_BYTES type = some (bytes, name)) (jsonAsString : Bool)
    (inWidth : InWidth bytes unsigned n) :
    (integerParameter type jsonAsString bytes unsigned n).number? = some (n : ℚ) := by
  obtain ⟨wireName, wire⟩ := wireType_width isInteger jsonAsString
  have notDouble : wireType type jsonAsString ≠ .DOUBLE := by
    intro isDouble
    rw [isDouble] at wire
    cases wire
  have positive : 0 < bytes := by
    cases type <;> cases isInteger <;> decide
  rw [Parameter.number?, integerParameter]
  dsimp only
  rw [if_neg notDouble, wire, ofTwosComplement_twosComplement positive inWidth]
  rfl

/-- Without a hint, an integer is sent as a double, a byte or a text. -/
theorem sendsInteger_inferParameter {settings : RequestSettings} {timezone : String}
    {jsonAsString : Bool} {value : JsValue} {n : Int} {parameter : Parameter}
    (isValue : value.IsValue) (isInteger : hintedInteger value = some n)
    (inferred : inferParameter settings timezone jsonAsString value = .ok parameter) :
    parameter.isNull = false ∧ SendsInteger settings n parameter := by
  cases value with
  | bigint integer =>
      obtain rfl := Option.some.inj isInteger
      obtain ⟨⟨length, write⟩, encoded, rfl⟩ := map_eq_ok_iff.mp inferred
      exact ⟨rfl, .text rfl _ encoded (stringToBigInt_toString integer)⟩
  | boolean flag =>
      obtain rfl := Option.some.inj isInteger
      cases inferred
      refine ⟨rfl, .tiny rfl ?_⟩
      cases flag <;> decide
  | number double safeInteger =>
      cases inferred
      refine ⟨rfl, .double rfl ?_⟩
      have safe : safeIntegerBits double = some n := by
        rw [← isInteger]
        exact isValue.symm
      have bits : UInt64.ofNat (uintLE (writeUIntLE double.toNat 8)) = double := by
        rw [uintLE_writeUIntLE_of_lt double.toNat_lt, UInt64.ofNat_toNat]
      rw [Parameter.number?]
      dsimp only
      rw [if_pos rfl, bits, bitsValue_of_safeInteger safe]
  | _ => cases isInteger

/-- With a hint, a value is sent as without it, or an integer is sent in the type of the hint. -/
theorem toParameter_hint (settings : RequestSettings) (timezone : String) (jsonAsString : Bool)
    {value : JsValue} (isValue : value.IsValue) (hint : ColumnDefinition) :
    (∀ error, toParameter settings timezone jsonAsString value (some hint) = .error error →
      toParameter settings timezone jsonAsString value none = .error error) ∧
    ∀ hinted plain, toParameter settings timezone jsonAsString value (some hint) = .ok hinted →
      toParameter settings timezone jsonAsString value none = .ok plain →
        hinted.isNull = plain.isNull ∧
        (hinted = plain ∨
          ∃ (n : Int) (code bytes : Nat), hint.columnType = some code ∧
            HINT_UPGRADABLE code = some (hinted.type, bytes) ∧
            hinted.unsigned = hasFlag hint.flags 0x20 ∧
            hinted.write = .ok (twosComplement bytes n) ∧ hinted.number? = some (n : ℚ) ∧
            SendsInteger settings n plain) := by
  have plainEq : toParameter settings timezone jsonAsString value none =
      inferParameter settings timezone jsonAsString value := rfl
  cases adopted : integerHint value hint with
  | none =>
      have same : toParameter settings timezone jsonAsString value (some hint) =
          inferParameter settings timezone jsonAsString value := by
        rw [toParameter, Option.bind_some, adopted]
      rw [plainEq, same]
      refine ⟨fun error failed => failed, fun hinted plain hintedEq inferred => ?_⟩
      cases hintedEq.symm.trans inferred
      exact ⟨rfl, .inl rfl⟩
  | some parameter =>
      obtain ⟨n, code, type, bytes, fits, isInteger, columnType, upgradable, inWidth, rfl⟩ :=
        integerHint_eq_some adopted
      obtain ⟨⟨name, integerType⟩, wire⟩ := upgradable_integer upgradable jsonAsString
      have hintedEq : toParameter settings timezone jsonAsString value (some hint) =
          .ok (integerParameter type jsonAsString bytes (hasFlag hint.flags 0x20) n) := by
        rw [toParameter, Option.bind_some, adopted]
        exact encodeTypedParameter_integer integerType inWidth fits
      rw [plainEq, hintedEq]
      constructor
      · rintro error ⟨⟩
      · rintro hinted plain ⟨⟩ inferred
        obtain ⟨notNull, sends⟩ := sendsInteger_inferParameter isValue isInteger inferred
        refine ⟨notNull.symm, .inr ⟨n, code, bytes, columnType, ?_, rfl, rfl, ?_, sends⟩⟩
        · show HINT_UPGRADABLE code = some (wireType type jsonAsString, bytes)
          rw [wire, upgradable]
        · exact number_integerParameter integerType jsonAsString inWidth

/-- A hint for `BIGINT`. -/
def bigintHint : ColumnDefinition where
  catalog := []
  schema := []
  table := []
  orgTable := []
  name := "?"
  orgName := []
  characterSet := 63
  encoding := some "binary"
  columnLength := 21
  columnType := some 0x08
  flags := 0x80
  decimals := some 0
  extendedTypeName := none
  extendedFormat := none

theorem toParameter_hint_bigint :
    (∀ error, toParameter typedSettings "local" false (.bigint 1) (some bigintHint) = .error error →
      toParameter typedSettings "local" false (.bigint 1) none = .error error) ∧
    ∀ hinted plain,
      toParameter typedSettings "local" false (.bigint 1) (some bigintHint) = .ok hinted →
      toParameter typedSettings "local" false (.bigint 1) none = .ok plain →
        hinted.isNull = plain.isNull ∧
        (hinted = plain ∨
          ∃ (n : Int) (code bytes : Nat), bigintHint.columnType = some code ∧
            HINT_UPGRADABLE code = some (hinted.type, bytes) ∧
            hinted.unsigned = hasFlag bigintHint.flags 0x20 ∧
            hinted.write = .ok (twosComplement bytes n) ∧ hinted.number? = some (n : ℚ) ∧
            SendsInteger typedSettings n plain) :=
  toParameter_hint typedSettings "local" false (show (JsValue.bigint 1).IsValue from trivial)
    bigintHint

/-- Without a hint, a bigint is sent neither as a double nor as a byte. -/
theorem not_forall_doubleOrTiny :
    ¬∀ (value : JsValue) (hint : ColumnDefinition) (hinted plain : Parameter), value.IsValue →
      toParameter typedSettings "local" false value (some hint) = .ok hinted →
      toParameter typedSettings "local" false value none = .ok plain →
        hinted = plain ∨ plain.type = .DOUBLE ∨ plain.type = .TINY := by
  intro doubleOrTiny
  have same := doubleOrTiny (.bigint 1) bigintHint _ _ trivial rfl rfl
  rcases same with equal | isDouble | isTiny
  · have types := congrArg Parameter.type equal
    cases types
  · cases isDouble
  · cases isTiny

end Mysql2.Packets

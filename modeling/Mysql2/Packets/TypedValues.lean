import Mysql2.Packets.Parameters
import Mysql2.Script.BigInts
import Mysql2.Script.Doubles
import Mysql2.Script.Number

/-!
# Values of typed parameters

What `toTimeParts` and `toInteger` make of a value, and the factories of integer parameters.
Arithmetic on a number of milliseconds is exact here.
-/

namespace Mysql2.Packets

open Mysql2.Script

/-! ## Quoted strings -/

/-- A code unit that is no part of a pair, between the quotes. -/
def quoteUnit (unit : UInt16) : List Char :=
  let code := unit.toNat
  let backslash := Char.ofNat 0x5c
  if code = 0x08 then [backslash, 'b']
  else if code = 0x09 then [backslash, 't']
  else if code = 0x0a then [backslash, 'n']
  else if code = 0x0c then [backslash, 'f']
  else if code = 0x0d then [backslash, 'r']
  else if code = 0x22 ∨ code = 0x5c then [backslash, Char.ofNat code]
  else if code < 0x20 ∨ isLead unit ∨ isTrail unit then
    let digits := Nat.toDigits 16 code
    [backslash, 'u'] ++ List.replicate (4 - digits.length) '0' ++ digits
  else [Char.ofNat code]

/-- The characters of a string between the quotes. -/
def quoteUnits : JsString → List Char
  | [] => []
  | [unit] => quoteUnit unit
  | first :: second :: rest =>
      if isLead first ∧ isTrail second then
        Char.ofNat (0x10000 + (first.toNat - 0xd800) * 0x400 + (second.toNat - 0xdc00)) ::
          quoteUnits rest
      else quoteUnit first ++ quoteUnits (second :: rest)

/-- `JSON.stringify` of a string. -/
def quoteJSONString (text : JsString) : String :=
  let quote := Char.ofNat 0x22
  String.ofList (quote :: (quoteUnits text ++ [quote]))

/-! ## Times -/

/-- What `TIME_PATTERN` captures: the sign, and digits. -/
structure TimeMatch where
  negative : Bool
  hours : List (Fin 10)
  minutes : List (Fin 10)
  seconds : List (Fin 10)
  fraction : Option (List (Fin 10))
  deriving DecidableEq, Repr

/-- `[0-5]?\d`. -/
def isSexagesimal : List (Fin 10) → Bool
  | [_] => true
  | [tens, _] => tens.val ≤ 5
  | _ => false

/-- The lengths and the first digits that the pattern asks for. -/
def TimeMatch.isTime (time : TimeMatch) : Bool :=
  !time.hours.isEmpty && isSexagesimal time.minutes && isSexagesimal time.seconds &&
    time.fraction.all fun digits => 1 ≤ digits.length && digits.length ≤ 6

/-- A string behind a code unit. -/
def behindUnit (unit : UInt16) : JsString → Option JsString
  | [] => none
  | first :: rest => if first = unit then some rest else none

/-- `-`, `:` and `.` -/
def minusUnit : UInt16 := 0x2d

def colonUnit : UInt16 := 0x3a

def pointUnit : UInt16 := 0x2e

/-- `^(-)?` and what is behind it. -/
def signMatch : JsString → Bool × JsString
  | [] => (false, [])
  | unit :: text => if unit = minusUnit then (true, text) else (false, unit :: text)

/-- `(?:\.(\d{1,6}))?$`, for any number of digits. -/
def fractionMatch : JsString → Option (Option (List (Fin 10)))
  | [] => some none
  | unit :: text =>
      if unit = pointUnit ∧ (spanDigits 10 text).2 = [] then some (some (spanDigits 10 text).1)
      else none

/-- `TIME_PATTERN.exec(text)`. -/
def TIME_PATTERN (text : JsString) : Option TimeMatch := do
  let sign := signMatch text
  let hours := spanDigits 10 sign.2
  let minutes := spanDigits 10 (← behindUnit colonUnit hours.2)
  let seconds := spanDigits 10 (← behindUnit colonUnit minutes.2)
  let fraction ← fractionMatch seconds.2
  let time : TimeMatch := ⟨sign.1, hours.1, minutes.1, seconds.1, fraction⟩
  if time.isTime then some time else none

/-- `Number(text)` of digits.  Doubles of more than 1024 bits are infinite. -/
def numberOfDigits (digits : List (Fin 10)) : WholeNumber :=
  let rounded := roundNat (numeral digits)
  if rounded.log2 < 1024 then .finite rounded else .infinity

/-- `Math.floor(hours / 24)`. -/
def WholeNumber.floorDays : WholeNumber → WholeNumber
  | .nan => .nan
  | .finite hours => .finite ⌊nearest (hours / 24)⌋.toNat
  | .infinity => .infinity

/-- `hours % 24`. -/
def WholeNumber.hourOfDay : WholeNumber → WholeNumber
  | .finite hours => .finite (hours % 24)
  | _ => .nan

/-- `digits.padEnd(6, '0')`. -/
def padEnd (digits : List (Fin 10)) : List (Fin 10) :=
  digits ++ List.replicate (6 - digits.length) zeroDigit

/-- The parts of a text that matches. -/
def TimeMatch.parts (time : TimeMatch) : TimeParts :=
  let hours := numberOfDigits time.hours
  { negative := time.negative
    days := hours.floorDays
    hours := hours.hourOfDay
    minutes := numberOfDigits time.minutes
    seconds := numberOfDigits time.seconds
    microseconds :=
      match time.fraction with
      | none => .finite 0
      | some digits => numberOfDigits (padEnd digits) }

/-- `dividend % divisor`, for a dividend that is not negative. -/
def remainder (dividend divisor : ℚ) : ℚ :=
  dividend - divisor * ⌊dividend / divisor⌋

/-- `Math.round(value)`. -/
def mathRound (value : ℚ) : Int :=
  ⌊value + 1 / 2⌋

/-- The parts of a number of milliseconds. -/
def numberTimeParts (value : ℚ) : TimeParts :=
  let rest := |value|
  let microseconds := mathRound (remainder rest 1000 * 1000)
  let wholeSeconds := ⌊rest / 1000⌋.toNat
  let totalHours := wholeSeconds / 3600
  { negative := value < 0
    days := .finite (totalHours / 24)
    hours := .finite (totalHours % 24)
    minutes := .finite (wholeSeconds / 60 % 60)
    seconds := .finite (wholeSeconds % 60)
    microseconds := .finite microseconds.toNat }

/-- A value for a time: a number, or what `String` makes of another value. -/
inductive TimeInput
  | number (value : ℚ)
  | nan
  | infinity (negative : Bool)
  | string (text : JsString)

/-- The error of a text that is no time. -/
def timeError (text : JsString) : JsError :=
  .new ("TIME parameter must be 'HH:MM:SS[.ffffff]' or milliseconds, got " ++ quoteJSONString text)

/-- `toTimeParts(value)`. -/
def toTimeParts : TimeInput → Except JsError TimeParts
  | .number value => .ok (numberTimeParts value)
  | .nan => .ok ⟨false, .nan, .nan, .nan, .nan, .nan⟩
  | .infinity negative => .ok ⟨negative, .infinity, .nan, .nan, .nan, .nan⟩
  | .string text =>
      match TIME_PATTERN text with
      | none => .error (timeError text)
      | some time => .ok time.parts

/-! ## Integers -/

/-- A value for an integer.  `other` are the values of the types that are not accepted, given by
`typeof`. -/
inductive IntegerInput
  | null
  | bigint (value : Int)
  | boolean (value : Bool)
  | number (double : UInt64)
  | string (text : JsString)
  | other (typeOf : String)

/-- The error of a value that is no integer. -/
def notIntegerError (name got : String) : JsError :=
  .new (name ++ " parameter must be an integer, got " ++ got)

/-- The error of a number that is too large to be exact. -/
def unsafeIntegerError (name got : String) : JsError :=
  .new (name ++ " parameter " ++ got ++ " exceeds Number.MAX_SAFE_INTEGER and has already lost " ++
    "precision; pass a string or BigInt instead")

/-- `toInteger(value, name)`, where `numberText` makes the text of a number. -/
def toInteger (numberText : UInt64 → String) (name : String) :
    IntegerInput → Except JsError Int
  | .bigint value => .ok value
  | .boolean value => .ok (if value then 1 else 0)
  | .number double =>
      if isIntegerBits double then
        match safeIntegerBits double with
        | some value => .ok value
        | none => .error (unsafeIntegerError name (numberText double))
      else
        .error (notIntegerError name (numberText double))
  | .string text =>
      match stringToBigInt (trim text) with
      | some value => .ok value
      | none => .error (notIntegerError name (quoteJSONString text))
  | .null => .error (notIntegerError name "object")
  | .other typeOf => .error (notIntegerError name typeOf)

theorem encoderKind_integer {type : Types} {bytes : Nat} {name : String}
    (isInteger : INTEGER_BYTES type = some (bytes, name)) :
    encoderKind type = some (.integer bytes name) := by
  unfold encoderKind
  rw [isInteger]

theorem fits_integer {type : Types} {bytes : Nat} {name : String}
    (isInteger : INTEGER_BYTES type = some (bytes, name)) (toInteger : Except JsError Int) :
    (TypedValue.integer toInteger).fits (encoderKind type) = true := by
  rw [encoderKind_integer isInteger]
  rfl

theorem fits_null (kind : Option EncoderKind) : TypedValue.null.fits kind = true := by
  cases kind <;> rfl

/-- The value that a factory of integer parameters gives its parameter. -/
def integerValue (numberText : UInt64 → String) (name : String) (bytes : Nat) (unsigned : Bool) :
    IntegerInput → Except JsError (Option Int)
  | .null => .ok none
  | value => (checkedInteger (toInteger numberText name value) name bytes unsigned).map some

/-- `types[name](value)` and `types[name].unsigned(value)`. -/
def integerFactory (numberText : UInt64 → String) {type : Types} {bytes : Nat} {name : String}
    (isInteger : INTEGER_BYTES type = some (bytes, name)) (unsigned : Bool)
    (value : IntegerInput) : Except JsError TypedParameter :=
  (integerValue numberText name bytes unsigned value).map fun
    | none => ⟨type, .null, unsigned, fits_null _⟩
    | some value => ⟨type, .integer (.ok value), unsigned, fits_integer isInteger _⟩

end Mysql2.Packets

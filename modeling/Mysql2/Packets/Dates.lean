import Mysql2.Packets.Integers

/-!
# Dates and times of columns

The readers of `DATE`, `DATETIME`, `TIMESTAMP` and `TIME` columns.  A time zone
is absent, empty, `local`, `Z`, an offset, or another string, which ends up in
a text that the `Date` constructor parses.
-/

namespace Mysql2.Packets

open Mysql2.Script

/-- `!timezone || timezone === 'local'`. -/
def isLocal : Option JsString → Bool
  | none => true
  | some timezone => timezone = [] ∨ timezone = units "local"

/-- `timezone === 'Z'`. -/
def isUTC (timezone : Option JsString) : Bool :=
  timezone = some (units "Z")

/-- A text followed by the time zone, as a template literal writes it. -/
def withTimezone (text : String) (timezone : Option JsString) : JsString :=
  units text ++ timezone.getD (units "undefined")

/-- `leftPad(num, value)`, on the text of the value. -/
def leftPad (num : Nat) (text : String) : String :=
  String.ofList (List.replicate (num - text.length) '0') ++ text

/-- `value.toString()` of a number. -/
def numberText : Option Int → String
  | none => "NaN"
  | some value => toString value

/-- The value of a decimal digit, `NaN` for a missing byte. -/
def digitValue (bytes : Bytes) (index : Nat) : Option Int :=
  bytes[index]?.map fun byte => byte.toNat - 48

/-- The number that `count` decimal digits make. -/
def digitsValue (bytes : Bytes) (first : Nat) : Nat → Option Int
  | 0 => some 0
  | count + 1 => do
      return (← digitsValue bytes first count) * 10 + (← digitValue bytes (first + count))

/-- `timezoneOffsetMinutes(timezone)`. -/
def timezoneOffsetMinutes (timezone : JsString) : Option Int :=
  match timezone with
  | [sign, hours1, hours0, colon, minutes1, minutes0] =>
      let isDigit (unit : UInt16) : Bool := 48 ≤ unit.toNat ∧ unit.toNat ≤ 57
      let value (unit : UInt16) : Int := unit.toNat - 48
      if (sign = 43 ∨ sign = 45) ∧ colon = 58 ∧
          isDigit hours1 ∧ isDigit hours0 ∧ isDigit minutes1 ∧ isDigit minutes0 then
        some ((if sign = 45 then -1 else 1) *
          ((value hours1 * 10 + value hours0) * 60 + (value minutes1 * 10 + value minutes0)))
      else
        none
  | _ => none

/-- The time value that `new Date(value)` keeps. -/
def timeClip (value : Int) : Option Int :=
  if value.natAbs ≤ 8640000000000000 then some value else none

/-- The value of a number, for one that `parseInt` has made. -/
def Value.toNumber {α : Type} : Value α → Option Int
  | .number value => some value
  | _ => none

namespace Packet

variable {α : Type}

/-! ## Text protocol -/

/-- `parseDate(timezone)`.  A text of another length is left unread. -/
def parseDate (runtime : Runtime α) (timezone : Option JsString) : Reader (Value α) := do
  match ← readLengthCodedNumber false false with
  | .null => return .null
  | len =>
      if len ≠ .number 10 then
        return .date none
      else
        let y ← parseInt runtime (.number 4) false
        skip 1
        let m ← parseInt runtime (.number 2) false
        skip 1
        let d ← parseInt runtime (.number 2) false
        let arguments : DateArguments :=
          ⟨y.toNumber, m.toNumber, d.toNumber, some 0, some 0, some 0, some 0⟩
        if isLocal timezone then
          return .date (runtime.localTime arguments)
        else if isUTC timezone then
          return .date (runtime.utcTime arguments)
        else
          let year := leftPad 4 (numberText y.toNumber)
          let month := leftPad 2 (numberText m.toNumber)
          let day := leftPad 2 (numberText d.toNumber)
          let text := year ++ "-" ++ month ++ "-" ++ day ++ "T00:00:00"
          return .date (runtime.dateParse (withTimezone text timezone))

/-- The loop over the fraction of a second, of which the first three digits
count, in milliseconds. -/
def fraction (bytes : Bytes) (len : Nat) : Option Int :=
  if 20 < len then
    let count := min 3 (len - 20)
    (digitsValue bytes 20 count).map (· * 10 ^ (3 - count))
  else
    some 0

/-- `new Date(text)`, or of the text followed by the time zone. -/
def parsedDate (runtime : Runtime α) (text : String) (timezone : Option JsString) : Value α :=
  if isLocal timezone then .date (runtime.dateParse (units text))
  else .date (runtime.dateParse (withTimezone text timezone))

/-- What `parseDateTime` makes of a text that has the wire format. -/
def dateTimeValue (runtime : Runtime α) (bytes : Bytes) (len : Nat)
    (timezone : Option JsString) : Value α :=
  let text := latin1 (bytes.take len)
  let y := digitsValue bytes 0 4
  let mo := digitsValue bytes 5 2
  let d := digitsValue bytes 8 2
  if mo = some 0 ∨ d = some 0 ∨ mo.any (12 < ·) ∨ d.any (31 < ·) then
    .date none
  else if y.any (· < 100) then
    parsedDate runtime text timezone
  else
    let arguments : DateArguments :=
      ⟨y, mo, d, digitsValue bytes 11 2, digitsValue bytes 14 2, digitsValue bytes 17 2,
        (fraction bytes len).map (· * 1000)⟩
    if isLocal timezone then
      .date (runtime.localTime arguments)
    else if isUTC timezone then
      .date (runtime.utcTime arguments)
    else
      match timezoneOffsetMinutes (timezone.getD []) with
      | some offsetMinutes =>
          .date ((runtime.utcTime arguments).bind fun utc => timeClip (utc - offsetMinutes * 60000))
      | none => .date (runtime.dateParse (withTimezone text timezone))

/-- `parseDateTime(timezone)`. -/
def parseDateTime (runtime : Runtime α) (timezone : Option JsString) : Reader (Value α) := do
  match ← readLengthCodedNumber false false with
  | .null => return .null
  | len =>
      let len := len.toNat
      let bytes := (← get).ahead
      skip len
      if 19 ≤ len ∧ bytes[4]? = some 0x2d ∧ bytes[7]? = some 0x2d ∧
          bytes[13]? = some 0x3a ∧ bytes[16]? = some 0x3a then
        return dateTimeValue runtime bytes len timezone
      else
        return parsedDate runtime (latin1 (bytes.take len)) timezone

/-! ## Binary protocol -/

/-- Fields of a date that a packet carries, with `none` for a missing byte. -/
structure DateTimeFields where
  year : Nat
  month : Option Nat
  day : Option Nat
  hours : Option Nat
  minutes : Option Nat
  seconds : Option Nat
  deriving DecidableEq, Repr

/-- The length byte and the fields up to the fraction of a second. -/
def readDateTimeFields : Reader (Option Nat × DateTimeFields) := do
  let length ← readInt8
  let mut fields : DateTimeFields := ⟨0, some 0, some 0, some 0, some 0, some 0⟩
  if length.any (3 < ·) then
    fields := { fields with
      year := ← readInt16
      month := ← readInt8
      day := ← readInt8 }
  if length.any (6 < ·) then
    fields := { fields with
      hours := ← readInt8
      minutes := ← readInt8
      seconds := ← readInt8 }
  return (length, fields)

/-- `value.toString()` of a byte, where a missing one throws. -/
def byteText : Option Nat → Except JsError String
  | none => .error .typeError
  | some byte => .ok (toString byte)

/-- `readDateTimeString(decimals, timeSep, columnType)`. -/
def readDateTimeString (decimals : Nat) (timeSep : String) (columnType : Option Nat) :
    Reader String := do
  let (length, fields) ← readDateTimeFields
  let mut str := "0000-00-00"
  if length.any (3 < ·) then
    str := leftPad 4 (toString fields.year) ++ "-" ++ leftPad 2 (← byteText fields.month) ++ "-" ++
      leftPad 2 (← byteText fields.day)
  if length.any (6 < ·) then
    str := str ++ timeSep ++ leftPad 2 (← byteText fields.hours) ++ ":" ++
      leftPad 2 (← byteText fields.minutes) ++ ":" ++ leftPad 2 (← byteText fields.seconds)
  else if columnType = some 0x0c ∨ columnType = some 0x07 then
    str := str ++ " 00:00:00"
  if length.any (10 < ·) then
    let ms := toString (← readInt32)
    let digits :=
      if decimals = 0 then ms else String.ofList ((leftPad 6 ms).toList.take decimals)
    str := str ++ "." ++ digits
  return str

/-- `readDateTime(timezone)`. -/
def readDateTime (runtime : Runtime α) (timezone : Option JsString) : Reader (Value α) := do
  if isLocal timezone ∨ isUTC timezone then
    if (← get).peekByte = some 0xfb then
      skip 1
      return .null
    else
      let (length, fields) ← readDateTimeFields
      let mut micros := 0
      if length.any (10 < ·) then
        micros ← readInt32
      if fields = ⟨0, some 0, some 0, some 0, some 0, some 0⟩ ∧ micros = 0 then
        return .date none
      else
        let arguments : DateArguments :=
          ⟨some fields.year, fields.month.map (↑), fields.day.map (↑), fields.hours.map (↑),
            fields.minutes.map (↑), fields.seconds.map (↑), some micros⟩
        if isUTC timezone then
          return .date (runtime.utcTime arguments)
        else
          return .date (runtime.localTime arguments)
  else
    let str ← readDateTimeString 6 "T" none
    if "0000-00-00".toList.isPrefixOf str.toList then
      return .date none
    else if str.length = 10 then
      return .date (runtime.dateParse (withTimezone (str ++ "T00:00:00") timezone))
    else
      return .date (runtime.dateParse (withTimezone str timezone))

/-- `readTimeString()`. -/
def readTimeString : Reader String := do
  let length ← readInt8
  if length = some 0 then
    return "00:00:00"
  else
    let sign ← readInt8
    let mut d := 0
    let mut H := some 0
    let mut M := some 0
    let mut S := some 0
    let mut ms := 0
    if length.any (6 < ·) then
      d ← readInt32
      H ← readInt8
      M ← readInt8
      S ← readInt8
    if length.any (10 < ·) then
      ms ← readInt32
    let minutes ← byteText M
    let seconds ← byteText S
    let hours := leftPad 2 (toString (d * 24 + H.getD 0))
    let fractionDigits := (leftPad 6 (toString ms)).toList.reverse.dropWhile (· = '0')
    let fractionText := if ms = 0 then "" else "." ++ String.ofList fractionDigits.reverse
    return (if sign.any (· ≠ 0) then "-" else "") ++ hours ++ ":" ++ leftPad 2 minutes ++ ":" ++
      leftPad 2 seconds ++ fractionText

end Packet

/-! ## A process in UTC -/

/-- `daysFromCivil(year, month, day)`: days since 1970-01-01. -/
def daysFromCivil (year month day : Int) : Int :=
  let y := if month ≤ 2 then year - 1 else year
  let era := y / 400
  let yearOfEra := y - era * 400
  let dayOfYear := (153 * ((month + 9) % 12) + 2) / 5 + day - 1
  let dayOfEra := yearOfEra * 365 + yearOfEra / 4 - yearOfEra / 100 + dayOfYear
  era * 146097 + dayOfEra - 719468

/-- The time value of UTC wall time, for a month in 1..12. -/
def civilTime (arguments : DateArguments) : Option Int := do
  let days := daysFromCivil (← arguments.year) (← arguments.month) (← arguments.day)
  let minutes := (days * 24 + (← arguments.hours)) * 60 + (← arguments.minutes)
  timeClip ((minutes * 60 + (← arguments.seconds)) * 1000 + (← arguments.microseconds) / 1000)

/-- A runtime in UTC, for data without floating point numbers, JSON and dates
that are parsed from a text. -/
def utcRuntime : Runtime Unit where
  decode _ bytes := .ok (latin1 bytes)
  errorCodeToName _ := none
  charsetToEncoding _ := none
  decode_binary _ := rfl
  toNumber _ := .nan
  decimal _ := .nan
  readFloatLE _ := ()
  readDoubleLE _ := ()
  geometry _ := .ok .null
  jsonParse _ _ := .ok .null
  jsonParse_null _ := rfl
  jsonSourceAccessSupported := true
  localTime := civilTime
  utcTime := civilTime
  dateParse _ := none
  isObject _ := false
  truthy _ := false

end Mysql2.Packets

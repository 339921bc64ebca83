import Mysql2.Packets.Values

/-!
# Integers of columns

The signed and the 64-bit readers of the binary protocol, and the parsers of the
decimal texts of the text protocol.
-/

namespace Mysql2.Packets

open Mysql2.Script

/-- The number whose two's complement in `bits` bits is given. -/
def toSigned (bits n : Nat) : Int :=
  if n < 2 ^ (bits - 1) then n else n - 2 ^ bits

/-- The bytes of an integer's residue stand for it. -/
theorem uintLE_writeUIntLE_emod (bytes : Nat) (value : Int) :
    uintLE (writeUIntLE (value % 2 ^ (8 * bytes)).toNat bytes) =
      (value % 2 ^ (8 * bytes)).toNat := by
  have power : (256 : Nat) ^ bytes = 2 ^ (8 * bytes) := by
    rw [Nat.pow_mul]
  apply uintLE_writeUIntLE_of_lt
  rw [power, Int.toNat_lt' (Nat.two_pow_pos _)]
  push_cast
  exact Int.emod_lt_of_pos _ (Int.pow_pos (by decide))

theorem toSigned_emod {bits : Nat} {value : Int} (positive : 0 < bits)
    (least : -2 ^ (bits - 1) ≤ value) (greatest : value < 2 ^ (bits - 1)) :
    toSigned bits (value % 2 ^ bits).toNat = value := by
  have double : (2 : Int) ^ bits = 2 * 2 ^ (bits - 1) := by
    rw [← Int.pow_succ']
    congr 1
    omega
  have half : ((2 ^ (bits - 1) : Nat) : Int) = 2 ^ (bits - 1) := by push_cast; rfl
  by_cases negative : value < 0
  · have wrapped : value % 2 ^ bits = value + 2 ^ bits := by
      rw [← Int.add_emod_right, Int.emod_eq_of_lt (by omega) (by omega)]
    rw [wrapped, toSigned, if_neg (by omega)]
    omega
  · rw [Int.emod_eq_of_lt (by omega) (by omega), toSigned, if_pos (by omega)]
    omega

namespace Packet

variable {α : Type}

/-! ## Binary protocol -/

/-- `readSInt8()`. -/
def readSInt8 : Reader Int := do
  match ← readInt8 with
  | some byte => return toSigned 8 byte
  | none => throw .rangeError

/-- `readSInt16()`. -/
def readSInt16 : Reader Int := do
  return toSigned 16 (← readInt16)

/-- `readSInt32()`. -/
def readSInt32 : Reader Int := do
  return toSigned 32 (← readInt32)

/-- The double `word0 + 0x100000000 * word1`.  The product has 32 significant
bits, so only the sum is rounded. -/
def words (word0 : Nat) (word1 : Int) : Int :=
  Script.round (word0 + 4294967296 * word1)

/-- `readInt64JSNumber()`. -/
def readInt64JSNumber : Reader (Value α) := do
  let word0 ← readInt32
  let word1 ← readInt32
  return .number (words word0 word1)

/-- `readSInt64JSNumber()`. -/
def readSInt64JSNumber : Reader (Value α) := do
  let word0 ← readInt32
  let word1 ← readInt32
  return .number (words word0 (toSigned 32 word1))

/-- `new Long(word0, word1, true).toString()`. -/
def unsignedString (word0 word1 : Nat) : String :=
  toString (word0 + 4294967296 * word1 : Int)

/-- `new Long(word0, word1, false).toString()`. -/
def signedString (word0 word1 : Nat) : String :=
  toString (word0 + 4294967296 * toSigned 32 word1 : Int)

/-- `readInt64String()`. -/
def readInt64String : Reader (Value α) := do
  let word0 ← readInt32
  let word1 ← readInt32
  return .string (unsignedString word0 word1)

/-- `readSInt64String()`. -/
def readSInt64String : Reader (Value α) := do
  let word0 ← readInt32
  let word1 ← readInt32
  return .string (signedString word0 word1)

/-- `readInt64()`. -/
def readInt64 : Reader (Value α) := do
  let word0 ← readInt32
  let word1 ← readInt32
  let resNumber := words word0 word1
  if isSafeInteger resNumber then
    return .number resNumber
  else
    return .string (unsignedString word0 word1)

/-- `readSInt64()`. -/
def readSInt64 : Reader (Value α) := do
  let word0 ← readInt32
  let word1 ← readInt32
  let resNumber := words word0 (toSigned 32 word1)
  if isSafeInteger resNumber then
    return .number resNumber
  else
    return .string (signedString word0 word1)

/-! ## Text protocol -/

/-- One round of the loops of `parseInt` and `parseIntNoBigCheck`. -/
def addDigit (result : Int) (byte : UInt8) : Int :=
  Script.round (Script.round (result * 10) + (byte.toNat - 48))

/-- The loops of `parseInt` and `parseIntNoBigCheck` from the read position up to
`last`.  A missing byte makes `NaN`, given by `none`. -/
def addDigits (last : Nat) : Reader (Option Int) := do
  let packet ← get
  let bytes ← readBuffer (last - packet.offset)
  return if bytes.length < last - packet.offset then none else some (bytes.foldl addDigit 0)

/-- The sign of a number of a text, behind which the read position moves. -/
def readMinus : Reader Int := do
  return if ← skipSign minus then -1 else 1

/-- A number, or `NaN`. -/
def numberValue : Option Int → Value α
  | none => .nan
  | some value => .number value

/-- `parseInt(len, supportBigNumbers)`.  Its branch for more than 16 digits lies
behind the one for 15 digits and is never reached. -/
def parseInt (runtime : Runtime α) (len : LengthCoded) (supportBigNumbers : Bool) :
    Reader (Value α) := do
  match len with
  | .null => return .null
  | len =>
      let len := len.toNat
      if 14 ≤ len ∧ !supportBigNumbers then
        return runtime.toNumber (ascii (← readBuffer len))
      else if len = 0 then
        return .number 0
      else
        let start := (← get).offset
        let last := start + len
        let sign ← readMinus
        let numDigits := last - (← get).offset
        if supportBigNumbers ∧ 15 ≤ numDigits then
          let text := latin1 (← readBuffer numDigits)
          match Script.parseInt text.toList with
          | some result =>
              if isSafeInteger (sign * result) then
                return .number (sign * result)
              else
                return .string (if sign = -1 then "-" ++ text else text)
          | none => return .string (if sign = -1 then "-" ++ text else text)
        else
          let _ ← skipSign plus
          match ← addDigits last with
          | none =>
              if supportBigNumbers then
                return .string (ascii (slice (← get).buffer start last))
              else
                return .nan
          | some result =>
              let num := result * sign
              if supportBigNumbers ∧ !isSafeInteger num then
                return .string (ascii (slice (← get).buffer start last))
              else
                return .number num

/-- `parseIntNoBigCheck(len)`. -/
def parseIntNoBigCheck (len : LengthCoded) : Reader (Value α) := do
  match len with
  | .null => return .null
  | len =>
      let len := len.toNat
      if len = 0 then
        return .number 0
      else
        let last := (← get).offset + len
        let sign ← readMinus
        let _ ← skipSign plus
        return numberValue ((← addDigits last).map (· * sign))

/-- `parseLengthCodedIntNoBigCheck()`. -/
def parseLengthCodedIntNoBigCheck : Reader (Value α) := do
  parseIntNoBigCheck (← readLengthCodedNumber false false)

/-- `parseLengthCodedInt(supportBigNumbers)`. -/
def parseLengthCodedInt (runtime : Runtime α) (supportBigNumbers : Bool) : Reader (Value α) := do
  parseInt runtime (← readLengthCodedNumber false false) supportBigNumbers

/-- `parseLengthCodedIntString()`. -/
def parseLengthCodedIntString (runtime : Runtime α) : Reader (Value α) :=
  readStringValue runtime (some "binary")

end Packet

end Mysql2.Packets

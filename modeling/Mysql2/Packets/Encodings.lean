import Mysql2.Packets.Reader
import Mysql2.Script.Text

/-!
# Encoding strings

`StringParser.encode`, and the fast path for UTF-8 that sizes a string before it
writes it.
-/

namespace Mysql2.Packets

open Mysql2.Script

/-- The first of two code units that make one character. -/
def isLead (unit : UInt16) : Bool :=
  0xd800 ≤ unit ∧ unit < 0xdc00

/-- The second of them. -/
def isTrail (unit : UInt16) : Bool :=
  0xdc00 ≤ unit ∧ unit < 0xe000

/-- The UTF-8 bytes of a code unit that is no pair.  A lone surrogate becomes
U+FFFD. -/
def utf8Unit (unit : UInt16) : Bytes :=
  let code := if isLead unit ∨ isTrail unit then 0xfffd else unit.toNat
  if code < 0x80 then [toByte code]
  else if code < 0x800 then [toByte (0xc0 + code / 0x40), toByte (0x80 + code % 0x40)]
  else
    [toByte (0xe0 + code / 0x1000), toByte (0x80 + code / 0x40 % 0x40), toByte (0x80 + code % 0x40)]

/-- The UTF-8 bytes of a pair. -/
def utf8Pair (lead trail : UInt16) : Bytes :=
  let code := 0x10000 + (lead.toNat - 0xd800) * 0x400 + (trail.toNat - 0xdc00)
  [toByte (0xf0 + code / 0x40000), toByte (0x80 + code / 0x1000 % 0x40),
    toByte (0x80 + code / 0x40 % 0x40), toByte (0x80 + code % 0x40)]

/-- `Buffer.from(string, 'utf8')`. -/
def utf8 : JsString → Bytes
  | [] => []
  | [unit] => utf8Unit unit
  | first :: second :: rest =>
      if isLead first ∧ isTrail second then utf8Pair first second ++ utf8 rest
      else utf8Unit first ++ utf8 (second :: rest)

/-- The length of the UTF-8 bytes of a code unit that is no pair. -/
def unitByteLength (unit : UInt16) : Nat :=
  if unit.toNat < 0x80 then 1 else if unit.toNat < 0x800 then 2 else 3

/-- `Buffer.byteLength(string, 'utf8')`. -/
def utf8ByteLength : JsString → Nat
  | [] => 0
  | [unit] => unitByteLength unit
  | first :: second :: rest =>
      if isLead first ∧ isTrail second then 4 + utf8ByteLength rest
      else unitByteLength first + utf8ByteLength (second :: rest)

theorem length_utf8Unit (unit : UInt16) : (utf8Unit unit).length = unitByteLength unit := by
  have surrogate : (isLead unit = true ∨ isTrail unit = true) → 0x800 ≤ unit.toNat := by
    simp only [isLead, isTrail, decide_eq_true_eq, UInt16.le_iff_toNat_le, UInt16.lt_iff_toNat_lt]
    rintro (⟨low, _⟩ | ⟨low, _⟩)
    · exact Nat.le_trans (by decide) low
    · exact Nat.le_trans (by decide) low
  unfold utf8Unit unitByteLength
  by_cases isSurrogate : isLead unit = true ∨ isTrail unit = true
  · have large := surrogate isSurrogate
    rw [if_pos isSurrogate, if_neg (show ¬unit.toNat < 0x80 by omega),
      if_neg (show ¬unit.toNat < 0x800 by omega)]
    rfl
  · rw [if_neg isSurrogate]
    dsimp only
    split
    · rfl
    · split <;> rfl

/-- The size that is computed first is the size that is written. -/
theorem length_utf8 (string : JsString) : (utf8 string).length = utf8ByteLength string := by
  fun_induction utf8 string with
  | case1 => rfl
  | case2 unit => exact length_utf8Unit unit
  | case3 first second rest pair ih =>
      rw [utf8ByteLength, if_pos pair, List.length_append, ih]
      rfl
  | case4 first second rest single ih =>
      rw [utf8ByteLength, if_neg single, List.length_append, ih, length_utf8Unit]

/-- The encodings of character sets: `utf8`, those of one byte a code unit
(`latin1`, `ascii` and `binary`), `ucs2`, and the others, which a library
encodes. -/
inductive Encoding
  | utf8
  | latin1
  | ucs2
  | iconv (encode : JsString → Except JsError Bytes)

/-- `Buffer.isEncoding(encoding)`. -/
def Encoding.isEncoding : Encoding → Bool
  | .iconv _ => false
  | _ => true

/-- `encoding === 'utf8' || encoding === 'utf-8'`. -/
def Encoding.isUtf8 : Encoding → Bool
  | .utf8 => true
  | _ => false

/-- `StringParser.encode(string, encoding)`. -/
def Encoding.encode : Encoding → JsString → Except JsError Bytes
  | .utf8, string => .ok (Packets.utf8 string)
  | .latin1, string => .ok (string.map fun unit => toByte unit.toNat)
  | .ucs2, string =>
      .ok (string.flatMap fun unit => [toByte unit.toNat, toByte (unit.toNat / 256)])
  | .iconv encode, string => encode string

theorem Encoding.encode_of_isUtf8 {encoding : Encoding} (isUtf8 : encoding.isUtf8 = true)
    (string : JsString) : encoding.encode string = .ok (Packets.utf8 string) := by
  cases encoding with
  | utf8 => rfl
  | latin1 | ucs2 | iconv => exact absurd isUtf8 Bool.false_ne_true

/-- `Buffer.byteLength(string, encoding)`. -/
def Encoding.byteLength : Encoding → JsString → Nat
  | .utf8, string => utf8ByteLength string
  | .ucs2, string => 2 * string.length
  | _, string => string.length

/-- Encodings of buffers write as many bytes as they count. -/
theorem Encoding.encode_of_isEncoding {encoding : Encoding} (isEncoding : encoding.isEncoding = true)
    (string : JsString) :
    ∃ bytes, encoding.encode string = .ok bytes ∧ bytes.length = encoding.byteLength string := by
  cases encoding with
  | utf8 => exact ⟨_, rfl, length_utf8 string⟩
  | latin1 => exact ⟨_, rfl, List.length_map _⟩
  | ucs2 =>
      refine ⟨_, rfl, ?_⟩
      rw [Encoding.byteLength, List.length_flatMap]
      simp [List.map_const', Nat.mul_comm]
  | iconv encode => exact absurd isEncoding Bool.false_ne_true

end Mysql2.Packets

import Mysql2.Packets.Reads
import Mysql2.Packets.Utf8

/-!
# The string parser

`StringParser` decodes and encodes strings by the name of an encoding: some natively, the others
with a library.  Short values of ASCII take a short cut, which decodes them to the same strings.
-/

namespace Mysql2.Packets

open Mysql2.Script

/-! ## Native decoders -/

/-- `buffer.latin1Slice(start, end)`, for the bytes between. -/
def latin1Slice (bytes : Bytes) : JsString :=
  bytes.map fun byte => UInt16.ofNat byte.toNat

/-- `buffer.asciiSlice(start, end)`, for the bytes between. -/
def asciiSlice (bytes : Bytes) : JsString :=
  bytes.map fun byte => UInt16.ofNat (byte.toNat % 128)

/-- `buffer.ucs2Slice(start, end)`, for the bytes between, of which a last odd one is left out. -/
def ucs2Slice : Bytes → JsString
  | low :: high :: bytes => UInt16.ofNat (low.toNat + 256 * high.toNat) :: ucs2Slice bytes
  | _ => []

/-- The encodings of buffers that character sets have. -/
inductive NativeEncoding
  | utf8
  | latin1
  | ascii
  | ucs2
  deriving DecidableEq, Repr

/-- The native encoding of a name. -/
def nativeEncoding : Option String → Option NativeEncoding
  | some "utf8" | some "utf-8" => some .utf8
  | some "latin1" | some "binary" => some .latin1
  | some "ascii" => some .ascii
  | some "ucs2" | some "ucs-2" | some "utf16le" | some "utf-16le" => some .ucs2
  | _ => none

/-- The slice method, or `buffer.toString`, of a native encoding. -/
def NativeEncoding.slice : NativeEncoding → Bytes → JsString
  | .utf8 => utf8Slice
  | .latin1 => latin1Slice
  | .ascii => asciiSlice
  | .ucs2 => ucs2Slice

/-- The other encodings: `Iconv.getDecoder(encoding)` and `Iconv.getEncoder(encoding)`, which
throw for names they do not know, and the conversions of buffers that no character set has. -/
structure Codecs where
  getDecoder : Option String → Except JsError (Bytes → JsString)
  getEncoder : Option String → Except JsError (JsString → Bytes)

/-- A library that knows no encoding. -/
def Codecs.unknown : Codecs where
  getDecoder name := .error (.new ("Encoding not recognized: " ++ name.getD "undefined"))
  getEncoder name := .error (.new ("Encoding not recognized: " ++ name.getD "undefined"))

/-- A short string by its character codes, if all of them are ASCII. -/
def shortAscii (buffer : Bytes) (start length : Nat) : Option JsString :=
  if 128 ≤ byteAt buffer start then none
  else if 1 ≤ length ∧ length ≤ 8 then
    let bytes := slice buffer start (start + length)
    if bytes.foldl (fun codes byte => codes ||| byte.toNat) 0 < 128 then
      some (bytes.map fun byte => UInt16.ofNat byte.toNat)
    else
      none
  else
    none

namespace Codecs

variable (codecs : Codecs)

/-- The part of `decode` behind its checks of the range. -/
def decodeBytes (encoding : Option String) (bytes : Bytes) : Except JsError JsString :=
  match nativeEncoding encoding with
  | some native => .ok (native.slice bytes)
  | none => (codecs.getDecoder encoding).map (· bytes)

/-- `decode(buffer, encoding, start, end)`. -/
def decode (buffer : Bytes) (encoding : Option String) (start last : Nat) :
    Except JsError JsString :=
  if 0 < start ∧ buffer.length ≤ start then .ok []
  else
    let last := min last buffer.length
    if last ≤ start then .ok [] else codecs.decodeBytes encoding (slice buffer start last)

/-- `decodeShort(buffer, encoding, start, end)`. -/
def decodeShort (buffer : Bytes) (encoding : Option String) (start last : Nat) :
    Except JsError JsString :=
  if start ≤ last ∧ last ≤ buffer.length then
    match encoding with
    | some "utf8" | some "utf-8" =>
        .ok ((shortAscii buffer start (last - start)).getD (utf8Slice (slice buffer start last)))
    | some "latin1" | some "binary" =>
        .ok ((shortAscii buffer start (last - start)).getD (latin1Slice (slice buffer start last)))
    | some "ascii" =>
        .ok ((shortAscii buffer start (last - start)).getD (asciiSlice (slice buffer start last)))
    | _ => codecs.decode buffer encoding start last
  else
    codecs.decode buffer encoding start last

/-- The encoding of a name. -/
def encoding (name : Option String) : Encoding :=
  match nativeEncoding name with
  | some .utf8 => .utf8
  -- ASCII is written as Latin-1
  | some .latin1 | some .ascii => .latin1
  | some .ucs2 => .ucs2
  | none => .iconv fun string => (codecs.getEncoder name).map (· string)

/-- `encode(string, encoding)`. -/
def encode (string : JsString) (name : Option String) : Except JsError Bytes :=
  (codecs.encoding name).encode string

/-- A string is encoded, in bytes that a buffer can hold, and decodes to itself. -/
def Survives (name : Option String) (string : JsString) : Prop :=
  ∃ bytes, codecs.encode string name = .ok bytes ∧ bytes.length < 9007199254740992 ∧
    codecs.decode bytes name 0 bytes.length = .ok string

/-- `readLengthCodedString(encoding)`, with `none` for `null`. -/
def readLengthCodedString (encoding : Option String) : Reader (Option JsString) := do
  match ← Packet.readLengthCodedNumber false false with
  | .null => return none
  | len =>
      let packet ← get
      Packet.skip len.toNat
      let last := packet.offset + len.toNat
      if len.toNat ≤ 8 then
        return some (← codecs.decodeShort packet.buffer encoding packet.offset last)
      else
        return some (← codecs.decode packet.buffer encoding packet.offset last)

/-- `readNullTerminatedString(encoding)`. -/
def readNullTerminatedString (encoding : Option String) : Reader JsString := do
  let packet ← get
  let last := packet.offset + packet.nullTerminated.length
  Packet.skip (packet.nullTerminated.length + 1)
  codecs.decode packet.buffer encoding packet.offset last

/-- `readString(len, encoding)`, with `none` for `undefined`. -/
def readString (len : Option Nat) (encoding : Option String) : Reader JsString := do
  let packet ← get
  let len := len.getD (packet.endOffset - packet.offset)
  Packet.skip len
  codecs.decode packet.buffer encoding packet.offset (packet.offset + len)

end Codecs

/-! ## The short cut -/

theorem foldl_or_lt {bytes : Bytes} {codes : Nat}
    (small : bytes.foldl (fun codes byte => codes ||| byte.toNat) codes < 128) :
    codes < 128 ∧ ∀ byte ∈ bytes, byte.toNat < 128 := by
  induction bytes generalizing codes with
  | nil => exact ⟨small, fun byte member => absurd member List.not_mem_nil⟩
  | cons byte bytes ih =>
      obtain ⟨both, others⟩ := ih small
      have both : codes ||| byte.toNat < 128 := both
      have left : codes ≤ codes ||| byte.toNat := Nat.left_le_or
      have right : byte.toNat ≤ codes ||| byte.toNat := Nat.right_le_or
      refine ⟨by omega, fun other member => ?_⟩
      rcases List.mem_cons.mp member with rfl | member
      · omega
      · exact others other member

/-- What the short cut returns are the codes of ASCII characters. -/
theorem shortAscii_eq_some {buffer : Bytes} {start length : Nat} {string : JsString}
    (short : shortAscii buffer start length = some string) :
    (∀ byte ∈ slice buffer start (start + length), byte.toNat < 128) ∧
      string = latin1Slice (slice buffer start (start + length)) ∧ 1 ≤ length := by
  rw [shortAscii] at short
  split at short
  · cases short
  · split at short
    case isTrue range =>
      dsimp only at short
      split at short
      case isTrue small =>
        cases short
        exact ⟨(foldl_or_lt small).2, rfl, range.1⟩
      case isFalse => cases short
    case isFalse => cases short

theorem asciiSlice_eq {bytes : Bytes} (ascii : ∀ byte ∈ bytes, byte.toNat < 128) :
    asciiSlice bytes = latin1Slice bytes := by
  apply List.map_congr_left
  intro byte member
  rw [Nat.mod_eq_of_lt (ascii byte member)]

/-- Where a native decoder agrees with the character codes of ASCII, the short cut returns what it
does. -/
theorem getD_shortAscii {decoder : Bytes → JsString}
    (onAscii : ∀ bytes : Bytes, (∀ byte ∈ bytes, byte.toNat < 128) →
      decoder bytes = latin1Slice bytes)
    {buffer : Bytes} {start last : Nat} (order : start ≤ last) :
    (shortAscii buffer start (last - start)).getD (decoder (slice buffer start last)) =
      decoder (slice buffer start last) := by
  cases short : shortAscii buffer start (last - start) with
  | none => rfl
  | some string =>
      obtain ⟨ascii, stringEq, -⟩ := shortAscii_eq_some short
      rw [Nat.add_sub_cancel' order] at ascii stringEq
      rw [Option.getD_some, stringEq, onAscii _ ascii]

namespace Codecs

variable (codecs : Codecs) {buffer : Bytes}

/-- Decoding looks at the bytes of its range only, and at the encoding unless there are none. -/
theorem decode_eq (encoding : Option String) (start last : Nat) :
    codecs.decode buffer encoding start last =
      if slice buffer start last = [] then .ok []
      else codecs.decodeBytes encoding (slice buffer start last) := by
  have lengthEq :
      (slice buffer start last).length = min (last - start) (buffer.length - start) := by
    rw [slice, List.length_take, List.length_drop]
  have clamped : slice buffer start (min last buffer.length) = slice buffer start last := by
    rw [slice, slice, List.take_eq_take_iff, List.length_drop]
    omega
  have empty_iff : slice buffer start last = [] ↔ min last buffer.length ≤ start := by
    rw [← List.length_eq_zero_iff, lengthEq]
    omega
  rw [decode]
  by_cases behind : 0 < start ∧ buffer.length ≤ start
  · rw [if_pos behind, if_pos (empty_iff.mpr (by omega))]
  · rw [if_neg behind]
    dsimp only
    rw [clamped]
    simp only [empty_iff]

/-- A string of no bytes is empty in every encoding, known or not. -/
theorem decode_nil (encoding : Option String) (start last : Nat)
    (empty : slice buffer start last = []) :
    codecs.decode buffer encoding start last = .ok [] := by
  rw [decode_eq, if_pos empty]

/-- The short cut makes no difference. -/
theorem decodeShort_eq (encoding : Option String) (start last : Nat) :
    codecs.decodeShort buffer encoding start last = codecs.decode buffer encoding start last := by
  have native {name : Option String} {decoder : NativeEncoding} (order : start ≤ last)
      (isNative : nativeEncoding name = some decoder) (onNil : decoder.slice [] = [])
      (onAscii : ∀ bytes : Bytes, (∀ byte ∈ bytes, byte.toNat < 128) →
        decoder.slice bytes = latin1Slice bytes) :
      .ok ((shortAscii buffer start (last - start)).getD
          (decoder.slice (slice buffer start last))) =
        codecs.decode buffer name start last := by
    rw [getD_shortAscii onAscii order, decode_eq, decodeBytes, isNative]
    split
    case isTrue empty => rw [empty, onNil]
    case isFalse => rfl
  have utf8 : ∀ bytes : Bytes, (∀ byte ∈ bytes, byte.toNat < 128) →
      NativeEncoding.utf8.slice bytes = latin1Slice bytes := fun bytes => utf8Slice_ascii
  have latin1 : ∀ bytes : Bytes, (∀ byte ∈ bytes, byte.toNat < 128) →
      NativeEncoding.latin1.slice bytes = latin1Slice bytes := fun bytes _ => rfl
  have ascii : ∀ bytes : Bytes, (∀ byte ∈ bytes, byte.toNat < 128) →
      NativeEncoding.ascii.slice bytes = latin1Slice bytes := fun bytes => asciiSlice_eq
  unfold decodeShort
  split
  case isTrue range =>
    split
    · exact native range.1 rfl rfl utf8
    · exact native range.1 rfl rfl utf8
    · exact native range.1 rfl rfl latin1
    · exact native range.1 rfl rfl latin1
    · exact native range.1 rfl rfl ascii
    · rfl
  case isFalse => rfl

/-- A string behind its length. -/
theorem readLengthCodedString_of_length {packet behind : Packet} {len : Packet.LengthCoded}
    (encoding : Option String)
    (lengthRun : (Packet.readLengthCodedNumber false false).run packet = .ok (len, behind))
    (notNull : len ≠ .null) :
    (codecs.readLengthCodedString encoding).run packet =
      (codecs.decode behind.buffer encoding behind.offset (behind.offset + len.toNat)).map
        fun string => (some string, behind.advance len.toNat) := by
  have text : StateT.run (do
        let packet ← get
        Packet.skip len.toNat
        let last := packet.offset + len.toNat
        if len.toNat ≤ 8 then
          return some (← codecs.decodeShort packet.buffer encoding packet.offset last)
        else
          return some (← codecs.decode packet.buffer encoding packet.offset last)) behind =
      (codecs.decode behind.buffer encoding behind.offset (behind.offset + len.toNat)).map
        fun string => (some string, behind.advance len.toNat) := by
    rw [run_get_bind, run_bind_of_ok (Packet.skip_run _ _)]
    dsimp only
    rw [decodeShort_eq, ite_self]
    cases codecs.decode behind.buffer encoding behind.offset (behind.offset + len.toNat) with
    | error error => rfl
    | ok string => rfl
  rw [readLengthCodedString, run_bind_of_ok lengthRun]
  cases len with
  | null => exact absurd rfl notNull
  | number value => exact text
  | string value => exact text

/-- What the bytes of a range are decoded to wherever they lie. -/
theorem decode_of_ahead {packet : Packet} {bytes rest : Bytes} (encoding : Option String)
    (aheadEq : packet.ahead = bytes ++ rest) :
    codecs.decode packet.buffer encoding packet.offset (packet.offset + bytes.length) =
      codecs.decode bytes encoding 0 bytes.length := by
  have whole : slice bytes 0 bytes.length = bytes := List.take_length
  rw [decode_eq, decode_eq, slice_of_ahead aheadEq, whole]

end Codecs

/-! ## Native encodings -/

theorem NativeEncoding.slice_nil (native : NativeEncoding) : native.slice [] = [] := by
  cases native <;> rfl

/-- The bytes of a string in UTF-16. -/
def ucs2 (string : JsString) : Bytes :=
  string.flatMap fun unit => [toByte unit.toNat, toByte (unit.toNat / 256)]

theorem length_ucs2 (string : JsString) : (ucs2 string).length = 2 * string.length := by
  rw [ucs2, List.length_flatMap]
  simp [List.map_const', Nat.mul_comm]

/-- Every string survives in UTF-16. -/
theorem ucs2Slice_ucs2 (string : JsString) : ucs2Slice (ucs2 string) = string := by
  induction string with
  | nil => rfl
  | cons unit string ih =>
      have small := unit.toNat_lt
      have value : (toByte unit.toNat).toNat + 256 * (toByte (unit.toNat / 256)).toNat =
          unit.toNat := by
        rw [toByte_toNat, toByte_toNat]
        omega
      have unfolded : ucs2 (unit :: string) =
          toByte unit.toNat :: toByte (unit.toNat / 256) :: ucs2 string := rfl
      rw [unfolded, ucs2Slice, value, UInt16.ofNat_toNat, ih]

/-- Two bytes make a code unit. -/
theorem length_ucs2Slice (bytes : Bytes) : 2 * (ucs2Slice bytes).length ≤ bytes.length := by
  fun_induction ucs2Slice bytes with
  | case1 low high bytes ih =>
      rw [List.length_cons, List.length_cons, List.length_cons]
      omega
  | case2 => exact Nat.zero_le _

namespace Codecs

variable (codecs : Codecs) {name : Option String}

theorem decode_of_native {native : NativeEncoding} (isNative : nativeEncoding name = some native)
    (bytes : Bytes) : codecs.decode bytes name 0 bytes.length = .ok (native.slice bytes) := by
  have whole : slice bytes 0 bytes.length = bytes := List.take_length
  rw [decode_eq, decodeBytes, isNative, whole]
  split
  case isTrue empty => rw [empty, native.slice_nil]
  case isFalse => rfl

theorem encode_utf8 (isUtf8 : nativeEncoding name = some .utf8) (string : JsString) :
    codecs.encode string name = .ok (utf8 string) := by
  rw [encode, encoding, isUtf8]
  rfl

theorem encode_ucs2 (isUcs2 : nativeEncoding name = some .ucs2) (string : JsString) :
    codecs.encode string name = .ok (ucs2 string) := by
  rw [encode, encoding, isUcs2]
  rfl

theorem survives_utf8 (isUtf8 : nativeEncoding name = some .utf8) {string : JsString}
    (wellFormed : IsWellFormed string) (short : utf8ByteLength string < 9007199254740992) :
    codecs.Survives name string := by
  refine ⟨_, codecs.encode_utf8 isUtf8 string, by rwa [length_utf8], ?_⟩
  rw [codecs.decode_of_native isUtf8]
  exact congrArg Except.ok ((utf8Slice_utf8 string).trans wellFormed)

theorem survives_ucs2 (isUcs2 : nativeEncoding name = some .ucs2) {string : JsString}
    (short : string.length < 4503599627370496) : codecs.Survives name string := by
  refine ⟨_, codecs.encode_ucs2 isUcs2 string, by rw [length_ucs2]; omega, ?_⟩
  rw [codecs.decode_of_native isUcs2]
  exact congrArg Except.ok (ucs2Slice_ucs2 string)

end Codecs

/-! ## Texts -/

/-- The character of a code unit that is no pair. -/
def unitChar (unit : UInt16) : Char :=
  if isLead unit ∨ isTrail unit then Char.ofNat 0xfffd else Char.ofNat unit.toNat

/-- The characters of a string, with U+FFFD in the place of lone surrogates. -/
def characters : JsString → List Char
  | [] => []
  | [unit] => [unitChar unit]
  | first :: second :: rest =>
      if isLead first ∧ isTrail second then
        Char.ofNat (0x10000 + (first.toNat - 0xd800) * 0x400 + (second.toNat - 0xdc00)) ::
          characters rest
      else
        unitChar first :: characters (second :: rest)

/-- The text of a string. -/
def textOf (string : JsString) : String :=
  String.ofList (characters string)

namespace Codecs

variable (codecs : Codecs)

/-- What a runtime with these codecs decodes bytes to. -/
def decodeText (encoding : Option String) (bytes : Bytes) : Except JsError String :=
  (codecs.decode bytes encoding 0 bytes.length).map textOf

/-- The reader of texts reads the texts of strings. -/
theorem readLengthCodedString_run {decoding : Decoding}
    (sameDecode : decoding.decode = codecs.decodeText) (encoding : Option String) (packet : Packet) :
    (Packet.readLengthCodedString decoding encoding).run packet =
      ((codecs.readLengthCodedString encoding).run packet).map fun (string, after) =>
        (string.map textOf, after) := by
  have whole (bytes : Bytes) : slice bytes 0 bytes.length = bytes := List.take_length
  cases lengthRun : (Packet.readLengthCodedNumber false false).run packet with
  | error error =>
      rw [Packet.readLengthCodedString, readLengthCodedString, run_bind_of_error lengthRun,
        run_bind_of_error lengthRun]
      rfl
  | ok read =>
      obtain ⟨len, behind⟩ := read
      have text (size : Nat) :
          (Packet.readBuffer size >>= fun bytes => (do
            return some (← decoding.decode encoding bytes) : Reader (Option String))).run behind =
          (codecs.decode behind.buffer encoding behind.offset (behind.offset + size)).map
            fun string => (some (textOf string), behind.advance size) := by
        have bufferRun : (Packet.readBuffer size).run behind =
            .ok (slice behind.buffer behind.offset (behind.offset + size), behind.advance size) :=
          rfl
        rw [run_bind_of_ok bufferRun, sameDecode, decodeText, decode_eq, decode_eq, whole]
        split
        case isTrue => rfl
        case isFalse =>
          cases codecs.decodeBytes encoding
            (slice behind.buffer behind.offset (behind.offset + size)) with
          | error error => rfl
          | ok string => rfl
      have decoded (size : Nat) :
          ((codecs.decode behind.buffer encoding behind.offset (behind.offset + size)).map
            fun string => (some string, behind.advance size)).map
              (fun (string, after) => (string.map textOf, after)) =
          (codecs.decode behind.buffer encoding behind.offset (behind.offset + size)).map
            fun string => (some (textOf string), behind.advance size) := by
        cases codecs.decode behind.buffer encoding behind.offset (behind.offset + size) with
        | error error => rfl
        | ok string => rfl
      rw [Packet.readLengthCodedString, run_bind_of_ok lengthRun]
      cases len with
      | null =>
          rw [readLengthCodedString, run_bind_of_ok lengthRun]
          rfl
      | number value =>
          rw [codecs.readLengthCodedString_of_length encoding lengthRun (by simp), decoded]
          exact text _
      | string value =>
          rw [codecs.readLengthCodedString_of_length encoding lengthRun (by simp), decoded]
          exact text _

end Codecs

/-! ## Readers of given bytes -/

namespace Reads

variable (codecs : Codecs)

theorem readLengthCodedStringOf {content cell : Bytes} (isCell : IsCell content cell)
    (encoding : Option String) :
    Reads (codecs.readLengthCodedString encoding) cell
      ((codecs.decode content encoding 0 content.length).map some) := by
  obtain ⟨header, isLength, rfl⟩ := isCell
  intro packet rest aheadEq inside
  rw [List.append_assoc] at aheadEq
  rw [List.length_append] at inside ⊢
  have lengthRun := readLength isLength false false packet _ aheadEq (by omega)
  have behind := Packet.ahead_advance_of_append _ aheadEq rfl
  rw [codecs.readLengthCodedString_of_length encoding lengthRun (by simp), Packet.toNat_number,
    codecs.decode_of_ahead encoding behind, Packet.advance_advance]
  cases codecs.decode content encoding 0 content.length with
  | error error => rfl
  | ok string => rfl

end Reads

end Mysql2.Packets

import Mysql2.Packets.Encodings

/-!
# Decoding UTF-8

The decoder of buffers goes byte by byte.  It puts U+FFFD in the place of every byte sequence that
starts no character, and looks again at the byte that breaks a sequence off.
-/

namespace Mysql2.Packets

open Mysql2.Script

/-! ## The decoder -/

/-- The code units of a code point. -/
def codeUnits (code : Nat) : JsString :=
  if code < 0x10000 then [UInt16.ofNat code]
  else
    [UInt16.ofNat (0xd800 + (code - 0x10000) / 0x400),
      UInt16.ofNat (0xdc00 + (code - 0x10000) % 0x400)]

/-- A character of which some bytes are read: how many it lacks, the range of the next one, and
the bits so far. -/
structure PartialChar where
  needed : Nat
  lower : Nat
  upper : Nat
  code : Nat
  deriving DecidableEq, Repr

/-- What a byte starts, and the code units that it decides. -/
def utf8First (byte : Nat) : JsString × Option PartialChar :=
  if byte < 0x80 then ([UInt16.ofNat byte], none)
  else if byte < 0xc2 then ([0xfffd], none)
  else if byte < 0xe0 then ([], some ⟨1, 0x80, 0xbf, byte - 0xc0⟩)
  else if byte < 0xf0 then
    -- neither longer than needed nor a surrogate
    ([], some ⟨2, if byte = 0xe0 then 0xa0 else 0x80, if byte = 0xed then 0x9f else 0xbf,
      byte - 0xe0⟩)
  else if byte < 0xf5 then
    ([], some ⟨3, if byte = 0xf0 then 0x90 else 0x80, if byte = 0xf4 then 0x8f else 0xbf,
      byte - 0xf0⟩)
  else ([0xfffd], none)

/-- One step of the decoder. -/
def utf8Step : Option PartialChar → Nat → JsString × Option PartialChar
  | none, byte => utf8First byte
  | some ⟨needed, lower, upper, code⟩, byte =>
      if lower ≤ byte ∧ byte ≤ upper then
        let code := code * 0x40 + (byte - 0x80)
        if needed = 1 then (codeUnits code, none) else ([], some ⟨needed - 1, 0x80, 0xbf, code⟩)
      else
        (0xfffd :: (utf8First byte).1, (utf8First byte).2)

/-- The decoder, from a character on of which some bytes are read. -/
def utf8Decode : Option PartialChar → Bytes → JsString
  | none, [] => []
  | some _, [] => [0xfffd]
  | char, byte :: bytes =>
      (utf8Step char byte.toNat).1 ++ utf8Decode (utf8Step char byte.toNat).2 bytes

/-- `buffer.utf8Slice(start, end)`, for the bytes between. -/
def utf8Slice (bytes : Bytes) : JsString :=
  utf8Decode none bytes

/-! ## Strings without lone surrogates -/

/-- `string.toWellFormed()`: U+FFFD in the place of lone surrogates. -/
def toWellFormed : JsString → JsString
  | [] => []
  | [unit] => [if isLead unit ∨ isTrail unit then 0xfffd else unit]
  | first :: second :: rest =>
      if isLead first ∧ isTrail second then first :: second :: toWellFormed rest
      else
        (if isLead first ∨ isTrail first then 0xfffd else first) :: toWellFormed (second :: rest)

/-- `string.isWellFormed()`. -/
def IsWellFormed (string : JsString) : Prop :=
  toWellFormed string = string

instance (string : JsString) : Decidable (IsWellFormed string) :=
  inferInstanceAs (Decidable (_ = _))

/-! ## Decoding what has been encoded -/

theorem utf8Decode_cons (char : Option PartialChar) (byte : UInt8) (bytes : Bytes) :
    utf8Decode char (byte :: bytes) =
      (utf8Step char byte.toNat).1 ++ utf8Decode (utf8Step char byte.toNat).2 bytes := by
  cases char <;> rfl

theorem toNat_toByte_of_lt {number : Nat} (small : number < 256) :
    (toByte number).toNat = number := by
  rw [toByte_toNat, Nat.mod_eq_of_lt small]

section Characters

variable {code : Nat} (rest : Bytes)

theorem utf8Decode_one (small : code < 0x80) :
    utf8Decode none (toByte code :: rest) = codeUnits code ++ utf8Decode none rest := by
  have short : code < 0x10000 := by omega
  rw [utf8Decode_cons, toNat_toByte_of_lt (by omega), utf8Step, utf8First, if_pos small, codeUnits,
    if_pos short]

theorem utf8Decode_two (large : 0x80 ≤ code) (small : code < 0x800) :
    utf8Decode none (toByte (0xc0 + code / 0x40) :: toByte (0x80 + code % 0x40) :: rest) =
      codeUnits code ++ utf8Decode none rest := by
  have bits : (0xc0 + code / 0x40 - 0xc0) * 0x40 + (0x80 + code % 0x40 - 0x80) = code := by omega
  have first : utf8First (0xc0 + code / 0x40) =
      ([], some ⟨1, 0x80, 0xbf, 0xc0 + code / 0x40 - 0xc0⟩) := by
    rw [utf8First, if_neg (by omega), if_neg (by omega), if_pos (by omega)]
  rw [utf8Decode_cons, toNat_toByte_of_lt (by omega), utf8Step, first, utf8Decode_cons,
    toNat_toByte_of_lt (by omega), utf8Step, if_pos (by omega)]
  dsimp only
  rw [if_pos rfl, bits, List.nil_append]

theorem utf8Decode_three (large : 0x800 ≤ code) (small : code < 0x10000)
    (noSurrogate : code < 0xd800 ∨ 0xe000 ≤ code) :
    utf8Decode none (toByte (0xe0 + code / 0x1000) :: toByte (0x80 + code / 0x40 % 0x40) ::
        toByte (0x80 + code % 0x40) :: rest) =
      codeUnits code ++ utf8Decode none rest := by
  have bits : ((0xe0 + code / 0x1000 - 0xe0) * 0x40 + (0x80 + code / 0x40 % 0x40 - 0x80)) * 0x40 +
      (0x80 + code % 0x40 - 0x80) = code := by omega
  have first : utf8First (0xe0 + code / 0x1000) = ([], some ⟨2,
      if 0xe0 + code / 0x1000 = 0xe0 then 0xa0 else 0x80,
      if 0xe0 + code / 0x1000 = 0xed then 0x9f else 0xbf, 0xe0 + code / 0x1000 - 0xe0⟩) := by
    rw [utf8First, if_neg (by omega), if_neg (by omega), if_neg (by omega), if_pos (by omega)]
  have second :
      (if 0xe0 + code / 0x1000 = 0xe0 then 0xa0 else 0x80) ≤ 0x80 + code / 0x40 % 0x40 ∧
      0x80 + code / 0x40 % 0x40 ≤ if 0xe0 + code / 0x1000 = 0xed then 0x9f else 0xbf := by
    constructor <;> split <;> omega
  rw [utf8Decode_cons, toNat_toByte_of_lt (by omega), utf8Step, first, utf8Decode_cons,
    toNat_toByte_of_lt (by omega), utf8Step, if_pos second]
  dsimp only
  rw [if_neg (by decide), utf8Decode_cons, toNat_toByte_of_lt (by omega), utf8Step,
    if_pos (by omega)]
  dsimp only
  rw [if_pos rfl, bits, List.nil_append, List.nil_append]

theorem utf8Decode_four (large : 0x10000 ≤ code) (small : code < 0x110000) :
    utf8Decode none (toByte (0xf0 + code / 0x40000) :: toByte (0x80 + code / 0x1000 % 0x40) ::
        toByte (0x80 + code / 0x40 % 0x40) :: toByte (0x80 + code % 0x40) :: rest) =
      codeUnits code ++ utf8Decode none rest := by
  have bits : (((0xf0 + code / 0x40000 - 0xf0) * 0x40 +
      (0x80 + code / 0x1000 % 0x40 - 0x80)) * 0x40 + (0x80 + code / 0x40 % 0x40 - 0x80)) * 0x40 +
        (0x80 + code % 0x40 - 0x80) = code := by omega
  have first : utf8First (0xf0 + code / 0x40000) = ([], some ⟨3,
      if 0xf0 + code / 0x40000 = 0xf0 then 0x90 else 0x80,
      if 0xf0 + code / 0x40000 = 0xf4 then 0x8f else 0xbf, 0xf0 + code / 0x40000 - 0xf0⟩) := by
    rw [utf8First, if_neg (by omega), if_neg (by omega), if_neg (by omega), if_neg (by omega),
      if_pos (by omega)]
  have second : (if 0xf0 + code / 0x40000 = 0xf0 then 0x90 else 0x80) ≤
        0x80 + code / 0x1000 % 0x40 ∧
      0x80 + code / 0x1000 % 0x40 ≤ if 0xf0 + code / 0x40000 = 0xf4 then 0x8f else 0xbf := by
    constructor <;> split <;> omega
  rw [utf8Decode_cons, toNat_toByte_of_lt (by omega), utf8Step, first, utf8Decode_cons,
    toNat_toByte_of_lt (by omega), utf8Step, if_pos second]
  dsimp only
  rw [if_neg (by decide), utf8Decode_cons, toNat_toByte_of_lt (by omega), utf8Step,
    if_pos (by omega)]
  dsimp only
  rw [if_neg (by decide), utf8Decode_cons, toNat_toByte_of_lt (by omega), utf8Step,
    if_pos (by omega)]
  dsimp only
  rw [if_pos rfl, bits, List.nil_append, List.nil_append, List.nil_append]

end Characters

theorem isLead_iff (unit : UInt16) :
    isLead unit = true ↔ 0xd800 ≤ unit.toNat ∧ unit.toNat < 0xdc00 := by
  simp only [isLead, decide_eq_true_eq, UInt16.le_iff_toNat_le, UInt16.lt_iff_toNat_lt]
  exact Iff.rfl

theorem isTrail_iff (unit : UInt16) :
    isTrail unit = true ↔ 0xdc00 ≤ unit.toNat ∧ unit.toNat < 0xe000 := by
  simp only [isTrail, decide_eq_true_eq, UInt16.le_iff_toNat_le, UInt16.lt_iff_toNat_lt]
  exact Iff.rfl

theorem codeUnits_toNat (unit : UInt16) : codeUnits unit.toNat = [unit] := by
  have small := unit.toNat_lt
  rw [codeUnits, if_pos small, UInt16.ofNat_toNat]

/-- A code unit that is no pair. -/
theorem utf8Decode_utf8Unit (unit : UInt16) (rest : Bytes) :
    utf8Decode none (utf8Unit unit ++ rest) =
      (if isLead unit ∨ isTrail unit then 0xfffd else unit) :: utf8Decode none rest := by
  have small := unit.toNat_lt
  have leads := isLead_iff unit
  have trails := isTrail_iff unit
  rw [utf8Unit]
  by_cases surrogate : isLead unit = true ∨ isTrail unit = true
  · rw [if_pos surrogate, if_pos surrogate]
    exact @utf8Decode_three 0xfffd rest (by decide) (by decide) (by decide)
  · rw [if_neg surrogate, if_neg surrogate]
    have noSurrogate : unit.toNat < 0xd800 ∨ 0xe000 ≤ unit.toNat := by
      rw [leads, trails] at surrogate
      omega
    have unitEq := codeUnits_toNat unit
    by_cases one : unit.toNat < 0x80
    · rw [if_pos one]
      have decoded := utf8Decode_one rest one
      rwa [unitEq] at decoded
    · rw [if_neg one]
      by_cases two : unit.toNat < 0x800
      · rw [if_pos two]
        have decoded := utf8Decode_two rest (Nat.le_of_not_lt one) two
        rwa [unitEq] at decoded
      · rw [if_neg two]
        have decoded := utf8Decode_three rest (Nat.le_of_not_lt two) small noSurrogate
        rwa [unitEq] at decoded

theorem utf8Decode_utf8Pair {lead trail : UInt16}
    (isPair : isLead lead = true ∧ isTrail trail = true) (rest : Bytes) :
    utf8Decode none (utf8Pair lead trail ++ rest) = lead :: trail :: utf8Decode none rest := by
  rw [isLead_iff, isTrail_iff] at isPair
  have leadEq : UInt16.ofNat (0xd800 + (0x10000 + (lead.toNat - 0xd800) * 0x400 +
      (trail.toNat - 0xdc00) - 0x10000) / 0x400) = lead := by
    apply UInt16.toNat_inj.mp
    rw [UInt16.toNat_ofNat']
    omega
  have trailEq : UInt16.ofNat (0xdc00 + (0x10000 + (lead.toNat - 0xd800) * 0x400 +
      (trail.toNat - 0xdc00) - 0x10000) % 0x400) = trail := by
    apply UInt16.toNat_inj.mp
    rw [UInt16.toNat_ofNat']
    omega
  have decoded := @utf8Decode_four
    (0x10000 + (lead.toNat - 0xd800) * 0x400 + (trail.toNat - 0xdc00)) rest (by omega) (by omega)
  rw [codeUnits, if_neg (by omega), leadEq, trailEq] at decoded
  exact decoded

/-- Decoding gives a string back, but for its lone surrogates. -/
theorem utf8Slice_utf8 (string : JsString) : utf8Slice (utf8 string) = toWellFormed string := by
  rw [utf8Slice]
  fun_induction utf8 string with
  | case1 => rfl
  | case2 unit =>
      have decoded := utf8Decode_utf8Unit unit []
      rwa [List.append_nil] at decoded
  | case3 first second rest pair ih =>
      rw [utf8Decode_utf8Pair (by simpa using pair), ih, toWellFormed, if_pos pair]
  | case4 first second rest single ih =>
      rw [utf8Decode_utf8Unit, ih, toWellFormed, if_neg single]

/-! ## Zero bytes -/

theorem zero_ne_toByte {number : Nat} (nonzero : number % 256 ≠ 0) :
    (0 : UInt8) ≠ toByte number := by
  intro same
  have zero := congrArg UInt8.toNat same
  rw [toByte_toNat] at zero
  exact nonzero zero.symm

theorem zero_notMem_codeBytes {code : Nat} (positive : code ≠ 0) (small : code < 0x10000) :
    (0 : UInt8) ∉ if code < 0x80 then [toByte code]
      else if code < 0x800 then [toByte (0xc0 + code / 0x40), toByte (0x80 + code % 0x40)]
      else [toByte (0xe0 + code / 0x1000), toByte (0x80 + code / 0x40 % 0x40),
        toByte (0x80 + code % 0x40)] := by
  split
  case isTrue one =>
    rw [List.mem_singleton]
    exact zero_ne_toByte (by omega)
  case isFalse =>
    split
    case isTrue two =>
      simp only [List.mem_cons, List.not_mem_nil, or_false, not_or]
      exact ⟨zero_ne_toByte (by omega), zero_ne_toByte (by omega)⟩
    case isFalse =>
      simp only [List.mem_cons, List.not_mem_nil, or_false, not_or]
      exact ⟨zero_ne_toByte (by omega), zero_ne_toByte (by omega), zero_ne_toByte (by omega)⟩

theorem zero_notMem_utf8Unit {unit : UInt16} (nonzero : unit ≠ 0) :
    (0 : UInt8) ∉ utf8Unit unit := by
  have positive : unit.toNat ≠ 0 := fun isZero => nonzero (UInt16.toNat_inj.mp isZero)
  rw [utf8Unit]
  by_cases surrogate : isLead unit = true ∨ isTrail unit = true
  · rw [if_pos surrogate]
    exact zero_notMem_codeBytes (by decide) (by decide)
  · rw [if_neg surrogate]
    exact zero_notMem_codeBytes positive unit.toNat_lt

theorem zero_notMem_utf8Pair {lead trail : UInt16}
    (isPair : isLead lead = true ∧ isTrail trail = true) :
    (0 : UInt8) ∉ utf8Pair lead trail := by
  rw [isLead_iff, isTrail_iff] at isPair
  rw [utf8Pair]
  simp only [List.mem_cons, List.not_mem_nil, or_false, not_or]
  exact ⟨zero_ne_toByte (by omega), zero_ne_toByte (by omega), zero_ne_toByte (by omega),
    zero_ne_toByte (by omega)⟩

/-- A string without U+0000 has no zero byte. -/
theorem zero_notMem_utf8 {string : JsString} (noZero : ∀ unit ∈ string, unit ≠ 0) :
    (0 : UInt8) ∉ utf8 string := by
  fun_induction utf8 string with
  | case1 => exact List.not_mem_nil
  | case2 unit => exact zero_notMem_utf8Unit (noZero unit List.mem_cons_self)
  | case3 first second rest pair ih =>
      rw [List.mem_append, not_or]
      exact ⟨zero_notMem_utf8Pair pair, ih fun unit member =>
        noZero unit (List.mem_cons_of_mem _ (List.mem_cons_of_mem _ member))⟩
  | case4 first second rest single ih =>
      rw [List.mem_append, not_or]
      exact ⟨zero_notMem_utf8Unit (noZero first List.mem_cons_self), ih fun unit member =>
        noZero unit (List.mem_cons_of_mem _ member)⟩

/-- Bytes of ASCII are the code units they stand for. -/
theorem utf8Slice_ascii {bytes : Bytes} (ascii : ∀ byte ∈ bytes, byte.toNat < 0x80) :
    utf8Slice bytes = bytes.map fun byte => UInt16.ofNat byte.toNat := by
  rw [utf8Slice]
  induction bytes with
  | nil => rfl
  | cons byte bytes ih =>
      have small : byte.toNat < 0x80 := ascii byte List.mem_cons_self
      rw [utf8Decode_cons, utf8Step, utf8First, if_pos small, List.map_cons,
        ih fun other member => ascii other (List.mem_cons_of_mem _ member)]
      rfl

end Mysql2.Packets

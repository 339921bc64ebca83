import Mysql2.Parsers.Columns
import Mysql2.Script.Decimal

/-!
# Integer columns in both protocols

A server sends an integer as its decimal text or as its two's complement.  The
row parsers of the two protocols make the same value of them.
-/

namespace Mysql2.Parsers

open Mysql2.Packets Mysql2.Packets.Packet Mysql2.Script

/-! ## What the server sends -/

/-- The integer types of columns. -/
inductive IntegerType
  | TINY
  | SHORT
  | INT24
  | LONG
  | LONGLONG
  | YEAR
  deriving DecidableEq, Repr

namespace IntegerType

/-- The type of a column definition. -/
def type : IntegerType → Types
  | TINY => .TINY
  | SHORT => .SHORT
  | INT24 => .INT24
  | LONG => .LONG
  | LONGLONG => .LONGLONG
  | YEAR => .YEAR

/-- The bits of the values of a type. -/
def bits : IntegerType → Nat
  | TINY => 8
  | SHORT => 16
  | INT24 => 24
  | LONG => 32
  | LONGLONG => 64
  | YEAR => 16

/-- The bytes of a value in the binary protocol. -/
def bytes : IntegerType → Nat
  | TINY => 1
  | SHORT => 2
  | INT24 => 4
  | LONG => 4
  | LONGLONG => 8
  | YEAR => 2

/-- The values of a column.  Years are never negative. -/
def InRange (column : IntegerType) (unsigned : Bool) (value : Int) : Prop :=
  if unsigned ∨ column = YEAR then 0 ≤ value ∧ value < 2 ^ column.bits
  else -2 ^ (column.bits - 1) ≤ value ∧ value < 2 ^ (column.bits - 1)

instance (column : IntegerType) (unsigned : Bool) (value : Int) :
    Decidable (column.InRange unsigned value) :=
  inferInstanceAs (Decidable (ite _ _ _))

/-- The two's complement of a value. -/
def twosComplement (column : IntegerType) (value : Int) : Bytes :=
  writeUIntLE (value % 2 ^ (8 * column.bytes)).toNat column.bytes

/-- The value of a column: a number, or a string where the options ask for one
or the number would not be safe. -/
def value {α : Type} (column : IntegerType) (bigNumberStrings : Bool) (value : Int) : Value α :=
  if column = LONGLONG ∧ (bigNumberStrings ∨ ¬isSafeInteger value) then .string (toString value)
  else .number value

theorem value_small {α : Type} {column : IntegerType} (small : column ≠ LONGLONG)
    (bigNumberStrings : Bool) (value : Int) :
    column.value bigNumberStrings value = (.number value : Value α) :=
  if_neg fun both => small both.1

theorem value_strings {α : Type} (value : Int) :
    LONGLONG.value true value = (.string (toString value) : Value α) :=
  if_pos ⟨rfl, .inl rfl⟩

theorem value_numbers {α : Type} (value : Int) :
    LONGLONG.value false value =
      (if isSafeInteger value then .number value else .string (toString value) : Value α) := by
  rw [IntegerType.value]
  by_cases safe : isSafeInteger value = true
  · rw [if_pos safe, if_neg (by simp [safe])]
  · rw [if_neg safe, if_pos ⟨rfl, .inr safe⟩]

end IntegerType

/-- The byte of an ASCII character. -/
def charByte (char : Char) : UInt8 :=
  UInt8.ofNat char.toNat

/-- The decimal text of a value. -/
def decimalText (value : Int) : Bytes :=
  (toString value).toList.map charByte

/-! ## Decimal texts -/

/-- The sign of a value's text. -/
def signBytes (value : Int) : Bytes :=
  if value < 0 then [0x2d] else []

/-- The digits of a value's text. -/
def digitBytes (value : Int) : Bytes :=
  (Nat.toDigits 10 value.natAbs).map charByte

theorem decimalText_eq (value : Int) : decimalText value = signBytes value ++ digitBytes value := by
  rw [decimalText, toList_toString_int, List.map_append, signBytes, digitBytes]
  split <;> rfl

theorem isDigit_of_mem {value : Int} {char : Char} (member : char ∈ Nat.toDigits 10 value.natAbs) :
    char.isDigit = true :=
  Nat.isDigit_of_mem_toDigits (by decide) (by decide) member

theorem toNat_charByte {char : Char} (digit : char.isDigit = true) :
    (charByte char).toNat = char.toNat := by
  have range := toNat_of_isDigit digit
  rw [charByte, UInt8.toNat_ofNat']
  omega

theorem digitBytes_ne_nil (value : Int) : digitBytes value ≠ [] := by
  simp [digitBytes]

/-- A digit is no sign. -/
theorem head?_digitBytes (value : Int) :
    ∃ digit : Nat, 48 ≤ digit ∧ (digitBytes value).head?.map UInt8.toNat = some digit := by
  cases digitsEq : Nat.toDigits 10 value.natAbs with
  | nil => exact absurd digitsEq Nat.toDigits_ne_nil
  | cons first rest =>
      have member : first ∈ Nat.toDigits 10 value.natAbs := by simp [digitsEq]
      have digit : first.isDigit = true := isDigit_of_mem member
      have range := toNat_of_isDigit digit
      exact ⟨first.toNat, range.1, by simp [digitBytes, digitsEq, toNat_charByte digit]⟩

theorem length_digitBytes_le {value : Int} {count : Nat} (positive : 0 < count)
    (small : value.natAbs < 10 ^ count) : (digitBytes value).length ≤ count := by
  rw [digitBytes, List.length_map]
  exact (Nat.length_toDigits_le_iff (by decide) positive).mpr small

theorem natAbs_lt_of_length {value : Int} {count : Nat} (positive : 0 < count)
    (short : (digitBytes value).length ≤ count) : value.natAbs < 10 ^ count := by
  rw [digitBytes, List.length_map] at short
  exact (Nat.length_toDigits_le_iff (by decide) positive).mp short

theorem latin1_append (first second : Bytes) :
    latin1 (first ++ second) = latin1 first ++ latin1 second := by
  simp [latin1, String.ofList_append]

theorem toList_latin1_digitBytes (value : Int) :
    (latin1 (digitBytes value)).toList = Nat.toDigits 10 value.natAbs := by
  rw [latin1, String.toList_ofList, digitBytes, List.map_map]
  have charEq : ∀ char ∈ Nat.toDigits 10 value.natAbs,
      ((fun byte : UInt8 => Char.ofNat byte.toNat) ∘ charByte) char = char := by
    intro char member
    rw [Function.comp_apply, toNat_charByte (isDigit_of_mem member), Char.ofNat_toNat]
  rw [List.map_congr_left charEq, List.map_id']

theorem latin1_decimalText (value : Int) : latin1 (decimalText value) = toString value := by
  apply String.toList_inj.mp
  rw [decimalText_eq, latin1_append, String.toList_append, toList_latin1_digitBytes,
    toList_toString_int, signBytes]
  split <;> rfl

/-- The accumulated number never exceeds the result. -/
theorem le_ofDigitChars (digits : List Char) (result : Nat) :
    result ≤ Nat.ofDigitChars 10 digits result := by
  induction digits generalizing result with
  | nil => simp
  | cons first rest ih =>
      rw [Nat.ofDigitChars_cons]
      have step := ih (10 * result + (first.toNat - '0'.toNat))
      omega

/-- As long as the result is safe, no digit is rounded away. -/
theorem foldl_addDigit {digits : List Char} {result : Nat}
    (allDigits : ∀ char ∈ digits, char.isDigit = true)
    (safe : Nat.ofDigitChars 10 digits result < 9007199254740992) :
    (digits.map charByte).foldl addDigit (result : Int) = Nat.ofDigitChars 10 digits result := by
  induction digits generalizing result with
  | nil => simp
  | cons first rest ih =>
      have digit := allDigits first (by simp)
      have range := toNat_of_isDigit digit
      rw [Nat.ofDigitChars_cons] at safe ⊢
      have zero : '0'.toNat = 48 := rfl
      have bound := le_ofDigitChars rest (10 * result + (first.toNat - '0'.toNat))
      have product : Script.round ((result : Int) * 10) = ((result * 10 : Nat) : Int) := by
        have small : result * 10 < 9007199254740992 := by omega
        rw [← round_natCast_of_lt small]
        push_cast
        rfl
      have step : addDigit (result : Int) (charByte first) =
          ((10 * result + (first.toNat - '0'.toNat) : Nat) : Int) := by
        have small : 10 * result + (first.toNat - '0'.toNat) < 9007199254740992 := by omega
        rw [addDigit, product, toNat_charByte digit, ← round_natCast_of_lt small]
        congr 1
        omega
      rw [List.map_cons, List.foldl_cons, step]
      exact ih (fun char member => allDigits char (List.mem_cons_of_mem _ member)) safe

theorem foldl_addDigit_digitBytes {value : Int} (safe : isSafeInteger value = true) :
    (digitBytes value).foldl addDigit 0 = value.natAbs := by
  have small : value.natAbs < 9007199254740992 := by simpa [isSafeInteger] using safe
  have folded : (digitBytes value).foldl addDigit ((0 : Nat) : Int) = _ :=
    foldl_addDigit (fun char member => isDigit_of_mem member)
      (by rwa [Nat.ofDigitChars_ten_toDigits])
  rwa [Nat.ofDigitChars_ten_toDigits] at folded

/-! ## Text protocol -/

section Text

variable {α φ : Type}

/-- The sign of a value as the parsers keep it. -/
def signFactor (value : Int) : Int :=
  if value < 0 then -1 else 1

theorem signFactor_mul_natAbs (value : Int) : signFactor value * value.natAbs = value := by
  rw [signFactor]
  split <;> omega

theorem isSafeInteger_signFactor_mul (value other : Int) :
    isSafeInteger (signFactor value * other) = isSafeInteger other := by
  rw [signFactor]
  split <;> simp [isSafeInteger]

/-- A digit ahead is not taken for a sign. -/
theorem peekByte_ne_sign {packet : Packet} {value : Int} {rest : Bytes} {sign : Nat}
    (aheadEq : packet.ahead = digitBytes value ++ rest) (isSign : sign < 48) :
    packet.peekByte ≠ some sign := by
  obtain ⟨digit, atLeast, headEq⟩ := head?_digitBytes value
  rw [peekByte_eq, aheadEq, List.head?_append, Option.map_or, headEq, Option.some_or]
  rintro ⟨⟩
  omega

/-- The sign of a value's text is read, and its digits are next. -/
theorem readMinus_run {packet : Packet} {value : Int} {rest : Bytes}
    (aheadEq : packet.ahead = decimalText value ++ rest) :
    readMinus.run packet = .ok (signFactor value, packet.advance (signBytes value).length) ∧
      (packet.advance (signBytes value).length).ahead = digitBytes value ++ rest := by
  rw [decimalText_eq, List.append_assoc] at aheadEq
  have digitsAhead := ahead_advance_of_append _ aheadEq rfl
  constructor
  · by_cases negative : value < 0
    · have isMinus : packet.peekByte = some minus := by
        rw [peekByte_eq, aheadEq, signBytes, if_pos negative]
        rfl
      rw [readMinus, run_bind_of_ok (skipSign_run_of_eq isMinus), signFactor, if_pos negative,
        signBytes, if_pos negative]
      rfl
    · have noSign : signBytes value = [] := if_neg negative
      rw [noSign] at digitsAhead
      have notMinus : packet.peekByte ≠ some minus :=
        peekByte_ne_sign digitsAhead (by decide)
      rw [readMinus, run_bind_of_ok (skipSign_run_of_ne notMinus), signFactor, if_neg negative,
        noSign]
      rfl
  · exact digitsAhead

/-- The loop over the digits of a safe value. -/
theorem addDigits_run {packet : Packet} {value : Int} {rest : Bytes}
    (aheadEq : packet.ahead = digitBytes value ++ rest) (safe : isSafeInteger value = true) :
    (addDigits (packet.offset + (digitBytes value).length)).run packet =
      .ok (some value.natAbs, packet.advance (digitBytes value).length) := by
  have count : packet.offset + (digitBytes value).length - packet.offset =
      (digitBytes value).length := by omega
  rw [addDigits, run_get_bind, count, run_bind_of_ok (readBuffer_run aheadEq),
    if_neg (Nat.lt_irrefl _), foldl_addDigit_digitBytes safe]
  rfl

theorem length_decimalText (value : Int) :
    (decimalText value).length = (signBytes value).length + (digitBytes value).length := by
  rw [decimalText_eq, List.length_append]

/-- `parseIntNoBigCheck` reads a safe value. -/
theorem parseIntNoBigCheck_run {packet : Packet} {value : Int} {rest : Bytes}
    (aheadEq : packet.ahead = decimalText value ++ rest) (safe : isSafeInteger value = true) :
    (parseIntNoBigCheck (α := α) (.number (decimalText value).length)).run packet =
      .ok (.number value, packet.advance (decimalText value).length) := by
  obtain ⟨signRun, digitsAhead⟩ := readMinus_run aheadEq
  have nonempty : (decimalText value).length ≠ 0 := by
    have positive := List.length_pos_iff.mpr (digitBytes_ne_nil value)
    rw [length_decimalText]
    omega
  have notPlus : Packet.peekByte _ ≠ some plus := peekByte_ne_sign digitsAhead (by decide)
  have digitsRun := addDigits_run digitsAhead safe
  rw [offset_advance, Nat.add_assoc, ← length_decimalText, advance_advance,
    ← length_decimalText] at digitsRun
  show StateT.run (if (decimalText value).length = 0 then _ else _) packet = _
  rw [if_neg nonempty, run_get_bind, run_bind_of_ok signRun,
    run_bind_of_ok (skipSign_run_of_ne notPlus), toNat_number, run_bind_of_ok digitsRun]
  show Except.ok (Value.number (value.natAbs * signFactor value), _) = _
  rw [Int.mul_comm, signFactor_mul_natAbs]

/-- The text of a value, put together from its sign and its digits. -/
theorem signed_latin1_digitBytes (value : Int) :
    (if signFactor value = -1 then "-" ++ latin1 (digitBytes value) else latin1 (digitBytes value)) =
      toString value := by
  rw [← latin1_decimalText, decimalText_eq, latin1_append, signBytes, signFactor]
  by_cases negative : value < 0
  · rw [if_pos negative, if_pos negative, if_pos rfl]
    rfl
  · rw [if_neg negative, if_neg negative, if_neg (by decide)]
    exact (String.empty_append ..).symm

/-- `parseInt` reads every value exactly: as a number if it is safe, else as its
text. -/
theorem parseInt_run (runtime : Runtime α) {packet : Packet} {value : Int} {rest : Bytes}
    (aheadEq : packet.ahead = decimalText value ++ rest) :
    (parseInt runtime (.number (decimalText value).length) true).run packet =
      .ok (if isSafeInteger value then .number value else .string (toString value),
        packet.advance (decimalText value).length) := by
  obtain ⟨signRun, digitsAhead⟩ := readMinus_run aheadEq
  have nonempty : (decimalText value).length ≠ 0 := by
    have positive := List.length_pos_iff.mpr (digitBytes_ne_nil value)
    rw [length_decimalText]
    omega
  have numDigits : packet.offset + (decimalText value).length -
      (packet.offset + (signBytes value).length) = (digitBytes value).length := by
    rw [length_decimalText]
    omega
  show StateT.run (if 14 ≤ (decimalText value).length ∧ (!true) = true then _ else
    if (decimalText value).length = 0 then _ else _) packet = _
  rw [if_neg (by simp), if_neg nonempty, run_get_bind, run_bind_of_ok signRun, run_get_bind,
    toNat_number, offset_advance, numDigits]
  by_cases long : 15 ≤ (digitBytes value).length
  · rw [if_pos ⟨rfl, long⟩, run_bind_of_ok (readBuffer_run digitsAhead), advance_advance,
      ← length_decimalText]
    dsimp only
    rw [toList_latin1_digitBytes, parseInt_toDigits]
    dsimp only
    rw [isSafeInteger_signFactor_mul, isSafeInteger_round, signed_latin1_digitBytes]
    have magnitudeSafe : isSafeInteger (value.natAbs : Int) = isSafeInteger value := by
      rw [isSafeInteger, isSafeInteger, Int.natAbs_natCast]
    rw [magnitudeSafe]
    by_cases safe : isSafeInteger value = true
    · have exactMagnitude : Script.round (value.natAbs : Int) = value.natAbs :=
        round_of_safe (magnitudeSafe.trans safe)
      rw [if_pos safe, if_pos safe, exactMagnitude, signFactor_mul_natAbs]
      rfl
    · rw [if_neg safe, if_neg safe]
      rfl
  · -- fewer than 15 digits make a safe integer
    have small : value.natAbs < 10 ^ 14 := natAbs_lt_of_length (by decide) (by omega)
    have safe : isSafeInteger value = true := by
      rw [isSafeInteger, decide_eq_true_eq]
      exact Nat.lt_trans small (by decide)
    have notPlus : Packet.peekByte _ ≠ some plus := peekByte_ne_sign digitsAhead (by decide)
    have digitsRun := addDigits_run digitsAhead safe
    rw [offset_advance, Nat.add_assoc, ← length_decimalText, advance_advance,
      ← length_decimalText] at digitsRun
    rw [if_neg (fun both => long both.2), run_bind_of_ok (skipSign_run_of_ne notPlus),
      run_bind_of_ok digitsRun, if_pos safe]
    dsimp only
    rw [Int.mul_comm, signFactor_mul_natAbs, if_neg (by simp [safe])]
    rfl

/-- The cell of a text row that carries a value. -/
def textCell (value : Int) : Bytes :=
  writeLengthCodedBuffer (decimalText value)

/-- The length of a cell is read, and its text is next. -/
theorem textCell_length_run {packet : Packet} {value : Int} {rest : Bytes}
    (aheadEq : packet.ahead = textCell value ++ rest) (small : value.natAbs < 2 ^ 64) :
    (readLengthCodedNumber false false).run packet =
        .ok (.number (decimalText value).length,
          packet.advance (lengthCodedNumberLength (decimalText value).length)) ∧
      (packet.advance (lengthCodedNumberLength (decimalText value).length)).ahead =
        decimalText value ++ rest := by
  have digits : (digitBytes value).length ≤ 20 :=
    length_digitBytes_le (by decide) (Nat.lt_trans small (by decide))
  have sign : (signBytes value).length ≤ 1 := by
    rw [signBytes]
    split <;> simp
  rw [textCell, writeLengthCodedBuffer, List.append_assoc] at aheadEq
  constructor
  · exact readLengthCodedNumber_run false false aheadEq (by rw [length_decimalText]; omega)
  · exact ahead_advance_of_append _ aheadEq (length_writeLengthCodedNumber _)

theorem length_textCell (value : Int) :
    (textCell value).length =
      lengthCodedNumberLength (decimalText value).length + (decimalText value).length := by
  rw [textCell, writeLengthCodedBuffer, List.length_append, length_writeLengthCodedNumber]

theorem parseLengthCodedIntNoBigCheck_run {packet : Packet} {value : Int} {rest : Bytes}
    (aheadEq : packet.ahead = textCell value ++ rest) (safe : isSafeInteger value = true) :
    (parseLengthCodedIntNoBigCheck (α := α)).run packet =
      .ok (.number value, packet.advance (textCell value).length) := by
  have small : value.natAbs < 2 ^ 64 := by
    have bound : value.natAbs < 9007199254740992 := by simpa [isSafeInteger] using safe
    omega
  obtain ⟨lengthRun, textAhead⟩ := textCell_length_run aheadEq small
  rw [parseLengthCodedIntNoBigCheck, run_bind_of_ok lengthRun, parseIntNoBigCheck_run textAhead safe,
    advance_advance, length_textCell]

theorem parseLengthCodedInt_run (runtime : Runtime α) {packet : Packet} {value : Int} {rest : Bytes}
    (aheadEq : packet.ahead = textCell value ++ rest) (small : value.natAbs < 2 ^ 64) :
    (parseLengthCodedInt runtime true).run packet =
      .ok (if isSafeInteger value then .number value else .string (toString value),
        packet.advance (textCell value).length) := by
  obtain ⟨lengthRun, textAhead⟩ := textCell_length_run aheadEq small
  rw [parseLengthCodedInt, run_bind_of_ok lengthRun, parseInt_run runtime textAhead,
    advance_advance, length_textCell]

theorem parseLengthCodedIntString_run (runtime : Runtime α) {packet : Packet} {value : Int}
    {rest : Bytes} (aheadEq : packet.ahead = textCell value ++ rest)
    (small : value.natAbs < 2 ^ 64) :
    (parseLengthCodedIntString runtime).run packet =
      .ok (.string (toString value), packet.advance (textCell value).length) := by
  obtain ⟨lengthRun, textAhead⟩ := textCell_length_run aheadEq small
  have decoded : (runtime.decode (some "binary") (decimalText value)) = .ok (toString value) := by
    rw [runtime.decode_binary, latin1_decimalText]
  have stringRun : (readLengthCodedString runtime.toDecoding (some "binary")).run packet =
      .ok (some (toString value), packet.advance (textCell value).length) := by
    rw [readLengthCodedString, run_bind_of_ok lengthRun]
    show StateT.run (readBuffer (LengthCoded.number (decimalText value).length).toNat >>= _) _ = _
    rw [toNat_number, run_bind_of_ok (readBuffer_run textAhead), advance_advance, ← length_textCell,
      decoded]
    rfl
  rw [parseLengthCodedIntString, readStringValue, run_bind_of_ok stringRun]
  rfl

end Text

/-! ## Binary protocol -/

/-- The words of a 64-bit number make its signed value. -/
theorem signed_words {word0 : Nat} (word1 : Nat) (fits : word0 < 4294967296) :
    (word0 + 4294967296 * toSigned 32 word1 : Int) = toSigned 64 (word0 + 4294967296 * word1) := by
  simp only [toSigned, Nat.reduceSub, Nat.reducePow, Int.reducePow]
  split <;> split <;> omega

section Binary

variable {α φ : Type}

/-- The number whose bytes carry a value. -/
theorem uintLE_twosComplement (column : IntegerType) (value : Int) :
    uintLE (column.twosComplement value) = (value % 2 ^ (8 * column.bytes)).toNat :=
  uintLE_writeUIntLE_emod column.bytes value

theorem length_twosComplement (column : IntegerType) (value : Int) :
    (column.twosComplement value).length = column.bytes :=
  length_writeUIntLE _ _

/-- The two words of a 64-bit value. -/
theorem readInt32_words {packet : Packet} {value : Int} {rest : Bytes}
    (aheadEq : packet.ahead = IntegerType.LONGLONG.twosComplement value ++ rest) :
    ∃ word0 word1 : Nat, word0 < 4294967296 ∧
      word0 + 4294967296 * word1 = (value % 2 ^ 64).toNat ∧
      readInt32.run packet = .ok (word0, packet.advance 4) ∧
      readInt32.run (packet.advance 4) = .ok (word1, packet.advance 8) := by
  have bound : (value % 2 ^ 64).toNat < 18446744073709551616 := by omega
  have firstAhead : packet.ahead = writeUIntLE (value % 2 ^ 64).toNat 4 ++
      (writeUIntLE ((value % 2 ^ 64).toNat / 4294967296) 4 ++ rest) := by
    rw [aheadEq, IntegerType.twosComplement, ← List.append_assoc]
    congr 1
    exact writeUIntLE_add _ 4 4
  have secondAhead := ahead_advance_of_append _ firstAhead (length_writeUIntLE _ 4)
  refine ⟨(value % 2 ^ 64).toNat % 4294967296, (value % 2 ^ 64).toNat / 4294967296,
    Nat.mod_lt _ (by decide), Nat.mod_add_div _ _, ?_, ?_⟩
  · have fourBytes : 256 ^ 4 = 4294967296 := by decide
    rw [readInt32_run firstAhead (length_writeUIntLE _ 4), uintLE_writeUIntLE, fourBytes]
  · rw [readInt32_run secondAhead (length_writeUIntLE _ 4), advance_advance,
      uintLE_writeUIntLE_of_lt (by omega)]

/-- The range of a signed column. -/
theorem InRange.signed {column : IntegerType} {value : Int} (notYear : column ≠ .YEAR)
    (inRange : column.InRange false value) :
    -2 ^ (column.bits - 1) ≤ value ∧ value < 2 ^ (column.bits - 1) := by
  rwa [IntegerType.InRange, if_neg (by simp [notYear])] at inRange

/-- The range of an unsigned column. -/
theorem InRange.unsigned {column : IntegerType} {value : Int}
    (inRange : column.InRange true value) : 0 ≤ value ∧ value < 2 ^ column.bits := by
  rwa [IntegerType.InRange, if_pos (.inl rfl)] at inRange

theorem InRange.year {unsigned : Bool} {value : Int}
    (inRange : IntegerType.YEAR.InRange unsigned value) : 0 ≤ value ∧ value < 65536 := by
  rwa [IntegerType.InRange, if_pos (.inr rfl)] at inRange

/-- The values that every column but a 64-bit one carries are safe. -/
theorem isSafeInteger_of_inRange {column : IntegerType} {unsigned : Bool} {value : Int}
    (small : column ≠ .LONGLONG) (inRange : column.InRange unsigned value) :
    isSafeInteger value = true := by
  rw [isSafeInteger, decide_eq_true_eq]
  rw [IntegerType.InRange] at inRange
  cases column <;> simp only [IntegerType.bits, Nat.reduceSub, Int.reducePow] at inRange <;>
    first | exact absurd rfl small | (split at inRange <;> omega)

theorem natAbs_lt_of_inRange {column : IntegerType} {unsigned : Bool} {value : Int}
    (inRange : column.InRange unsigned value) : value.natAbs < 2 ^ 64 := by
  rw [IntegerType.InRange] at inRange
  cases column <;> simp only [IntegerType.bits, Nat.reduceSub, Int.reducePow] at inRange <;>
    split at inRange <;> omega

/-- An unsigned reader gives the value back. -/
theorem uintLE_of_unsigned {column : IntegerType} {value : Int}
    (inRange : 0 ≤ value ∧ value < 2 ^ column.bits) :
    (uintLE (column.twosComplement value) : Int) = value := by
  rw [uintLE_twosComplement]
  cases column <;> simp only [IntegerType.bits, IntegerType.bytes, Nat.reduceMul,
    Int.reducePow] at inRange ⊢ <;> omega

/-- A signed reader gives the value back. -/
theorem toSigned_of_signed {column : IntegerType} {value : Int} (notYear : column ≠ .YEAR)
    (inRange : column.InRange false value) :
    toSigned (8 * column.bytes) (uintLE (column.twosComplement value)) = value := by
  obtain ⟨least, greatest⟩ := InRange.signed notYear inRange
  rw [uintLE_twosComplement]
  apply toSigned_emod
  · cases column <;> decide
  · cases column <;> simp only [IntegerType.bits, IntegerType.bytes, Nat.reduceMul, Nat.reduceSub,
      Int.reducePow] at least ⊢ <;> omega
  · cases column <;> simp only [IntegerType.bits, IntegerType.bytes, Nat.reduceMul, Nat.reduceSub,
      Int.reducePow] at greatest ⊢ <;> omega

/-- The one-byte reader. -/
theorem readInt8_twosComplement {packet : Packet} {value : Int} {rest : Bytes}
    (aheadEq : packet.ahead = IntegerType.TINY.twosComplement value ++ rest) :
    Packet.readInt8.run packet =
      .ok (some (uintLE (IntegerType.TINY.twosComplement value)), packet.advance 1) := by
  rw [readInt8_run_cons aheadEq]
  rfl

/-- What the binary readers make of a 64-bit value. -/
theorem readLongLong_run {packet : Packet} {value : Int} {rest : Bytes} {unsigned : Bool}
    (aheadEq : packet.ahead = IntegerType.LONGLONG.twosComplement value ++ rest)
    (inRange : IntegerType.LONGLONG.InRange unsigned value) :
    (if unsigned then readInt64String (α := α) else readSInt64String).run packet =
        .ok (.string (toString value), packet.advance 8) ∧
      (if unsigned then readInt64 (α := α) else readSInt64).run packet =
        .ok (if isSafeInteger value then .number value else .string (toString value),
          packet.advance 8) := by
  obtain ⟨word0, word1, fits, wordsEq, firstRun, secondRun⟩ := readInt32_words aheadEq
  cases unsigned with
  | true =>
      obtain ⟨least, greatest⟩ := InRange.unsigned inRange
      have valueEq : (word0 + 4294967296 * word1 : Int) = value := by
        rw [IntegerType.bits] at greatest
        omega
      constructor
      · rw [if_pos rfl, readInt64String, run_bind_of_ok firstRun, run_bind_of_ok secondRun,
          unsignedString, valueEq]
        rfl
      · rw [if_pos rfl, readInt64, run_bind_of_ok firstRun, run_bind_of_ok secondRun]
        dsimp only
        rw [words, unsignedString, valueEq, isSafeInteger_round]
        by_cases safe : isSafeInteger value = true
        · rw [if_pos safe, if_pos safe, round_of_safe safe]
          rfl
        · rw [if_neg safe, if_neg safe]
          rfl
  | false =>
      obtain ⟨least, greatest⟩ := InRange.signed (by decide) inRange
      have valueEq : (word0 + 4294967296 * toSigned 32 word1 : Int) = value := by
        rw [signed_words word1 fits, wordsEq]
        exact toSigned_emod (by decide) least greatest
      constructor
      · rw [if_neg (by decide), readSInt64String, run_bind_of_ok firstRun,
          run_bind_of_ok secondRun, signedString, valueEq]
        rfl
      · rw [if_neg (by decide), readSInt64, run_bind_of_ok firstRun, run_bind_of_ok secondRun]
        dsimp only
        rw [words, signedString, valueEq, isSafeInteger_round]
        by_cases safe : isSafeInteger value = true
        · rw [if_pos safe, if_pos safe, round_of_safe safe]
          rfl
        · rw [if_neg safe, if_neg safe]
          rfl

/-- The row parser of the text protocol reads the value of an integer column. -/
theorem textReadCodeFor_run (runtime : Runtime α) (column : IntegerType) {field : Field}
    (fields : List Field) (encodingExpr : EncodingExpr) (config : Config φ) (options : Options φ)
    {value : Int} {packet : Packet} {rest : Bytes}
    (isColumn : field.columnType = column.type.toNat) (notJson : field.isJsonFormat = false)
    (bigNumbers : supportBigNumbers options config = true)
    (inRange : column.InRange field.unsigned value)
    (aheadEq : packet.ahead = textCell value ++ rest) :
    ((textReadCodeFor field encodingExpr config options).run runtime fields).run packet =
      .ok (column.value (bigNumberStrings options config) value,
        packet.advance (textCell value).length) := by
  by_cases small : column = .LONGLONG
  · subst small
    have typeEq : Types.ofNat field.columnType = .LONGLONG := by rw [isColumn]; decide
    have magnitude := natAbs_lt_of_inRange inRange
    simp only [textReadCodeFor, notJson, Bool.false_eq_true, if_false, typeEq, bigNumbers, true_and]
    cases strings : bigNumberStrings options config with
    | true =>
        rw [if_pos rfl, PacketCall.run, parseLengthCodedIntString_run runtime aheadEq magnitude,
          IntegerType.value_strings]
    | false =>
        rw [if_neg (by decide), PacketCall.run, parseLengthCodedInt_run runtime aheadEq magnitude,
          IntegerType.value_numbers]
  · have safe := isSafeInteger_of_inRange small inRange
    have callEq : textReadCodeFor field encodingExpr config options =
        .parseLengthCodedIntNoBigCheck := by
      simp only [textReadCodeFor, notJson, Bool.false_eq_true, if_false, isColumn]
      cases column <;> first | rfl | exact absurd rfl small
    rw [callEq, PacketCall.run, parseLengthCodedIntNoBigCheck_run aheadEq safe,
      IntegerType.value_small small]

/-- A pair of an unsigned and a signed reader of the same bytes. -/
theorem fixed_run (runtime : Runtime α) {column : IntegerType} (fields : List Field)
    {unsigned : Bool} {value : Int} {packet after : Packet} {unsignedCall signedCall : PacketCall}
    (notYear : column ≠ .YEAR) (inRange : column.InRange unsigned value)
    (unsignedRun : (unsignedCall.run runtime fields).run packet =
      .ok (.number (uintLE (column.twosComplement value)), after))
    (signedRun : (signedCall.run runtime fields).run packet =
      .ok (.number (toSigned (8 * column.bytes) (uintLE (column.twosComplement value))), after)) :
    ((if unsigned then unsignedCall else signedCall).run runtime fields).run packet =
      .ok (.number value, after) := by
  cases unsigned with
  | true => rw [if_pos rfl, unsignedRun, uintLE_of_unsigned (InRange.unsigned inRange)]
  | false => rw [if_neg (by decide), signedRun, toSigned_of_signed notYear inRange]

/-- The row parser of the binary protocol reads the value of an integer column. -/
theorem binaryReadCodeFor_run (runtime : Runtime α) (column : IntegerType) {field : Field}
    (fields : List Field) (fieldNum : Nat) (config : Config φ) (options : Options φ)
    {value : Int} {packet : Packet} {rest : Bytes}
    (isColumn : field.columnType = column.type.toNat) (notJson : field.isJsonFormat = false)
    (bigNumbers : supportBigNumbers options config = true)
    (inRange : column.InRange field.unsigned value)
    (aheadEq : packet.ahead = column.twosComplement value ++ rest) :
    ((binaryReadCodeFor field config options fieldNum).call.run runtime fields).run packet =
      .ok (column.value (bigNumberStrings options config) value,
        packet.advance (column.twosComplement value).length) := by
  have lengthEq := length_twosComplement column value
  have typeEq : Types.ofNat field.columnType = column.type := by
    rw [isColumn]
    cases column <;> decide
  simp only [binaryReadCodeFor, notJson, Bool.false_eq_true, if_false, typeEq, bigNumbers,
    not_true_eq_false]
  rw [lengthEq]
  cases column with
  | TINY =>
      have byteRun := readInt8_twosComplement aheadEq
      rw [IntegerType.value_small (by decide)]
      apply fixed_run runtime fields (by decide) inRange
      · rw [PacketCall.run, run_bind_of_ok byteRun]
        rfl
      · rw [PacketCall.run, readSInt8, bind_assoc, run_bind_of_ok byteRun]
        rfl
  | SHORT =>
      have wordRun := readInt16_run aheadEq lengthEq
      rw [IntegerType.value_small (by decide)]
      apply fixed_run runtime fields (by decide) inRange
      · rw [PacketCall.run, run_bind_of_ok wordRun]
        rfl
      · rw [PacketCall.run, readSInt16, bind_assoc, run_bind_of_ok wordRun]
        rfl
  | INT24 | LONG =>
      have wordRun := readInt32_run aheadEq lengthEq
      rw [IntegerType.value_small (by decide)]
      apply fixed_run runtime fields (by decide) inRange
      · rw [PacketCall.run, run_bind_of_ok wordRun]
        rfl
      · rw [PacketCall.run, readSInt32, bind_assoc, run_bind_of_ok wordRun]
        rfl
  | YEAR =>
      have wordRun := readInt16_run aheadEq lengthEq
      have valueEq : (uintLE (IntegerType.YEAR.twosComplement value) : Int) = value :=
        uintLE_of_unsigned (InRange.year inRange)
      rw [IntegerType.value_small (by decide)]
      show ((PacketCall.readInt16).run runtime fields).run packet = _
      rw [PacketCall.run, run_bind_of_ok wordRun, valueEq]
      rfl
  | LONGLONG =>
      obtain ⟨stringRun, numberRun⟩ := readLongLong_run (α := α) aheadEq inRange
      dsimp only [IntegerType.type]
      cases strings : bigNumberStrings options config with
      | true =>
          rw [if_pos rfl, IntegerType.value_strings]
          cases unsigned : field.unsigned <;> rw [unsigned] at stringRun <;> exact stringRun
      | false =>
          rw [if_neg (by decide), IntegerType.value_numbers]
          cases unsigned : field.unsigned <;> rw [unsigned] at numberRun <;> exact numberRun

end Binary

/-- The two protocols make the same value of every integer. -/
theorem integer_text_eq_binary {α φ : Type} (runtime : Runtime α) (column : IntegerType)
    (fields : List Field) (fieldNum : Nat) (config : Config φ) (options : Options φ)
    {field : Field} {value : Int} {textPacket binaryPacket : Packet} {textRest binaryRest : Bytes}
    (isColumn : field.columnType = column.type.toNat) (notJson : field.isJsonFormat = false)
    (bigNumbers : supportBigNumbers options config = true)
    (inRange : column.InRange field.unsigned value)
    (textAhead : textPacket.ahead = textCell value ++ textRest)
    (binaryAhead : binaryPacket.ahead = column.twosComplement value ++ binaryRest) :
    ∃ result : Value α,
      ((textReadCodeFor field (.ofField fieldNum) config options).run runtime fields).run
          textPacket = .ok (result, textPacket.advance (textCell value).length) ∧
      ((binaryReadCodeFor field config options fieldNum).call.run runtime fields).run
          binaryPacket =
        .ok (result, binaryPacket.advance (column.twosComplement value).length) := by
  constructor
  constructor
  · exact textReadCodeFor_run runtime column fields (.ofField fieldNum) config options isColumn
      notJson bigNumbers inRange textAhead
  · exact binaryReadCodeFor_run runtime column fields fieldNum config options isColumn notJson
      bigNumbers inRange binaryAhead

/-- A column without a name. -/
def integerField (column : IntegerType) (unsigned : Bool) : Field where
  columnType := column.type.toNat
  flags := if unsigned then 0x20 else 0
  characterSet := Charsets.BINARY
  decimals := 0
  columnLength := 0
  encoding := some "binary"
  schema := []
  table := []
  name := []
  extendedTypeName := none
  extendedFormat := none

/-- Options with none set but `supportBigNumbers`. -/
def bigNumberOptions : Options Unit where
  rowsAsArray := false
  nestTables := .absent
  typeCast := .absent
  timezone := none
  dateStrings := .falsy
  supportBigNumbers := true
  bigNumberStrings := false
  decimalNumbers := false

/-- A connection in local time with no other option set. -/
def plainConfig : Config Unit where
  typeCast := .absent
  timezone := some (units "local")
  dateStrings := .falsy
  supportBigNumbers := false
  bigNumberStrings := false
  decimalNumbers := false
  jsonStrings := false

/-- A packet that carries one value. -/
def cellPacket (cell : Bytes) : Packet :=
  .new 0 ([0, 0, 0, 0] ++ cell) 0 (4 + cell.length)

theorem ahead_cellPacket (cell : Bytes) : (cellPacket cell).ahead = cell ++ [] := by
  rw [cellPacket, ahead_new 0 [0, 0, 0, 0] cell _ rfl, List.append_nil]

/-- The greatest 64-bit number. -/
theorem integer_text_eq_binary_greatest :
    ∃ result : Value Unit,
      ((textReadCodeFor (integerField .LONGLONG true) (.ofField 0) plainConfig
          bigNumberOptions).run utcRuntime []).run (cellPacket (textCell 18446744073709551615)) =
        .ok (result, (cellPacket (textCell 18446744073709551615)).advance
          (textCell 18446744073709551615).length) ∧
      ((binaryReadCodeFor (integerField .LONGLONG true) plainConfig bigNumberOptions 0).call.run
          utcRuntime []).run
          (cellPacket (IntegerType.LONGLONG.twosComplement 18446744073709551615)) =
        .ok (result, (cellPacket
          (IntegerType.LONGLONG.twosComplement 18446744073709551615)).advance
          (IntegerType.LONGLONG.twosComplement 18446744073709551615).length) :=
  integer_text_eq_binary utcRuntime .LONGLONG [] 0 plainConfig bigNumberOptions rfl rfl rfl
    (by decide) (ahead_cellPacket _) (ahead_cellPacket _)

end Mysql2.Parsers

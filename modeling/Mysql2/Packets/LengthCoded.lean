import Mysql2.Packets.Integers

/-!
# Whole numbers on the wire

Length-coded numbers come back as they were written, and a pattern of 64 bits is
read as the integer it stands for: as a number if that is a safe integer, as
decimal text otherwise.  The words are put together in doubles, whose rounding
never makes a number safe or unsafe.
-/

namespace Mysql2.Packets

open Mysql2.Script

/-! ## Doubles of 64 bits -/

/-- `word * 0x100000000`, as a double. -/
def highPart (word : Int) : Int :=
  Script.round (word * 4294967296)

/-- The product has no more significant bits than the word. -/
theorem roundNat_mul_two_pow {n : Nat} (small : n < 9007199254740992) (shift : Nat) :
    roundNat (n * 2 ^ shift) = n * 2 ^ shift := by
  rw [roundNat]
  split
  · rfl
  case isFalse large =>
    have positive : n ≠ 0 := by
      rintro rfl
      rw [Nat.zero_mul] at large
      exact large (by decide)
    have nonzero : n * 2 ^ shift ≠ 0 := Nat.mul_ne_zero positive (Nat.two_pow_pos shift).ne'
    have bits : (n * 2 ^ shift).log2 < 53 + shift := by
      rw [Nat.log2_lt nonzero, Nat.pow_add]
      exact Nat.mul_lt_mul_of_pos_right small (Nat.two_pow_pos shift)
    have divides : 2 ^ ((n * 2 ^ shift).log2 - 52) ∣ n * 2 ^ shift := by
      apply Nat.dvd_mul_left_of_dvd
      exact Nat.pow_dvd_pow 2 (by omega)
    have below := Nat.div_mul_cancel divides
    dsimp only
    rw [below, Nat.sub_self, if_neg]
    have unit : 0 < 2 ^ ((n * 2 ^ shift).log2 - 52) := Nat.two_pow_pos _
    omega

theorem highPart_eq {word : Int} (small : word.natAbs < 9007199254740992) :
    highPart word = word * 4294967296 := by
  have exact_ := roundNat_mul_two_pow small 32
  have power : 2 ^ 32 = 4294967296 := rfl
  rw [power] at exact_
  have magnitude : (word * 4294967296).natAbs = word.natAbs * 4294967296 := by
    rw [Int.natAbs_mul]
    rfl
  rw [highPart, Script.round, magnitude, exact_]
  split <;> omega

/-- A safe integer as a number, and any other by its decimal text. -/
def exactValue {α : Type} (value : Int) : Value α :=
  if isSafeInteger value then .number value else .string (toString value)

/-- A safe integer as a number, and any other by its decimal text, for a length. -/
def exactLength (value : Int) : Packet.LengthCoded :=
  if isSafeInteger value then .number value else .string value

namespace Packet

/-- The eight-byte form of `readLengthCodedNumberExt`, with the doubles of its two short cuts
and of `new Long(word0, word1, !signed)`. -/
def readLengthCodedNumberExt64 (word0 word1 : Nat) (bigNumberStrings signed : Bool) :
    LengthCoded :=
  if word1 = 0 then
    -- don't convert to float if possible
    .number word0
  else if word1 < 2097152 then
    .number (Script.round (highPart word1 + word0))
  else
    let high : Int := if signed then toSigned 32 word1 else word1
    let resNumber := Script.round (highPart high + word0)
    if bigNumberStrings ∨ !isSafeInteger resNumber then
      .string (high * 4294967296 + word0)
    else
      .number resNumber

/-- No double of the eight-byte form is rounded. -/
theorem lengthCoded64_eq {word0 word1 : Nat} (low : word0 < 4294967296) (high : word1 < 4294967296)
    (bigNumberStrings signed : Bool) :
    lengthCoded64 word0 word1 bigNumberStrings signed =
      readLengthCodedNumberExt64 word0 word1 bigNumberStrings signed := by
  rw [lengthCoded64, readLengthCodedNumberExt64]
  by_cases zero : word1 = 0
  · rw [if_pos zero, if_pos zero]
  · rw [if_neg zero, if_neg zero]
    by_cases short : word1 < 2097152
    · have safe : isSafeInteger (word1 * 4294967296 + word0 : Int) = true := by
        rw [isSafeInteger, decide_eq_true_eq]
        omega
      rw [if_pos short, if_pos short, highPart_eq (by omega), round_of_safe safe]
    · have highEq : (if signed = true then toSigned 32 word1 else (word1 : Int)) * 4294967296 + word0 =
          if signed = true ∧ 2147483648 ≤ word1 then
            (word1 * 4294967296 + word0 : Int) - 18446744073709551616
          else (word1 * 4294967296 + word0 : Int) := by
        rw [toSigned]
        cases signed with
        | true =>
            simp only [if_true, true_and]
            split
            · rw [if_neg (by omega)]
            · rw [if_pos (by omega)]
              omega
        | false => simp
      have small : (if signed = true then toSigned 32 word1 else (word1 : Int)).natAbs <
          9007199254740992 := by
        rw [toSigned]
        split
        · split <;> omega
        · omega
      rw [if_neg short, if_neg short]
      dsimp only
      rw [highPart_eq small, highEq]
      generalize (if signed = true ∧ 2147483648 ≤ word1 then
        (word1 * 4294967296 + word0 : Int) - 18446744073709551616
        else (word1 * 4294967296 + word0 : Int)) = value
      have unsafe_iff : (9007199254740991 < value ∨ value < -9007199254740991) ↔
          isSafeInteger value = false := by
        rw [isSafeInteger, decide_eq_false_iff_not]
        omega
      rw [isSafeInteger_round]
      cases safe : isSafeInteger value with
      | true => simp [unsafe_iff, safe, round_of_safe safe]
      | false => simp [unsafe_iff, safe]

/-! ## Eight bytes -/

theorem uintLE_append (first second : Bytes) :
    uintLE (first ++ second) = uintLE first + 256 ^ first.length * uintLE second := by
  induction first with
  | nil => simp [uintLE]
  | cons byte first ih =>
      rw [List.cons_append, uintLE, ih, uintLE, List.length_cons, Nat.pow_succ, Nat.mul_add,
        ← Nat.mul_assoc, Nat.mul_comm 256 (256 ^ first.length), Nat.add_assoc]

theorem uintLE_lt (bytes : Bytes) : uintLE bytes < 256 ^ bytes.length := by
  induction bytes with
  | nil => simp [uintLE]
  | cons byte bytes ih =>
      have range := byte.toNat_lt
      rw [uintLE, List.length_cons, Nat.pow_succ]
      omega

section Reading

variable {α : Type} {packet : Packet} {bytes rest : Bytes}

/-- Eight bytes are read as two words. -/
theorem readWords_run {γ : Type} (next : Nat → Nat → Reader γ)
    (aheadEq : packet.ahead = bytes ++ rest) (length : bytes.length = 8) :
    (readInt32 >>= fun word0 => readInt32 >>= fun word1 => next word0 word1).run packet =
      (next (uintLE bytes % 4294967296) (uintLE bytes / 4294967296)).run (packet.advance 8) := by
  have firstLength : (bytes.take 4).length = 4 := by
    rw [List.length_take, length]
    rfl
  have secondLength : (bytes.drop 4).length = 4 := by
    rw [List.length_drop, length]
  have firstAhead : packet.ahead = bytes.take 4 ++ (bytes.drop 4 ++ rest) := by
    rw [aheadEq, ← List.append_assoc, List.take_append_drop]
  have secondAhead := ahead_advance_of_append _ firstAhead firstLength
  have below := uintLE_lt (bytes.take 4)
  have whole := uintLE_append (bytes.take 4) (bytes.drop 4)
  have word : 256 ^ 4 = 4294967296 := rfl
  rw [firstLength, word] at below whole
  rw [List.take_append_drop] at whole
  have low : uintLE bytes % 4294967296 = uintLE (bytes.take 4) := by omega
  have high : uintLE bytes / 4294967296 = uintLE (bytes.drop 4) := by omega
  rw [run_bind_of_ok (readInt32_run firstAhead firstLength),
    run_bind_of_ok (readInt32_run secondAhead secondLength), advance_advance, low, high]

theorem words_unsigned (n : Nat) :
    words (n % 4294967296) ((n / 4294967296 : Nat) : Int) = Script.round n := by
  rw [words]
  congr 1
  omega

theorem words_signed {n : Nat} (fits : n < 18446744073709551616) :
    words (n % 4294967296) (toSigned 32 (n / 4294967296)) = Script.round (toSigned 64 n) := by
  rw [words]
  congr 1
  rw [toSigned, toSigned]
  split <;> split <;> omega

theorem unsignedString_words (n : Nat) :
    unsignedString (n % 4294967296) (n / 4294967296) = toString (n : Int) := by
  rw [unsignedString]
  congr 1
  omega

theorem signedString_words {n : Nat} (fits : n < 18446744073709551616) :
    signedString (n % 4294967296) (n / 4294967296) = toString (toSigned 64 n) := by
  rw [signedString]
  congr 1
  rw [toSigned, toSigned]
  split <;> split <;> omega

theorem uintLE_lt_64 (length : bytes.length = 8) : uintLE bytes < 18446744073709551616 := by
  have below := uintLE_lt bytes
  rwa [length] at below

/-- The value of two words, as the readers of 64 bits return it. -/
theorem exactValue_round (value : Int) :
    (if isSafeInteger (Script.round value) then .number (Script.round value) else .string (toString value) :
      Value α) = exactValue value := by
  rw [exactValue, isSafeInteger_round]
  split
  case isTrue safe => rw [round_of_safe safe]
  case isFalse => rfl

theorem readInt64_run (aheadEq : packet.ahead = bytes ++ rest) (length : bytes.length = 8) :
    (readInt64 (α := α)).run packet = .ok (exactValue (uintLE bytes), packet.advance 8) := by
  rw [readInt64, readWords_run _ aheadEq length]
  dsimp only
  rw [words_unsigned, unsignedString_words, ← exactValue_round]
  split <;> rfl

theorem readSInt64_run (aheadEq : packet.ahead = bytes ++ rest) (length : bytes.length = 8) :
    (readSInt64 (α := α)).run packet =
      .ok (exactValue (toSigned 64 (uintLE bytes)), packet.advance 8) := by
  have fits := uintLE_lt_64 length
  rw [readSInt64, readWords_run _ aheadEq length]
  dsimp only
  rw [words_signed fits, signedString_words fits, ← exactValue_round]
  split <;> rfl

/-- The eight-byte form, as an integer of 64 bits with or without a sign. -/
theorem lengthCoded64_exact {n : Nat} (fits : n < 18446744073709551616) (signed : Bool) :
    lengthCoded64 (n % 4294967296) (n / 4294967296) false signed =
      exactLength (if signed then toSigned 64 n else n) := by
  have word : ((n / 4294967296 : Nat) : Int) * 4294967296 + (n % 4294967296 : Nat) = n := by omega
  rw [lengthCoded64, word, exactLength]
  by_cases short : n / 4294967296 < 2097152
  · have value : (if signed = true then toSigned 64 n else (n : Int)) = n := by
      rw [toSigned, if_pos (show n < 2 ^ (64 - 1) by omega), ite_self]
    have safe : isSafeInteger (n : Int) = true := by
      rw [isSafeInteger, decide_eq_true_eq]
      omega
    rw [value, if_pos safe]
    by_cases zero : n / 4294967296 = 0
    · rw [if_pos zero]
      congr 1
      omega
    · rw [if_neg zero, if_pos short]
  · have value : (if signed = true ∧ 2147483648 ≤ n / 4294967296 then
        (n : Int) - 18446744073709551616 else n) = if signed then toSigned 64 n else n := by
      cases signed with
      | true =>
          simp only [toSigned, if_true, true_and]
          split <;> split <;> omega
      | false => simp
    rw [if_neg (by omega), if_neg short]
    dsimp only
    rw [value]
    generalize (if signed = true then toSigned 64 n else (n : Int)) = value
    have unsafe_iff : (9007199254740991 < value ∨ value < -9007199254740991) ↔
        isSafeInteger value = false := by
      rw [isSafeInteger, decide_eq_false_iff_not]
      omega
    cases safe : isSafeInteger value with
    | true => simp [unsafe_iff, safe]
    | false => simp [unsafe_iff, safe]

theorem readLengthCodedNumber_run64 (aheadEq : packet.ahead = 0xfe :: bytes ++ rest)
    (length : bytes.length = 8) (signed : Bool) :
    (readLengthCodedNumber false signed).run packet =
      .ok (exactLength (if signed then toSigned 64 (uintLE bytes) else uintLE bytes),
        packet.advance 9) := by
  have second : (packet.advance 1).ahead = bytes ++ rest := ahead_advance_one aheadEq
  rw [readLengthCodedNumber, run_bind_of_ok (readInt8_run_cons aheadEq)]
  show StateT.run (readInt32 >>= fun word0 => readInt32 >>= fun word1 =>
    pure (lengthCoded64 word0 word1 false signed)) (packet.advance 1) = _
  rw [readWords_run _ second length, advance_advance,
    lengthCoded64_exact (uintLE_lt_64 length)]
  rfl

/-- Every reader of 64 bits returns the integer they stand for, as a number exactly if it is a
safe one. -/
theorem read64_exact (aheadEq : packet.ahead = bytes ++ rest) (length : bytes.length = 8) :
    (readInt64 (α := α)).run packet = .ok (exactValue (uintLE bytes), packet.advance 8) ∧
      (readSInt64 (α := α)).run packet =
        .ok (exactValue (toSigned 64 (uintLE bytes)), packet.advance 8) ∧
      ∀ (signed : Bool) (marked : Packet), marked.ahead = 0xfe :: packet.ahead →
        (readLengthCodedNumber false signed).run marked =
            .ok (exactLength (if signed then toSigned 64 (uintLE bytes) else uintLE bytes),
              marked.advance 9) ∧
          exactLength (if signed then toSigned 64 (uintLE bytes) else uintLE bytes) =
            readLengthCodedNumberExt64 (uintLE bytes % 4294967296) (uintLE bytes / 4294967296)
              false signed := by
  refine ⟨readInt64_run aheadEq length, readSInt64_run aheadEq length, ?_⟩
  intro signed marked markedAhead
  rw [aheadEq] at markedAhead
  have fits := uintLE_lt_64 length
  constructor
  · exact readLengthCodedNumber_run64 markedAhead length signed
  · rw [← lengthCoded64_exact fits, lengthCoded64_eq (by omega) (by omega)]

/-- The least integer of 64 bits, and one that doubles do not hold. -/
theorem read64_exact_outside :
    (readSInt64 (α := Unit)).run (packetOf [0, 0, 0, 0, 0, 0, 0, 0x80]) =
        .ok (.string "-9223372036854775808",
          (packetOf [0, 0, 0, 0, 0, 0, 0, 0x80]).advance 8) ∧
      (readInt64 (α := Unit)).run (packetOf [1, 0, 0, 0, 0, 0, 0x20, 0]) =
        .ok (.string "9007199254740993",
          (packetOf [1, 0, 0, 0, 0, 0, 0x20, 0]).advance 8) := by
  have least : (packetOf [0, 0, 0, 0, 0, 0, 0, 0x80]).ahead = [0, 0, 0, 0, 0, 0, 0, 0x80] ++ [] :=
    ahead_packetOf _
  have odd : (packetOf [1, 0, 0, 0, 0, 0, 0x20, 0]).ahead = [1, 0, 0, 0, 0, 0, 0x20, 0] ++ [] :=
    ahead_packetOf _
  constructor
  · exact (read64_exact least rfl).2.1
  · exact (read64_exact odd rfl).1

end Reading

/-! ## Length-coded numbers and buffers -/

theorem toByte_mod (n count : Nat) : toByte (n % 256 ^ (count + 1)) = toByte n := by
  apply UInt8.toNat_inj.mp
  rw [toByte_toNat, toByte_toNat, Nat.pow_succ, Nat.mul_comm, Nat.mod_mul_right_mod]

theorem writeUIntLE_mod (n count : Nat) :
    writeUIntLE (n % 256 ^ count) count = writeUIntLE n count := by
  induction count generalizing n with
  | zero => rfl
  | succ count ih =>
      rw [writeUIntLE, writeUIntLE, toByte_mod, Nat.pow_succ, Nat.mul_comm,
        Nat.mod_mul_right_div_self, ih]

/-- The eight-byte form holds the words `n >>> 0` and `Math.floor(n / 0x100000000)`. -/
theorem writeLengthCodedNumber_words {n : Nat} (large : 16777215 ≤ n) :
    writeLengthCodedNumber n =
      0xfe :: (writeUIntLE (n % 4294967296) 4 ++ writeUIntLE (n / 4294967296) 4) := by
  have whole : writeUIntLE n 8 = writeUIntLE n 4 ++ writeUIntLE (n / 4294967296) 4 :=
    writeUIntLE_add n 4 4
  have low : writeUIntLE (n % 4294967296) 4 = writeUIntLE n 4 := writeUIntLE_mod n 4
  rw [writeLengthCodedNumber, if_neg (by omega), if_neg (by omega), if_neg (by omega), whole, low]

/-- Length-coded numbers are as long as predicted and are read back.  So are the bytes behind
the number of them, of which no buffer has `2 ^ 53`. -/
theorem lengthCoded_roundTrip {α : Type} :
    (∀ n : Nat, n < 9007199254740992 →
      (writeLengthCodedNumber n).length = lengthCodedNumberLength n ∧
        (16777215 ≤ n → writeLengthCodedNumber n =
          0xfe :: (writeUIntLE (n % 4294967296) 4 ++ writeUIntLE (n / 4294967296) 4)) ∧
        ∀ (bigNumberStrings signed : Bool) (packet : Packet) (rest : Bytes),
          packet.ahead = writeLengthCodedNumber n ++ rest →
            (readLengthCodedNumber bigNumberStrings signed).run packet =
              .ok (.number n, packet.advance (lengthCodedNumberLength n))) ∧
      ∀ bytes : Bytes, bytes.length < 9007199254740992 →
        ∀ (packet : Packet) (rest : Bytes), packet.ahead = writeLengthCodedBuffer bytes ++ rest →
          (readLengthCodedBuffer (α := α)).run packet =
            .ok (.buffer bytes, packet.advance (writeLengthCodedBuffer bytes).length) := by
  constructor
  · intro n safe
    refine ⟨length_writeLengthCodedNumber n, writeLengthCodedNumber_words, ?_⟩
    intro bigNumberStrings signed packet rest aheadEq
    exact readLengthCodedNumber_run bigNumberStrings signed aheadEq safe
  · intro bytes safe packet rest aheadEq
    exact readLengthCodedBuffer_run aheadEq safe

theorem lengthCoded_roundTrip_word :
    (readLengthCodedNumber false false).run (packetOf (writeLengthCodedNumber 4294967301)) =
        .ok (.number 4294967301, (packetOf (writeLengthCodedNumber 4294967301)).advance 9) ∧
      (readLengthCodedBuffer (α := Unit)).run (packetOf (writeLengthCodedBuffer [1, 2])) =
        .ok (.buffer [1, 2], (packetOf (writeLengthCodedBuffer [1, 2])).advance 3) := by
  constructor
  · exact ((lengthCoded_roundTrip (α := Unit)).1 4294967301 (by decide)).2.2 false false _ []
      (ahead_packetOf _)
  · exact (lengthCoded_roundTrip (α := Unit)).2 [1, 2] (by decide) _ []
      (ahead_packetOf _)

end Packet

end Mysql2.Packets

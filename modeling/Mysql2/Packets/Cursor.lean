import Mysql2.Packets.Requests
import Mysql2.Script.Throwing

/-!
# What the readers return

The readers in terms of the bytes ahead of the read position, and the numbers
that the writers have put there.
-/

namespace Mysql2.Packets

/-- The number that bytes stand for in little-endian order. -/
def uintLE : Bytes → Nat
  | [] => 0
  | byte :: bytes => byte.toNat + 256 * uintLE bytes

theorem length_writeUIntLE (n bytes : Nat) : (writeUIntLE n bytes).length = bytes := by
  induction bytes generalizing n with
  | zero => rfl
  | succ bytes ih => simp [writeUIntLE, ih]

theorem uintLE_writeUIntLE (n bytes : Nat) : uintLE (writeUIntLE n bytes) = n % 256 ^ bytes := by
  induction bytes generalizing n with
  | zero => simp [writeUIntLE, uintLE, Nat.mod_one]
  | succ bytes ih =>
      rw [writeUIntLE, uintLE, ih, toByte_toNat, Nat.pow_succ, Nat.mul_comm (256 ^ bytes),
        Nat.mod_mul]

theorem uintLE_writeUIntLE_of_lt {n bytes : Nat} (fits : n < 256 ^ bytes) :
    uintLE (writeUIntLE n bytes) = n := by
  rw [uintLE_writeUIntLE, Nat.mod_eq_of_lt fits]

/-- A computation that returns, followed by another. -/
theorem run_bind_of_ok {β γ : Type} {first : Reader β} {next : β → Reader γ}
    {packet after : Packet} {value : β} (firstEq : first.run packet = .ok (value, after)) :
    (first >>= next).run packet = (next value).run after :=
  Script.run_bind_of_returns firstEq

theorem run_get_bind {γ : Type} (next : Packet → Reader γ) (packet : Packet) :
    (get >>= next).run packet = (next packet).run packet :=
  Script.run_get_then next packet

theorem run_modify_bind {γ : Type} (change : Packet → Packet) (next : Unit → Reader γ)
    (packet : Packet) : (modify change >>= next).run packet = (next ()).run (change packet) :=
  rfl

/-- A computation that throws, followed by another. -/
theorem run_bind_of_error {β γ : Type} {first : Reader β} {next : β → Reader γ}
    {packet : Packet} {error : JsError} (firstEq : first.run packet = .error error) :
    (first >>= next).run packet = .error error := by
  rw [StateT.run_bind, firstEq]
  rfl

namespace Packet

/-- The bytes of the buffer from the read position on. -/
def ahead (packet : Packet) : Bytes :=
  packet.buffer.drop packet.offset

/-- The packet with its read position moved. -/
def advance (packet : Packet) (count : Nat) : Packet :=
  { packet with offset := packet.offset + count }

@[simp]
theorem buffer_advance (packet : Packet) (count : Nat) :
    (packet.advance count).buffer = packet.buffer :=
  rfl

@[simp]
theorem offset_advance (packet : Packet) (count : Nat) :
    (packet.advance count).offset = packet.offset + count :=
  rfl

@[simp]
theorem endOffset_advance (packet : Packet) (count : Nat) :
    (packet.advance count).endOffset = packet.endOffset :=
  rfl

@[simp]
theorem ahead_advance (packet : Packet) (count : Nat) :
    (packet.advance count).ahead = packet.ahead.drop count := by
  simp [ahead]

@[simp]
theorem advance_advance (packet : Packet) (first second : Nat) :
    (packet.advance first).advance second = packet.advance (first + second) := by
  simp [advance, Nat.add_assoc]

@[simp]
theorem advance_zero (packet : Packet) : packet.advance 0 = packet :=
  rfl

theorem ahead_new (id : Nat) (header bytes : Bytes) (last : Nat) (short : header.length = 4) :
    (Packet.new id (header ++ bytes) 0 last).ahead = bytes := by
  simp [ahead, Packet.new, ← short]

/-- A packet of some bytes. -/
def packetOf (bytes : Bytes) : Packet :=
  .new 0 ([0, 0, 0, 0] ++ bytes) 0 (4 + bytes.length)

theorem ahead_packetOf (bytes : Bytes) : (packetOf bytes).ahead = bytes ++ [] := by
  rw [List.append_nil]
  exact ahead_new 0 _ _ _ rfl

/-- Nothing lies behind the end of a packet. -/
def Whole (packet : Packet) : Prop :=
  packet.endOffset = packet.buffer.length

theorem whole_packetOf (bytes : Bytes) : Whole (packetOf bytes) := by
  show 4 + bytes.length = ([0, 0, 0, 0] ++ bytes).length
  rw [List.length_append]
  rfl

theorem Whole.length_ahead {packet : Packet} (whole : packet.Whole) :
    packet.ahead.length = packet.endOffset - packet.offset := by
  rw [ahead, List.length_drop, whole]

theorem peekByte_eq (packet : Packet) : packet.peekByte = packet.ahead.head?.map UInt8.toNat := by
  simp [peekByte, ahead, List.head?_drop]

theorem byteAt_eq (packet : Packet) (index : Nat) :
    byteAt packet.buffer (packet.offset + index) = (packet.ahead.getD index 0).toNat := by
  simp [byteAt, ahead, List.getD_eq_getElem?_getD]

/-- How long the buffer is behind the read position. -/
theorem offset_add_le {packet : Packet} {bytes rest : Bytes} (aheadEq : packet.ahead = bytes ++ rest)
    (nonempty : bytes ≠ []) : packet.offset + bytes.length ≤ packet.buffer.length := by
  have lengthEq := congrArg List.length aheadEq
  have positive := List.length_pos_iff.mpr nonempty
  simp only [ahead, List.length_drop, List.length_append] at lengthEq
  omega

/-! ## Readers -/

theorem skip_run (packet : Packet) (count : Nat) :
    (skip count).run packet = .ok ((), packet.advance count) :=
  rfl

theorem readInt8_run (packet : Packet) :
    readInt8.run packet = .ok (packet.ahead.head?.map UInt8.toNat, packet.advance 1) := by
  rw [← peekByte_eq]
  rfl

theorem readInt8_run_cons {packet : Packet} {byte : UInt8} {rest : Bytes}
    (aheadEq : packet.ahead = byte :: rest) :
    readInt8.run packet = .ok (some byte.toNat, packet.advance 1) := by
  rw [readInt8_run, aheadEq]
  rfl

theorem readInt16_run {packet : Packet} {bytes rest : Bytes} (aheadEq : packet.ahead = bytes ++ rest)
    (lengthEq : bytes.length = 2) :
    readInt16.run packet = .ok (uintLE bytes, packet.advance 2) := by
  match bytes, lengthEq with
  | [first, second], _ =>
      have inside : packet.offset + 2 ≤ packet.buffer.length :=
        offset_add_le aheadEq (List.cons_ne_nil _ _)
      have low := packet.byteAt_eq 0
      have value : packet.readUInt16LE packet.offset = .ok (uintLE [first, second]) := by
        rw [Nat.add_zero] at low
        rw [readUInt16LE, if_pos inside, low, packet.byteAt_eq 1, aheadEq]
        rfl
      show (StateT.lift (packet.readUInt16LE packet.offset) : Reader Nat).run
        (packet.advance 2) = _
      rw [value]
      rfl

theorem readInt32_run {packet : Packet} {bytes rest : Bytes} (aheadEq : packet.ahead = bytes ++ rest)
    (lengthEq : bytes.length = 4) :
    readInt32.run packet = .ok (uintLE bytes, packet.advance 4) := by
  match bytes, lengthEq with
  | [first, second, third, fourth], _ =>
      have inside : packet.offset + 4 ≤ packet.buffer.length :=
        offset_add_le aheadEq (List.cons_ne_nil _ _)
      have low := packet.byteAt_eq 0
      have value : byteAt packet.buffer packet.offset +
          256 * byteAt packet.buffer (packet.offset + 1) +
          65536 * byteAt packet.buffer (packet.offset + 2) +
          16777216 * byteAt packet.buffer (packet.offset + 3) =
            uintLE [first, second, third, fourth] := by
        rw [Nat.add_zero] at low
        rw [low, packet.byteAt_eq 1, packet.byteAt_eq 2, packet.byteAt_eq 3, aheadEq]
        simp only [List.cons_append, List.getD_cons_zero, List.getD_cons_succ, uintLE]
        omega
      show StateT.run (if packet.offset + 4 ≤ packet.buffer.length then _ else _)
        (packet.advance 4) = _
      rw [if_pos inside, value]
      rfl

theorem readBuffer_take (packet : Packet) (size : Nat) :
    (readBuffer size).run packet = .ok (packet.ahead.take size, packet.advance size) := by
  have value : slice packet.buffer packet.offset (packet.offset + size) = packet.ahead.take size := by
    rw [slice, Nat.add_sub_cancel_left, ahead]
  show Except.ok (slice packet.buffer packet.offset (packet.offset + size), _) = _
  rw [value]
  rfl

theorem readBuffer_run {packet : Packet} {bytes rest : Bytes}
    (aheadEq : packet.ahead = bytes ++ rest) :
    (readBuffer bytes.length).run packet = .ok (bytes, packet.advance bytes.length) := by
  rw [readBuffer_take, aheadEq, List.take_left]

@[simp]
theorem toNat_number (n : Nat) : (LengthCoded.number n).toNat = n :=
  rfl

theorem length_writeLengthCodedNumber (n : Nat) :
    (writeLengthCodedNumber n).length = lengthCodedNumberLength n := by
  unfold writeLengthCodedNumber lengthCodedNumberLength
  repeat' split
  all_goals simp [length_writeUIntLE]

theorem length_writeLengthCodedBuffer (bytes : Bytes) :
    (writeLengthCodedBuffer bytes).length = lengthCodedNumberLength bytes.length + bytes.length := by
  rw [writeLengthCodedBuffer, List.length_append, length_writeLengthCodedNumber]

theorem lengthCodedNumberLength_pos (n : Nat) : 0 < lengthCodedNumberLength n := by
  unfold lengthCodedNumberLength
  repeat' split
  all_goals decide

/-- The bytes ahead behind the ones that have been read. -/
theorem ahead_advance_of_append {packet : Packet} (bytes : Bytes) {rest : Bytes} {count : Nat}
    (aheadEq : packet.ahead = bytes ++ rest) (lengthEq : bytes.length = count) :
    (packet.advance count).ahead = rest := by
  rw [ahead_advance, aheadEq, ← lengthEq, List.drop_left]

theorem ahead_advance_one {packet : Packet} {byte : UInt8} {rest : Bytes}
    (aheadEq : packet.ahead = byte :: rest) : (packet.advance 1).ahead = rest :=
  ahead_advance_of_append [byte] aheadEq rfl

/-- The words of an eight-byte number give it back. -/
theorem lengthCoded64_words {n : Nat} (safe : n < 9007199254740992) (bigNumberStrings signed : Bool) :
    lengthCoded64 (n % 4294967296) (n / 4294967296) bigNumberStrings signed = .number n := by
  unfold lengthCoded64
  split
  · congr 1
    omega
  · rw [if_pos (by omega)]
    congr 1
    omega

theorem writeUIntLE_add (n first second : Nat) :
    writeUIntLE n (first + second) =
      writeUIntLE n first ++ writeUIntLE (n / 256 ^ first) second := by
  induction first generalizing n with
  | zero => simp [writeUIntLE]
  | succ first ih =>
      rw [Nat.add_right_comm, writeUIntLE, ih, writeUIntLE, Nat.div_div_eq_div_mul, Nat.pow_succ,
        Nat.mul_comm 256, List.cons_append]

section LengthCoded

variable {packet : Packet} {n : Nat} {rest : Bytes} (bigNumberStrings signed : Bool)

/-- A number that is its own marker. -/
theorem readLengthCodedNumber_one (aheadEq : packet.ahead = toByte n :: rest) (small : n < 251) :
    (readLengthCodedNumber bigNumberStrings signed).run packet =
      .ok (.number n, packet.advance 1) := by
  have marker : (toByte n).toNat = n := by rw [toByte_toNat]; omega
  rw [readLengthCodedNumber, run_bind_of_ok (readInt8_run_cons aheadEq)]
  simp only [marker]
  rw [if_pos small]
  rfl

/-- A number of two bytes. -/
theorem readLengthCodedNumber_two (aheadEq : packet.ahead = 0xfc :: writeUIntLE n 2 ++ rest)
    (fits : n < 65536) :
    (readLengthCodedNumber bigNumberStrings signed).run packet =
      .ok (.number n, packet.advance 3) := by
  have second : (packet.advance 1).ahead = toByte n :: toByte (n / 256) :: rest :=
    ahead_advance_of_append [0xfc] aheadEq rfl
  have third : (packet.advance 2).ahead = toByte (n / 256) :: rest :=
    ahead_advance_of_append [0xfc, toByte n] aheadEq rfl
  rw [readLengthCodedNumber, run_bind_of_ok (readInt8_run_cons aheadEq)]
  show StateT.run (do
    let low ← readInt8
    let high ← readInt8
    return LengthCoded.number ↑(low.getD 0 + high.getD 0 <<< 8)) (packet.advance 1) = _
  rw [run_bind_of_ok (readInt8_run_cons second), advance_advance,
    run_bind_of_ok (readInt8_run_cons third), advance_advance]
  have value : (toByte n).toNat + (toByte (n / 256)).toNat <<< 8 = n := by
    rw [toByte_toNat, toByte_toNat, Nat.shiftLeft_eq]
    omega
  show Except.ok (LengthCoded.number ↑((toByte n).toNat + (toByte (n / 256)).toNat <<< 8), _) = _
  rw [value]

/-- A number of three bytes. -/
theorem readLengthCodedNumber_three (aheadEq : packet.ahead = 0xfd :: writeUIntLE n 3 ++ rest)
    (fits : n < 16777216) :
    (readLengthCodedNumber bigNumberStrings signed).run packet =
      .ok (.number n, packet.advance 4) := by
  have second : (packet.advance 1).ahead =
      toByte n :: toByte (n / 256) :: toByte (n / 256 / 256) :: rest :=
    ahead_advance_of_append [0xfd] aheadEq rfl
  have third : (packet.advance 2).ahead = toByte (n / 256) :: toByte (n / 256 / 256) :: rest :=
    ahead_advance_of_append [0xfd, toByte n] aheadEq rfl
  have fourth : (packet.advance 3).ahead = toByte (n / 256 / 256) :: rest :=
    ahead_advance_of_append [0xfd, toByte n, toByte (n / 256)] aheadEq rfl
  rw [readLengthCodedNumber, run_bind_of_ok (readInt8_run_cons aheadEq)]
  show StateT.run (do
    let low ← readInt8
    let middle ← readInt8
    let high ← readInt8
    return LengthCoded.number ↑(low.getD 0 + middle.getD 0 <<< 8 + high.getD 0 <<< 16))
    (packet.advance 1) = _
  rw [run_bind_of_ok (readInt8_run_cons second), advance_advance,
    run_bind_of_ok (readInt8_run_cons third), advance_advance,
    run_bind_of_ok (readInt8_run_cons fourth), advance_advance]
  have value : (toByte n).toNat + (toByte (n / 256)).toNat <<< 8 +
      (toByte (n / 256 / 256)).toNat <<< 16 = n := by
    rw [toByte_toNat, toByte_toNat, toByte_toNat, Nat.shiftLeft_eq, Nat.shiftLeft_eq]
    omega
  show Except.ok (LengthCoded.number ↑((toByte n).toNat + (toByte (n / 256)).toNat <<< 8 +
    (toByte (n / 256 / 256)).toNat <<< 16), _) = _
  rw [value]

/-- A number of eight bytes. -/
theorem readLengthCodedNumber_eight (aheadEq : packet.ahead = 0xfe :: writeUIntLE n 8 ++ rest)
    (fits : n < 18446744073709551616) :
    (readLengthCodedNumber bigNumberStrings signed).run packet =
      .ok (lengthCoded64 (n % 4294967296) (n / 4294967296) bigNumberStrings signed,
        packet.advance 9) := by
  have second : (packet.advance 1).ahead =
      writeUIntLE n 4 ++ (writeUIntLE (n / 4294967296) 4 ++ rest) := by
    rw [← List.append_assoc]
    show _ = writeUIntLE n 4 ++ writeUIntLE (n / 256 ^ 4) 4 ++ rest
    rw [← writeUIntLE_add]
    exact ahead_advance_of_append [0xfe] aheadEq rfl
  have third : (packet.advance 5).ahead = writeUIntLE (n / 4294967296) 4 ++ rest := by
    have moved := ahead_advance_of_append _ second (length_writeUIntLE n 4)
    rwa [advance_advance] at moved
  rw [readLengthCodedNumber, run_bind_of_ok (readInt8_run_cons aheadEq)]
  show StateT.run (do
    let word0 ← readInt32
    let word1 ← readInt32
    return lengthCoded64 word0 word1 bigNumberStrings signed) (packet.advance 1) = _
  rw [run_bind_of_ok (readInt32_run second (length_writeUIntLE n 4)), advance_advance,
    run_bind_of_ok (readInt32_run third (length_writeUIntLE _ 4)), advance_advance,
    uintLE_writeUIntLE, uintLE_writeUIntLE_of_lt (by omega)]
  rfl

/-- A length-coded number reads back, as long as it is a safe integer. -/
theorem readLengthCodedNumber_run (aheadEq : packet.ahead = writeLengthCodedNumber n ++ rest)
    (safe : n < 9007199254740992) :
    (readLengthCodedNumber bigNumberStrings signed).run packet =
      .ok (.number n, packet.advance (lengthCodedNumberLength n)) := by
  unfold writeLengthCodedNumber at aheadEq
  unfold lengthCodedNumberLength
  split at aheadEq
  case isTrue one =>
    rw [if_pos one]
    exact readLengthCodedNumber_one _ _ aheadEq one
  case isFalse notOne =>
    rw [if_neg notOne]
    split at aheadEq
    case isTrue two =>
      rw [if_pos two]
      exact readLengthCodedNumber_two _ _ aheadEq (by omega)
    case isFalse notTwo =>
      rw [if_neg notTwo]
      split at aheadEq
      case isTrue three =>
        rw [if_pos three]
        exact readLengthCodedNumber_three _ _ aheadEq (by omega)
      case isFalse notThree =>
        rw [if_neg notThree, readLengthCodedNumber_eight _ _ aheadEq (by omega),
          lengthCoded64_words safe]

end LengthCoded

/-! ## How far a reader moves -/

/-- A computation that at most moves the read position ahead. -/
def Moves {β : Type} (reader : Reader β) : Prop :=
  ∀ packet value after, reader.run packet = .ok (value, after) → ∃ count, after = packet.advance count

theorem Moves.pure {β : Type} (value : β) : Moves (pure value) := by
  intro packet other after run
  cases run
  exact ⟨0, rfl⟩

theorem Moves.throw {β : Type} (error : JsError) : Moves (throw error : Reader β) := by
  intro packet value after run
  cases run

theorem Moves.bind {β γ : Type} {first : Reader β} {next : β → Reader γ} (moves : Moves first)
    (nextMoves : ∀ value, Moves (next value)) : Moves (first >>= next) := by
  intro packet value after run
  rw [StateT.run_bind, Script.bind_eq_ok_iff] at run
  obtain ⟨⟨middle, between⟩, firstRun, nextRun⟩ := run
  obtain ⟨count, rfl⟩ := moves packet middle between firstRun
  obtain ⟨more, rfl⟩ := nextMoves middle _ value after nextRun
  exact ⟨count + more, advance_advance packet count more⟩

theorem moves_readInt8 : Moves readInt8 := by
  intro packet value after run
  rw [readInt8_run] at run
  cases run
  exact ⟨1, rfl⟩

theorem moves_readInt32 : Moves readInt32 := by
  intro packet value after run
  have run : StateT.run (if packet.offset + 4 ≤ packet.buffer.length then _ else _)
    (packet.advance 4) = _ := run
  split at run
  · cases run
    exact ⟨4, rfl⟩
  · cases run

/-- A length-coded number moves behind its first byte at least. -/
theorem readLengthCodedNumber_moves {bigNumberStrings signed : Bool} {packet after : Packet}
    {len : LengthCoded}
    (run : (readLengthCodedNumber bigNumberStrings signed).run packet = .ok (len, after)) :
    ∃ count, after = packet.advance (1 + count) := by
  have two : ∀ value : Option Nat → Option Nat → LengthCoded, Moves (do
      let low ← readInt8
      let high ← readInt8
      return value low high) := fun value =>
    moves_readInt8.bind fun low => moves_readInt8.bind fun high => .pure (value low high)
  have three : ∀ value : Option Nat → Option Nat → Option Nat → LengthCoded, Moves (do
      let low ← readInt8
      let middle ← readInt8
      let high ← readInt8
      return value low middle high) := fun value =>
    moves_readInt8.bind fun low => moves_readInt8.bind fun middle =>
      moves_readInt8.bind fun high => .pure (value low middle high)
  have words : Moves (do
      let word0 ← readInt32
      let word1 ← readInt32
      return lengthCoded64 word0 word1 bigNumberStrings signed) :=
    moves_readInt32.bind fun word0 => moves_readInt32.bind fun word1 => .pure _
  rw [readLengthCodedNumber, run_bind_of_ok (readInt8_run packet)] at run
  suffices moved : ∃ count, after = (packet.advance 1).advance count by
    obtain ⟨count, rfl⟩ := moved
    exact ⟨count, advance_advance packet 1 count⟩
  split at run
  · exact Moves.throw _ _ _ _ run
  · split at run
    · exact Moves.pure _ _ _ _ run
    · split at run
      · exact Moves.pure _ _ _ _ run
      · split at run
        · exact two _ _ _ _ run
        · split at run
          · exact three _ _ _ _ run
          · split at run
            · exact words _ _ _ run
            · exact Moves.throw _ _ _ _ run

/-- A text that is read is what a part of the bytes ahead stands for, the first of which is
no part of it. -/
theorem readLengthCodedString_part {decoding : Decoding} {encoding : Option String}
    {packet after : Packet} {text : String}
    (run : (readLengthCodedString decoding encoding).run packet = .ok (some text, after)) :
    ∃ part, part <:+: packet.ahead.drop 1 ∧ decoding.decode encoding part = .ok text := by
  rw [readLengthCodedString, StateT.run_bind, Script.bind_eq_ok_iff] at run
  obtain ⟨⟨len, behind⟩, lengthRun, textRun⟩ := run
  obtain ⟨count, rfl⟩ := readLengthCodedNumber_moves lengthRun
  have isPart : ∀ size, (packet.advance (1 + count)).ahead.take size <:+: packet.ahead.drop 1 := by
    intro size
    rw [ahead_advance, ← List.drop_drop]
    exact (List.take_prefix _ _).isInfix.trans (List.drop_suffix _ _).isInfix
  have readsPart : ∀ size,
      (readBuffer size >>= fun bytes => (do
        return some (← decoding.decode encoding bytes) : Reader (Option String))).run
          (packet.advance (1 + count)) = .ok (some text, after) →
      decoding.decode encoding ((packet.advance (1 + count)).ahead.take size) = .ok text := by
    intro size run
    rw [run_bind_of_ok (readBuffer_take _ _), StateT.run_bind, Script.bind_eq_ok_iff] at run
    obtain ⟨⟨decoded, behind⟩, decodeRun, last⟩ := run
    obtain ⟨other, isOther, same⟩ := Script.bind_eq_ok_iff.mp decodeRun
    cases same
    cases last
    exact isOther
  cases len with
  | null => cases textRun
  | number value => exact ⟨_, isPart _, readsPart _ textRun⟩
  | string value => exact ⟨_, isPart _, readsPart _ textRun⟩

/-- What a text of a known length is decoded to. -/
theorem readLengthCodedString_run (decoding : Decoding) (encoding : Option String)
    {packet : Packet} {bytes rest : Bytes}
    (aheadEq : packet.ahead = writeLengthCodedBuffer bytes ++ rest)
    (safe : bytes.length < 9007199254740992) :
    (readLengthCodedString decoding encoding).run packet =
      (decoding.decode encoding bytes).map fun text =>
        (some text, packet.advance (writeLengthCodedBuffer bytes).length) := by
  rw [writeLengthCodedBuffer, List.append_assoc] at aheadEq
  have lengthRun := readLengthCodedNumber_run false false aheadEq safe
  have textAhead := ahead_advance_of_append _ aheadEq (length_writeLengthCodedNumber bytes.length)
  rw [readLengthCodedString, run_bind_of_ok lengthRun]
  show StateT.run (readBuffer (LengthCoded.number bytes.length).toNat >>= _) _ = _
  rw [toNat_number, run_bind_of_ok (readBuffer_run textAhead), advance_advance,
    length_writeLengthCodedBuffer]
  cases decoding.decode encoding bytes with
  | error error => rfl
  | ok text => rfl

end Packet

end Mysql2.Packets

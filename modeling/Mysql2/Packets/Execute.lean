import Mysql2.Packets.Dates

/-!
# The execution of a statement, as a server reads it

The packet does not tell a server how many parameters it carries.  The reader
looks for the flag in front of the first type, then for everything behind it that
looks like a type, and reads one value for each.
-/

namespace Mysql2.Packets

variable {α : Type}

/-- The types that `Execute.fromPacket` compares a byte with. -/
def parameterType (byte : UInt8) : Option Types :=
  if byte = 0xfd then some .VAR_STRING
  else if byte = 0xfc then some .BLOB
  else if byte = 0x06 then some .NULL
  else if byte = 0x05 then some .DOUBLE
  else if byte = 0x01 then some .TINY
  else if byte = 0x0c then some .DATETIME
  else if byte = 0xf5 then some .JSON
  else none

/-- A type at an index, in front of a zero byte. -/
def typeAt (buffer : Bytes) (index : Nat) : Option Types :=
  if buffer[index + 1]? = some 0 then buffer[index]?.bind parameterType else none

/-- The loop that moves the read position to the flag in front of a type. -/
def seekTypes : Nat → Reader Unit
  | 0 => return ()
  | fuel + 1 => do
      let packet ← get
      if packet.offset + 1 < packet.endOffset then
        if packet.buffer[packet.offset]? = some 1 ∧ (typeAt packet.buffer (packet.offset + 1)).isSome then
          return ()
        else
          let _ ← Packet.readInt8
          seekTypes fuel
      else
        return ()

/-- The loop that collects types.  It looks at every index, and moves the read
position by two bytes for each type that it finds. -/
def collectTypes : Nat → Nat → Reader (List Types)
  | 0, _ => return []
  | fuel + 1, index => do
      let packet ← get
      if index + 1 < packet.endOffset then
        match typeAt packet.buffer index with
        | some type =>
            Packet.skip 2
            return type :: (← collectTypes fuel (index + 1))
        | none => collectTypes fuel (index + 1)
      else
        return []

/-- A value of one of the types. -/
def readParameter (runtime : Runtime α) (encoding : Option String) : Types → Reader (Value α)
  | .VAR_STRING => Packet.readStringValue runtime encoding
  | .BLOB => Packet.readLengthCodedBuffer
  | .DOUBLE => .other <$> Packet.readDouble runtime
  | .TINY => do
      match ← Packet.readInt8 with
      | some byte => return .number byte
      | none => return .undefined
  | .DATETIME => Packet.readDateTime runtime none
  | .JSON => do
      let text ← Packet.readLengthCodedString runtime.toDecoding encoding
      runtime.jsonParse false text
  | .NULL => return .null
  | _ => return .undefined

/-- The loop over types. -/
def readParameters (runtime : Runtime α) (encoding : Option String) :
    List Types → Reader (List (Value α))
  | [] => return []
  | type :: types => do
      let value ← readParameter runtime encoding type
      return value :: (← readParameters runtime encoding types)

/-- What `Execute.fromPacket` returns. -/
structure Execute (α : Type) where
  stmtId : Nat
  flags : Option Nat
  iterationCount : Nat
  values : List (Value α)

/-- `Execute.fromPacket(packet, encoding)`. -/
def Execute.fromPacket (runtime : Runtime α) (encoding : Option String) : Reader (Execute α) := do
  let stmtId ← Packet.readInt32
  let flags ← Packet.readInt8
  let iterationCount ← Packet.readInt32
  seekTypes (← get).endOffset
  let packet ← get
  let types ← collectTypes packet.endOffset (packet.offset + 1)
  Packet.skip 1
  let values ← readParameters runtime encoding types
  return {
    stmtId := stmtId
    flags := flags
    iterationCount := iterationCount
    values := values }

/-- `dispatchCommands(packet, connection)`, for `STMT_EXECUTE`. -/
def dispatchExecute (runtime : Runtime α) (encoding : Option String) : Reader (Execute α) := do
  let _commandCode ← Packet.readInt8
  Execute.fromPacket runtime encoding

/-! ## Scans -/

open Packet

/-- Whether bytes start with a flag and a type. -/
def startsTypes : Bytes → Bool
  | flag :: type :: zero :: _ => flag = 1 && (parameterType type).isSome && zero = 0
  | _ => false

/-- How far the first loop moves. -/
def seekCount : Bytes → Nat
  | first :: second :: rest =>
      if startsTypes (first :: second :: rest) then 0 else seekCount (second :: rest) + 1
  | _ => 0

/-- The types that the second loop finds. -/
def typesIn : Bytes → List Types
  | first :: second :: rest =>
      if second = 0 then (parameterType first).toList ++ typesIn (second :: rest)
      else typesIn (second :: rest)
  | _ => []

theorem typeAt_ahead (packet : Packet) (index : Nat) :
    typeAt packet.buffer (packet.offset + index) = typeAt packet.ahead index := by
  simp [typeAt, ahead, Nat.add_assoc]

theorem startsTypes_iff (bytes : Bytes) :
    startsTypes bytes = true ↔ bytes.head? = some 1 ∧ (typeAt bytes 1).isSome := by
  match bytes with
  | [] => simp [startsTypes]
  | [flag] => simp [startsTypes, typeAt]
  | [flag, type] => simp [startsTypes, typeAt]
  | flag :: type :: zero :: rest =>
      by_cases isZero : zero = 0
      · simp [startsTypes, typeAt, isZero]
      · simp [startsTypes, typeAt, isZero]

theorem seekTypes_run {packet : Packet} {fuel : Nat} (whole : packet.Whole)
    (enough : packet.ahead.length ≤ fuel) :
    (seekTypes fuel).run packet = .ok ((), packet.advance (seekCount packet.ahead)) := by
  induction fuel generalizing packet with
  | zero =>
      rw [List.length_eq_zero_iff.mp (Nat.le_zero.mp enough)]
      rfl
  | succ fuel ih =>
      have lengthEq := whole.length_ahead
      rw [seekTypes, run_get_bind]
      match aheadEq : packet.ahead with
      | [] | [_] =>
          rw [aheadEq] at lengthEq
          simp only [List.length_nil, List.length_singleton] at lengthEq
          rw [if_neg (by omega)]
          rfl
      | first :: second :: rest =>
          rw [aheadEq] at lengthEq enough
          simp only [List.length_cons] at lengthEq enough
          rw [if_pos (by omega), seekCount]
          have found : (packet.buffer[packet.offset]? = some 1 ∧
              (typeAt packet.buffer (packet.offset + 1)).isSome) ↔
                startsTypes (first :: second :: rest) = true := by
            rw [typeAt_ahead, startsTypes_iff, aheadEq, ← List.head?_drop, ← ahead, aheadEq]
          by_cases starts : startsTypes (first :: second :: rest) = true
          · rw [if_pos (found.mpr starts), if_pos starts]
            rfl
          · have nextAhead : (packet.advance 1).ahead = second :: rest :=
              ahead_advance_of_append [first] aheadEq rfl
            have next := @ih (packet.advance 1) whole
              (by rw [nextAhead]; exact Nat.le_of_succ_le_succ enough)
            rw [nextAhead, advance_advance, Nat.add_comm] at next
            rw [if_neg (fun both => starts (found.mp both)), if_neg starts,
              run_bind_of_ok (readInt8_run_cons aheadEq)]
            exact next

theorem typeAt_cons (first second : UInt8) (rest : Bytes) :
    typeAt (first :: second :: rest) 0 = if second = 0 then parameterType first else none := by
  simp [typeAt]

theorem typeAt_drop (buffer : Bytes) (index : Nat) :
    typeAt buffer index = typeAt (buffer.drop index) 0 := by
  simp [typeAt]

theorem collectTypes_run {packet : Packet} {fuel index : Nat} (whole : packet.Whole)
    (enough : packet.buffer.length ≤ index + fuel) :
    (collectTypes fuel index).run packet =
      .ok (typesIn (packet.buffer.drop index),
        packet.advance (2 * (typesIn (packet.buffer.drop index)).length)) := by
  induction fuel generalizing packet index with
  | zero =>
      rw [List.drop_eq_nil_of_le (show packet.buffer.length ≤ index from enough)]
      rfl
  | succ fuel ih =>
      have lengthEq : (packet.buffer.drop index).length = packet.endOffset - index := by
        rw [List.length_drop, whole]
      rw [collectTypes, run_get_bind]
      match dropEq : packet.buffer.drop index with
      | [] | [_] =>
          rw [dropEq] at lengthEq
          simp only [List.length_nil, List.length_singleton] at lengthEq
          rw [if_neg (by omega)]
          rfl
      | first :: second :: rest =>
          rw [dropEq] at lengthEq
          simp only [List.length_cons] at lengthEq
          have nextDrop : packet.buffer.drop (index + 1) = second :: rest := by
            rw [← List.drop_drop, dropEq]
            rfl
          rw [if_pos (by omega), typeAt_drop, dropEq, typeAt_cons, typesIn]
          by_cases zero : second = 0
          · rw [if_pos zero, if_pos zero]
            cases found : parameterType first with
            | none =>
                have next := @ih packet (index + 1) whole (by omega)
                rw [nextDrop] at next
                exact next
            | some type =>
                have next := @ih (packet.advance 2) (index + 1) whole (by rw [buffer_advance]; omega)
                rw [buffer_advance, nextDrop, advance_advance] at next
                show StateT.run (skip 2 >>= _) _ = _
                rw [run_bind_of_ok (skip_run _ 2), run_bind_of_ok next, Option.toList_some,
                  List.length_append, Nat.mul_add]
                rfl
          · rw [if_neg zero, if_neg zero]
            have next := @ih packet (index + 1) whole (by omega)
            rw [nextDrop] at next
            exact next

/-- Two scans that share a byte. -/
theorem typesIn_append (first : Bytes) (byte : UInt8) (rest : Bytes) :
    typesIn (first ++ byte :: rest) = typesIn (first ++ [byte]) ++ typesIn (byte :: rest) := by
  induction first with
  | nil =>
      cases rest with
      | nil => rfl
      | cons next rest => rfl
  | cons head first ih =>
      cases first with
      | nil =>
          cases rest with
          | nil => simp [typesIn]
          | cons next rest =>
              by_cases zero : byte = 0
              · simp [typesIn, zero]
              · simp [typesIn, zero]
      | cons second first =>
          simp only [List.cons_append] at ih ⊢
          rw [typesIn, typesIn, ih]
          by_cases zero : second = 0
          · rw [if_pos zero, if_pos zero, List.append_assoc]
          · rw [if_neg zero, if_neg zero]

theorem typesIn_zero (rest : Bytes) : typesIn (0 :: rest) = typesIn rest := by
  cases rest with
  | nil => rfl
  | cons byte rest =>
      rw [typesIn]
      by_cases zero : byte = 0
      · rw [if_pos zero]
        rfl
      · rw [if_neg zero]

theorem ne_zero_of_parameterType {byte : UInt8} {type : Types}
    (scanned : parameterType byte = some type) : byte ≠ 0 := by
  rintro rfl
  cases scanned

/-- A type in front of a zero byte. -/
theorem typesIn_type {byte : UInt8} {type : Types} (scanned : parameterType byte = some type)
    (rest : Bytes) : typesIn (byte :: 0 :: rest) = type :: typesIn rest := by
  rw [typesIn, if_pos rfl, scanned, typesIn_zero]
  rfl

theorem typesIn_before {byte : UInt8} (nonzero : byte ≠ 0) (first : UInt8) (rest : Bytes) :
    typesIn (first :: byte :: rest) = typesIn (byte :: rest) := by
  rw [typesIn, if_neg nonzero]

/-- Nothing changes at the start of bytes if a flag and a type are appended. -/
theorem startsTypes_append {bytes : Bytes} (nonempty : bytes ≠ []) {type : UInt8}
    (nonzero : type ≠ 0) (rest : Bytes) :
    startsTypes (bytes ++ 1 :: type :: rest) = startsTypes bytes := by
  match bytes with
  | [first] => simp [startsTypes, nonzero]
  | [first, second] => simp [startsTypes]
  | first :: second :: third :: bytes => rfl

/-- Whether three bytes of a bitmap look like a flag and a type. -/
def looksLikeTypes (bitmap : Bytes) : Bool :=
  bitmap.tails.any startsTypes

theorem looksLikeTypes_cons (byte : UInt8) (bitmap : Bytes) :
    looksLikeTypes (byte :: bitmap) = (startsTypes (byte :: bitmap) || looksLikeTypes bitmap) := by
  simp [looksLikeTypes]

theorem seekCount_cons_of_starts {first : UInt8} {bytes : Bytes}
    (starts : startsTypes (first :: bytes) = true) : seekCount (first :: bytes) = 0 := by
  cases bytes with
  | nil => rfl
  | cons second rest => rw [seekCount, if_pos starts]

theorem seekCount_cons_of_not_starts {first : UInt8} {bytes : Bytes} (more : bytes ≠ [])
    (starts : startsTypes (first :: bytes) = false) :
    seekCount (first :: bytes) = seekCount bytes + 1 := by
  cases bytes with
  | nil => exact absurd rfl more
  | cons second rest => rw [seekCount, if_neg (by rw [starts]; exact Bool.false_ne_true)]

/-- The first loop stops behind a bitmap without such bytes. -/
theorem seekCount_clear {bitmap : Bytes} {type : UInt8} {rest : Bytes} (nonzero : type ≠ 0)
    (starts : startsTypes (1 :: type :: rest) = true) (clear : looksLikeTypes bitmap = false) :
    seekCount (bitmap ++ 1 :: type :: rest) = bitmap.length := by
  induction bitmap with
  | nil => exact seekCount_cons_of_starts starts
  | cons byte bitmap ih =>
      rw [looksLikeTypes_cons, Bool.or_eq_false_iff] at clear
      have notHere := (startsTypes_append (List.cons_ne_nil byte bitmap) nonzero rest).trans clear.1
      rw [List.cons_append] at notHere ⊢
      rw [seekCount_cons_of_not_starts (by simp) notHere, ih clear.2]
      rfl

/-- It stops at such bytes. -/
theorem seekCount_unclear {bitmap : Bytes} {type : UInt8} {rest : Bytes} (nonzero : type ≠ 0)
    (unclear : looksLikeTypes bitmap = true) :
    ∃ before byte after found, parameterType byte = some found ∧
      bitmap = before ++ 1 :: byte :: 0 :: after ∧
        seekCount (bitmap ++ 1 :: type :: rest) = before.length := by
  induction bitmap with
  | nil => exact absurd unclear (by decide)
  | cons first bitmap ih =>
      have same := startsTypes_append (List.cons_ne_nil first bitmap) nonzero rest
      cases starts : startsTypes (first :: bitmap) with
      | true =>
          match bitmap, starts with
          | second :: third :: after, starts =>
              simp only [startsTypes, Bool.and_eq_true, decide_eq_true_eq] at starts
              obtain ⟨⟨rfl, some⟩, rfl⟩ := starts
              obtain ⟨found, foundEq⟩ := Option.isSome_iff_exists.mp some
              refine ⟨[], second, after, found, foundEq, rfl, ?_⟩
              exact seekCount_cons_of_starts (same.trans (by simp [startsTypes, some]))
      | false =>
          rw [looksLikeTypes_cons, starts, Bool.false_or] at unclear
          obtain ⟨before, byte, after, found, foundEq, rfl, count⟩ := ih unclear
          refine ⟨first :: before, byte, after, found, foundEq, rfl, ?_⟩
          have notHere := same.trans starts
          rw [List.cons_append] at notHere ⊢
          rw [seekCount_cons_of_not_starts (by simp) notHere, count]
          rfl

/-- Types as they are written, each in front of its `unsigned` byte. -/
def typeBytes (types : List Types) : Bytes :=
  types.flatMap fun type => [toByte type.toNat, 0]

/-- The types that are looked for. -/
def Types.Scanned (type : Types) : Prop :=
  parameterType (toByte type.toNat) = some type

instance (type : Types) : Decidable type.Scanned :=
  inferInstanceAs (Decidable (_ = _))

theorem typesIn_typeBytes {types : List Types} (scanned : ∀ type ∈ types, type.Scanned)
    (values : Bytes) : typesIn (typeBytes types ++ values) = types ++ typesIn values := by
  induction types with
  | nil => rfl
  | cons type types ih =>
      have others := ih fun other member => scanned other (List.mem_cons_of_mem _ member)
      rw [typeBytes, List.flatMap_cons, ← typeBytes, List.append_assoc, List.cons_append,
        List.cons_append, List.nil_append, typesIn_type (scanned type List.mem_cons_self), others]
      rfl

/-- The types that are found behind the flag where the first loop stops. -/
theorem typesIn_found {bitmap values : Bytes} {types : List Types} (nonempty : types ≠ [])
    (scanned : ∀ type ∈ types, type.Scanned) {bytes : Bytes}
    (bytesEq : bytes = bitmap ++ 1 :: (typeBytes types ++ values)) :
    (looksLikeTypes bitmap = false → seekCount bytes = bitmap.length ∧
      typesIn (bytes.drop (seekCount bytes + 1)) = types ++ typesIn values) ∧
    (looksLikeTypes bitmap = true →
      types.length < (typesIn (bytes.drop (seekCount bytes + 1))).length) := by
  obtain ⟨type, types, rfl⟩ := List.exists_cons_of_ne_nil nonempty
  have first : type.Scanned := scanned type List.mem_cons_self
  have nonzero := ne_zero_of_parameterType first
  have layout : typeBytes (type :: types) ++ values =
      toByte type.toNat :: 0 :: (typeBytes types ++ values) := rfl
  have written := typesIn_typeBytes scanned values
  constructor
  · intro clear
    have starts : startsTypes (1 :: toByte type.toNat :: 0 :: (typeBytes types ++ values)) = true := by
      simp [startsTypes, show parameterType _ = _ from first]
    have count : seekCount bytes = bitmap.length := by
      rw [bytesEq, layout]
      exact seekCount_clear nonzero starts clear
    refine ⟨count, ?_⟩
    rw [count, bytesEq, ← List.drop_drop, List.drop_left, List.drop_one, List.tail_cons, written]
  · intro unclear
    obtain ⟨before, byte, after, found, foundEq, rfl, count⟩ :=
      @seekCount_unclear bitmap (toByte type.toNat) (0 :: (typeBytes types ++ values)) nonzero unclear
    rw [bytesEq, layout, count, ← List.drop_drop, List.append_assoc, List.drop_left, List.drop_one,
      List.cons_append, List.tail_cons, List.cons_append, List.cons_append, typesIn_type foundEq,
      typesIn_append, typesIn_before nonzero, ← layout, written]
    simp only [List.length_cons, List.length_append]
    omega

end Mysql2.Packets

import Mysql2.Packets.LengthCoded
import Mysql2.Packets.StringParser

/-!
# Writing packets

A packet is written into a buffer whose size has been computed before.  Writes of numbers check
the number and the end of the buffer.  Copies check nothing: what does not fit is lost.
-/

namespace Mysql2.Packets

open Mysql2.Script

/-- A packet that is written: the size of its buffer, the write position, and what has been
stored, each byte with its place. -/
structure Outgoing where
  size : Nat
  offset : Nat
  stores : List (UInt8 × Nat)
  deriving DecidableEq, Repr

/-- A computation that writes to a packet and can throw. -/
abbrev Writer :=
  StateT Outgoing (Except JsError)

namespace Outgoing

/-- A packet in a buffer of its own, behind the frame header. -/
def alloc (size : Nat) : Outgoing :=
  ⟨size, 4, []⟩

/-- Bytes at the write position, of which those behind the end of the buffer are lost. -/
def put (packet : Outgoing) (bytes : Bytes) : Outgoing :=
  { packet with
    offset := packet.offset + bytes.length
    stores := packet.stores ++ (bytes.zipIdx packet.offset).filter fun store =>
      store.2 < packet.size }

/-- `buffer.writeUIntLE(n, offset, width)`. -/
def writeUInt (width n : Nat) : Writer Unit := do
  let packet ← get
  if 256 ^ width ≤ n then throw (outOfRangeError n)
  else if packet.size < packet.offset + width then throw .rangeError
  else set (packet.put (writeUIntLE n width))

/-- `writeInt8(n)`. -/
def writeInt8 (n : Nat) : Writer Unit :=
  writeUInt 1 n

/-- `writeInt16(n)`. -/
def writeInt16 (n : Nat) : Writer Unit :=
  writeUInt 2 n

/-- `writeInt24(n)`. -/
def writeInt24 (n : Nat) : Writer Unit := do
  writeInt8 (n % 256)
  writeInt16 (n / 256)

/-- `writeInt32(n)`. -/
def writeInt32 (n : Nat) : Writer Unit :=
  writeUInt 4 n

/-- `writeLengthCodedNumber(n)`. -/
def writeLengthCodedNumber (n : Nat) : Writer Unit := do
  if n < 0xfb then
    writeInt8 n
  else if n < 0xffff then
    writeInt8 0xfc
    writeInt16 n
  else if n < 0xffffff then
    writeInt8 0xfd
    writeInt24 n
  else
    writeInt8 0xfe
    writeInt32 (n % 4294967296)
    writeInt32 (n / 4294967296)

/-- `skip(num)`. -/
def skip (num : Nat) : Writer Unit :=
  modify fun packet => { packet with offset := packet.offset + num }

/-- `writeBuffer(b)`. -/
def writeBuffer (bytes : Bytes) : Writer Unit :=
  modify fun packet => packet.put bytes

/-- `writeNull()`. -/
def writeNull : Writer Unit :=
  writeBuffer [0xfb]

/-- `writeString(s, encoding)`. -/
def writeString (codecs : Codecs) (string : JsString) (encoding : Option String) :
    Writer Unit := do
  if string = [] then return
  else writeBuffer (← codecs.encode string encoding)

/-- `writeLengthCodedString(s, encoding)`. -/
def writeLengthCodedString (codecs : Codecs) (string : JsString) (encoding : Option String) :
    Writer Unit := do
  let bytes ← codecs.encode string encoding
  writeLengthCodedNumber bytes.length
  writeBuffer bytes

/-- The packet that a computation leaves in a buffer of the given size. -/
def written (size : Nat) (writer : Writer Unit) : Except JsError Outgoing :=
  (writer.run (alloc size)).map Prod.snd

/-- The contents of the buffer, given what it held when it was allocated. -/
def buffer (packet : Outgoing) (allocated : Bytes) : Bytes :=
  packet.stores.foldl (fun bytes store => bytes.set store.2 store.1) allocated

/-- The packet, to be read. -/
def toPacket (packet : Outgoing) (allocated : Bytes) : Packet :=
  .new 0 (packet.buffer allocated) 0 packet.size

/-- Every byte behind the frame header has been stored once, and no other one. -/
structure Fills (packet : Outgoing) (payload : Bytes) : Prop where
  stores : packet.stores = payload.zipIdx 4
  size : packet.size = 4 + payload.length
  offset : packet.offset = packet.size

end Outgoing

/-- `lengthCodedStringLength(str, encoding)`. -/
def lengthCodedStringLength (codecs : Codecs) (string : JsString) (encoding : Option String) :
    Except JsError Nat := do
  let bytes ← codecs.encode string encoding
  return lengthCodedNumberLength bytes.length + bytes.length

/-! ## What a computation puts -/

/-- The computation puts the bytes.  It throws only where they do not fit. -/
def Writes (writer : Writer Unit) (bytes : Bytes) : Prop :=
  ∀ packet : Outgoing, writer.run packet = .ok ((), packet.put bytes) ∨
    packet.size < packet.offset + bytes.length ∧ ∃ error, writer.run packet = .error error

namespace Outgoing

theorem put_nil (packet : Outgoing) : packet.put [] = packet := by
  simp [put]

theorem put_put (packet : Outgoing) (first second : Bytes) :
    (packet.put first).put second = packet.put (first ++ second) := by
  simp only [put, List.zipIdx_append, List.filter_append, List.append_assoc, List.length_append,
    Nat.add_assoc]
  rfl

/-- Bytes that fit are all stored. -/
theorem put_of_fits {packet : Outgoing} {bytes : Bytes}
    (fits : packet.offset + bytes.length ≤ packet.size) :
    packet.put bytes = ⟨packet.size, packet.offset + bytes.length,
      packet.stores ++ bytes.zipIdx packet.offset⟩ := by
  have inside : (bytes.zipIdx packet.offset).filter (fun store => store.2 < packet.size) =
      bytes.zipIdx packet.offset := by
    rw [List.filter_eq_self]
    rintro ⟨byte, place⟩ member
    have bound := (List.mem_zipIdx member).2.1
    exact decide_eq_true (by omega)
  rw [put, inside]

theorem put_alloc {size : Nat} {bytes : Bytes} (fits : 4 + bytes.length ≤ size) :
    (alloc size).put bytes = ⟨size, 4 + bytes.length, bytes.zipIdx 4⟩ :=
  @put_of_fits (alloc size) bytes fits

end Outgoing

namespace Writes

open Outgoing

variable {writer next : Writer Unit} {bytes more : Bytes}

theorem nothing : Writes (pure ()) [] :=
  fun packet => .inl (by rw [put_nil]; rfl)

theorem bind (first : Writes writer bytes) (second : Writes next more) :
    Writes (writer >>= fun _ => next) (bytes ++ more) := by
  intro packet
  rw [List.length_append]
  rcases first packet with run | ⟨full, error, run⟩
  · rw [Script.run_bind_of_returns run, ← put_put]
    rcases second (packet.put bytes) with run | ⟨full, thrown⟩
    · exact .inl run
    · have full : packet.size < packet.offset + bytes.length + more.length := full
      exact .inr ⟨by omega, thrown⟩
  · refine .inr ⟨by omega, error, ?_⟩
    rw [StateT.run_bind, run]
    rfl

/-- What is computed before anything is put. -/
theorem lift {β : Type} {result : Except JsError β} {value : β} {next : β → Writer Unit}
    (returns : result = .ok value) (writes : Writes (next value) bytes) :
    Writes (StateT.lift result >>= next) bytes := by
  subst returns
  exact writes

theorem writeBuffer (bytes : Bytes) : Writes (writeBuffer bytes) bytes :=
  fun _ => .inl rfl

theorem writeNull : Writes writeNull [0xfb] :=
  writeBuffer _

theorem writeUInt {width n : Nat} (inRange : n < 256 ^ width) :
    Writes (writeUInt width n) (writeUIntLE n width) := by
  intro packet
  have run : (Outgoing.writeUInt width n).run packet =
      if packet.size < packet.offset + width then .error .rangeError
      else .ok ((), packet.put (writeUIntLE n width)) := by
    show StateT.run (if 256 ^ width ≤ n then _ else _) packet = _
    rw [if_neg (Nat.not_le.mpr inRange)]
    split <;> rfl
  rw [run, length_writeUIntLE]
  split
  case isTrue full => exact .inr ⟨full, _, rfl⟩
  case isFalse => exact .inl rfl

theorem writeInt8 {n : Nat} (inRange : n < 256) : Writes (writeInt8 n) [toByte n] :=
  writeUInt inRange

theorem writeInt16 {n : Nat} (inRange : n < 65536) : Writes (writeInt16 n) (writeUIntLE n 2) :=
  writeUInt inRange

theorem writeInt32 {n : Nat} (inRange : n < 4294967296) : Writes (writeInt32 n) (writeUIntLE n 4) :=
  writeUInt inRange

theorem writeInt24 {n : Nat} (inRange : n < 16777216) :
    Writes (writeInt24 n) (writeUIntLE n 3) := by
  have low : toByte (n % 256) = toByte n := by
    apply UInt8.toNat_inj.mp
    rw [toByte_toNat, toByte_toNat, Nat.mod_mod]
  have writes := (writeInt8 (Nat.mod_lt n (by decide))).bind
    (writeInt16 (show n / 256 < 65536 by omega))
  rw [low] at writes
  exact writes

theorem writeLengthCodedNumber {n : Nat} (inRange : n < 18446744073709551616) :
    Writes (Outgoing.writeLengthCodedNumber n) (Packets.writeLengthCodedNumber n) := by
  rw [Outgoing.writeLengthCodedNumber, Packets.writeLengthCodedNumber]
  split
  case isTrue one => exact writeInt8 (by omega)
  case isFalse =>
    split
    case isTrue two => exact (writeInt8 (show 0xfc < 256 by decide)).bind (writeInt16 (by omega))
    case isFalse =>
      split
      case isTrue three =>
        exact (writeInt8 (show 0xfd < 256 by decide)).bind (writeInt24 (by omega))
      case isFalse =>
        have low : writeUIntLE (n % 4294967296) 4 = writeUIntLE n 4 := Packet.writeUIntLE_mod n 4
        have words : writeUIntLE n 8 = writeUIntLE n 4 ++ writeUIntLE (n / 4294967296) 4 :=
          Packet.writeUIntLE_add n 4 4
        rw [words, ← low]
        exact (writeInt8 (show 0xfe < 256 by decide)).bind
          ((writeInt32 (Nat.mod_lt n (by decide))).bind (writeInt32 (by omega)))

theorem writeLengthCodedBuffer {bytes : Bytes} (short : bytes.length < 18446744073709551616) :
    Writes (do Outgoing.writeLengthCodedNumber bytes.length; Outgoing.writeBuffer bytes)
      (writeLengthCodedBuffer bytes) :=
  (writeLengthCodedNumber short).bind (writeBuffer bytes)

/-- A computation stores all bytes if they fit. -/
theorem run_of_fits (writes : Writes writer bytes) {packet : Outgoing}
    (fits : packet.offset + bytes.length ≤ packet.size) :
    writer.run packet = .ok ((), ⟨packet.size, packet.offset + bytes.length,
      packet.stores ++ bytes.zipIdx packet.offset⟩) := by
  rcases writes packet with run | ⟨full, -⟩
  · rw [run, put_of_fits fits]
  · omega

/-- A computation that leaves a packet has put the bytes. -/
theorem written_eq_ok (writes : Writes writer bytes) {size : Nat} {packet : Outgoing}
    (result : written size writer = .ok packet) : packet = (alloc size).put bytes := by
  rw [written] at result
  rcases writes (alloc size) with run | ⟨-, error, run⟩
  · rw [run] at result
    exact (Except.ok.inj result).symm
  · rw [run] at result
    cases result

/-- A computation that fits leaves a packet. -/
theorem written_of_fits (writes : Writes writer bytes) {size : Nat}
    (fits : 4 + bytes.length ≤ size) : written size writer = .ok ((alloc size).put bytes) := by
  rw [written]
  rcases writes (alloc size) with run | ⟨full, -⟩
  · rw [run]
    rfl
  · have full : size < 4 + bytes.length := full
    omega

/-- A packet is filled if its size is that of the bytes, and by no other ones. -/
theorem fills_iff (writes : Writes writer bytes) {size : Nat} {payload : Bytes} :
    (∃ packet, written size writer = .ok packet ∧ packet.Fills payload) ↔
      payload = bytes ∧ size = 4 + bytes.length := by
  constructor
  · rintro ⟨packet, result, fills⟩
    obtain rfl := writes.written_eq_ok result
    have sizeEq : size = 4 + bytes.length := fills.offset.symm
    have stores := fills.stores
    rw [put_alloc (by omega)] at stores
    have same := congrArg (List.map Prod.fst) stores
    rw [List.zipIdx_map_fst, List.zipIdx_map_fst] at same
    exact ⟨same.symm, sizeEq⟩
  · rintro ⟨rfl, rfl⟩
    refine ⟨_, writes.written_of_fits (Nat.le_refl _), ?_⟩
    rw [put_alloc (Nat.le_refl _)]
    exact ⟨rfl, rfl, rfl⟩

end Writes

/-! ## Reading what has been written -/

theorem foldl_set_zipIdx (before old bytes behind : Bytes) (lengthEq : old.length = bytes.length) :
    (bytes.zipIdx before.length).foldl (fun buffer store => buffer.set store.2 store.1)
      (before ++ (old ++ behind)) = before ++ (bytes ++ behind) := by
  induction bytes generalizing before old with
  | nil =>
      obtain rfl := List.length_eq_zero_iff.mp lengthEq
      rfl
  | cons byte bytes ih =>
      cases old with
      | nil => cases lengthEq
      | cons first old =>
          have rest := ih (before ++ [byte]) old (Nat.succ.inj lengthEq)
          rw [List.length_append, List.append_assoc, List.append_assoc] at rest
          rw [List.zipIdx_cons, List.foldl_cons, List.set_append_right _ _ (Nat.le_refl _),
            Nat.sub_self]
          exact rest

namespace Outgoing

/-- What a filled buffer held before makes no difference behind the frame header. -/
theorem Fills.toPacket_eq {packet : Outgoing} {payload : Bytes} (fills : packet.Fills payload)
    {allocated : Bytes} (lengthEq : allocated.length = packet.size) :
    ∃ header, header.length = 4 ∧
      packet.toPacket allocated = .new 0 (header ++ payload) 0 (4 + payload.length) := by
  have long := lengthEq.trans fills.size
  refine ⟨allocated.take 4, by rw [List.length_take]; omega, ?_⟩
  have stored := foldl_set_zipIdx (allocated.take 4) (allocated.drop 4) payload []
    (by rw [List.length_drop]; omega)
  rw [List.append_nil, List.append_nil, List.take_append_drop, List.length_take,
    Nat.min_eq_left (by omega)] at stored
  rw [toPacket, buffer, fills.stores, stored, fills.size]

/-- A filled packet has the payload ahead, and ends behind it. -/
theorem Fills.ahead_append {packet : Outgoing} {payload : Bytes} (fills : packet.Fills payload)
    {allocated : Bytes} (lengthEq : allocated.length = packet.size) :
    (packet.toPacket allocated).ahead = payload ++ [] ∧
      (packet.toPacket allocated).endOffset =
        (packet.toPacket allocated).offset + payload.length := by
  obtain ⟨header, short, packetEq⟩ := fills.toPacket_eq lengthEq
  rw [packetEq, Packet.ahead_new _ _ _ _ short, List.append_nil]
  exact ⟨rfl, rfl⟩

end Outgoing

end Mysql2.Packets

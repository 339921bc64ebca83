import Mysql2.Packets.Requests
import Mysql2.Commands.Command

/-!
# Responses of a server

The packets with which a server answers a query or an execute command: results,
each an OK packet or column definitions and rows between EOF packets, or an ERR
packet.  Packets are told apart by their first byte and their length, so it
matters that no row looks like an EOF or an ERR packet.
-/

namespace Mysql2.Commands

open Mysql2.Packets

/-- The packet carries the payload behind its header, and has not been read. -/
structure Carries (packet : Packet) (payload : Bytes) : Prop where
  unread : packet.offset = packet.start + 4
  window : slice packet.buffer (packet.start + 4) packet.endOffset = payload
  ends : packet.endOffset = packet.start + 4 + payload.length

theorem Carries.getElem {packet : Packet} {payload : Bytes} (carries : Carries packet payload)
    {index : Nat} (inside : index < payload.length) :
    packet.buffer[packet.start + 4 + index]? = payload[index]? := by
  have window := congrArg (fun bytes : Bytes => bytes[index]?) carries.window
  rw [slice, carries.ends, Nat.add_sub_cancel_left] at window
  simpa [List.getElem?_take, inside, List.getElem?_drop] using window

theorem Carries.byteAt {packet : Packet} {payload : Bytes} (carries : Carries packet payload)
    {index : Nat} (inside : index < payload.length) :
    byteAt packet.buffer (packet.start + 4 + index) = payload[index].toNat := by
  rw [Packets.byteAt, List.getD_eq_getElem?_getD, carries.getElem inside,
    List.getElem?_eq_getElem inside]
  rfl

theorem Carries.peekByte {packet : Packet} {first : UInt8} {rest : Bytes}
    (carries : Carries packet (first :: rest)) : packet.peekByte = some first.toNat := by
  have here := carries.getElem (show 0 < (first :: rest).length from Nat.succ_pos rest.length)
  rw [Packet.peekByte, carries.unread]
  rw [Nat.add_zero] at here
  rw [here]
  rfl

theorem Carries.length {packet : Packet} {payload : Bytes} (carries : Carries packet payload) :
    packet.length = 4 + payload.length := by
  rw [Packet.length, carries.ends, Nat.add_assoc, Nat.add_sub_cancel_left]

/-- An EOF packet with the given status flags. -/
def EOFPacket (status : Nat) (packet : Packet) : Prop :=
  ∃ warningsLow warningsHigh low high : UInt8, low.toNat + 256 * high.toNat = status ∧
    Carries packet [0xfe, warningsLow, warningsHigh, low, high]

theorem EOFPacket.isEOF {status : Nat} {packet : Packet} (eof : EOFPacket status packet) :
    packet.isEOF = true := by
  rcases eof with ⟨_, _, _, _, _, carries⟩
  rw [Packet.isEOF, carries.peekByte, carries.length]
  rfl

theorem EOFPacket.not_isError {status : Nat} {packet : Packet} (eof : EOFPacket status packet) :
    packet.isError = false := by
  rcases eof with ⟨_, _, _, _, _, carries⟩
  rw [Packet.isError, carries.peekByte]
  rfl

theorem EOFPacket.eofStatusFlags {status : Nat} {packet : Packet} (eof : EOFPacket status packet) :
    packet.eofStatusFlags = .ok status := by
  rcases eof with ⟨warningsLow, warningsHigh, low, high, rfl, carries⟩
  have low_ := carries.byteAt (show 3 < [0xfe, warningsLow, warningsHigh, low, high].length by simp)
  have high_ := carries.byteAt (show 4 < [0xfe, warningsLow, warningsHigh, low, high].length by simp)
  have last := carries.getElem (show 4 < [0xfe, warningsLow, warningsHigh, low, high].length by simp)
  have inside : packet.start + 4 + 4 < packet.buffer.length := by
    by_contra outside
    rw [List.getElem?_eq_none (Nat.le_of_not_lt outside)] at last
    contradiction
  rw [Packet.eofStatusFlags, Packet.readUInt16LE, carries.unread, if_pos (by omega)]
  rw [low_, show packet.start + 4 + 3 + 1 = packet.start + 4 + 4 from rfl, high_]
  rfl

/-- A number as the server encodes the length of a value. -/
def encodeLength (n : Nat) : Bytes :=
  if n < 251 then [toByte n]
  else if n < 65536 then 0xfc :: writeUIntLE n 2
  else if n < 16777216 then 0xfd :: writeUIntLE n 3
  else 0xfe :: writeUIntLE n 8

/-- A column of a text row, which can be NULL. -/
def encodeText : Option Bytes → Bytes
  | none => [0xfb]
  | some value => encodeLength value.length ++ value

/-- A row of a result with `columns` columns, in the protocol of the command. -/
def RowPacket (protocol : Protocol) (columns : Nat) (packet : Packet) : Prop :=
  match protocol with
  | .query => ∃ values : List (Option Bytes), values.length = columns ∧
      Carries packet (values.flatMap encodeText)
  | .execute => ∃ rest, Carries packet (0 :: rest)

/-- A text column does not begin with `0xff`, and behind `0xfe` follow eight bytes
of its length. -/
theorem encodeText_first (value : Option Bytes) :
    ∃ first rest, encodeText value = first :: rest ∧ first ≠ 0xff ∧
      (first = 0xfe → 8 ≤ rest.length) := by
  cases value with
  | none => exact ⟨0xfb, [], rfl, by decide, by decide⟩
  | some value =>
      rw [encodeText, encodeLength]
      split
      · rename_i small
        refine ⟨toByte value.length, value, rfl, ?_, ?_⟩
        · intro isFirst
          have same := congrArg UInt8.toNat isFirst
          rw [toByte_toNat, Nat.mod_eq_of_lt (by omega)] at same
          change value.length = 255 at same
          omega
        · intro isFirst
          have same := congrArg UInt8.toNat isFirst
          rw [toByte_toNat, Nat.mod_eq_of_lt (by omega)] at same
          change value.length = 254 at same
          omega
      · split
        · exact ⟨0xfc, _, rfl, by decide, fun isFirst => absurd isFirst (by decide)⟩
        · split
          · exact ⟨0xfd, _, rfl, by decide, fun isFirst => absurd isFirst (by decide)⟩
          · refine ⟨0xfe, writeUIntLE value.length 8 ++ value, rfl, by decide, fun _ => ?_⟩
            rw [List.length_append]
            exact Nat.le_add_right 8 value.length

/-- A row is not mistaken for the end of the rows, or for an error. -/
theorem RowPacket.not_special {protocol : Protocol} {columns : Nat} {packet : Packet}
    (row : RowPacket protocol columns packet) (hasColumns : 0 < columns) :
    packet.isEOF = false ∧ packet.isError = false := by
  cases protocol with
  | execute =>
      rcases row with ⟨rest, carries⟩
      rw [Packet.isEOF, Packet.isError, carries.peekByte]
      exact ⟨rfl, rfl⟩
  | query =>
      rcases row with ⟨values, rfl, carries⟩
      cases values with
      | nil => contradiction
      | cons value values =>
          rcases encodeText_first value with ⟨first, rest, encoded, notError, isLong⟩
          rw [List.flatMap_cons, encoded, List.cons_append] at carries
          rw [Packet.isEOF, Packet.isError, carries.peekByte, carries.length]
          constructor
          · apply decide_eq_false
            rintro ⟨isFirst, short⟩
            have long := isLong (UInt8.toNat_inj.mp (Option.some.inj isFirst))
            rw [List.length_cons, List.length_append] at short
            omega
          · apply decide_eq_false
            intro isFirst
            exact notError (UInt8.toNat_inj.mp (Option.some.inj isFirst))

/-- The packet is a column definition. -/
def ColumnPacket (read : ReadConfig) (packet : Packet) (column : ColumnDefinition) : Prop :=
  packet.isError = false ∧ ∃ rest, ColumnDefinition.read read packet = .ok (column, rest)

/-- What the server sends as one result: an OK packet, or columns and rows. -/
inductive ServerResult
  | ok (header : OkPacket)
  | rows (columns : List ColumnDefinition) (rows : List Packet)

/-- The packets of one result, the last one apart.  `more` says that another
result follows. -/
inductive ResultPackets (read : ReadConfig) (protocol : Protocol) (more : Bool) :
    List Packet → Packet → ServerResult → Prop
  | ok {packet rest : Packet} {header : OkPacket} (isOk : packet.peekByte = some 0)
      (reads : ResultSetHeader.read read packet = .ok (.ok header, rest))
      (flag : header.moreResults = more) : ResultPackets read protocol more [] packet (.ok header)
  | rows {header rest eof last : Packet} {columnPackets rows : List Packet}
      {columns : List ColumnDefinition} {status lastStatus : Nat} (nonempty : columns ≠ [])
      (notError : header.isError = false)
      (reads : ResultSetHeader.read read header =
        .ok (.columns (.number columns.length), rest))
      (columnsRead : List.Forall₂ (ColumnPacket read) columnPackets columns)
      (isEOF : EOFPacket status eof)
      (rowPackets : ∀ row ∈ rows, RowPacket protocol columns.length row)
      (isLast : EOFPacket lastStatus last)
      (flag : hasFlag lastStatus SERVER_MORE_RESULTS_EXISTS = more) :
      ResultPackets read protocol more (header :: (columnPackets ++ eof :: rows)) last
        (.rows columns rows)

/-- The packets of a response, the last one apart: one or more results, of which
all but the last announce that another one follows. -/
inductive Response (read : ReadConfig) (protocol : Protocol) :
    List Packet → Packet → List ServerResult → Prop
  | last {packets : List Packet} {last : Packet} {result : ServerResult}
      (packetsOf : ResultPackets read protocol false packets last result) :
      Response read protocol packets last [result]
  | more {packets rest : List Packet} {middle last : Packet} {result : ServerResult}
      {results : List ServerResult}
      (packetsOf : ResultPackets read protocol true packets middle result)
      (response : Response read protocol rest last results) :
      Response read protocol (packets ++ middle :: rest) last (result :: results)

end Mysql2.Commands

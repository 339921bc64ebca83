import Mysql2.Packets.LengthCoded
import Mysql2.Packets.Reads
import Mysql2.Packets.ServerPackets

/-!
# Extended metadata of columns

The block of entries that MariaDB puts before the fixed fields of a column definition.  Entries
may be longer than the block.  Reading them ends behind it, unless one of them has the tag that
no length has.
-/

namespace Mysql2.Packets

open Mysql2.Script Packet

/-! ## Entries -/

/-- The number of bytes behind the tag of a length: the rest of the length, and what it counts. -/
def entryLength (tag : UInt8) (rest : Bytes) : Nat :=
  if tag.toNat < 251 then tag.toNat
  else if tag = 0xfb then 0
  else
    let size := if tag = 0xfc then 2 else if tag = 0xfd then 3 else 8
    size + uintLE (rest.take size)

/-- One of the entries has the tag that no length has. -/
inductive HasReservedTag : Bytes → Prop
  | first (id : UInt8) (rest : Bytes) : HasReservedTag (id :: 0xff :: rest)
  | later (id tag : UInt8) (rest : Bytes)
      (others : HasReservedTag (rest.drop (entryLength tag rest))) :
      HasReservedTag (id :: tag :: rest)

theorem writeUIntLE_uintLE (bytes : Bytes) : writeUIntLE (uintLE bytes) bytes.length = bytes := by
  induction bytes with
  | nil => rfl
  | cons byte bytes ih =>
      have value : uintLE (byte :: bytes) = byte.toNat + 256 * uintLE bytes := rfl
      have small := byte.toNat_lt
      have low : toByte (uintLE (byte :: bytes)) = byte := by
        rw [value]
        apply UInt8.toNat_inj.mp
        rw [toByte_toNat]
        omega
      have high : uintLE (byte :: bytes) / 256 = uintLE bytes := by
        rw [value]
        omega
      rw [List.length_cons, writeUIntLE, low, high, ih]

/-- The bytes of a part of a length, as the bytes of a number. -/
theorem take_append_writeUIntLE {rest : Bytes} {size : Nat} (long : size ≤ rest.length) :
    rest = writeUIntLE (uintLE (rest.take size)) size ++ rest.drop size := by
  have written := writeUIntLE_uintLE (rest.take size)
  rw [List.length_take, Nat.min_eq_left long] at written
  rw [written, List.take_append_drop]

theorem uintLE_take_lt (rest : Bytes) (size : Nat) : uintLE (rest.take size) < 256 ^ size := by
  have short : (rest.take size).length ≤ size := by
    rw [List.length_take]
    exact Nat.min_le_left _ _
  exact Nat.lt_of_lt_of_le (uintLE_lt _) (Nat.pow_le_pow_right (by decide) short)

/-- The length of an entry is read, unless its tag is the one that no length has. -/
theorem readLength_entry {packet : Packet} {tag : UInt8} {rest : Bytes}
    (aheadEq : packet.ahead = tag :: rest) (notReserved : tag ≠ 0xff) (long : 8 ≤ rest.length) :
    ∃ (len : LengthCoded) (size : Nat),
      (readLengthCodedNumber false false).run packet = .ok (len, packet.advance (1 + size)) ∧
      entryLength tag rest = size + len.toNat := by
  by_cases small : tag.toNat < 251
  · have marker : packet.ahead = toByte tag.toNat :: rest := by
      rw [aheadEq, toByte, UInt8.ofNat_toNat]
    refine ⟨_, 0, readLengthCodedNumber_one false false marker small, ?_⟩
    rw [entryLength, if_pos small, toNat_number, Nat.zero_add]
  · have notLast : tag.toNat ≠ 255 := fun last => notReserved (UInt8.toNat_inj.mp last)
    have below := tag.toNat_lt
    have tags : tag = 0xfb ∨ tag = 0xfc ∨ tag = 0xfd ∨ tag = 0xfe := by
      simp only [← UInt8.toNat_inj]
      show tag.toNat = 251 ∨ tag.toNat = 252 ∨ tag.toNat = 253 ∨ tag.toNat = 254
      omega
    have part (size : Nat) (short : size ≤ 8) :
        rest = writeUIntLE (uintLE (rest.take size)) size ++ rest.drop size :=
      take_append_writeUIntLE (Nat.le_trans short long)
    rcases tags with rfl | rfl | rfl | rfl
    · refine ⟨.null, 0, ?_, rfl⟩
      rw [readLengthCodedNumber, run_bind_of_ok (readInt8_run_cons aheadEq)]
      rfl
    · rw [part 2 (by decide)] at aheadEq
      exact ⟨_, 2, readLengthCodedNumber_two false false aheadEq (uintLE_take_lt rest 2), rfl⟩
    · rw [part 3 (by decide)] at aheadEq
      exact ⟨_, 3, readLengthCodedNumber_three false false aheadEq (uintLE_take_lt rest 3), rfl⟩
    · have eight : (rest.take 8).length = 8 := by
        rw [List.length_take]
        omega
      rw [← List.take_append_drop 8 rest] at aheadEq
      refine ⟨_, 8, readLengthCodedNumber_run64 aheadEq eight false, ?_⟩
      show 8 + uintLE (rest.take 8) = 8 + (exactLength (uintLE (rest.take 8))).toNat
      rw [exactLength]
      split <;> rfl

/-- An entry within the block is the same whatever lies behind the block, and any other one goes
past its end. -/
theorem entryLength_append (tag : UInt8) (rest behind : Bytes) :
    (entryLength tag (rest ++ behind) = entryLength tag rest ∧ entryLength tag rest ≤ rest.length) ∨
      (rest.length < entryLength tag rest ∧ rest.length < entryLength tag (rest ++ behind)) := by
  rw [entryLength, entryLength]
  by_cases small : tag.toNat < 251
  · rw [if_pos small, if_pos small]
    omega
  · rw [if_neg small, if_neg small]
    by_cases null : tag = 0xfb
    · rw [if_pos null, if_pos null]
      omega
    · rw [if_neg null, if_neg null]
      dsimp only
      generalize (if tag = 0xfc then 2 else if tag = 0xfd then 3 else 8) = size
      by_cases within : size ≤ rest.length
      · rw [List.take_append_of_le_length within]
        omega
      · omega

theorem readLength_reserved {packet : Packet} {rest : Bytes}
    (aheadEq : packet.ahead = 0xff :: rest) :
    ∃ error, (readLengthCodedNumber false false).run packet = .error error := by
  rw [readLengthCodedNumber, run_bind_of_ok (readInt8_run_cons aheadEq)]
  exact ⟨_, rfl⟩

theorem readText_reserved (config : ReadConfig) {packet : Packet} {rest : Bytes}
    (aheadEq : packet.ahead = 0xff :: rest) :
    ∃ error, (readLengthCodedString config.toDecoding (some "ascii")).run packet =
      .error error := by
  obtain ⟨error, lengthRun⟩ := readLength_reserved aheadEq
  exact ⟨error, run_bind_of_error lengthRun⟩

/-! ## The loop over the entries -/

/-- No entry is left behind the end of the block. -/
theorem readEntries_end (config : ReadConfig) {packet : Packet} {last : Nat}
    (behind : last ≤ packet.offset) (fuel : Nat) (found : Option String × Option String) :
    (readExtendedMetadata config last fuel found).run packet = .ok (found, packet) := by
  cases fuel with
  | zero => rfl
  | succ fuel =>
      rw [readExtendedMetadata, run_get_bind, if_neg (by omega)]
      rfl

section Entries

variable {config : ReadConfig}
  (ascii : ∀ bytes, ∃ text, config.decode (some "ascii") bytes = .ok text)

include ascii

/-- The text of an entry is skipped, whatever it is. -/
theorem readText_entry {packet : Packet} {tag : UInt8} {rest : Bytes}
    (aheadEq : packet.ahead = tag :: rest) (notReserved : tag ≠ 0xff) (long : 8 ≤ rest.length) :
    ∃ text, (readLengthCodedString config.toDecoding (some "ascii")).run packet =
      .ok (text, packet.advance (1 + entryLength tag rest)) := by
  obtain ⟨len, size, lengthRun, lengthEq⟩ := readLength_entry aheadEq notReserved long
  rw [readLengthCodedString, run_bind_of_ok lengthRun, lengthEq, ← Nat.add_assoc]
  have bufferRun := readBuffer_take (packet.advance (1 + size)) len.toNat
  obtain ⟨text, textEq⟩ := ascii ((packet.advance (1 + size)).ahead.take len.toNat)
  have textRun : StateT.run (do
      let bytes ← readBuffer len.toNat
      return some (← config.decode (some "ascii") bytes)) (packet.advance (1 + size)) =
        .ok (some text, packet.advance (1 + size + len.toNat)) := by
    rw [run_bind_of_ok bufferRun, textEq, advance_advance]
    rfl
  cases len with
  | null => exact ⟨none, rfl⟩
  | number value => exact ⟨some text, textRun⟩
  | string value => exact ⟨some text, textRun⟩

/-- One round of the loop, with the tag of the entry ahead. -/
theorem readEntry {packet : Packet} {id tag : UInt8} {rest : Bytes} {last : Nat}
    (aheadEq : packet.ahead = id :: tag :: rest) (notReserved : tag ≠ 0xff)
    (long : 8 ≤ rest.length) (inside : packet.offset < last) (fuel : Nat)
    (found : Option String × Option String) :
    ∃ found', (readExtendedMetadata config last (fuel + 1) found).run packet =
      (readExtendedMetadata config last fuel found').run
        (packet.advance (2 + entryLength tag rest)) := by
  have idRun := readInt8_run_cons aheadEq
  have tagAhead := ahead_advance_one aheadEq
  obtain ⟨text, textRun⟩ := readText_entry ascii tagAhead notReserved long
  rw [readExtendedMetadata, run_get_bind, if_pos inside, run_bind_of_ok idRun,
    run_bind_of_ok textRun, advance_advance, ← Nat.add_assoc]
  exact ⟨_, rfl⟩

/-- The loop ends, unless it meets the tag that no length has.  The byte behind the block is the
tag of an entry whose own tag is missing. -/
theorem readEntries {behind : Bytes} (long : 8 ≤ behind.length) (fuel : Nat) {packet : Packet}
    {block : Bytes} (aheadEq : packet.ahead = block ++ 0x0c :: behind)
    (enough : block.length ≤ fuel) (found : Option String × Option String) :
    (HasReservedTag block → ∃ error, (readExtendedMetadata config (packet.offset + block.length)
      fuel found).run packet = .error error) ∧
    (¬HasReservedTag block → ∃ found' count, (readExtendedMetadata config
      (packet.offset + block.length) fuel found).run packet =
        .ok (found', packet.advance count)) := by
  induction fuel generalizing packet block found with
  | zero =>
      obtain rfl := List.length_eq_zero_iff.mp (Nat.le_zero.mp enough)
      exact ⟨fun reserved => (nomatch reserved), fun _ => ⟨found, 0, rfl⟩⟩
  | succ fuel ih =>
      match block with
      | [] =>
          refine ⟨fun reserved => (nomatch reserved), fun _ => ⟨found, 0, ?_⟩⟩
          exact readEntries_end config (Nat.le_refl _) _ _
      | [id] =>
          refine ⟨fun reserved => (nomatch reserved), fun _ => ?_⟩
          obtain ⟨found', run⟩ := readEntry ascii aheadEq (by decide) long
            (Nat.lt_succ_self packet.offset) fuel found
          rw [List.length_singleton, run]
          refine ⟨found', _, readEntries_end config ?_ _ _⟩
          rw [offset_advance]
          omega
      | id :: tag :: rest =>
          have inside : packet.offset < packet.offset + (id :: tag :: rest).length := by
            rw [List.length_cons]
            omega
          by_cases isReserved : tag = 0xff
          · subst isReserved
            refine ⟨fun _ => ?_, fun none => absurd (.first id rest) none⟩
            obtain ⟨error, textRun⟩ := readText_reserved config (ahead_advance_one aheadEq)
            rw [readExtendedMetadata, run_get_bind, if_pos inside,
              run_bind_of_ok (readInt8_run_cons aheadEq), run_bind_of_error textRun]
            exact ⟨error, rfl⟩
          · have others : HasReservedTag (id :: tag :: rest) ↔
                HasReservedTag (rest.drop (entryLength tag rest)) := by
              constructor
              · rintro (⟨_, _⟩ | ⟨_, _, _, others⟩)
                · exact absurd rfl isReserved
                · exact others
              · exact .later id tag rest
            have longRest : 8 ≤ (rest ++ 0x0c :: behind).length := by
              rw [List.length_append, List.length_cons]
              omega
            obtain ⟨found', run⟩ := readEntry ascii aheadEq isReserved longRest inside fuel found
            rw [others]
            simp only [List.append_eq] at run
            rcases entryLength_append tag rest (0x0c :: behind) with
              ⟨lengthEq, within⟩ | ⟨past, past'⟩
            · rw [lengthEq] at run
              have othersAhead : (packet.advance (2 + entryLength tag rest)).ahead =
                  rest.drop (entryLength tag rest) ++ 0x0c :: behind := by
                rw [ahead_advance, aheadEq, Nat.add_comm]
                show (rest ++ 0x0c :: behind).drop (entryLength tag rest) = _
                rw [List.drop_append_of_le_length within]
              have lastEq : packet.offset + (id :: tag :: rest).length =
                  (packet.advance (2 + entryLength tag rest)).offset +
                    (rest.drop (entryLength tag rest)).length := by
                rw [offset_advance, List.length_drop, List.length_cons, List.length_cons]
                omega
              have shorter : (rest.drop (entryLength tag rest)).length ≤ fuel := by
                rw [List.length_drop]
                simp only [List.length_cons] at enough
                omega
              obtain ⟨throws, returns⟩ := ih othersAhead shorter found'
              rw [← lastEq, ← run] at throws returns
              refine ⟨throws, fun none => ?_⟩
              obtain ⟨found'', count, othersRun⟩ := returns none
              rw [advance_advance] at othersRun
              exact ⟨found'', _, othersRun⟩
            · rw [List.drop_of_length_le past.le, run]
              refine ⟨fun reserved => (nomatch reserved), fun _ => ?_⟩
              refine ⟨found', _, readEntries_end config ?_ _ _⟩
              rw [offset_advance, List.length_cons, List.length_cons]
              omega

/-- Behind the entries the position is put at the end of the block. -/
theorem parseMariadbExtendedMetadata_run {packet : Packet} {block cell behind : Bytes}
    (isCell : IsCell block cell) (long : 8 ≤ behind.length)
    (aheadEq : packet.ahead = cell ++ 0x0c :: behind)
    (inside : packet.offset + cell.length ≤ packet.endOffset) :
    (HasReservedTag block → ∃ error,
      (parseMariadbExtendedMetadata config).run packet = .error error) ∧
    (¬HasReservedTag block → ∃ found,
      (parseMariadbExtendedMetadata config).run packet =
        .ok (found, packet.advance cell.length)) := by
  obtain ⟨header, isLength, rfl⟩ := isCell
  rw [List.length_append] at inside ⊢
  rw [List.append_assoc] at aheadEq
  have lengthRun : (readLengthCodedNumber false false).run packet =
      .ok (.number block.length, packet.advance header.length) :=
    Reads.readLength isLength false false packet _ aheadEq (by omega)
  have blockAhead := ahead_advance_of_append header aheadEq rfl
  have lastEq : min ((packet.advance header.length).offset + block.length)
      (packet.advance header.length).endOffset =
        (packet.advance header.length).offset + block.length := by
    rw [offset_advance, endOffset_advance]
    omega
  obtain ⟨throws, returns⟩ := readEntries ascii long
    ((packet.advance header.length).offset + block.length) blockAhead (by omega) (none, none)
  rw [parseMariadbExtendedMetadata, run_bind_of_ok lengthRun, run_get_bind, toNat_number, lastEq]
  refine ⟨fun reserved => ?_, fun none => ?_⟩
  · obtain ⟨error, entriesRun⟩ := throws reserved
    exact ⟨error, run_bind_of_error entriesRun⟩
  · obtain ⟨found, count, entriesRun⟩ := returns none
    refine ⟨found, ?_⟩
    rw [run_bind_of_ok entriesRun, run_modify_bind, offset_advance, Nat.add_assoc]
    rfl

end Entries

/-! ## The fixed fields -/

/-- The fields of a fixed length that a column definition ends with. -/
structure FixedFields where
  characterSet : UInt16
  columnLength : UInt32
  columnType : UInt8
  flags : UInt16
  decimals : UInt8
  filler : UInt16

/-- The bytes of the fixed fields behind their length. -/
def FixedFields.bytes (fields : FixedFields) : Bytes :=
  writeUIntLE fields.characterSet.toNat 2 ++ (writeUIntLE fields.columnLength.toNat 4 ++
    fields.columnType :: (writeUIntLE fields.flags.toNat 2 ++
      fields.decimals :: writeUIntLE fields.filler.toNat 2))

theorem FixedFields.length_bytes (fields : FixedFields) : fields.bytes.length = 12 := by
  simp only [bytes, List.length_append, List.length_cons, length_writeUIntLE]

/-- A column definition with its fields as they are. -/
def FixedFields.Of (fields : FixedFields) (definition : ColumnDefinition) : Prop :=
  definition.characterSet = fields.characterSet.toNat ∧
    definition.columnLength = fields.columnLength.toNat ∧
    definition.columnType = some fields.columnType.toNat ∧
    definition.flags = fields.flags.toNat ∧
    definition.decimals = some fields.decimals.toNat

/-- A packet holds a column definition: six texts, a block of entries and the fixed fields. -/
structure HoldsDefinition (packet : Packet) (name block : Bytes) (fields : FixedFields) : Prop where
  layout : ∃ catalog schema table orgTable orgName cells rest,
    List.Forall₂ IsCell [catalog, schema, table, orgTable, name, orgName, block] cells ∧
      packet.ahead = cells.flatten ++ (0x0c :: fields.bytes) ++ rest ∧
      packet.offset + cells.flatten.length + (0x0c :: fields.bytes).length ≤ packet.endOffset

/-- The encoding that `new ColumnDefinition(packet, clientEncoding, ..)` decodes the name in. -/
def nameEncoding (config : ReadConfig) (characterSet : Nat) : Option String :=
  let encoding := config.charsetToEncoding characterSet
  if encoding = some "binary" then config.clientEncoding else encoding

/-- The definition of a column is read, with its fixed fields. -/
def ReadsFixedFields (config : ReadConfig) (fields : FixedFields) (packet : Packet) : Prop :=
  ∃ definition after, (ColumnDefinition.read config).run packet = .ok (definition, after) ∧
    fields.Of definition

/-- One of the texts is read, and the others are ahead. -/
theorem readRange_run {packet : Packet} {content cell rest : Bytes} {cells : List Bytes}
    (isCell : IsCell content cell) (aheadEq : packet.ahead = (cell :: cells).flatten ++ rest)
    (inside : packet.offset + (cell :: cells).flatten.length ≤ packet.endOffset) :
    ∃ next, readRange.run packet = .ok (content, next) ∧ next.ahead = cells.flatten ++ rest ∧
      next.offset + cells.flatten.length ≤ next.endOffset := by
  rw [List.flatten_cons, List.append_assoc] at aheadEq
  rw [List.flatten_cons, List.length_append] at inside
  have reads : Reads readRange cell (.ok content) := by
    show Reads (readLengthCodedNumber false false >>= fun len => readBuffer len.toNat) cell _
    apply Reads.column isCell
    exact Reads.readBuffer content
  refine ⟨packet.advance cell.length, reads packet _ aheadEq (by omega),
    ahead_advance_of_append cell aheadEq rfl, ?_⟩
  rw [offset_advance, endOffset_advance]
  omega

/-- A field of two bytes is read, and the others are ahead. -/
theorem readInt16_field {packet : Packet} {field : UInt16} {rest : Bytes}
    (aheadEq : packet.ahead = writeUIntLE field.toNat 2 ++ rest) :
    ∃ next, Packet.readInt16.run packet = .ok (field.toNat, next) ∧ next.ahead = rest := by
  refine ⟨packet.advance 2, ?_, ahead_advance_of_append _ aheadEq (length_writeUIntLE _ _)⟩
  rw [readInt16_run aheadEq (length_writeUIntLE _ _), uintLE_writeUIntLE_of_lt field.toNat_lt]

theorem readInt32_field {packet : Packet} {field : UInt32} {rest : Bytes}
    (aheadEq : packet.ahead = writeUIntLE field.toNat 4 ++ rest) :
    ∃ next, Packet.readInt32.run packet = .ok (field.toNat, next) ∧ next.ahead = rest := by
  refine ⟨packet.advance 4, ?_, ahead_advance_of_append _ aheadEq (length_writeUIntLE _ _)⟩
  rw [readInt32_run aheadEq (length_writeUIntLE _ _), uintLE_writeUIntLE_of_lt field.toNat_lt]

theorem readInt8_field {packet : Packet} {field : UInt8} {rest : Bytes}
    (aheadEq : packet.ahead = field :: rest) :
    ∃ next, Packet.readInt8.run packet = .ok (some field.toNat, next) ∧ next.ahead = rest :=
  ⟨packet.advance 1, readInt8_run_cons aheadEq, ahead_advance_one aheadEq⟩

theorem FixedFields.runs {packet : Packet} {rest : Bytes} (fields : FixedFields)
    (aheadEq : packet.ahead = fields.bytes ++ rest) :
    ∃ atLength atType atFlags atDecimals after,
      Packet.readInt16.run packet = .ok (fields.characterSet.toNat, atLength) ∧
      Packet.readInt32.run atLength = .ok (fields.columnLength.toNat, atType) ∧
      Packet.readInt8.run atType = .ok (some fields.columnType.toNat, atFlags) ∧
      Packet.readInt16.run atFlags = .ok (fields.flags.toNat, atDecimals) ∧
      Packet.readInt8.run atDecimals = .ok (some fields.decimals.toNat, after) := by
  rw [bytes, List.append_assoc, List.append_assoc, List.cons_append, List.append_assoc,
    List.cons_append] at aheadEq
  obtain ⟨atLength, characterSetRun, lengthAhead⟩ := readInt16_field aheadEq
  obtain ⟨atType, columnLengthRun, typeAhead⟩ := readInt32_field lengthAhead
  obtain ⟨atFlags, columnTypeRun, flagsAhead⟩ := readInt8_field typeAhead
  obtain ⟨atDecimals, flagsRun, decimalsAhead⟩ := readInt16_field flagsAhead
  obtain ⟨after, decimalsRun, _⟩ := readInt8_field decimalsAhead
  exact ⟨atLength, atType, atFlags, atDecimals, after, characterSetRun, columnLengthRun,
    columnTypeRun, flagsRun, decimalsRun⟩

/-- The fixed fields of a definition are read unless the block has an entry with the reserved tag,
or the name cannot be decoded. -/
theorem readsFixedFields_iff {config : ReadConfig} {packet : Packet} {name block : Bytes}
    {fields : FixedFields} (mariadb : config.mariadbExtendedMetadata = true)
    (ascii : ∀ bytes, ∃ text, config.decode (some "ascii") bytes = .ok text)
    (holds : HoldsDefinition packet name block fields) :
    ReadsFixedFields config fields packet ↔ ¬HasReservedTag block ∧
      ∃ text, config.decode (nameEncoding config fields.characterSet.toNat) name = .ok text := by
  obtain ⟨catalog, schema, table, orgTable, orgName, cells, rest, isCells, aheadEq, inside⟩ :=
    holds.layout
  match cells, isCells with
  | [_, _, _, _, _, _, cell], .cons isCatalog (.cons isSchema (.cons isTable (.cons isOrgTable
      (.cons isName (.cons isOrgName (.cons isBlock .nil)))))) =>
      rw [List.append_assoc] at aheadEq
      obtain ⟨atSchema, catalogRun, ahead, inside⟩ := readRange_run isCatalog aheadEq (by omega)
      obtain ⟨atTable, schemaRun, ahead, inside⟩ := readRange_run isSchema ahead inside
      obtain ⟨atOrgTable, tableRun, ahead, inside⟩ := readRange_run isTable ahead inside
      obtain ⟨atName, orgTableRun, ahead, inside⟩ := readRange_run isOrgTable ahead inside
      obtain ⟨atOrgName, nameRun, ahead, inside⟩ := readRange_run isName ahead inside
      obtain ⟨atBlock, orgNameRun, ahead, inside⟩ := readRange_run isOrgName ahead inside
      rw [List.flatten_singleton] at ahead inside
      have long : 8 ≤ (fields.bytes ++ rest).length := by
        rw [List.length_append, fields.length_bytes]
        omega
      obtain ⟨throws, returns⟩ := parseMariadbExtendedMetadata_run ascii isBlock long ahead inside
      rw [ReadsFixedFields, ColumnDefinition.read, run_bind_of_ok catalogRun,
        run_bind_of_ok schemaRun, run_bind_of_ok tableRun, run_bind_of_ok orgTableRun,
        run_bind_of_ok nameRun, run_bind_of_ok orgNameRun]
      dsimp only
      rw [if_pos mariadb]
      by_cases reserved : HasReservedTag block
      · obtain ⟨error, blockRun⟩ := throws reserved
        rw [run_bind_of_error blockRun]
        constructor
        · rintro ⟨definition, after, returned, _⟩
          exact nomatch returned
        · exact fun conditions => absurd reserved conditions.1
      · obtain ⟨found, blockRun⟩ := returns reserved
        have fieldsAhead : ((atBlock.advance cell.length).advance 1).ahead = fields.bytes ++ rest :=
          ahead_advance_one (ahead_advance_of_append cell ahead rfl)
        obtain ⟨atLength, atType, atFlags, atDecimals, after, characterSetRun, columnLengthRun,
          columnTypeRun, flagsRun, decimalsRun⟩ := fields.runs fieldsAhead
        rw [run_bind_of_ok blockRun, run_bind_of_ok (skip_run _ 1), run_bind_of_ok characterSetRun]
        change (∃ definition after, StateT.run (StateT.lift (config.decode
          (nameEncoding config fields.characterSet.toNat) name) >>= _) _ = _ ∧ _) ↔ _
        cases nameEq : config.decode (nameEncoding config fields.characterSet.toNat) name with
        | error error =>
            constructor
            · rintro ⟨definition, after, returned, _⟩
              exact nomatch returned
            · rintro ⟨_, text, textEq⟩
              exact nomatch textEq
        | ok text =>
            have nameRun : (StateT.lift (.ok text : Except JsError String) : Reader String).run
                atLength = .ok (text, atLength) := rfl
            rw [run_bind_of_ok nameRun, run_bind_of_ok columnLengthRun,
              run_bind_of_ok columnTypeRun, run_bind_of_ok flagsRun, run_bind_of_ok decimalsRun]
            exact iff_of_true ⟨_, after, rfl, rfl, rfl, rfl, rfl, rfl⟩ ⟨reserved, text, rfl⟩

/-! ## Definitions of one column -/

/-- The settings of a connection to MariaDB, and decoders of texts in ASCII. -/
def mariadbConfig : ReadConfig where
  decode _ bytes := .ok (Packets.ascii bytes)
  errorCodeToName _ := none
  charsetToEncoding _ := some "utf8"
  clientEncoding := some "utf8"
  serverEncoding := some "utf8"
  capabilityFlags := PROTOCOL_41
  bigNumberStrings := false
  mariadbExtendedMetadata := true

/-- The fixed fields of a text of 36 characters. -/
def uuidFields : FixedFields where
  characterSet := 224
  columnLength := 144
  columnType := 0xfe
  flags := 128
  decimals := 0
  filler := 0

/-- The definition of a column `u` with a block of entries. -/
def uuidDefinition (block : Bytes) : Packet :=
  packetOf (([[100, 101, 102], [], [], [], [0x75], [], block].map writeLengthCodedBuffer).flatten ++
    0x0c :: uuidFields.bytes)

theorem holds_uuidDefinition {block : Bytes} (safe : block.length < 9007199254740992) :
    HoldsDefinition (uuidDefinition block) [0x75] block uuidFields := by
  refine ⟨[100, 101, 102], [], [], [], [], _, [], ?_, ahead_packetOf _, ?_⟩
  · have isCell (content : Bytes) (short : content.length < 4) :
        IsCell content (writeLengthCodedBuffer content) :=
      isCell_writeLengthCodedBuffer (by omega)
    exact .cons (isCell _ (by decide)) (.cons (isCell _ (by decide)) (.cons (isCell _ (by decide))
      (.cons (isCell _ (by decide)) (.cons (isCell _ (by decide)) (.cons (isCell _ (by decide))
        (.cons (isCell_writeLengthCodedBuffer safe) .nil))))))
  · show 4 + _ + _ ≤ 4 + List.length (_ ++ _)
    rw [List.length_append]
    omega

/-- An entry that says it is longer than the block. -/
theorem readsFixedFields_iff_longEntry :
    ReadsFixedFields mariadbConfig uuidFields (uuidDefinition [0, 200, 97, 98]) := by
  have holds : HoldsDefinition (uuidDefinition [0, 200, 97, 98]) [0x75] [0, 200, 97, 98]
      uuidFields := holds_uuidDefinition (by decide)
  apply (readsFixedFields_iff rfl (fun _ => ⟨_, rfl⟩) holds).mpr
  refine ⟨?_, _, rfl⟩
  rintro (⟨_, _⟩ | ⟨_, _, _, others⟩)
  exact nomatch others

/-- The constructor throws where the tag of an entry is the one that no length has. -/
theorem not_forall_readsFixedFields :
    ¬∀ (config : ReadConfig) (packet : Packet) (name block : Bytes) (fields : FixedFields),
      config.mariadbExtendedMetadata = true →
      (∀ encoding bytes, ∃ text, config.decode encoding bytes = .ok text) →
      HoldsDefinition packet name block fields → ReadsFixedFields config fields packet := by
  intro allRead
  obtain ⟨definition, after, returned, _⟩ := allRead mariadbConfig (uuidDefinition [0, 0xff]) [0x75]
    [0, 0xff] uuidFields rfl (fun _ _ => ⟨_, rfl⟩) (holds_uuidDefinition (by decide))
  have throws : (ColumnDefinition.read mariadbConfig).run (uuidDefinition [0, 0xff]) =
      .error (.new "Should not reach here: 255") := rfl
  exact nomatch throws.symm.trans returned

end Mysql2.Packets

import Mysql2.Packets.RequestLayout
import Mysql2.Packets.Writer

/-!
# OK and ERR packets of the server side

`OK.toPacket` reserves nothing for its message, and `Error.toPacket` as much as the message takes
in UTF-8, whatever encoding it is written in.
-/

namespace Mysql2.Packets

open Mysql2.Script Mysql2.Stream

/-! ## Writing -/

/-- Arguments of `OK.toPacket`. -/
structure OkArguments where
  affectedRows : Option Nat
  insertId : Option Nat
  serverStatus : Option Nat
  warningCount : Option Nat
  message : Option JsString
  deriving DecidableEq, Repr

/-- `OK.toPacket(args, encoding)`. -/
def OK.toPacket (codecs : Codecs) (args : OkArguments) (encoding : Option String) :
    Except JsError Outgoing :=
  let affectedRows := args.affectedRows.getD 0
  let insertId := args.insertId.getD 0
  let serverStatus := args.serverStatus.getD 0
  let warningCount := args.warningCount.getD 0
  let message := args.message.getD []
  let length := 9 + lengthCodedNumberLength affectedRows + lengthCodedNumberLength insertId
  Outgoing.written length do
    Outgoing.writeInt8 0
    Outgoing.writeLengthCodedNumber affectedRows
    Outgoing.writeLengthCodedNumber insertId
    Outgoing.writeInt16 serverStatus
    Outgoing.writeInt16 warningCount
    Outgoing.writeString codecs message encoding

/-- Arguments of `Error.toPacket`. -/
structure ErrorArguments where
  code : Nat
  message : JsString
  deriving DecidableEq, Repr

/-- The marker and the SQL state that are written. -/
def sqlStateText : JsString :=
  units "#_____"

/-- `Error.toPacket(args, encoding)`. -/
def Error.toPacket (codecs : Codecs) (args : ErrorArguments) (encoding : Option String) :
    Except JsError Outgoing :=
  Outgoing.written (13 + utf8ByteLength args.message) do
    Outgoing.writeInt8 0xff
    Outgoing.writeInt16 args.code
    Outgoing.writeString codecs sqlStateText encoding
    Outgoing.writeString codecs args.message encoding

/-! ## Grammars -/

/-- The fields of an OK packet. -/
structure OkFields where
  affectedRows : Nat
  insertId : Nat
  serverStatus : Nat
  warningCount : Nat
  info : Bytes
  deriving DecidableEq, Repr

/-- An OK packet. -/
def okGrammar : Grammar UInt8 OkFields := do
  RequestGrammar.command 0
  let affectedRows ← RequestGrammar.lengthCodedNumber
  let insertId ← RequestGrammar.lengthCodedNumber
  let serverStatus ← RequestGrammar.number 2
  let warningCount ← RequestGrammar.number 2
  return ⟨affectedRows, insertId, serverStatus, warningCount, ← RequestGrammar.rest⟩

/-- The fields of an ERR packet. -/
structure ErrFields where
  code : Nat
  sqlState : Bytes
  message : Bytes
  deriving DecidableEq, Repr

/-- An ERR packet. -/
def errGrammar : Grammar UInt8 ErrFields := do
  RequestGrammar.command 0xff
  let code ← RequestGrammar.number 2
  RequestGrammar.command 0x23
  let sqlState ← Grammar.take 5
  return ⟨code, sqlState, ← RequestGrammar.rest⟩

section RoundTrips

variable (codecs : Codecs) (encoding : Option String)

/-- The packet fills its buffer, and the grammar finds the numbers and the whole message in it. -/
def OK.RoundTrips (args : OkArguments) : Prop :=
  ∃ packet payload info, OK.toPacket codecs args encoding = .ok packet ∧ packet.Fills payload ∧
    okGrammar.run payload = some (⟨args.affectedRows.getD 0, args.insertId.getD 0,
      args.serverStatus.getD 0, args.warningCount.getD 0, info⟩, []) ∧
    codecs.decode info encoding 0 info.length = .ok (args.message.getD [])

/-- The packet fills its buffer, and the grammar finds the code, the SQL state of five underscores
and the whole message in it. -/
def Error.RoundTrips (args : ErrorArguments) : Prop :=
  ∃ packet payload message, Error.toPacket codecs args encoding = .ok packet ∧
    packet.Fills payload ∧
    errGrammar.run payload = some (⟨args.code, List.replicate 5 0x5f, message⟩, []) ∧
    codecs.decode message encoding 0 message.length = .ok args.message

end RoundTrips

/-! ## Computations that throw -/

/-- The computation throws in any packet. -/
def Throws (writer : Writer Unit) : Prop :=
  ∀ packet : Outgoing, ∃ error, writer.run packet = .error error

namespace Throws

variable {writer next : Writer Unit}

theorem first (throws : Throws writer) : Throws (writer >>= fun _ => next) := by
  intro packet
  obtain ⟨error, run⟩ := throws packet
  exact ⟨error, by rw [StateT.run_bind, run]; rfl⟩

theorem second (throws : Throws next) : Throws (writer >>= fun _ => next) := by
  intro packet
  cases run : writer.run packet with
  | error error => exact ⟨error, by rw [StateT.run_bind, run]; rfl⟩
  | ok result =>
      obtain ⟨error, nextRun⟩ := throws result.2
      exact ⟨error, by rw [Script.run_bind_of_returns run, nextRun]⟩

theorem writeUInt {width n : Nat} (large : 256 ^ width ≤ n) :
    Throws (Outgoing.writeUInt width n) := by
  intro packet
  refine ⟨outOfRangeError n, ?_⟩
  show StateT.run (if 256 ^ width ≤ n then _ else _) packet = _
  rw [if_pos large]
  rfl

theorem writeLengthCodedNumber {n : Nat} (large : 18446744073709551616 ≤ n) :
    Throws (Outgoing.writeLengthCodedNumber n) := by
  rw [Outgoing.writeLengthCodedNumber, if_neg (by omega), if_neg (by omega), if_neg (by omega)]
  exact second (second (writeUInt (show 256 ^ 4 ≤ n / 4294967296 by omega)))

theorem not_written (throws : Throws writer) (size : Nat) (packet : Outgoing) :
    Outgoing.written size writer ≠ .ok packet := by
  obtain ⟨error, run⟩ := throws (.alloc size)
  intro written
  rw [Outgoing.written, run] at written
  cases written

end Throws

/-! ## OK packets -/

namespace OkArguments

/-- The numbers fit their fields. -/
structure InRange (args : OkArguments) : Prop where
  affectedRows : args.affectedRows.getD 0 < 18446744073709551616
  insertId : args.insertId.getD 0 < 18446744073709551616
  serverStatus : args.serverStatus.getD 0 < 65536
  warningCount : args.warningCount.getD 0 < 65536

/-- The bytes of an OK packet before its message. -/
def bytes (args : OkArguments) : Bytes :=
  [0] ++ (writeLengthCodedNumber (args.affectedRows.getD 0) ++
    (writeLengthCodedNumber (args.insertId.getD 0) ++
      (writeUIntLE (args.serverStatus.getD 0) 2 ++ writeUIntLE (args.warningCount.getD 0) 2)))

theorem length_bytes (args : OkArguments) :
    args.bytes.length = 5 + lengthCodedNumberLength (args.affectedRows.getD 0) +
      lengthCodedNumberLength (args.insertId.getD 0) := by
  rw [bytes, List.length_append, List.length_append, List.length_append, List.length_append,
    Packet.length_writeLengthCodedNumber, Packet.length_writeLengthCodedNumber, length_writeUIntLE,
    length_writeUIntLE, List.length_singleton]
  omega

end OkArguments

theorem okGrammar_run {args : OkArguments} (inRange : args.InRange) (info : Bytes) :
    okGrammar.run (args.bytes ++ info) = some (⟨args.affectedRows.getD 0, args.insertId.getD 0,
      args.serverStatus.getD 0, args.warningCount.getD 0, info⟩, []) := by
  rw [OkArguments.bytes, okGrammar]
  simp only [List.append_assoc]
  rw [(spells_command 0).run_bind,
    (RequestGrammar.spells_lengthCodedNumber inRange.affectedRows).run_bind,
    (RequestGrammar.spells_lengthCodedNumber inRange.insertId).run_bind,
    (RequestGrammar.spells_number inRange.serverStatus).run_bind,
    (RequestGrammar.spells_number inRange.warningCount).run_bind]
  rfl

/-- The bytes that `writeString(s, encoding)` copies. -/
def stringBytes (codecs : Codecs) (string : JsString) (encoding : Option String) :
    Except JsError Bytes :=
  if string = [] then .ok [] else codecs.encode string encoding

theorem Writes.writeString {codecs : Codecs} {string : JsString} {encoding : Option String}
    {bytes : Bytes} (encoded : stringBytes codecs string encoding = .ok bytes) :
    Writes (Outgoing.writeString codecs string encoding) bytes := by
  rw [stringBytes] at encoded
  rw [Outgoing.writeString]
  split at encoded
  case isTrue empty =>
    cases encoded
    rw [if_pos empty]
    exact Writes.nothing
  case isFalse notEmpty =>
    rw [if_neg notEmpty]
    exact Writes.lift encoded (Writes.writeBuffer bytes)

theorem Throws.writeString {codecs : Codecs} {string : JsString} {encoding : Option String}
    {error : JsError} (failed : stringBytes codecs string encoding = .error error) :
    Throws (Outgoing.writeString codecs string encoding) := by
  rw [stringBytes] at failed
  rw [Outgoing.writeString]
  split at failed
  case isTrue => cases failed
  case isFalse notEmpty =>
    rw [if_neg notEmpty, failed]
    exact fun packet => ⟨error, rfl⟩

section Iff

variable {codecs : Codecs} {encoding : Option String}

theorem OK.inRange_of_written {args : OkArguments} {packet : Outgoing}
    (written : OK.toPacket codecs args encoding = .ok packet) : args.InRange := by
  constructor
  · refine Nat.lt_of_not_le fun large => Throws.not_written ?_ _ _ written
    exact .second (.first (.writeLengthCodedNumber large))
  · refine Nat.lt_of_not_le fun large => Throws.not_written ?_ _ _ written
    exact .second (.second (.first (.writeLengthCodedNumber large)))
  · refine Nat.lt_of_not_le fun large => Throws.not_written ?_ _ _ written
    exact .second (.second (.second (.first (.writeUInt large))))
  · refine Nat.lt_of_not_le fun large => Throws.not_written ?_ _ _ written
    exact .second (.second (.second (.second (.first (.writeUInt large)))))

/-- An OK packet is filled if its message has no bytes. -/
theorem OK.fills_iff {args : OkArguments} (inRange : args.InRange) {info : Bytes}
    (encoded : stringBytes codecs (args.message.getD []) encoding = .ok info) (payload : Bytes) :
    (∃ packet, OK.toPacket codecs args encoding = .ok packet ∧ packet.Fills payload) ↔
      payload = args.bytes ∧ info = [] := by
  have writes : Writes (do
      Outgoing.writeInt8 0
      Outgoing.writeLengthCodedNumber (args.affectedRows.getD 0)
      Outgoing.writeLengthCodedNumber (args.insertId.getD 0)
      Outgoing.writeInt16 (args.serverStatus.getD 0)
      Outgoing.writeInt16 (args.warningCount.getD 0)
      Outgoing.writeString codecs (args.message.getD []) encoding) (args.bytes ++ info) := by
    rw [OkArguments.bytes]
    simp only [List.append_assoc]
    exact (Writes.writeInt8 (by decide)).bind
      ((Writes.writeLengthCodedNumber inRange.affectedRows).bind
      ((Writes.writeLengthCodedNumber inRange.insertId).bind
        ((Writes.writeInt16 inRange.serverStatus).bind
          ((Writes.writeInt16 inRange.warningCount).bind (Writes.writeString encoded)))))
  rw [OK.toPacket, writes.fills_iff, List.length_append, args.length_bytes]
  constructor
  · rintro ⟨rfl, sizeEq⟩
    have empty : info = [] := List.length_eq_zero_iff.mp (by omega)
    rw [empty, List.append_nil]
    exact ⟨rfl, rfl⟩
  · rintro ⟨rfl, rfl⟩
    rw [List.append_nil, List.length_nil]
    exact ⟨rfl, by omega⟩

theorem OK.roundTrips_iff_empty (args : OkArguments) :
    OK.RoundTrips codecs encoding args ↔ args.InRange ∧ args.message.getD [] = [] := by
  constructor
  · rintro ⟨packet, payload, info, written, fills, parsed, decoded⟩
    have inRange := OK.inRange_of_written written
    refine ⟨inRange, ?_⟩
    cases encoded : stringBytes codecs (args.message.getD []) encoding with
    | error error =>
        have throws := Throws.writeString encoded
        exact absurd written (Throws.not_written
          (.second (.second (.second (.second (.second throws))))) _ _)
    | ok bytes =>
        obtain ⟨rfl, -⟩ := (OK.fills_iff inRange encoded payload).mp ⟨packet, written, fills⟩
        have whole := okGrammar_run inRange []
        rw [List.append_nil, parsed] at whole
        cases whole
        have nothing : codecs.decode [] encoding 0 ([] : Bytes).length = .ok [] :=
          codecs.decode_nil encoding 0 0 rfl
        rw [nothing] at decoded
        exact (Except.ok.inj decoded).symm
  · rintro ⟨inRange, empty⟩
    have encoded : stringBytes codecs (args.message.getD []) encoding = .ok [] := by
      rw [stringBytes, if_pos empty]
    obtain ⟨packet, written, fills⟩ := (OK.fills_iff inRange encoded _).mpr ⟨rfl, rfl⟩
    refine ⟨packet, _, [], written, fills, ?_, ?_⟩
    · have whole := okGrammar_run inRange []
      rwa [List.append_nil] at whole
    · rw [empty]
      exact codecs.decode_nil encoding 0 0 rfl

end Iff

/-! ## ERR packets -/

/-- The marker of the SQL state and five underscores, in ASCII. -/
def sqlStateBytes : Bytes :=
  0x23 :: List.replicate 5 0x5f

theorem errGrammar_run_iff {code : Nat} (inRange : code < 65536) (tail : Bytes) (message : Bytes) :
    errGrammar.run ([0xff] ++ (writeUIntLE code 2 ++ tail)) =
        some (⟨code, List.replicate 5 0x5f, message⟩, []) ↔
      tail = sqlStateBytes ++ message := by
  rw [errGrammar, (spells_command 0xff).run_bind, (RequestGrammar.spells_number inRange).run_bind]
  constructor
  · intro parsed
    cases tail with
    | nil => cases parsed
    | cons marker rest =>
        by_cases isMarker : marker = 0x23
        · subst isMarker
          have spells : Spells (RequestGrammar.command 0x23) [0x23] () := spells_command 0x23
          have parsed : StateT.run (RequestGrammar.command 0x23 >>= _) ([0x23] ++ rest) = _ :=
            parsed
          rw [spells.run_bind, StateT.run_bind] at parsed
          by_cases long : 5 ≤ rest.length
          · have taken : (Grammar.take 5).run rest = some (rest.take 5, rest.drop 5) := if_pos long
            rw [taken] at parsed
            have fields := congrArg Prod.fst (Option.some.inj parsed)
            have stateEq : rest.take 5 = List.replicate 5 0x5f := congrArg ErrFields.sqlState fields
            have messageEq : rest.drop 5 = message := congrArg ErrFields.message fields
            rw [sqlStateBytes, ← stateEq, ← messageEq, List.cons_append, List.take_append_drop]
          · have failed : (Grammar.take 5).run rest = none := if_neg long
            rw [failed] at parsed
            cases parsed
        · have failed : (RequestGrammar.command 0x23).run (marker :: rest) = none := by
            show StateT.run (if marker = 0x23 then _ else _) rest = _
            rw [if_neg isMarker]
            rfl
          rw [StateT.run_bind, failed] at parsed
          cases parsed
  · rintro rfl
    have spells : Spells (RequestGrammar.command 0x23) [0x23] () := spells_command 0x23
    show StateT.run (RequestGrammar.command 0x23 >>= _)
      ([0x23] ++ (List.replicate 5 0x5f ++ message)) = _
    rw [spells.run_bind, (Spells.take (List.length_replicate)).run_bind]
    rfl

section Iff

variable {codecs : Codecs} {encoding : Option String}

/-- The bytes that an encoding writes for the SQL state and a message are those of the SQL state
in ASCII, and as many bytes as the message takes in UTF-8, which decode to it. -/
def Error.WritesMessage (codecs : Codecs) (encoding : Option String) (message : JsString) : Prop :=
  ∃ marker bytes text, codecs.encode sqlStateText encoding = .ok marker ∧
    stringBytes codecs message encoding = .ok bytes ∧ marker ++ bytes = sqlStateBytes ++ text ∧
    text.length = utf8ByteLength message ∧ codecs.decode text encoding 0 text.length = .ok message

theorem Error.roundTrips_iff_bytes (args : ErrorArguments) :
    Error.RoundTrips codecs encoding args ↔
      args.code < 65536 ∧ Error.WritesMessage codecs encoding args.message := by
  have writes (inRange : args.code < 65536) {marker bytes : Bytes}
      (markerEq : stringBytes codecs sqlStateText encoding = .ok marker)
      (bytesEq : stringBytes codecs args.message encoding = .ok bytes) : Writes (do
        Outgoing.writeInt8 0xff
        Outgoing.writeInt16 args.code
        Outgoing.writeString codecs sqlStateText encoding
        Outgoing.writeString codecs args.message encoding)
      ([0xff] ++ (writeUIntLE args.code 2 ++ (marker ++ bytes))) :=
    (Writes.writeInt8 (by decide)).bind ((Writes.writeInt16 inRange).bind
      ((Writes.writeString markerEq).bind (Writes.writeString bytesEq)))
  have encodes : stringBytes codecs sqlStateText encoding = codecs.encode sqlStateText encoding :=
    if_neg (by decide)
  constructor
  · rintro ⟨packet, payload, text, written, fills, parsed, decoded⟩
    have inRange : args.code < 65536 := by
      refine Nat.lt_of_not_le fun large => Throws.not_written ?_ _ _ written
      exact .second (.first (.writeUInt large))
    refine ⟨inRange, ?_⟩
    cases markerEq : stringBytes codecs sqlStateText encoding with
    | error error =>
        exact absurd written (Throws.not_written
          (.second (.second (.first (.writeString markerEq)))) _ _)
    | ok marker =>
        cases bytesEq : stringBytes codecs args.message encoding with
        | error error =>
            exact absurd written (Throws.not_written
              (.second (.second (.second (.writeString bytesEq)))) _ _)
        | ok bytes =>
            obtain ⟨rfl, sizeEq⟩ := (writes inRange markerEq bytesEq).fills_iff.mp
              ⟨packet, written, fills⟩
            have tailEq := (errGrammar_run_iff inRange _ text).mp parsed
            refine ⟨marker, bytes, text, encodes ▸ markerEq, bytesEq, tailEq, ?_, decoded⟩
            rw [tailEq] at sizeEq
            simp [sqlStateBytes, length_writeUIntLE] at sizeEq
            omega
  · rintro ⟨inRange, marker, bytes, text, markerEq, bytesEq, tailEq, lengthEq, decoded⟩
    have sizeEq : 13 + utf8ByteLength args.message =
        4 + ([0xff] ++ (writeUIntLE args.code 2 ++ (marker ++ bytes))).length := by
      rw [tailEq]
      simp [sqlStateBytes, length_writeUIntLE]
      omega
    obtain ⟨packet, written, fills⟩ :=
      (writes inRange (encodes.trans markerEq) bytesEq).fills_iff.mpr ⟨rfl, sizeEq⟩
    exact ⟨packet, _, text, written, fills, (errGrammar_run_iff inRange _ text).mpr tailEq, decoded⟩

/-- Where the SQL state is written in ASCII, it is the message that counts. -/
theorem Error.writesMessage_iff {message : JsString} {bytes : Bytes}
    (markerEq : codecs.encode sqlStateText encoding = .ok sqlStateBytes)
    (bytesEq : stringBytes codecs message encoding = .ok bytes) :
    Error.WritesMessage codecs encoding message ↔ bytes.length = utf8ByteLength message ∧
      codecs.decode bytes encoding 0 bytes.length = .ok message := by
  constructor
  · rintro ⟨marker, other, text, isMarker, isOther, tailEq, lengthEq, decoded⟩
    rw [markerEq] at isMarker
    rw [bytesEq] at isOther
    cases isMarker
    cases isOther
    obtain rfl := List.append_cancel_left tailEq
    exact ⟨lengthEq, decoded⟩
  · rintro ⟨lengthEq, decoded⟩
    exact ⟨_, _, _, markerEq, bytesEq, rfl, lengthEq, decoded⟩

end Iff

/-- Only characters of ASCII take one byte each in UTF-8. -/
theorem utf8ByteLength_bounds (string : JsString) : string.length ≤ utf8ByteLength string ∧
    (utf8ByteLength string = string.length ↔ ∀ unit ∈ string, unit.toNat < 0x80) := by
  have one (unit : UInt16) : 1 ≤ unitByteLength unit ∧
      (unitByteLength unit = 1 ↔ unit.toNat < 0x80) := by
    rw [unitByteLength]
    split
    · omega
    · split <;> omega
  fun_induction utf8ByteLength string with
  | case1 => simp
  | case2 unit =>
      have unitOne := one unit
      simp only [List.length_singleton, List.forall_mem_singleton]
      exact unitOne
  | case3 first second rest pair ih =>
      have large : 0x80 ≤ first.toNat := by
        have leads := (isLead_iff first).mp pair.1
        omega
      simp only [List.length_cons, List.forall_mem_cons]
      omega
  | case4 first second rest single ih =>
      have firstOne := one first
      have others := ih.1
      rw [List.forall_mem_cons, List.length_cons, ← ih.2]
      omega

section Native

variable (codecs : Codecs) {encoding : Option String} {message : JsString}

theorem stringBytes_of_encode {bytes : JsString → Bytes} (nothing : bytes [] = [])
    (encodes : ∀ string, codecs.encode string encoding = .ok (bytes string)) :
    stringBytes codecs message encoding = .ok (bytes message) := by
  rw [stringBytes]
  split
  case isTrue empty => rw [empty, nothing]
  case isFalse => exact encodes message

theorem Error.writesMessage_utf8 (isUtf8 : nativeEncoding encoding = some .utf8) :
    Error.WritesMessage codecs encoding message ↔ IsWellFormed message := by
  have decoded : codecs.decode (utf8 message) encoding 0 (utf8 message).length =
      .ok (toWellFormed message) :=
    (codecs.decode_of_native isUtf8 _).trans (congrArg Except.ok (utf8Slice_utf8 message))
  rw [Error.writesMessage_iff ((codecs.encode_utf8 isUtf8 _).trans (by decide))
    (stringBytes_of_encode codecs rfl (codecs.encode_utf8 isUtf8)), decoded]
  constructor
  · exact fun written => Except.ok.inj written.2
  · exact fun wellFormed => ⟨length_utf8 message, congrArg Except.ok wellFormed⟩

/-- Encodings of one byte for each code unit. -/
theorem Error.writesMessage_oneByte {native : NativeEncoding}
    (isNative : nativeEncoding encoding = some native)
    (oneByte : native = .latin1 ∨ native = .ascii) :
    Error.WritesMessage codecs encoding message ↔ ∀ unit ∈ message, unit.toNat < 0x80 := by
  have encodes (string : JsString) : codecs.encode string encoding =
      .ok (string.map fun unit => toByte unit.toNat) := by
    rw [Codecs.encode, Codecs.encoding, isNative]
    rcases oneByte with rfl | rfl <;> rfl
  rw [Error.writesMessage_iff ((encodes _).trans (by decide))
    (stringBytes_of_encode codecs rfl encodes), codecs.decode_of_native isNative, List.length_map,
    eq_comm, (utf8ByteLength_bounds message).2]
  refine ⟨And.left, fun ascii => ⟨ascii, ?_⟩⟩
  have bytesAscii : ∀ byte ∈ message.map (fun unit => toByte unit.toNat), byte.toNat < 128 := by
    intro byte member
    obtain ⟨unit, inside, rfl⟩ := List.mem_map.mp member
    have small := ascii unit inside
    rw [toNat_toByte_of_lt (by omega)]
    exact small
  have sliceEq : native.slice (message.map fun unit => toByte unit.toNat) =
      latin1Slice (message.map fun unit => toByte unit.toNat) := by
    rcases oneByte with rfl | rfl
    · rfl
    · exact asciiSlice_eq bytesAscii
  have same : latin1Slice (message.map fun unit => toByte unit.toNat) = message := by
    have unitEq : ∀ unit ∈ message, UInt16.ofNat (toByte unit.toNat).toNat = unit := by
      intro unit inside
      have small := ascii unit inside
      rw [toNat_toByte_of_lt (by omega), UInt16.ofNat_toNat]
    rw [latin1Slice, List.map_map]
    exact (List.map_congr_left unitEq).trans (List.map_id _)
  rw [sliceEq, same]

theorem Error.not_writesMessage_ucs2 (isUcs2 : nativeEncoding encoding = some .ucs2) :
    ¬Error.WritesMessage codecs encoding message := by
  rintro ⟨marker, bytes, text, isMarker, -, tailEq, -⟩
  rw [codecs.encode_ucs2 isUcs2] at isMarker
  cases isMarker
  have written : ucs2 sqlStateText =
      0x23 :: 0 :: [0x5f, 0, 0x5f, 0, 0x5f, 0, 0x5f, 0, 0x5f, 0] := by decide
  rw [written, sqlStateBytes] at tailEq
  have second := congrArg (fun bytes : Bytes => bytes[1]?) tailEq
  exact absurd (Option.some.inj second) (by decide)

end Native

/-- The messages of which `Error.toPacket` reserves the right size in an encoding. -/
def ErrorFits (codecs : Codecs) (encoding : Option String) (message : JsString) : Prop :=
  match nativeEncoding encoding with
  | some .utf8 => IsWellFormed message
  | some .latin1 | some .ascii => ∀ unit ∈ message, unit.toNat < 0x80
  | some .ucs2 => False
  | none => Error.WritesMessage codecs encoding message

theorem Error.roundTrips_iff_fits (codecs : Codecs) (encoding : Option String)
    (args : ErrorArguments) :
    Error.RoundTrips codecs encoding args ↔
      args.code < 65536 ∧ ErrorFits codecs encoding args.message := by
  rw [Error.roundTrips_iff_bytes]
  apply and_congr_right
  intro _
  rw [ErrorFits]
  cases native : nativeEncoding encoding with
  | none => rfl
  | some native' =>
      cases native' with
      | utf8 => exact Error.writesMessage_utf8 codecs native
      | latin1 => exact Error.writesMessage_oneByte codecs native (.inl rfl)
      | ascii => exact Error.writesMessage_oneByte codecs native (.inr rfl)
      | ucs2 => exact iff_of_false (Error.not_writesMessage_ucs2 codecs native) id

/-- OK packets round-trip without a message, ERR packets whose message is as long in the encoding
as in UTF-8. -/
theorem statusPackets_roundTrip_iff (codecs : Codecs) (encoding : Option String) :
    (∀ args, OK.RoundTrips codecs encoding args ↔ args.InRange ∧ args.message.getD [] = []) ∧
      ∀ args, Error.RoundTrips codecs encoding args ↔
        args.code < 65536 ∧ ErrorFits codecs encoding args.message :=
  ⟨OK.roundTrips_iff_empty, Error.roundTrips_iff_fits codecs encoding⟩

/-- An OK packet with a message, in UTF-8, and an ERR packet with a character that is not in
ASCII, in Latin-1. -/
theorem not_statusPackets_roundTrip :
    ¬OK.RoundTrips .unknown (some "utf8") ⟨none, none, none, none, some (units "a")⟩ ∧
      ¬Error.RoundTrips .unknown (some "latin1") ⟨1045, [0xe9]⟩ := by
  rw [OK.roundTrips_iff_empty, Error.roundTrips_iff_fits]
  refine ⟨fun holds => absurd holds.2 (by decide), fun holds => ?_⟩
  have ascii : ∀ unit ∈ [(0xe9 : UInt16)], unit.toNat < 0x80 := holds.2
  exact absurd (ascii 0xe9 List.mem_cons_self) (by decide)

end Mysql2.Packets

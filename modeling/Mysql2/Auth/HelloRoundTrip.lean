import Mysql2.Auth.Hello
import Mysql2.Packets.ColumnWriter
import Mysql2.Packets.StatusWriters

/-!
# Round trips of the hello packet

The version decides whether the packet is written at all: each character of two code units takes
two bytes more than are reserved.  Of what is read, the flags decide.
-/

namespace Mysql2.Auth

open Mysql2.Packets Mysql2.Packets.Packet Mysql2.Script ClientConstants

/-- The fields fit into their places, and the version ends at its zero byte. -/
structure ServerHello.InRange (hello : ServerHello) : Prop where
  protocolVersion : hello.protocolVersion < 256
  serverVersion : ∀ unit ∈ hello.serverVersion, unit ≠ 0
  capabilityFlags : hello.capabilityFlags < 4294967296
  connectionId : hello.connectionId < 4294967296
  characterSet : hello.characterSet < 256
  statusFlags : hello.statusFlags < 65536

/-- What has been read shows what has been sent, as far as the flags promise it. -/
structure ClientHello.Shows (read : ClientHello) (hello : ServerHello) (scramble : Bytes) :
    Prop where
  serverVersion : read.serverVersion = hello.serverVersion
  connectionId : read.connectionId = hello.connectionId
  capabilityFlags : read.capabilityFlags = hello.capabilityFlags
  characterSet : read.characterSet = some hello.characterSet
  statusFlags : read.statusFlags = some hello.statusFlags
  scramble : hasFlag hello.capabilityFlags SECURE_CONNECTION → ∃ authPluginData2,
    read.authPluginData2 = some authPluginData2 ∧
      (read.authPluginData1 ++ authPluginData2).take 20 = scramble
  authPluginName : hasFlag hello.capabilityFlags PLUGIN_AUTH →
    read.authPluginName = some nativePassword

/-- A hello packet with a scramble is written, and read to what it shows. -/
def ServerHello.RoundTrips (codecs : Codecs) (hello : ServerHello) (scramble : Bytes) : Prop :=
  ∃ packet read after, (hello.setScrambleData scramble).toPacket codecs = .ok packet ∧
    (ClientHello.fromPacket codecs).run (packet.toPacket (List.replicate packet.size 0)) =
      .ok (read, after) ∧
    read.Shows hello scramble

/-- No two code units in a row make a character. -/
def NoPairs (string : JsString) : Prop :=
  string.IsChain fun first second => ¬(isLead first ∧ isTrail second)

theorem length_cesu8Unit (unit : UInt16) : (cesu8Unit unit).length = unitByteLength unit := by
  rw [cesu8Unit, unitByteLength]
  split
  · rfl
  · split <;> rfl

theorem cesu8_cons (unit : UInt16) (string : JsString) :
    cesu8 (unit :: string) = cesu8Unit unit ++ cesu8 string :=
  List.flatMap_cons

/-- A pair takes six bytes, and four in UTF-8. -/
theorem length_cesu8 (string : JsString) :
    utf8ByteLength string ≤ (cesu8 string).length ∧
      (utf8ByteLength string = (cesu8 string).length ↔ NoPairs string) := by
  fun_induction utf8ByteLength string with
  | case1 => exact ⟨Nat.le_refl _, iff_of_true rfl .nil⟩
  | case2 unit =>
      have lengthEq : (cesu8 [unit]).length = unitByteLength unit := by
        rw [cesu8_cons, List.length_append, length_cesu8Unit]
        rfl
      rw [lengthEq]
      exact ⟨Nat.le_refl _, iff_of_true rfl (.singleton unit)⟩
  | case3 first second rest pair ih =>
      have firstEq : unitByteLength first = 3 := by
        have leads := (isLead_iff first).mp pair.1
        rw [unitByteLength, if_neg (by omega), if_neg (by omega)]
      have secondEq : unitByteLength second = 3 := by
        have trails := (isTrail_iff second).mp pair.2
        rw [unitByteLength, if_neg (by omega), if_neg (by omega)]
      have atMost := ih.1
      rw [cesu8_cons, cesu8_cons, List.length_append, List.length_append, length_cesu8Unit,
        length_cesu8Unit, firstEq, secondEq]
      refine ⟨by omega, iff_of_false (by omega) fun chain => ?_⟩
      exact (List.isChain_cons_cons.mp chain).1 pair
  | case4 first second rest single ih =>
      rw [cesu8_cons, List.length_append, length_cesu8Unit, NoPairs, List.isChain_cons_cons]
      refine ⟨by omega, ?_⟩
      constructor
      · exact fun same => ⟨single, ih.2.mp (by omega)⟩
      · exact fun chain => by rw [ih.2.mpr chain.2]

theorem zero_notMem_cesu8 {string : JsString} (noZero : ∀ unit ∈ string, unit ≠ 0) :
    (0 : UInt8) ∉ cesu8 string := by
  rw [cesu8, List.mem_flatMap]
  rintro ⟨unit, member, inside⟩
  have positive : unit.toNat ≠ 0 := fun isZero => noZero unit member (UInt16.toNat_inj.mp isZero)
  exact zero_notMem_codeBytes positive unit.toNat_lt inside

/-! ## What is written -/

/-- The computation throws where the bytes do not fit. -/
def Refuses (writer : Writer Unit) (bytes : Bytes) : Prop :=
  ∀ packet : Outgoing, packet.size < packet.offset + bytes.length →
    ∃ error, writer.run packet = .error error

theorem Refuses.writeUInt (width n : Nat) :
    Refuses (Outgoing.writeUInt width n) (writeUIntLE n width) := by
  intro packet full
  rw [length_writeUIntLE] at full
  show ∃ error, StateT.run (if 256 ^ width ≤ n then throw (outOfRangeError n)
    else if packet.size < packet.offset + width then throw JsError.rangeError
    else set (packet.put (writeUIntLE n width))) packet = Except.error error
  rw [if_pos full]
  split
  · exact ⟨_, rfl⟩
  · exact ⟨_, rfl⟩

theorem Refuses.behind {writer next : Writer Unit} {bytes more : Bytes}
    (first : Writes writer bytes) (second : Refuses next more) :
    Refuses (writer >>= fun _ => next) (bytes ++ more) := by
  intro packet full
  rw [List.length_append] at full
  rcases first packet with run | ⟨-, error, run⟩
  · have behind : (packet.put bytes).size < (packet.put bytes).offset + more.length := by
      show packet.size < packet.offset + bytes.length + more.length
      omega
    obtain ⟨error, nextRun⟩ := second _ behind
    exact ⟨error, by rw [Script.run_bind_of_returns run, nextRun]⟩
  · exact ⟨error, by rw [StateT.run_bind, run]; rfl⟩

namespace ServerHello

variable {codecs : Codecs} {used : Bool} {hello : ServerHello}

/-- The bytes of the fields before the reserved ones, but for those behind the lower flags. -/
def headBytes (hello : ServerHello) : Bytes :=
  [toByte hello.protocolVersion] ++ (cesu8 hello.serverVersion ++ ([0] ++
    (writeUIntLE hello.connectionId 4 ++ (hello.authPluginData1 ++ ([0] ++
      slice (writeUIntLE hello.capabilityFlags 4) 0 2)))))

/-- The bytes behind the lower flags. -/
def flagBytes (hello : ServerHello) : Bytes :=
  [toByte hello.characterSet] ++ (writeUIntLE hello.statusFlags 2 ++
    (slice (writeUIntLE hello.capabilityFlags 4) 2 4 ++ [21]))

/-- The bytes of the plugin's name, and the zero byte. -/
def nameBytes : Bytes :=
  nativePassword.map (fun unit => toByte unit.toNat) ++ [0]

/-- The bytes behind the reserved ones. -/
def pluginBytes (hello : ServerHello) : Bytes :=
  (hello.authPluginData2 ++ [0]) ++ nameBytes

theorem length_flagHalves (hello : ServerHello) :
    (slice (writeUIntLE hello.capabilityFlags 4) 0 2).length = 2 ∧
      (slice (writeUIntLE hello.capabilityFlags 4) 2 4).length = 2 :=
  ⟨rfl, rfl⟩

theorem length_bytes (hello : ServerHello) (eight : hello.authPluginData1.length = 8)
    (twelve : hello.authPluginData2.length = 12) :
    (hello.headBytes ++ hello.flagBytes).length + 10 + hello.pluginBytes.length =
      68 + (cesu8 hello.serverVersion).length := by
  have name : nameBytes.length = 22 := by decide
  simp only [headBytes, flagBytes, pluginBytes, List.length_append, List.length_singleton,
    length_writeUIntLE, eight, twelve, name, hello.length_flagHalves]
  omega

theorem stringBytes_version (knows : KnowsCesu8 codecs used) :
    stringBytes codecs hello.serverVersion (some "cesu8") = .ok (cesu8 hello.serverVersion) := by
  have encoded : codecs.encode hello.serverVersion (some "cesu8") =
      .ok (cesu8 hello.serverVersion) := by
    show (codecs.getEncoder (some "cesu8")).map (· hello.serverVersion) = _
    rw [knows.encoder]
    rfl
  rw [stringBytes, encoded]
  split
  case isTrue empty => rw [empty]; rfl
  case isFalse => rfl

theorem writes_fields (knows : KnowsCesu8 codecs used) (inRange : hello.InRange) :
    Writes (hello.writeFields codecs) (hello.headBytes ++ hello.flagBytes) := by
  have check : ¬4294967296 ≤ hello.capabilityFlags := Nat.not_le.mpr inRange.capabilityFlags
  rw [writeFields, headBytes, flagBytes]
  simp only [List.append_assoc]
  refine (Writes.writeInt8 inRange.protocolVersion).bind
    ((Writes.writeString (stringBytes_version knows)).bind
      ((Writes.writeInt8 (show 0 < 256 by decide)).bind
        ((Writes.writeInt32 inRange.connectionId).bind
          ((Writes.writeBuffer _).bind ((Writes.writeInt8 (show 0 < 256 by decide)).bind ?_)))))
  rw [if_neg check]
  exact (Writes.writeBuffer _).bind ((Writes.writeInt8 inRange.characterSet).bind
    ((Writes.writeInt16 inRange.statusFlags).bind
      ((Writes.writeBuffer _).bind (Writes.writeInt8 (show 21 < 256 by decide)))))

theorem encode_nativePassword : stringBytes codecs nativePassword (some "latin1") =
    .ok (nativePassword.map fun unit => toByte unit.toNat) :=
  rfl

theorem writes_plugin : Writes (hello.writePlugin codecs) hello.pluginBytes := by
  rw [pluginBytes, nameBytes, List.append_assoc]
  exact (Writes.writeBuffer _).bind ((Writes.writeInt8 (show 0 < 256 by decide)).bind
    ((Writes.writeString encode_nativePassword).bind (Writes.writeInt8 (show 0 < 256 by decide))))

/-- The last byte does not fit if one before it does not. -/
theorem refuses_plugin (codecs : Codecs) (hello : ServerHello) :
    Refuses (hello.writePlugin codecs) hello.pluginBytes := by
  rw [pluginBytes, nameBytes, List.append_assoc]
  exact .behind (Writes.writeBuffer _) (.behind (Writes.writeInt8 (show 0 < 256 by decide))
    (.behind (Writes.writeString encode_nativePassword) (.writeUInt 1 0)))

/-- What skipping leaves between two parts is as it was allocated. -/
theorem buffer_of_gap (first second : Bytes) (gap offset : Nat) :
    (Outgoing.mk (4 + (first.length + gap + second.length)) offset
        (first.zipIdx 4 ++ second.zipIdx (4 + first.length + gap))).buffer
      (List.replicate (4 + (first.length + gap + second.length)) 0) =
        List.replicate 4 0 ++ (first ++ (List.replicate gap 0 ++ second)) := by
  have zeros : List.replicate (4 + (first.length + gap + second.length)) (0 : UInt8) =
      List.replicate 4 0 ++ (List.replicate first.length 0 ++
        (List.replicate gap 0 ++ List.replicate second.length 0)) := by
    simp only [List.replicate_append_replicate, Nat.add_assoc]
  have firstStored := foldl_set_zipIdx (List.replicate 4 0) (List.replicate first.length 0) first
    (List.replicate gap 0 ++ List.replicate second.length 0) List.length_replicate
  have secondStored := foldl_set_zipIdx (List.replicate 4 0 ++ (first ++ List.replicate gap 0))
    (List.replicate second.length 0) second [] List.length_replicate
  rw [List.length_replicate] at firstStored
  simp only [List.length_append, List.length_replicate, List.append_nil, List.append_assoc,
    ← Nat.add_assoc] at secondStored
  rw [Outgoing.buffer, zeros, List.foldl_append, firstStored, secondStored]

/-- The whole packet is written if the version takes as many bytes as are reserved for it. -/
theorem toPacket_of_noPairs (knows : KnowsCesu8 codecs used) (inRange : hello.InRange)
    (eight : hello.authPluginData1.length = 8) (twelve : hello.authPluginData2.length = 12)
    (noPairs : NoPairs hello.serverVersion) :
    ∃ packet : Outgoing, hello.toPacket codecs = .ok packet ∧
      packet.toPacket (List.replicate packet.size 0) =
        .new 0 (List.replicate 4 0 ++ (hello.headBytes ++ hello.flagBytes ++
          (List.replicate 10 0 ++ hello.pluginBytes))) 0 packet.size ∧
      packet.size = 4 + ((hello.headBytes ++ hello.flagBytes).length + 10 +
        hello.pluginBytes.length) := by
  have total := hello.length_bytes eight twelve
  have sizeEq := (length_cesu8 hello.serverVersion).2.mpr noPairs
  have fields := writes_fields knows inRange
  generalize hello.headBytes ++ hello.flagBytes = head at *
  have fieldsRun : (hello.writeFields codecs).run
      (.alloc (4 + (head.length + 10 + hello.pluginBytes.length))) =
        .ok ((), ⟨4 + (head.length + 10 + hello.pluginBytes.length), 4 + head.length,
          head.zipIdx 4⟩) :=
    @Writes.run_of_fits _ _ fields (.alloc _)
      (show 4 + head.length ≤ 4 + (head.length + 10 + hello.pluginBytes.length) by omega)
  have pluginRun : (hello.writePlugin codecs).run
      ⟨4 + (head.length + 10 + hello.pluginBytes.length), 4 + head.length + 10, head.zipIdx 4⟩ =
        .ok ((), ⟨4 + (head.length + 10 + hello.pluginBytes.length),
          4 + head.length + 10 + hello.pluginBytes.length,
          head.zipIdx 4 ++ hello.pluginBytes.zipIdx (4 + head.length + 10)⟩) :=
    @Writes.run_of_fits _ _ writes_plugin ⟨_, _, _⟩
      (show 4 + head.length + 10 + hello.pluginBytes.length ≤
        4 + (head.length + 10 + hello.pluginBytes.length) by omega)
  have skipped : (Outgoing.skip 10).run
      ⟨4 + (head.length + 10 + hello.pluginBytes.length), 4 + head.length, head.zipIdx 4⟩ =
        .ok ((), ⟨4 + (head.length + 10 + hello.pluginBytes.length), 4 + head.length + 10,
          head.zipIdx 4⟩) := rfl
  have written : hello.toPacket codecs = .ok
      ⟨4 + (head.length + 10 + hello.pluginBytes.length),
        4 + head.length + 10 + hello.pluginBytes.length,
        head.zipIdx 4 ++ hello.pluginBytes.zipIdx (4 + head.length + 10)⟩ := by
    rw [toPacket, sizeEq, ← total, Nat.add_comm _ 4, Outgoing.written,
      Script.run_bind_of_returns fieldsRun, Script.run_bind_of_returns skipped, pluginRun]
    rfl
  refine ⟨_, written, ?_, rfl⟩
  rw [Outgoing.toPacket, buffer_of_gap]

/-- A character that is no single code unit takes two bytes more than are reserved for it. -/
theorem toPacket_of_pairs (knows : KnowsCesu8 codecs used) (inRange : hello.InRange)
    (eight : hello.authPluginData1.length = 8) (twelve : hello.authPluginData2.length = 12)
    (pairs : ¬NoPairs hello.serverVersion) (packet : Outgoing) :
    hello.toPacket codecs ≠ .ok packet := by
  obtain ⟨atMost, same_iff⟩ := length_cesu8 hello.serverVersion
  have less : utf8ByteLength hello.serverVersion < (cesu8 hello.serverVersion).length :=
    Nat.lt_of_le_of_ne atMost fun same => pairs (same_iff.mp same)
  have total := hello.length_bytes eight twelve
  rw [toPacket, Outgoing.written]
  intro written
  rcases writes_fields knows inRange (.alloc (68 + utf8ByteLength hello.serverVersion + 4)) with
    run | ⟨-, error, run⟩
  · rw [Script.run_bind_of_returns run] at written
    generalize hello.headBytes ++ hello.flagBytes = head at total written
    have skipped (packet : Outgoing) : (Outgoing.skip 10).run packet =
        .ok ((), { packet with offset := packet.offset + 10 }) := rfl
    rw [Script.run_bind_of_returns (skipped _)] at written
    obtain ⟨error, refused⟩ := refuses_plugin codecs hello
      { (Outgoing.alloc (68 + utf8ByteLength hello.serverVersion + 4)).put head with
        offset := 4 + head.length + 10 }
      (show 68 + utf8ByteLength hello.serverVersion + 4 <
        4 + head.length + 10 + hello.pluginBytes.length by omega)
    have written : Except.map Prod.snd (StateT.run (hello.writePlugin codecs)
      { (Outgoing.alloc (68 + utf8ByteLength hello.serverVersion + 4)).put head with
        offset := 4 + head.length + 10 }) = _ := written
    rw [refused] at written
    cases written
  · rw [StateT.run_bind, run] at written
    cases written

end ServerHello

/-! ## What is read -/

/-- Behind bytes without a zero byte, and the zero byte. -/
theorem reads_nullTerminated (codecs : Codecs) {bytes : Bytes} (noZero : 0 ∉ bytes)
    (encoding : Option String) :
    Reads (codecs.readNullTerminatedString encoding) (bytes ++ [0])
      (codecs.decode bytes encoding 0 bytes.length) := by
  intro packet rest aheadEq inside
  have before : ∀ byte ∈ bytes, decide (byte ≠ 0) = true := by
    intro byte member
    apply decide_eq_true
    rintro rfl
    exact noZero member
  have window : slice packet.buffer packet.offset packet.endOffset =
      (bytes ++ [0]) ++ rest.take (packet.endOffset - packet.offset - (bytes ++ [0]).length) := by
    show packet.ahead.take _ = _
    rw [aheadEq, List.take_append, List.take_of_length_le (by omega)]
  have found : packet.nullTerminated = bytes := by
    rw [nullTerminated, window, List.append_assoc, List.takeWhile_append_of_pos before]
    simp
  rw [List.append_assoc] at aheadEq
  rw [Codecs.readNullTerminatedString, run_get_bind, found, run_bind_of_ok (skip_run _ _),
    codecs.decode_of_ahead encoding aheadEq, List.length_append]
  cases codecs.decode bytes encoding 0 bytes.length with
  | error error => rfl
  | ok string => rfl

/-- Where more bytes are promised, there is more data. -/
theorem reads_of_haveMoreData {β : Type} {reader other : Reader β} {bytes : Bytes}
    {result : Except JsError β} (reads : Reads reader bytes result) (nonempty : bytes ≠ []) :
    Reads (do if !(← get).haveMoreData then other else reader) bytes result := by
  intro packet rest aheadEq inside
  have positive := List.length_pos_iff.mpr nonempty
  have more : packet.haveMoreData = true :=
    decide_eq_true (show packet.offset < packet.endOffset by omega)
  rw [run_get_bind, more]
  exact reads packet rest aheadEq inside

namespace ServerHello

variable {codecs : Codecs} {used : Bool} {hello : ServerHello}

theorem decode_version (knows : KnowsCesu8 codecs used) (version : JsString) :
    codecs.decode (cesu8 version) (some "cesu8") 0 (cesu8 version).length =
      .ok (if used then version else dropMark version) := by
  obtain ⟨decoder, known, decodes⟩ := knows.decoder
  have whole : slice (cesu8 version) 0 (cesu8 version).length = cesu8 version := List.take_length
  rw [Codecs.decode_eq, whole]
  split
  case isTrue empty =>
    cases version with
    | nil => cases used <;> rfl
    | cons unit version =>
        have lengthEq := congrArg List.length empty
        rw [cesu8_cons, List.length_append, length_cesu8Unit, List.length_nil, unitByteLength]
          at lengthEq
        split at lengthEq
        · omega
        · split at lengthEq <;> omega
  case isFalse =>
    show (codecs.getDecoder (some "cesu8")).map (· (cesu8 version)) = _
    rw [known, ← decodes]
    rfl

/-- What the lower and the upper bytes of the flags add up to. -/
theorem flags_eq {flags : Nat} (inRange : flags < 4294967296) :
    (toByte flags).toNat + (toByte (flags / 256)).toNat * 256 +
      (toByte (flags / 256 / 256)).toNat * 65536 +
        (toByte (flags / 256 / 256 / 256)).toNat * 16777216 = flags := by
  simp only [toByte_toNat]
  omega

/-- The length of the plugin data, as it is read. -/
def readLength (hello : ServerHello) : Nat :=
  if hasFlag hello.capabilityFlags PLUGIN_AUTH then 21 else 0

theorem reads_flags (inRange : hello.InRange) :
    Reads (HelloFlags.read ((toByte hello.capabilityFlags).toNat +
        (toByte (hello.capabilityFlags / 256)).toNat * 256))
      (hello.flagBytes ++ List.replicate 10 0)
      (.ok ⟨hello.capabilityFlags, some hello.characterSet, some hello.statusFlags,
        some hello.readLength, 0⟩) := by
  have bytesEq : hello.flagBytes ++ List.replicate 10 0 = [toByte hello.characterSet] ++
      (writeUIntLE hello.statusFlags 2 ++ ([toByte (hello.capabilityFlags / 256 / 256)] ++
        ([toByte (hello.capabilityFlags / 256 / 256 / 256)] ++ ([21] ++
          (List.replicate 6 0 ++ List.replicate 4 0))))) := by
    rw [flagBytes, List.append_assoc, List.append_assoc, List.append_assoc]
    rfl
  have skipSix : Reads (Packet.skip 6) (List.replicate 6 0) (.ok ()) :=
    Reads.skip (List.replicate 6 0)
  -- the last bytes are skipped or read as zero
  have extended (make : Nat → HelloFlags) : Reads (
      if hasFlag hello.capabilityFlags LONG_PASSWORD then do
        Packet.skip 4
        return make 0
      else do
        return make (← Packet.readInt32)) (List.replicate 4 0) (.ok (make 0)) := by
    split
    · exact (Reads.skip (List.replicate 4 0)).bind_nil (Reads.pure _)
    · have zero : Reads Packet.readInt32 (List.replicate 4 0) (.ok 0) := Reads.readInt32 rfl
      exact zero.bind_nil (Reads.pure _)
  rw [HelloFlags.read, bytesEq]
  apply reads_of_haveMoreData _ (List.cons_ne_nil _ _)
  refine (Reads.readByte inRange.characterSet).bind
    ((Reads.readInt16_of_lt inRange.statusFlags).bind ((Reads.readInt8 _).bind
      ((Reads.readInt8 _).bind ?_)))
  rw [readLength]
  simp only [Option.getD_some, flags_eq inRange.capabilityFlags]
  split
  · exact (Reads.readInt8 21).bind (skipSix.bind (extended (HelloFlags.mk _ _ _ (some 21))))
  · exact (Reads.skip [21]).bind (skipSix.bind (extended (HelloFlags.mk _ _ _ (some 0))))

/-- The second part of the scramble ends at a zero byte, if not earlier. -/
theorem exists_zero {data : Bytes} (twelve : data.length = 12) :
    ∃ before behind, data ++ [0] = (before ++ [0]) ++ behind ∧ (0 : UInt8) ∉ before ∧
      before.length ≤ 12 := by
  obtain ⟨before, behind, split, noZero⟩ :=
    List.eq_append_cons_of_mem (List.mem_append_right data (List.mem_singleton_self (0 : UInt8)))
  have lengthEq := congrArg List.length split
  simp only [List.length_append, List.length_cons, List.length_nil, twelve] at lengthEq
  exact ⟨before, behind, by rw [split, List.append_assoc]; rfl, noZero, by omega⟩

/-- What is read behind the reserved bytes: the rest of the scramble where the flags ask for it,
and the name of the plugin only behind that. -/
theorem reads_plugin (codecs : Codecs) (twelve : hello.authPluginData2.length = 12)
    (characterSet statusFlags : Option Nat) :
    ∃ taken behind authPluginData2 authPluginName, hello.pluginBytes = taken ++ behind ∧
      Reads (HelloFlags.readPlugin codecs
          ⟨hello.capabilityFlags, characterSet, statusFlags, some hello.readLength, 0⟩) taken
        (.ok (authPluginData2, authPluginName)) ∧
      (hasFlag hello.capabilityFlags SECURE_CONNECTION → ∃ data, authPluginData2 = some data ∧
        data.take 12 = hello.authPluginData2) ∧
      (hasFlag hello.capabilityFlags PLUGIN_AUTH → (authPluginName = some nativePassword ↔
        hasFlag hello.capabilityFlags SECURE_CONNECTION)) := by
  have name : Reads (codecs.readNullTerminatedString (some "ascii")) nameBytes
      (.ok nativePassword) :=
    reads_nullTerminated codecs (by decide) (some "ascii")
  rw [HelloFlags.readPlugin, readLength]
  dsimp only
  by_cases secure : hasFlag hello.capabilityFlags SECURE_CONNECTION = true
  · by_cases plugin : hasFlag hello.capabilityFlags PLUGIN_AUTH = true
    · -- the second part is read with its zero byte
      have second : Reads (Handshake.readAuthPluginData2 (some 21)) (hello.authPluginData2 ++ [0])
          (.ok (hello.authPluginData2 ++ [0])) := by
        have lengthEq : max 13 (21 - 8) = (hello.authPluginData2 ++ [0]).length := by
          rw [List.length_append, twelve]
          rfl
        show Reads (Packet.readBuffer (max 13 (21 - 8))) _ _
        rw [lengthEq]
        exact Reads.readBuffer _
      refine ⟨hello.pluginBytes, [], some (hello.authPluginData2 ++ [0]), some nativePassword,
        (List.append_nil _).symm, ?_, fun _ => ⟨_, rfl, ?_⟩, fun _ => iff_of_true rfl secure⟩
      · simp only [if_pos secure, if_pos plugin]
        exact second.bind (name.bind_nil (Reads.pure _))
      · rw [← twelve, List.take_left]
    · have second : Reads (Handshake.readAuthPluginData2 (some 0)) (hello.authPluginData2 ++ [0])
          (.ok hello.authPluginData2) := by
        have data : Reads (Packet.readBuffer 12) hello.authPluginData2
            (.ok hello.authPluginData2) := by
          rw [← twelve]
          exact Reads.readBuffer _
        exact data.bind ((Reads.skip [0]).bind_nil (Reads.pure _))
      refine ⟨hello.authPluginData2 ++ [0], nameBytes, some hello.authPluginData2, none, rfl, ?_,
        fun _ => ⟨_, rfl, by rw [← twelve, List.take_length]⟩, fun set => absurd set plugin⟩
      simp only [if_pos secure, if_neg plugin]
      exact second.bind_nil (Reads.pure _)
  · by_cases plugin : hasFlag hello.capabilityFlags PLUGIN_AUTH = true
    · -- the name is read from the second part, which is shorter
      obtain ⟨before, behind, split, noZero, short⟩ := exists_zero twelve
      refine ⟨before ++ [0], behind ++ nameBytes, none, some (asciiSlice before), ?_, ?_,
        fun set => absurd set secure, fun _ => iff_of_false (fun same => ?_) secure⟩
      · rw [pluginBytes, split, List.append_assoc]
      · have early := reads_nullTerminated codecs noZero (some "ascii")
        rw [codecs.decode_of_native (show nativeEncoding (some "ascii") = some .ascii from rfl)]
          at early
        rw [if_neg secure, if_pos plugin]
        exact early.bind_nil (Reads.pure _)
      · have lengthEq := congrArg List.length (Option.some.inj same)
        have long : nativePassword.length = 21 := by decide
        rw [asciiSlice, List.length_map, long] at lengthEq
        omega
    · refine ⟨[], hello.pluginBytes, none, none, rfl, ?_, fun set => absurd set secure,
        fun set => absurd set plugin⟩
      rw [if_neg secure, if_neg plugin]
      exact Reads.pure _

/-- How a hello packet is read: all fields, and what the flags promise of the others. -/
structure IsRead (hello : ServerHello) (used : Bool) (read : ClientHello) : Prop where
  serverVersion : read.serverVersion =
    if used then hello.serverVersion else dropMark hello.serverVersion
  connectionId : read.connectionId = hello.connectionId
  capabilityFlags : read.capabilityFlags = hello.capabilityFlags
  characterSet : read.characterSet = some hello.characterSet
  statusFlags : read.statusFlags = some hello.statusFlags
  authPluginData1 : read.authPluginData1 = hello.authPluginData1
  authPluginData2 : hasFlag hello.capabilityFlags SECURE_CONNECTION → ∃ data,
    read.authPluginData2 = some data ∧ data.take 12 = hello.authPluginData2
  authPluginName : hasFlag hello.capabilityFlags PLUGIN_AUTH →
    (read.authPluginName = some nativePassword ↔ hasFlag hello.capabilityFlags SECURE_CONNECTION)

theorem reads_hello (knows : KnowsCesu8 codecs used) (inRange : hello.InRange)
    (eight : hello.authPluginData1.length = 8) (twelve : hello.authPluginData2.length = 12) :
    ∃ taken behind read, hello.headBytes ++ hello.flagBytes ++ (List.replicate 10 0 ++
        hello.pluginBytes) = taken ++ behind ∧
      Reads (ClientHello.fromPacket codecs) taken (.ok read) ∧ hello.IsRead used read := by
  obtain ⟨taken, behind, data, name, split, plugin, secureEq, pluginEq⟩ :=
    reads_plugin codecs twelve (some hello.characterSet) (some hello.statusFlags)
  have version := reads_nullTerminated codecs (zero_notMem_cesu8 inRange.serverVersion)
    (some "cesu8")
  rw [decode_version knows] at version
  have connectionId : Reads Packet.readInt32 (writeUIntLE hello.connectionId 4)
      (.ok hello.connectionId) :=
    Reads.readInt32_of_lt inRange.connectionId
  have first : Reads (Packet.readBuffer 8) hello.authPluginData1 (.ok hello.authPluginData1) := by
    rw [← eight]
    exact Reads.readBuffer _
  have skip : Reads (Packet.skip 1) [0] (.ok ()) := Reads.skip [0]
  have reads : Reads (ClientHello.fromPacket codecs)
      ([toByte hello.protocolVersion] ++ ((cesu8 hello.serverVersion ++ [0]) ++
        (writeUIntLE hello.connectionId 4 ++ (hello.authPluginData1 ++ ([0] ++
          ([toByte hello.capabilityFlags] ++ ([toByte (hello.capabilityFlags / 256)] ++
            ((hello.flagBytes ++ List.replicate 10 0) ++ taken))))))))
      (.ok {
        protocolVersion := some hello.protocolVersion
        serverVersion := if used then hello.serverVersion else dropMark hello.serverVersion
        capabilityFlags := hello.capabilityFlags
        connectionId := hello.connectionId
        authPluginData1 := hello.authPluginData1
        authPluginData2 := data
        characterSet := some hello.characterSet
        statusFlags := some hello.statusFlags
        authPluginName := name
        mariadbExtendedCapabilityFlags := 0 }) := by
    rw [ClientHello.fromPacket]
    exact (Reads.readByte inRange.protocolVersion).bind (version.bind (connectionId.bind
      (first.bind (skip.bind ((Reads.readInt8 (toByte hello.capabilityFlags)).bind
        ((Reads.readInt8 (toByte (hello.capabilityFlags / 256))).bind
          ((reads_flags inRange).bind (plugin.bind_nil (Reads.pure _)))))))))
  refine ⟨_, behind, _, ?_, reads, rfl, rfl, rfl, rfl, rfl, rfl, secureEq, pluginEq⟩
  rw [headBytes, split]
  simp only [List.append_assoc]
  rfl

/-- A packet that is written is read. -/
theorem exists_read (knows : KnowsCesu8 codecs used) (inRange : hello.InRange)
    (eight : hello.authPluginData1.length = 8) (twelve : hello.authPluginData2.length = 12)
    (noPairs : NoPairs hello.serverVersion) :
    ∃ packet read after, hello.toPacket codecs = .ok packet ∧
      (ClientHello.fromPacket codecs).run (packet.toPacket (List.replicate packet.size 0)) =
        .ok (read, after) ∧ hello.IsRead used read := by
  obtain ⟨packet, written, packetEq, sizeEq⟩ :=
    toPacket_of_noPairs knows inRange eight twelve noPairs
  obtain ⟨taken, behind, read, split, reads, isRead⟩ := reads_hello knows inRange eight twelve
  have lengthEq := congrArg List.length split
  simp only [List.length_append, List.length_replicate] at lengthEq sizeEq
  have aheadEq : (packet.toPacket (List.replicate packet.size 0)).ahead = taken ++ behind := by
    rw [packetEq, Packet.ahead_new _ _ _ _ List.length_replicate, split]
  have inside : 4 + taken.length ≤ packet.size := by omega
  have run := reads _ _ aheadEq (by rw [packetEq]; exact inside)
  exact ⟨packet, read, _, written, run, isRead⟩

end ServerHello

theorem ServerHello.InRange.setScrambleData {hello : ServerHello} (inRange : hello.InRange)
    (scramble : Bytes) : (hello.setScrambleData scramble).InRange :=
  ⟨inRange.protocolVersion, inRange.serverVersion, inRange.capabilityFlags, inRange.connectionId,
    inRange.characterSet, inRange.statusFlags⟩

theorem setScrambleData_length (hello : ServerHello) {scramble : Bytes}
    (twenty : scramble.length = 20) :
    (hello.setScrambleData scramble).authPluginData1.length = 8 ∧
      (hello.setScrambleData scramble).authPluginData2.length = 12 ∧
      (hello.setScrambleData scramble).authPluginData1 ++
        (hello.setScrambleData scramble).authPluginData2 = scramble := by
  have first : (hello.setScrambleData scramble).authPluginData1 = scramble.take 8 := rfl
  have second : (hello.setScrambleData scramble).authPluginData2 = scramble.drop 8 :=
    List.take_of_length_le (by rw [List.length_drop, twenty])
  rw [first, second, List.length_take, List.length_drop, twenty, List.take_append_drop]
  exact ⟨rfl, rfl, rfl⟩

/-- A version is read as it is unless it starts with a mark that is dropped. -/
theorem dropMark_eq_iff (version : JsString) :
    dropMark version = version ↔ version.head? ≠ some 0xfeff := by
  cases version with
  | nil => exact iff_of_true rfl (by simp)
  | cons unit version =>
      rw [dropMark, List.head?_cons, Option.some_inj.ne]
      split
      case isTrue isMark =>
        refine iff_of_false (fun same => ?_) fun differs => differs isMark
        have lengthEq := congrArg List.length same
        rw [List.length_cons] at lengthEq
        omega
      case isFalse notMark => exact iff_of_true rfl notMark

/-- A hello packet round-trips if its version has no characters of two code units and keeps its
first one, and if the name of the plugin does not come without the scramble in front of it. -/
theorem ServerHello.helloRoundTrips_iff {codecs : Codecs} {used : Bool}
    (knows : KnowsCesu8 codecs used) {hello : ServerHello} (inRange : hello.InRange)
    {scramble : Bytes} (twenty : scramble.length = 20) :
    hello.RoundTrips codecs scramble ↔
      NoPairs hello.serverVersion ∧ (used ∨ hello.serverVersion.head? ≠ some 0xfeff) ∧
        (hasFlag hello.capabilityFlags PLUGIN_AUTH →
          hasFlag hello.capabilityFlags SECURE_CONNECTION) := by
  obtain ⟨eight, twelve, joined⟩ := setScrambleData_length hello twenty
  have inRange := inRange.setScrambleData scramble
  have version_iff : (if used then hello.serverVersion else dropMark hello.serverVersion) =
      hello.serverVersion ↔ used ∨ hello.serverVersion.head? ≠ some 0xfeff := by
    cases used with
    | true => exact iff_of_true rfl (.inl rfl)
    | false => simpa using dropMark_eq_iff hello.serverVersion
  constructor
  · rintro ⟨packet, read, after, written, run, shows⟩
    have noPairs : NoPairs hello.serverVersion := by
      by_contra pairs
      exact ServerHello.toPacket_of_pairs knows inRange eight twelve pairs packet written
    obtain ⟨packet', read', after', written', run', isRead⟩ :=
      ServerHello.exists_read knows inRange eight twelve noPairs
    rw [written] at written'
    obtain rfl := Except.ok.inj written'
    rw [run] at run'
    cases run'
    exact ⟨noPairs, version_iff.mp (isRead.serverVersion.symm.trans shows.serverVersion),
      fun plugin => (isRead.authPluginName plugin).mp (shows.authPluginName plugin)⟩
  · rintro ⟨noPairs, mark, order⟩
    obtain ⟨packet, read, after, written, run, isRead⟩ :=
      ServerHello.exists_read knows inRange eight twelve noPairs
    refine ⟨packet, read, after, written, run, isRead.serverVersion.trans (version_iff.mpr mark),
      isRead.connectionId, isRead.capabilityFlags, isRead.characterSet, isRead.statusFlags, ?_,
      fun plugin => (isRead.authPluginName plugin).mpr (order plugin)⟩
    intro secure
    obtain ⟨data, dataEq, taken⟩ := isRead.authPluginData2 secure
    refine ⟨data, dataEq, ?_⟩
    rw [isRead.authPluginData1, List.take_append, eight, taken,
      List.take_of_length_le (by rw [eight]; decide), joined]

/-! ## A library -/

/-- A decoder of CESU-8, with the bits of a code unit that it has seen and the number of bytes that
follow. -/
def fromCesu8 (bits follow : Nat) : Bytes → JsString
  | [] => []
  | byte :: bytes =>
      let number := byte.toNat
      if number < 0x80 then UInt16.ofNat number :: fromCesu8 0 0 bytes
      else if 0xe0 ≤ number then fromCesu8 (number % 0x10) 2 bytes
      else if 0xc0 ≤ number then fromCesu8 (number % 0x20) 1 bytes
      else if follow = 2 then fromCesu8 (bits * 0x40 + number % 0x40) 1 bytes
      else UInt16.ofNat (bits * 0x40 + number % 0x40) :: fromCesu8 0 0 bytes

theorem fromCesu8_cesu8Unit (unit : UInt16) (bytes : Bytes) :
    fromCesu8 0 0 (cesu8Unit unit ++ bytes) = unit :: fromCesu8 0 0 bytes := by
  have small := unit.toNat_lt
  have same {code : Nat} (codeEq : code = unit.toNat) : UInt16.ofNat code = unit := by
    rw [codeEq, UInt16.ofNat_toNat]
  rw [cesu8Unit]
  split
  case isTrue one =>
    have first : (toByte unit.toNat).toNat = unit.toNat := toNat_toByte_of_lt (by omega)
    rw [List.singleton_append, fromCesu8, first, if_pos one, same rfl]
  case isFalse =>
    split
    case isTrue two =>
      have first : (toByte (0xc0 + unit.toNat / 0x40)).toNat = 0xc0 + unit.toNat / 0x40 :=
        toNat_toByte_of_lt (by omega)
      have second : (toByte (0x80 + unit.toNat % 0x40)).toNat = 0x80 + unit.toNat % 0x40 :=
        toNat_toByte_of_lt (by omega)
      rw [List.cons_append, List.singleton_append, fromCesu8, first, if_neg (by omega),
        if_neg (by omega), if_pos (by omega), fromCesu8, second, if_neg (by omega),
        if_neg (by omega), if_neg (by omega), if_neg (by decide), same (by omega)]
    case isFalse =>
      have first : (toByte (0xe0 + unit.toNat / 0x1000)).toNat = 0xe0 + unit.toNat / 0x1000 :=
        toNat_toByte_of_lt (by omega)
      have second : (toByte (0x80 + unit.toNat / 0x40 % 0x40)).toNat =
          0x80 + unit.toNat / 0x40 % 0x40 := toNat_toByte_of_lt (by omega)
      have third : (toByte (0x80 + unit.toNat % 0x40)).toNat = 0x80 + unit.toNat % 0x40 :=
        toNat_toByte_of_lt (by omega)
      rw [List.cons_append, List.cons_append, List.singleton_append, fromCesu8, first,
        if_neg (by omega), if_pos (by omega), fromCesu8, second, if_neg (by omega),
        if_neg (by omega), if_neg (by omega), if_pos rfl, fromCesu8, third, if_neg (by omega),
        if_neg (by omega), if_neg (by omega), if_neg (by decide), same (by omega)]

theorem fromCesu8_cesu8 (string : JsString) : fromCesu8 0 0 (cesu8 string) = string := by
  induction string with
  | nil => rfl
  | cons unit string ih => rw [cesu8_cons, fromCesu8_cesu8Unit, ih]

/-- A library that knows CESU-8 only, and has not decoded anything yet. -/
def cesu8Codecs : Codecs where
  getDecoder name :=
    if name = some "cesu8" then .ok fun bytes => dropMark (fromCesu8 0 0 bytes)
    else Codecs.unknown.getDecoder name
  getEncoder name :=
    if name = some "cesu8" then .ok cesu8 else Codecs.unknown.getEncoder name

theorem knowsCesu8_cesu8Codecs : KnowsCesu8 cesu8Codecs false where
  encoder := by simp [cesu8Codecs]
  decoder := ⟨fun bytes => dropMark (fromCesu8 0 0 bytes), by simp [cesu8Codecs],
    fun string => congrArg dropMark (fromCesu8_cesu8 string)⟩

/-- A hello packet with some flags. -/
def someHello (serverVersion : JsString) (capabilityFlags : Nat) : ServerHello where
  protocolVersion := 10
  serverVersion := serverVersion
  capabilityFlags := capabilityFlags
  connectionId := 7
  authPluginData1 := []
  authPluginData2 := []
  characterSet := 33
  statusFlags := 2

theorem inRange_someHello {serverVersion : JsString} {capabilityFlags : Nat}
    (noZero : 0 ∉ serverVersion) (small : capabilityFlags < 4294967296) :
    (someHello serverVersion capabilityFlags).InRange :=
  ⟨show 10 < 256 by decide, fun _ member zero => noZero (zero ▸ member), small,
    show 7 < 4294967296 by decide,
    show 33 < 256 by decide, show 2 < 65536 by decide⟩

theorem ServerHello.helloRoundTrips_iff_eight :
    (someHello (units "8.0") 0x88000).RoundTrips cesu8Codecs (List.replicate 20 1) ↔
      NoPairs (units "8.0") ∧ (false ∨ (units "8.0").head? ≠ some 0xfeff) ∧
        (hasFlag 0x88000 PLUGIN_AUTH → hasFlag 0x88000 SECURE_CONNECTION) :=
  ServerHello.helloRoundTrips_iff knowsCesu8_cesu8Codecs
    (inRange_someHello (by decide) (by decide)) List.length_replicate

/-- A version with a character of two code units. -/
theorem not_helloRoundTrips :
    ¬∀ (codecs : Codecs) (used : Bool), KnowsCesu8 codecs used →
      ∀ hello : ServerHello, hello.InRange → ∀ scramble : Bytes, scramble.length = 20 →
        hello.RoundTrips codecs scramble := by
  intro all
  have twenty : (List.replicate 20 (1 : UInt8)).length = 20 := List.length_replicate
  have inRange : (someHello [0xd83d, 0xdca9] 0x88000).InRange :=
    inRange_someHello (by decide) (by decide)
  obtain ⟨packet, read, after, written, -⟩ :=
    all cesu8Codecs false knowsCesu8_cesu8Codecs _ inRange _ twenty
  obtain ⟨eight, twelve, -⟩ :=
    setScrambleData_length (someHello [0xd83d, 0xdca9] 0x88000) twenty
  refine ServerHello.toPacket_of_pairs knowsCesu8_cesu8Codecs (inRange.setScrambleData _) eight
    twelve ?_ packet written
  exact fun noPairs => (List.isChain_cons_cons.mp noPairs).1 (by decide)

end Mysql2.Auth

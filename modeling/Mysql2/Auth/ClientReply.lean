import Mathlib.Data.Nat.Bitwise
import Mysql2.Auth.Defaults
import Mysql2.Packets.Cursor
import Mysql2.Script.Throwing

/-!
# The response of a client, as a server reads it

The writer of a response lays it out by the flags of the client, the reader by
those that both sides have set.  Which texts come back depends on the flags only
as far as a field that is written and not read stands in front of one that is
read.
-/

namespace Mysql2.Auth

open Mysql2.Packets Mysql2.Packets.Packet Mysql2.Script ClientConstants

variable {runtime : Runtime} {encoding : Option String}

/-! ## Flags -/

/-- Whether both sides set a flag. -/
def inBoth (clientFlags serverFlags flag : Nat) : Bool :=
  hasFlag clientFlags flag && hasFlag serverFlags flag

theorem hasFlag_and_two_pow (clientFlags serverFlags bit : Nat) :
    hasFlag (clientFlags &&& serverFlags) (2 ^ bit) = inBoth clientFlags serverFlags (2 ^ bit) := by
  rw [inBoth, hasFlag_two_pow, hasFlag_two_pow, hasFlag_two_pow, Nat.testBit_and]

/-- A field that only the client counts stands in front of no field that is
read. -/
structure FlagsAgree (clientFlags serverFlags : Nat) : Prop where
  database : hasFlag clientFlags CONNECT_WITH_DB = true →
    inBoth clientFlags serverFlags CONNECT_WITH_DB = false →
      inBoth clientFlags serverFlags PLUGIN_AUTH = false ∧
        inBoth clientFlags serverFlags CONNECT_ATTRS = false
  plugin : hasFlag clientFlags PLUGIN_AUTH = true →
    inBoth clientFlags serverFlags PLUGIN_AUTH = false →
      inBoth clientFlags serverFlags CONNECT_ATTRS = false

/-! ## Texts -/

/-- An encoding of a text that gives it back. -/
structure Encodes (runtime : Runtime) (encoding : Option String) (text : String) (bytes : Bytes) :
    Prop where
  encode : runtime.encode encoding text = .ok bytes
  decode : runtime.decode encoding bytes = .ok text

/-- An encoding that leaves ASCII texts as they are. -/
def AsciiCompatible (runtime : Runtime) (encoding : Option String) : Prop :=
  ∀ text : String, (∀ char ∈ text.toList, char.toNat < 128) →
    Encodes runtime encoding text (text.toList.map fun char => toByte char.toNat)

/-- `mysql_native_password`, as bytes. -/
def nativeBytes : Bytes :=
  "mysql_native_password".toList.map fun char => toByte char.toNat

theorem AsciiCompatible.native (ascii : AsciiCompatible runtime encoding) :
    Encodes runtime encoding "mysql_native_password" nativeBytes :=
  ascii _ (isAscii_of_all (by decide))

theorem AsciiCompatible.empty (ascii : AsciiCompatible runtime encoding) :
    Encodes runtime encoding "" [] :=
  ascii "" (isAscii_of_all (by decide))

/-- What is used of latin1 and of an encoding.  Each text has bytes in latin1, ASCII
texts their own, and bytes in front of a zero byte are those of fewer characters than
the text has. -/
structure FaithfulEncoding (runtime : Runtime) (encoding : Option String) : Prop where
  latin1 : ∀ text, ∃ bytes, runtime.encode (some "latin1") text = .ok bytes
  ascii : AsciiCompatible runtime (some "latin1")
  cut : ∀ {writer : Option String} {text : String} {front rest : Bytes},
    writer = encoding ∨ writer = some "latin1" →
      runtime.encode writer text = .ok (front ++ 0 :: rest) →
        runtime.decode encoding front ≠ .ok text

/-- Bytes that are read as a text, with a zero byte behind them. -/
structure Kept (runtime : Runtime) (encoding : Option String) (text : String) (bytes : Bytes) :
    Prop where
  noZero : 0 ∉ bytes
  decode : runtime.decode encoding bytes = .ok text

/-- A text whose encoding is kept by a read up to a zero byte. -/
def NulFree (runtime : Runtime) (encoding : Option String) (text : String) : Prop :=
  ∃ bytes, runtime.encode encoding text = .ok bytes ∧ Kept runtime encoding text bytes

theorem AsciiCompatible.kept_native (ascii : AsciiCompatible runtime encoding) :
    Kept runtime encoding "mysql_native_password" nativeBytes :=
  ⟨by decide, ascii.native.decode⟩

theorem AsciiCompatible.kept_empty (ascii : AsciiCompatible runtime encoding) :
    Kept runtime encoding "" [] :=
  ⟨List.not_mem_nil, ascii.empty.decode⟩

theorem nullTerminated_eq {packet : Packet} {bytes rest : Bytes} (whole : Whole packet)
    (aheadEq : packet.ahead = bytes ++ 0 :: rest) (noZero : 0 ∉ bytes) :
    packet.nullTerminated = bytes := by
  have window : slice packet.buffer packet.offset packet.endOffset = packet.ahead := by
    rw [slice, whole, ahead]
    exact List.take_of_length_le (by rw [List.length_drop])
  have before : ∀ byte ∈ bytes, decide (byte ≠ 0) = true := by
    rintro byte member
    apply decide_eq_true
    rintro rfl
    exact noZero member
  rw [nullTerminated, window, aheadEq, List.takeWhile_append_of_pos before]
  simp

theorem readNullTerminatedString_of_ahead {packet : Packet} {bytes rest : Bytes}
    (noZero : 0 ∉ bytes) (aheadEq : packet.ahead = bytes ++ 0 :: rest) (whole : Whole packet) :
    (readNullTerminatedString runtime.toDecoding encoding).run packet =
      (runtime.decode encoding bytes).map fun text =>
        (text, packet.advance (bytes.length + 1)) := by
  rw [readNullTerminatedString, run_get_bind, nullTerminated_eq whole aheadEq noZero,
    run_bind_of_ok (skip_run _ _)]
  rfl

theorem readNullTerminatedString_run {packet : Packet} {text : String} {bytes rest : Bytes}
    (kept : Kept runtime encoding text bytes)
    (aheadEq : packet.ahead = (bytes ++ [0]) ++ rest) (whole : Whole packet) :
    (readNullTerminatedString runtime.toDecoding encoding).run packet =
      .ok (text, packet.advance (bytes ++ [0]).length) := by
  rw [List.append_assoc] at aheadEq
  rw [readNullTerminatedString_of_ahead kept.noZero aheadEq whole, kept.decode, List.length_append]
  rfl

/-- A text that comes back was written without a zero byte, at which its reader
would have stopped. -/
theorem of_readNullTerminatedString {packet after : Packet} {text : String} {bytes rest : Bytes}
    (cut : ∀ front behind, bytes = front ++ 0 :: behind → runtime.decode encoding front ≠ .ok text)
    (aheadEq : packet.ahead = (bytes ++ [0]) ++ rest) (whole : Whole packet)
    (run : (readNullTerminatedString runtime.toDecoding encoding).run packet = .ok (text, after)) :
    Kept runtime encoding text bytes ∧ after = packet.advance (bytes ++ [0]).length := by
  rw [List.append_assoc] at aheadEq
  have noZero : 0 ∉ bytes := by
    intro zero
    obtain ⟨front, behind, rfl, first⟩ := List.eq_append_cons_of_mem zero
    rw [List.append_assoc, List.cons_append] at aheadEq
    rw [readNullTerminatedString_of_ahead first aheadEq whole] at run
    obtain ⟨decoded, decodedOk, same⟩ := map_eq_ok_iff.mp run
    cases same
    exact cut front behind rfl decodedOk
  rw [readNullTerminatedString_of_ahead noZero aheadEq whole] at run
  obtain ⟨decoded, decodedOk, same⟩ := map_eq_ok_iff.mp run
  cases same
  rw [List.length_append]
  exact ⟨⟨noZero, decodedOk⟩, rfl⟩

/-! ## Fields -/

theorem ahead_behind {packet : Packet} {bytes rest : Bytes}
    (aheadEq : packet.ahead = bytes ++ rest) :
    (packet.advance bytes.length).ahead = rest :=
  ahead_advance_of_append bytes aheadEq rfl

/-- A token of at most 250 bytes has one layout. -/
theorem writeAuthToken_eq {clientFlags : Nat} {authToken : Bytes}
    (secure : hasFlag clientFlags SECURE_CONNECTION = true) (short : authToken.length ≤ 250) :
    writeAuthToken clientFlags authToken = .ok (toByte authToken.length :: authToken) := by
  rw [writeAuthToken]
  by_cases lengthCoded : hasFlag clientFlags PLUGIN_AUTH_LENENC_CLIENT_DATA = true
  · rw [if_pos lengthCoded, writeLengthCodedBuffer, writeLengthCodedNumber, if_pos (by omega)]
    rfl
  · rw [if_neg lengthCoded, if_pos secure, writeInt8, if_pos (by omega)]
    rfl

/-- It is read by either layout. -/
theorem readAuthToken_run (runtime : Runtime) (encoding : Option String) {flags : Nat}
    {packet : Packet} {authToken rest : Bytes}
    (secure : hasFlag flags SECURE_CONNECTION = true) (short : authToken.length ≤ 250)
    (aheadEq : packet.ahead = (toByte authToken.length :: authToken) ++ rest) :
    (readAuthToken runtime encoding flags).run packet =
      .ok (.buffer authToken, packet.advance (toByte authToken.length :: authToken).length) := by
  have byteEq : (toByte authToken.length).toNat = authToken.length := by
    rw [toByte_toNat, Nat.mod_eq_of_lt (by omega)]
  have tokenAhead : (packet.advance 1).ahead = authToken ++ rest :=
    ahead_advance_of_append [toByte authToken.length] aheadEq rfl
  rw [readAuthToken]
  by_cases lengthCoded : hasFlag flags PLUGIN_AUTH_LENENC_CLIENT_DATA = true
  · rw [if_pos lengthCoded]
    have coded : packet.ahead = writeLengthCodedNumber authToken.length ++ (authToken ++ rest) := by
      rw [aheadEq, writeLengthCodedNumber, if_pos (by omega)]
      rfl
    have one : lengthCodedNumberLength authToken.length = 1 := if_pos (by omega)
    rw [run_bind_of_ok (readLengthCodedNumber_run _ _ coded (by omega)), toNat_number, one,
      run_bind_of_ok (readBuffer_run tokenAhead), advance_advance, Nat.add_comm]
    rfl
  · rw [if_neg lengthCoded, if_pos secure, run_bind_of_ok (readInt8_run_cons aheadEq), byteEq]
    show StateT.run (readBuffer authToken.length >>= _) _ = _
    rw [run_bind_of_ok (readBuffer_run tokenAhead), advance_advance, Nat.add_comm]
    rfl

theorem readIf_run {α : Type} {client both : Bool} {reader : Reader α} {value : α} {packet : Packet}
    {field rest : Bytes} (aheadEq : packet.ahead = (if client then field else []) ++ rest)
    (implied : both = true → client = true) (agree : client = true → both = true)
    (reads : both = true → packet.ahead = field ++ rest →
      reader.run packet = .ok (value, packet.advance field.length)) :
    ∃ after, (readIf both reader).run packet = .ok (if both then some value else none, after) ∧
      after.ahead = rest ∧ (Whole packet → Whole after) := by
  cases both with
  | false =>
      have notClient : client = false := by
        cases client with
        | false => rfl
        | true => exact absurd (agree rfl) Bool.false_ne_true
      rw [notClient] at aheadEq
      exact ⟨packet, rfl, aheadEq, id⟩
  | true =>
      rw [implied rfl] at aheadEq
      refine ⟨packet.advance field.length, ?_, ahead_behind aheadEq, id⟩
      rw [readIf, if_pos rfl, StateT.run_map, reads rfl aheadEq]
      rfl

theorem of_readIf_false {α : Type} {reader : Reader α} {packet after : Packet} {value : Option α}
    (run : (readIf false reader).run packet = .ok (value, after)) : packet = after :=
  (Prod.mk.inj (Except.ok.inj run)).2

/-- A text that is read if its flag is set and comes back, behind fields on which the
flags agree. -/
theorem of_readIf {client both : Bool} {packet after : Packet} {text : String}
    {texts : Option String} {bytes rest : Bytes}
    (cut : ∀ front behind, bytes = front ++ 0 :: behind → runtime.decode encoding front ≠ .ok text)
    (aheadEq : packet.ahead = (if client then bytes ++ [0] else []) ++ rest)
    (implied : both = true → client = true) (agree : client = true → both = true)
    (whole : Whole packet)
    (run : (readIf both (readNullTerminatedString runtime.toDecoding encoding)).run packet =
      .ok (texts, after))
    (comesBack : both = true → texts = some text) :
    (both = true → Kept runtime encoding text bytes) ∧ after.ahead = rest ∧ Whole after := by
  cases both with
  | false =>
      have notClient : client = false := by
        cases client with
        | false => rfl
        | true => exact absurd (agree rfl) Bool.false_ne_true
      rw [notClient] at aheadEq
      cases run
      exact ⟨fun read => absurd read Bool.false_ne_true, aheadEq, whole⟩
  | true =>
      rw [implied rfl] at aheadEq
      rw [readIf, if_pos rfl, StateT.run_map] at run
      obtain ⟨⟨read, next⟩, readRun, same⟩ := map_eq_ok_iff.mp run
      cases same
      obtain rfl := Option.some.inj (comesBack rfl)
      obtain ⟨kept, rfl⟩ := of_readNullTerminatedString cut aheadEq whole readRun
      exact ⟨fun _ => kept, ahead_behind aheadEq, whole⟩

/-! ### Attributes -/

/-- Attributes of an object: texts that come back, under names that differ. -/
structure AttributeTexts (runtime : Runtime) (encoding : Option String)
    (connectAttributes : List (String × String)) : Prop where
  encodes : ∀ pair ∈ connectAttributes,
    (∃ bytes, Encodes runtime encoding pair.1 bytes) ∧
      ∃ bytes, Encodes runtime encoding pair.2 bytes
  distinct : (connectAttributes.map Prod.fst).Nodup

/-- The object with the given attributes. -/
def Attributes.ofList (connectAttributes : List (String × String)) : Attributes :=
  ⟨connectAttributes.map fun pair => (pair.1, some pair.2), true⟩

theorem assign_ofList {connectAttributes : List (String × String)} {name value : String}
    (notProto : name ≠ "__proto__") (fresh : name ∉ connectAttributes.map Prod.fst) :
    (Attributes.ofList connectAttributes).assign name (some value) =
      .ofList (connectAttributes ++ [(name, value)]) := by
  have absent : ((Attributes.ofList connectAttributes).entries.any (·.1 = name)) = false := by
    simp only [Attributes.ofList, List.any_map, List.any_eq_false]
    rintro pair member
    have different : pair.1 ≠ name := fun equal => fresh (equal ▸ List.mem_map_of_mem member)
    simpa using different
  rw [Attributes.assign, if_neg (fun both => notProto both.1), absent, if_neg Bool.false_ne_true]
  simp [Attributes.ofList]

theorem writeAttributes_cons {name value : String} {connectAttributes : List (String × String)}
    {bytes : Bytes}
    (ok : writeAttributes runtime encoding ((name, value) :: connectAttributes) = .ok bytes) :
    ∃ key text others, runtime.encode encoding name = .ok key ∧
      runtime.encode encoding value = .ok text ∧
      writeAttributes runtime encoding connectAttributes = .ok others ∧
      bytes = writeLengthCodedBuffer key ++ (writeLengthCodedBuffer text ++ others) := by
  simp only [writeAttributes, writeLengthCodedString, bind_eq_ok_iff, map_eq_ok_iff,
    pure_eq_ok_iff] at ok
  obtain ⟨_, ⟨key, keyOk, rfl⟩, _, ⟨text, textOk, rfl⟩, others, othersOk, rfl⟩ := ok
  exact ⟨key, text, others, keyOk, textOk, othersOk, List.append_assoc _ _ _⟩

/-- Attributes can be written if their texts can be encoded. -/
theorem writeAttributes_ok {connectAttributes : List (String × String)}
    (encodes : ∀ pair ∈ connectAttributes, (∃ bytes, Encodes runtime encoding pair.1 bytes) ∧
      ∃ bytes, Encodes runtime encoding pair.2 bytes) :
    ∃ bytes, writeAttributes runtime encoding connectAttributes = .ok bytes := by
  induction connectAttributes with
  | nil => exact ⟨[], rfl⟩
  | cons pair connectAttributes ih =>
      obtain ⟨⟨key, keyEncodes⟩, text, textEncodes⟩ := encodes pair List.mem_cons_self
      obtain ⟨others, othersOk⟩ := ih fun other member =>
        encodes other (List.mem_cons_of_mem _ member)
      rw [writeAttributes, writeLengthCodedString, writeLengthCodedString, keyEncodes.encode,
        textEncodes.encode, othersOk]
      exact ⟨_, rfl⟩

/-- The attributes that an assignment keeps: a text under `__proto__` is lost. -/
def assignable (connectAttributes : List (String × String)) : List (String × String) :=
  connectAttributes.filter (·.1 ≠ "__proto__")

theorem assignable_cons (name value : String) (connectAttributes : List (String × String)) :
    assignable ((name, value) :: connectAttributes) =
      if name = "__proto__" then assignable connectAttributes
      else (name, value) :: assignable connectAttributes := by
  by_cases proto : name = "__proto__"
  · rw [if_pos proto, assignable, List.filter_cons_of_neg (by simpa using proto)]
    rfl
  · rw [if_neg proto, assignable, List.filter_cons_of_pos (by simpa using proto)]
    rfl

/-- The loop over attributes reads back what was written, behind those that have
been read. -/
theorem readAttributes_run (before : List (String × String))
    {connectAttributes : List (String × String)} {packet : Packet} {bytes : Bytes} {fuel : Nat}
    (texts : AttributeTexts runtime encoding connectAttributes)
    (fresh : ∀ pair ∈ connectAttributes, pair.1 ∉ before.map Prod.fst)
    (ok : writeAttributes runtime encoding connectAttributes = .ok bytes)
    (aheadEq : packet.ahead = bytes) (enough : bytes.length ≤ fuel)
    (short : bytes.length ≤ kMaxLength) :
    (readAttributes runtime encoding (packet.offset + bytes.length) fuel (.ofList before)).run
        packet =
      .ok (.ofList (before ++ assignable connectAttributes), packet.advance bytes.length) := by
  induction connectAttributes generalizing before packet bytes fuel with
  | nil =>
      cases ok
      rw [assignable, List.filter_nil, List.append_nil]
      cases fuel with
      | zero => rfl
      | succ fuel =>
          rw [readAttributes, run_get_bind, if_neg (by simp)]
          rfl
  | cons pair connectAttributes ih =>
      obtain ⟨name, value⟩ := pair
      obtain ⟨key, text, others, keyOk, textOk, othersOk, rfl⟩ := writeAttributes_cons ok
      obtain ⟨⟨⟨keyBytes, keyEncodes⟩, textBytes, textEncodes⟩, othersEncode⟩ :=
        List.forall_mem_cons.mp texts.encodes
      obtain ⟨nameFresh, othersFresh⟩ := List.forall_mem_cons.mp fresh
      have distinct := List.nodup_cons.mp texts.distinct
      obtain rfl : keyBytes = key := Except.ok.inj (keyEncodes.encode.symm.trans keyOk)
      obtain rfl : textBytes = text := Except.ok.inj (textEncodes.encode.symm.trans textOk)
      have keyLength := length_writeLengthCodedBuffer keyBytes
      have textLength := length_writeLengthCodedBuffer textBytes
      have positive := lengthCodedNumberLength_pos keyBytes.length
      rw [List.length_append, List.length_append] at enough short
      obtain ⟨fuel, rfl⟩ : ∃ left, fuel = left + 1 := ⟨fuel - 1, by omega⟩
      rw [kMaxLength] at short
      have keyRun := readLengthCodedString_run runtime.toDecoding encoding aheadEq (by omega)
      rw [keyEncodes.decode] at keyRun
      have textAhead := ahead_behind aheadEq
      have textRun := readLengthCodedString_run runtime.toDecoding encoding textAhead (by omega)
      rw [textEncodes.decode] at textRun
      have othersAhead := ahead_behind textAhead
      have left : others.length ≤ fuel := by omega
      have othersRun := fun before fresh =>
        ih before ⟨othersEncode, distinct.2⟩ fresh othersOk othersAhead left
          (by rw [kMaxLength]; omega)
      simp only [offset_advance, advance_advance, Nat.add_assoc] at othersRun
      rw [readAttributes, run_get_bind, if_pos (by simp; omega), run_bind_of_ok keyRun,
        run_bind_of_ok textRun, advance_advance, Option.getD_some, List.length_append,
        List.length_append, assignable_cons]
      by_cases proto : name = "__proto__"
      · rw [if_pos proto, Attributes.assign, if_pos ⟨proto, rfl⟩]
        exact othersRun before othersFresh
      · rw [if_neg proto, assign_ofList proto nameFresh, List.append_cons before _ (assignable _)]
        apply othersRun
        rintro other member
        rw [List.map_append, List.mem_append, List.map_singleton, List.mem_singleton, not_or]
        refine ⟨othersFresh other member, ?_⟩
        rintro rfl
        exact distinct.1 (List.mem_map.mpr ⟨other, member, rfl⟩)

theorem readConnectAttributes_run {connectAttributes : List (String × String)} {packet : Packet}
    {bytes : Bytes} (texts : AttributeTexts runtime encoding connectAttributes)
    (ok : writeAttributes runtime encoding connectAttributes = .ok bytes)
    (aheadEq : packet.ahead = writeLengthCodedBuffer bytes) (short : bytes.length ≤ kMaxLength) :
    (readConnectAttributes runtime encoding).run packet =
      .ok (.ofList (assignable connectAttributes),
        packet.advance (writeLengthCodedBuffer bytes).length) := by
  rw [writeLengthCodedBuffer] at aheadEq
  have safe : bytes.length < 9007199254740992 := Nat.lt_succ_of_le short
  have lengthRun := readLengthCodedNumber_run (encoding.any (· ≠ "")) false aheadEq safe
  have keysAhead := ahead_advance_of_append _ aheadEq (length_writeLengthCodedNumber bytes.length)
  rw [readConnectAttributes, run_bind_of_ok lengthRun, toNat_number, run_get_bind]
  have attributesRun := readAttributes_run [] texts (by simp) ok keysAhead le_rfl short
  rw [length_writeLengthCodedBuffer]
  rw [advance_advance] at attributesRun
  exact attributesRun

/-- The object is the one written if and only if no attribute is lost. -/
theorem ofList_assignable_iff (connectAttributes : List (String × String)) :
    Attributes.ofList (assignable connectAttributes) = .ofList connectAttributes ↔
      ∀ pair ∈ connectAttributes, pair.1 ≠ "__proto__" := by
  constructor
  · intro same pair member
    have lengthEq := congrArg (·.entries.length) same
    simp only [Attributes.ofList, List.length_map, assignable] at lengthEq
    simpa using List.length_filter_eq_length_iff.mp lengthEq pair member
  · intro none
    rw [assignable, List.filter_eq_self.mpr (by simpa using none)]

/-! ## The response -/

/-- The arguments of a response: any 32-bit flags, and texts that have an encoding. -/
structure HandshakeResponse.Given (runtime : Runtime) (response : HandshakeResponse) : Prop where
  clientFlags : -2147483648 ≤ response.clientFlags ∧ response.clientFlags < 4294967296
  extendedFlags : 0 ≤ response.mariadbExtendedClientFlags ∧
    response.mariadbExtendedClientFlags < 4294967296
  charsetNumber : response.charsetNumber < 256
  authToken : response.authToken.length ≤ 250
  user : ∃ bytes,
    Encodes runtime (runtime.charsetToEncoding response.charsetNumber) response.user bytes
  database : ∃ bytes,
    Encodes runtime (runtime.charsetToEncoding response.charsetNumber) response.database bytes
  connectAttributes : AttributeTexts runtime (runtime.charsetToEncoding response.charsetNumber)
    response.connectAttributes

/-- The packet of a response is not longer than a buffer can be. -/
def HandshakeResponse.Fits (runtime : Runtime) (response : HandshakeResponse) : Prop :=
  ∀ bytes, response.serializeResponse runtime = .ok bytes → 4 + bytes.length ≤ kMaxLength

/-- Flags that can be written, and texts that stand up to their reader, as far as
they are read: those behind which a zero byte follows contain none, the name of the
plugin, which is written in latin1, is the same in the character set, and no
attribute is called `__proto__`. -/
structure HandshakeResponse.Readable (runtime : Runtime) (serverFlags : Nat)
    (response : HandshakeResponse) : Prop where
  unsigned : 0 ≤ response.clientFlags
  user : NulFree runtime (runtime.charsetToEncoding response.charsetNumber) response.user
  database : inBoth (toUint32 response.clientFlags) serverFlags CONNECT_WITH_DB = true →
    NulFree runtime (runtime.charsetToEncoding response.charsetNumber) response.database
  authPluginName : inBoth (toUint32 response.clientFlags) serverFlags PLUGIN_AUTH = true →
    ∃ bytes, runtime.encode (some "latin1") (pluginNameOrDefault response.authPluginName) =
        .ok bytes ∧
      Kept runtime (runtime.charsetToEncoding response.charsetNumber) response.authPluginName bytes
  connectAttributes : inBoth (toUint32 response.clientFlags) serverFlags CONNECT_ATTRS = true →
    ∀ pair ∈ response.connectAttributes, pair.1 ≠ "__proto__"

/-- A reply with the user and the token of a response, and with those optional
fields of it whose flag both sides have set. -/
structure HandshakeResponse.Returns (response : HandshakeResponse) (serverFlags : Nat)
    (reply : ClientReply) : Prop where
  user : reply.user = response.user
  authToken : reply.authToken = .buffer response.authToken
  database : inBoth (toUint32 response.clientFlags) serverFlags CONNECT_WITH_DB = true →
    reply.database = some response.database
  authPluginName : inBoth (toUint32 response.clientFlags) serverFlags PLUGIN_AUTH = true →
    reply.authPluginName = some response.authPluginName
  connectAttributes : inBoth (toUint32 response.clientFlags) serverFlags CONNECT_ATTRS = true →
    reply.connectAttributes = some (.ofList response.connectAttributes)

/-- The response is written and read back. -/
def HandshakeResponse.RoundTrips (runtime : Runtime) (serverFlags : Nat)
    (response : HandshakeResponse) : Prop :=
  ∃ packet reply after, response.toPacket runtime = .ok packet ∧
    (fromPacket runtime serverFlags).run packet = .ok (reply, after) ∧
      response.Returns serverFlags reply

/-! ### Writing -/

/-- The bytes in front of the name of the user. -/
def HandshakeResponse.header (response : HandshakeResponse) : Bytes :=
  writeUIntLE response.clientFlags.toNat 4 ++ [0, 0, 0, 0] ++ [toByte response.charsetNumber] ++
    List.replicate 19 0 ++ writeUIntLE response.mariadbExtendedClientFlags.toNat 4

theorem HandshakeResponse.length_header (response : HandshakeResponse) :
    response.header.length = 32 := by
  simp [header, length_writeUIntLE]

/-- The bytes behind the token. -/
def optionalFields (clientFlags : Nat) (database authPluginName attributes : Bytes) : Bytes :=
  (if hasFlag clientFlags CONNECT_WITH_DB then database ++ [0] else []) ++
    ((if hasFlag clientFlags PLUGIN_AUTH then authPluginName ++ [0] else []) ++
      (if hasFlag clientFlags CONNECT_ATTRS then writeLengthCodedBuffer attributes else []))

/-- The bytes that are written for the texts of a response. -/
structure HandshakeResponse.Written (runtime : Runtime) (response : HandshakeResponse)
    (user database authPluginName attributes : Bytes) : Prop where
  user : Encodes runtime (runtime.charsetToEncoding response.charsetNumber) response.user user
  database : Encodes runtime (runtime.charsetToEncoding response.charsetNumber) response.database
    database
  authPluginName : runtime.encode (some "latin1") (pluginNameOrDefault response.authPluginName) =
    .ok authPluginName
  attributes : writeAttributes runtime (runtime.charsetToEncoding response.charsetNumber)
    response.connectAttributes = .ok attributes

/-- Each response has them. -/
theorem HandshakeResponse.Given.written {response : HandshakeResponse}
    (given : response.Given runtime)
    (faithful : FaithfulEncoding runtime encoding) :
    ∃ user database authPluginName attributes,
      response.Written runtime user database authPluginName attributes := by
  obtain ⟨user, userEncodes⟩ := given.user
  obtain ⟨database, databaseEncodes⟩ := given.database
  obtain ⟨authPluginName, pluginOk⟩ := faithful.latin1 (pluginNameOrDefault response.authPluginName)
  obtain ⟨attributes, attributesOk⟩ := writeAttributes_ok given.connectAttributes.encodes
  exact ⟨user, database, authPluginName, attributes, userEncodes, databaseEncodes, pluginOk,
    attributesOk⟩

theorem writeInt32_eq {n : Int} (range : 0 ≤ n ∧ n < 4294967296) :
    writeInt32 n = .ok (writeUIntLE n.toNat 4) :=
  if_pos range

theorem toUint32_eq {n : Int} (range : 0 ≤ n ∧ n < 4294967296) : toUint32 n = n.toNat := by
  rw [toUint32, Int.emod_eq_of_lt range.1 range.2]

theorem writeIf_ok (condition : Bool) (bytes : Bytes) :
    writeIf condition (.ok bytes) = .ok (if condition then bytes else []) := by
  cases condition with
  | false => rfl
  | true => rfl

variable {response : HandshakeResponse} {user database authPluginName attributes : Bytes}
  {clientFlags serverFlags charsetNumber : Nat}

theorem serializeResponse_ok (given : response.Given runtime) (unsigned : 0 ≤ response.clientFlags)
    (secure : hasFlag (toUint32 response.clientFlags) SECURE_CONNECTION = true)
    (written : response.Written runtime user database authPluginName attributes) :
    response.serializeResponse runtime = .ok (response.header ++ ((user ++ [0]) ++
      ((toByte response.authToken.length :: response.authToken) ++
        optionalFields (toUint32 response.clientFlags) database authPluginName attributes))) := by
  have headerOk : response.serializeHeader = .ok response.header := by
    rw [HandshakeResponse.serializeHeader, writeInt32_eq ⟨unsigned, given.clientFlags.2⟩, writeInt8,
      if_pos given.charsetNumber, writeInt32_eq given.extendedFlags]
    rfl
  rw [HandshakeResponse.serializeResponse, headerOk, writeNullTerminatedString, written.user.encode,
    writeAuthToken_eq secure given.authToken, writeNullTerminatedString, written.database.encode,
    writeNullTerminatedString, written.authPluginName, writeConnectAttributes, written.attributes]
  simp only [Except.map, writeIf_ok, ok_bind]
  simp [optionalFields, pure, Except.pure]

/-- Signed flags below zero cannot be written. -/
theorem unsigned_of_toPacket {packet : Packet} (packetOk : response.toPacket runtime = .ok packet) :
    0 ≤ response.clientFlags := by
  obtain ⟨bytes, bytesOk, -⟩ := bind_eq_ok_iff.mp packetOk
  obtain ⟨header, headerOk, -⟩ := bind_eq_ok_iff.mp bytesOk
  obtain ⟨flags, flagsOk, -⟩ := bind_eq_ok_iff.mp headerOk
  by_contra negative
  rw [writeInt32, if_neg fun range => negative range.1] at flagsOk
  cases flagsOk

theorem toPacket_ok {bytes : Bytes} (bytesOk : response.serializeResponse runtime = .ok bytes)
    (short : 4 + bytes.length ≤ kMaxLength) :
    response.toPacket runtime = .ok (.new 0 ([0, 0, 0, 0] ++ bytes) 0 (4 + bytes.length)) := by
  rw [HandshakeResponse.toPacket, bytesOk, ok_bind, allocUnsafe, if_pos short]
  rfl

/-- Its reader would not take the bytes in front of a zero byte for the name of the
plugin. -/
theorem HandshakeResponse.Written.cut_authPluginName
    (written : response.Written runtime user database authPluginName attributes)
    (faithful : FaithfulEncoding runtime encoding) (front behind : Bytes)
    (cut : authPluginName = front ++ 0 :: behind) :
    runtime.decode encoding front ≠ .ok response.authPluginName := by
  subst cut
  have pluginOk := written.authPluginName
  by_cases unnamed : response.authPluginName = ""
  · rw [unnamed, pluginNameOrDefault, if_pos rfl, faithful.ascii.native.encode] at pluginOk
    have zero : 0 ∈ nativeBytes := by
      rw [Except.ok.inj pluginOk]
      simp
    exact absurd zero (by decide)
  · rw [pluginNameOrDefault, if_neg unnamed] at pluginOk
    exact faithful.cut (.inr rfl) pluginOk

/-! ### Reading -/

/-- The readers of the optional fields. -/
def readOptionalFields (runtime : Runtime) (encoding : Option String) (flags : Nat) :
    Reader (Option String × Option String × Option Attributes) := do
  let database ← readIf (hasFlag flags CONNECT_WITH_DB)
    (readNullTerminatedString runtime.toDecoding encoding)
  let authPluginName ← readIf (hasFlag flags PLUGIN_AUTH)
    (readNullTerminatedString runtime.toDecoding encoding)
  let connectAttributes ← readIf (hasFlag flags CONNECT_ATTRS)
    (readConnectAttributes runtime encoding)
  return (database, authPluginName, connectAttributes)

/-- The reply to a response with the given texts. -/
def HandshakeResponse.reply (runtime : Runtime) (response : HandshakeResponse) (user : String)
    (authToken : AuthToken) (fields : Option String × Option String × Option Attributes) :
    ClientReply where
  clientFlags := toUint32 response.clientFlags
  maxPacketSize := 0
  charsetNumber := some response.charsetNumber
  encoding := runtime.charsetToEncoding response.charsetNumber
  user := user
  authToken := authToken
  database := fields.1
  authPluginName := fields.2.1
  connectAttributes := fields.2.2

/-- The readers of the texts of a response. -/
def HandshakeResponse.readTexts (runtime : Runtime) (response : HandshakeResponse)
    (serverFlags : Nat) : Reader ClientReply := do
  let encoding := runtime.charsetToEncoding response.charsetNumber
  let flags := toUint32 response.clientFlags &&& serverFlags
  let user ← readNullTerminatedString runtime.toDecoding encoding
  let authToken ← readAuthToken runtime encoding flags
  response.reply runtime user authToken <$> readOptionalFields runtime encoding flags

theorem fromPacket_header {packet : Packet} {rest : Bytes} (given : response.Given runtime)
    (unsigned : 0 ≤ response.clientFlags) (aheadEq : packet.ahead = response.header ++ rest) :
    ∃ after, after.ahead = rest ∧ (Whole packet → Whole after) ∧
      (HandshakeResponse.fromPacket runtime serverFlags).run packet =
        (response.readTexts runtime serverFlags).run after := by
  have flags := given.clientFlags
  have flagsEq :
      uintLE (writeUIntLE response.clientFlags.toNat 4) = toUint32 response.clientFlags := by
    rw [uintLE_writeUIntLE_of_lt (by omega), toUint32_eq ⟨unsigned, flags.2⟩]
  have charsetEq : (toByte response.charsetNumber).toNat = response.charsetNumber := by
    rw [toByte_toNat, Nat.mod_eq_of_lt given.charsetNumber]
  rw [HandshakeResponse.header, List.append_assoc, List.append_assoc, List.append_assoc,
    List.append_assoc] at aheadEq
  have sizeAhead := ahead_advance_of_append _ aheadEq (length_writeUIntLE _ 4)
  have charsetAhead : ((packet.advance 4).advance 4).ahead = _ := ahead_behind sizeAhead
  have reservedAhead : (((packet.advance 4).advance 4).advance 1).ahead = _ :=
    ahead_behind charsetAhead
  rw [← List.append_assoc] at reservedAhead
  have reserved : (List.replicate 19 (0 : UInt8) ++
      writeUIntLE response.mariadbExtendedClientFlags.toNat 4).length = 23 := by
    rw [List.length_append, List.length_replicate, length_writeUIntLE]
  refine ⟨_, ahead_advance_of_append _ reservedAhead reserved, id, ?_⟩
  rw [HandshakeResponse.fromPacket, run_bind_of_ok (readInt32_run aheadEq (length_writeUIntLE _ 4)),
    flagsEq]
  show StateT.run (readInt32 >>= _) _ = _
  rw [run_bind_of_ok (readInt32_run sizeAhead rfl)]
  show StateT.run (readInt8 >>= _) _ = _
  rw [run_bind_of_ok (readInt8_run_cons charsetAhead), charsetEq]
  show StateT.run (skip 23 >>= _) _ = _
  rw [run_bind_of_ok (skip_run _ 23)]
  simp only [HandshakeResponse.readTexts, readOptionalFields, map_bind, map_pure]
  rfl

/-- The packet of a response, and what is left of it behind the header. -/
theorem toPacket_run (given : response.Given runtime) (fits : response.Fits runtime)
    (unsigned : 0 ≤ response.clientFlags)
    (secure : hasFlag (toUint32 response.clientFlags) SECURE_CONNECTION = true)
    (written : response.Written runtime user database authPluginName attributes) :
    ∃ packet after, response.toPacket runtime = .ok packet ∧
      after.ahead = (user ++ [0]) ++ ((toByte response.authToken.length :: response.authToken) ++
        optionalFields (toUint32 response.clientFlags) database authPluginName attributes) ∧
      Whole after ∧
      (hasFlag (toUint32 response.clientFlags) CONNECT_ATTRS = true →
        attributes.length ≤ kMaxLength) ∧
      (HandshakeResponse.fromPacket runtime serverFlags).run packet =
        (response.readTexts runtime serverFlags).run after := by
  have bytesOk := serializeResponse_ok given unsigned secure written
  have short := fits _ bytesOk
  obtain ⟨after, afterAhead, afterWhole, run⟩ :=
    @fromPacket_header runtime response serverFlags _ _ given unsigned
      (ahead_new 0 [0, 0, 0, 0] _ _ rfl)
  refine ⟨_, after, toPacket_ok bytesOk short, afterAhead, afterWhole (whole_packetOf _), ?_, run⟩
  intro counted
  rw [optionalFields, if_pos counted] at short
  simp only [List.length_append, length_writeLengthCodedBuffer] at short
  omega

theorem inBoth_client {flag : Nat} (both : inBoth clientFlags serverFlags flag = true) :
    hasFlag clientFlags flag = true :=
  (Bool.and_eq_true_iff.mp both).1

/-- What is read of a response in front of the optional fields. -/
theorem readTexts_run {packet : Packet} {rest : Bytes} (given : response.Given runtime)
    (secure : inBoth (toUint32 response.clientFlags) serverFlags SECURE_CONNECTION = true)
    (kept : Kept runtime (runtime.charsetToEncoding response.charsetNumber) response.user user)
    (whole : Whole packet)
    (aheadEq : packet.ahead =
      (user ++ [0]) ++ ((toByte response.authToken.length :: response.authToken) ++ rest)) :
    ∃ after, after.ahead = rest ∧ Whole after ∧
      (response.readTexts runtime serverFlags).run packet =
        StateT.run (response.reply runtime response.user (.buffer response.authToken) <$>
          readOptionalFields runtime (runtime.charsetToEncoding response.charsetNumber)
            (toUint32 response.clientFlags &&& serverFlags)) after := by
  have secureBoth :
      hasFlag (toUint32 response.clientFlags &&& serverFlags) SECURE_CONNECTION = true :=
    (hasFlag_and_two_pow _ _ 15).trans secure
  have userRun := readNullTerminatedString_run kept aheadEq whole
  have tokenAhead := ahead_behind aheadEq
  have tokenRun := readAuthToken_run runtime (runtime.charsetToEncoding response.charsetNumber)
    secureBoth given.authToken tokenAhead
  refine ⟨_, ahead_behind tokenAhead, whole, ?_⟩
  rw [HandshakeResponse.readTexts, run_bind_of_ok userRun, run_bind_of_ok tokenRun]

/-- A user that comes back is kept. -/
theorem kept_user_of_returns {packet after : Packet} {rest : Bytes} {reply : ClientReply}
    (faithful : FaithfulEncoding runtime (runtime.charsetToEncoding response.charsetNumber))
    (encodes : Encodes runtime (runtime.charsetToEncoding response.charsetNumber) response.user user)
    (whole : Whole packet) (aheadEq : packet.ahead = (user ++ [0]) ++ rest)
    (run : (response.readTexts runtime serverFlags).run packet = .ok (reply, after))
    (returns : response.Returns serverFlags reply) :
    Kept runtime (runtime.charsetToEncoding response.charsetNumber) response.user user := by
  rw [HandshakeResponse.readTexts, StateT.run_bind, bind_eq_ok_iff] at run
  obtain ⟨⟨read, afterUser⟩, userRun, run⟩ := run
  rw [StateT.run_bind, bind_eq_ok_iff] at run
  obtain ⟨⟨token, afterToken⟩, -, run⟩ := run
  rw [StateT.run_map] at run
  obtain ⟨⟨fields, last⟩, -, same⟩ := map_eq_ok_iff.mp run
  cases same
  have readEq : read = response.user := returns.user
  rw [readEq] at userRun
  refine (of_readNullTerminatedString ?_ aheadEq whole userRun).1
  rintro front behind rfl
  exact faithful.cut (.inl rfl) encodes.encode

theorem readOptionalFields_eq (clientFlags serverFlags : Nat) :
    readOptionalFields runtime encoding (clientFlags &&& serverFlags) = do
      let database ← readIf (inBoth clientFlags serverFlags CONNECT_WITH_DB)
        (readNullTerminatedString runtime.toDecoding encoding)
      let authPluginName ← readIf (inBoth clientFlags serverFlags PLUGIN_AUTH)
        (readNullTerminatedString runtime.toDecoding encoding)
      let connectAttributes ← readIf (inBoth clientFlags serverFlags CONNECT_ATTRS)
        (readConnectAttributes runtime encoding)
      return (database, authPluginName, connectAttributes) := by
  have databaseFlag : hasFlag (clientFlags &&& serverFlags) CONNECT_WITH_DB = _ :=
    hasFlag_and_two_pow clientFlags serverFlags 3
  have pluginFlag : hasFlag (clientFlags &&& serverFlags) PLUGIN_AUTH = _ :=
    hasFlag_and_two_pow clientFlags serverFlags 19
  have attributesFlag : hasFlag (clientFlags &&& serverFlags) CONNECT_ATTRS = _ :=
    hasFlag_and_two_pow clientFlags serverFlags 20
  rw [readOptionalFields, databaseFlag, pluginFlag, attributesFlag]
  rfl

/-- The optional fields that both sides count, if the flags agree. -/
theorem readOptionalFields_run {packet : Packet} (agree : FlagsAgree clientFlags serverFlags)
    (databaseKept : inBoth clientFlags serverFlags CONNECT_WITH_DB = true →
      Kept runtime encoding response.database database)
    (pluginKept : inBoth clientFlags serverFlags PLUGIN_AUTH = true →
      Kept runtime encoding response.authPluginName authPluginName)
    (texts : AttributeTexts runtime encoding response.connectAttributes)
    (notProto : inBoth clientFlags serverFlags CONNECT_ATTRS = true →
      ∀ pair ∈ response.connectAttributes, pair.1 ≠ "__proto__")
    (attributesOk : writeAttributes runtime encoding response.connectAttributes = .ok attributes)
    (short : hasFlag clientFlags CONNECT_ATTRS = true → attributes.length ≤ kMaxLength)
    (whole : Whole packet)
    (aheadEq : packet.ahead = optionalFields clientFlags database authPluginName attributes) :
    ∃ after, (readOptionalFields runtime encoding (clientFlags &&& serverFlags)).run packet = .ok
      ((if inBoth clientFlags serverFlags CONNECT_WITH_DB then some response.database else none,
        if inBoth clientFlags serverFlags PLUGIN_AUTH then some response.authPluginName else none,
        if inBoth clientFlags serverFlags CONNECT_ATTRS then
          some (.ofList response.connectAttributes) else none), after) := by
  rw [readOptionalFields_eq]
  by_cases databaseAgrees : hasFlag clientFlags CONNECT_WITH_DB = true →
      inBoth clientFlags serverFlags CONNECT_WITH_DB = true
  · obtain ⟨afterDatabase, databaseRun, pluginAhead, pluginWhole⟩ :=
      readIf_run aheadEq inBoth_client databaseAgrees fun both fieldAhead =>
        readNullTerminatedString_run (databaseKept both) fieldAhead whole
    rw [run_bind_of_ok databaseRun]
    by_cases pluginAgrees : hasFlag clientFlags PLUGIN_AUTH = true →
        inBoth clientFlags serverFlags PLUGIN_AUTH = true
    · obtain ⟨afterPlugin, pluginRun, attributesAhead, -⟩ :=
        readIf_run pluginAhead inBoth_client pluginAgrees fun both fieldAhead =>
          readNullTerminatedString_run (pluginKept both) fieldAhead (pluginWhole whole)
      rw [run_bind_of_ok pluginRun]
      cases attributesBoth : inBoth clientFlags serverFlags CONNECT_ATTRS with
      | false => exact ⟨afterPlugin, rfl⟩
      | true =>
          rw [inBoth_client attributesBoth] at attributesAhead
          have attributesRun := readConnectAttributes_run texts attributesOk attributesAhead
            (short (inBoth_client attributesBoth))
          rw [(ofList_assignable_iff _).mpr (notProto attributesBoth)] at attributesRun
          rw [readIf, if_pos rfl, map_eq_pure_bind, bind_assoc, run_bind_of_ok attributesRun]
          exact ⟨_, rfl⟩
    · obtain ⟨pluginClient, pluginOnly⟩ := Classical.not_imp.mp pluginAgrees
      have pluginNone := Bool.eq_false_iff.mpr pluginOnly
      rw [pluginNone, agree.plugin pluginClient pluginNone]
      exact ⟨afterDatabase, rfl⟩
  · obtain ⟨databaseClient, databaseOnly⟩ := Classical.not_imp.mp databaseAgrees
    have databaseNone := Bool.eq_false_iff.mpr databaseOnly
    obtain ⟨pluginNone, attributesNone⟩ := agree.database databaseClient databaseNone
    rw [databaseNone, pluginNone, attributesNone]
    exact ⟨packet, rfl⟩

/-- The optional fields of a reply. -/
structure HandshakeResponse.ReturnsFields (response : HandshakeResponse)
    (clientFlags serverFlags : Nat) (fields : Option String × Option String × Option Attributes) :
    Prop where
  database : inBoth clientFlags serverFlags CONNECT_WITH_DB = true →
    fields.1 = some response.database
  authPluginName : inBoth clientFlags serverFlags PLUGIN_AUTH = true →
    fields.2.1 = some response.authPluginName
  connectAttributes : inBoth clientFlags serverFlags CONNECT_ATTRS = true →
    fields.2.2 = some (.ofList response.connectAttributes)

/-- The readers of the optional fields, one behind the other. -/
theorem of_readOptionalFields {packet last : Packet}
    {fields : Option String × Option String × Option Attributes}
    (run : (readOptionalFields runtime encoding (clientFlags &&& serverFlags)).run packet =
      .ok (fields, last)) :
    ∃ afterDatabase afterPlugin,
      (readIf (inBoth clientFlags serverFlags CONNECT_WITH_DB)
        (readNullTerminatedString runtime.toDecoding encoding)).run packet =
          .ok (fields.1, afterDatabase) ∧
      (readIf (inBoth clientFlags serverFlags PLUGIN_AUTH)
        (readNullTerminatedString runtime.toDecoding encoding)).run afterDatabase =
          .ok (fields.2.1, afterPlugin) ∧
      (readIf (inBoth clientFlags serverFlags CONNECT_ATTRS)
        (readConnectAttributes runtime encoding)).run afterPlugin = .ok (fields.2.2, last) := by
  rw [readOptionalFields_eq, StateT.run_bind, bind_eq_ok_iff] at run
  obtain ⟨⟨database, afterDatabase⟩, databaseRun, run⟩ := run
  rw [StateT.run_bind, bind_eq_ok_iff] at run
  obtain ⟨⟨authPluginName, afterPlugin⟩, pluginRun, run⟩ := run
  rw [StateT.run_bind, bind_eq_ok_iff] at run
  obtain ⟨⟨connectAttributes, afterAttributes⟩, attributesRun, same⟩ := run
  cases same
  exact ⟨afterDatabase, afterPlugin, databaseRun, pluginRun, attributesRun⟩

/-- Optional fields that come back are kept, if the flags agree. -/
theorem kept_of_readOptionalFields {packet last : Packet}
    {fields : Option String × Option String × Option Attributes}
    (agree : FlagsAgree clientFlags serverFlags)
    (databaseCut : ∀ front behind, database = front ++ 0 :: behind →
      runtime.decode encoding front ≠ .ok response.database)
    (pluginCut : ∀ front behind, authPluginName = front ++ 0 :: behind →
      runtime.decode encoding front ≠ .ok response.authPluginName)
    (texts : AttributeTexts runtime encoding response.connectAttributes)
    (attributesOk : writeAttributes runtime encoding response.connectAttributes = .ok attributes)
    (short : hasFlag clientFlags CONNECT_ATTRS = true → attributes.length ≤ kMaxLength)
    (whole : Whole packet)
    (aheadEq : packet.ahead = optionalFields clientFlags database authPluginName attributes)
    (run : (readOptionalFields runtime encoding (clientFlags &&& serverFlags)).run packet =
      .ok (fields, last))
    (returns : response.ReturnsFields clientFlags serverFlags fields) :
    (inBoth clientFlags serverFlags CONNECT_WITH_DB = true →
        Kept runtime encoding response.database database) ∧
      (inBoth clientFlags serverFlags PLUGIN_AUTH = true →
        Kept runtime encoding response.authPluginName authPluginName) ∧
      (inBoth clientFlags serverFlags CONNECT_ATTRS = true →
        ∀ pair ∈ response.connectAttributes, pair.1 ≠ "__proto__") := by
  obtain ⟨afterDatabase, afterPlugin, databaseRun, pluginRun, attributesRun⟩ :=
    of_readOptionalFields run
  by_cases databaseAgrees : hasFlag clientFlags CONNECT_WITH_DB = true →
      inBoth clientFlags serverFlags CONNECT_WITH_DB = true
  · obtain ⟨databaseKept, pluginAhead, pluginWhole⟩ := of_readIf databaseCut aheadEq inBoth_client
      databaseAgrees whole databaseRun returns.database
    by_cases pluginAgrees : hasFlag clientFlags PLUGIN_AUTH = true →
        inBoth clientFlags serverFlags PLUGIN_AUTH = true
    · obtain ⟨pluginKept, attributesAhead, -⟩ := of_readIf pluginCut pluginAhead inBoth_client
        pluginAgrees pluginWhole pluginRun returns.authPluginName
      refine ⟨databaseKept, pluginKept, fun both => ?_⟩
      rw [if_pos (inBoth_client both)] at attributesAhead
      have keptRun := readConnectAttributes_run texts attributesOk attributesAhead
        (short (inBoth_client both))
      rw [both, readIf, if_pos rfl, StateT.run_map, keptRun, returns.connectAttributes both]
        at attributesRun
      have same := Option.some.inj (Prod.mk.inj (Except.ok.inj attributesRun)).1
      exact (ofList_assignable_iff _).mp same
    · obtain ⟨pluginClient, pluginOnly⟩ := Classical.not_imp.mp pluginAgrees
      have pluginNone := Bool.eq_false_iff.mpr pluginOnly
      have attributesNone := agree.plugin pluginClient pluginNone
      exact ⟨databaseKept, fun both => absurd both pluginOnly,
        fun both => absurd both (Bool.eq_false_iff.mp attributesNone)⟩
  · obtain ⟨databaseClient, databaseOnly⟩ := Classical.not_imp.mp databaseAgrees
    obtain ⟨pluginNone, attributesNone⟩ :=
      agree.database databaseClient (Bool.eq_false_iff.mpr databaseOnly)
    exact ⟨fun both => absurd both databaseOnly,
      fun both => absurd both (Bool.eq_false_iff.mp pluginNone),
      fun both => absurd both (Bool.eq_false_iff.mp attributesNone)⟩

/-! ### Round trips -/

/-- What is read of a response that comes back. -/
theorem of_roundTrips
    (faithful : FaithfulEncoding runtime (runtime.charsetToEncoding response.charsetNumber))
    (given : response.Given runtime) (fits : response.Fits runtime)
    (secure : inBoth (toUint32 response.clientFlags) serverFlags SECURE_CONNECTION = true)
    (written : response.Written runtime user database authPluginName attributes)
    (roundTrips : response.RoundTrips runtime serverFlags) :
    0 ≤ response.clientFlags ∧
      Kept runtime (runtime.charsetToEncoding response.charsetNumber) response.user user ∧
      (hasFlag (toUint32 response.clientFlags) CONNECT_ATTRS = true →
        attributes.length ≤ kMaxLength) ∧
      ∃ packet fields last,
        packet.ahead =
          optionalFields (toUint32 response.clientFlags) database authPluginName attributes ∧
        Whole packet ∧
        (readOptionalFields runtime (runtime.charsetToEncoding response.charsetNumber)
          (toUint32 response.clientFlags &&& serverFlags)).run packet = .ok (fields, last) ∧
        response.ReturnsFields (toUint32 response.clientFlags) serverFlags fields := by
  obtain ⟨packet, reply, last, packetOk, run, returns⟩ := roundTrips
  have unsigned := unsigned_of_toPacket packetOk
  obtain ⟨packet', after, packetOk', afterAhead, afterWhole, short, same⟩ :=
    @toPacket_run runtime response user database authPluginName attributes serverFlags given fits
      unsigned (inBoth_client secure) written
  obtain rfl := Except.ok.inj (packetOk'.symm.trans packetOk)
  rw [same] at run
  have kept := kept_user_of_returns faithful written.user afterWhole afterAhead run returns
  obtain ⟨next, nextAhead, nextWhole, nextRun⟩ :=
    readTexts_run given secure kept afterWhole afterAhead
  rw [nextRun, StateT.run_map] at run
  obtain ⟨⟨fields, last'⟩, fieldsRun, sameReply⟩ := map_eq_ok_iff.mp run
  cases sameReply
  exact ⟨unsigned, kept, short, next, fields, last', nextAhead, nextWhole, fieldsRun,
    returns.database, returns.authPluginName, returns.connectAttributes⟩

/-- If the flags agree, a response comes back if and only if it is readable. -/
theorem roundTrips_iff_readable
    (faithful : FaithfulEncoding runtime (runtime.charsetToEncoding response.charsetNumber))
    (given : response.Given runtime) (fits : response.Fits runtime)
    (secure : inBoth (toUint32 response.clientFlags) serverFlags SECURE_CONNECTION = true)
    (agree : FlagsAgree (toUint32 response.clientFlags) serverFlags) :
    response.RoundTrips runtime serverFlags ↔ response.Readable runtime serverFlags := by
  obtain ⟨user, database, authPluginName, attributes, written⟩ := given.written faithful
  constructor
  · intro roundTrips
    obtain ⟨unsigned, userKept, short, packet, fields, last, aheadEq, whole, run, returns⟩ :=
      of_roundTrips faithful given fits secure written roundTrips
    have databaseCut : ∀ front behind, database = front ++ 0 :: behind →
        runtime.decode (runtime.charsetToEncoding response.charsetNumber) front ≠
          .ok response.database := by
      rintro front behind rfl
      exact faithful.cut (.inl rfl) written.database.encode
    obtain ⟨databaseKept, pluginKept, notProto⟩ := kept_of_readOptionalFields agree databaseCut
      (written.cut_authPluginName faithful) given.connectAttributes written.attributes short whole
      aheadEq run returns
    exact ⟨unsigned, ⟨user, written.user.encode, userKept⟩,
      fun both => ⟨database, written.database.encode, databaseKept both⟩,
      fun both => ⟨authPluginName, written.authPluginName, pluginKept both⟩, notProto⟩
  · intro readable
    obtain ⟨user', userOk, userKept⟩ := readable.user
    obtain rfl := Except.ok.inj (userOk.symm.trans written.user.encode)
    obtain ⟨packet, after, packetOk, afterAhead, afterWhole, short, run⟩ :=
      @toPacket_run runtime response user' database authPluginName attributes serverFlags given fits
        readable.unsigned (inBoth_client secure) written
    obtain ⟨next, nextAhead, nextWhole, nextRun⟩ :=
      readTexts_run given secure userKept afterWhole afterAhead
    have databaseKept : inBoth (toUint32 response.clientFlags) serverFlags CONNECT_WITH_DB = true →
        Kept runtime (runtime.charsetToEncoding response.charsetNumber) response.database
          database := by
      intro both
      obtain ⟨bytes, bytesOk, kept⟩ := readable.database both
      obtain rfl := Except.ok.inj (bytesOk.symm.trans written.database.encode)
      exact kept
    have pluginKept : inBoth (toUint32 response.clientFlags) serverFlags PLUGIN_AUTH = true →
        Kept runtime (runtime.charsetToEncoding response.charsetNumber) response.authPluginName
          authPluginName := by
      intro both
      obtain ⟨bytes, bytesOk, kept⟩ := readable.authPluginName both
      obtain rfl := Except.ok.inj (bytesOk.symm.trans written.authPluginName)
      exact kept
    obtain ⟨last, fieldsRun⟩ := readOptionalFields_run agree databaseKept pluginKept
      given.connectAttributes readable.connectAttributes written.attributes short nextWhole nextAhead
    rw [nextRun, StateT.run_map, fieldsRun] at run
    exact ⟨packet, _, last, packetOk, run, rfl, rfl, fun both => if_pos both,
      fun both => if_pos both, fun both => if_pos both⟩

/-! ## Where the flags do not agree -/

/-- A response with a plugin and an attribute, and nothing else. -/
def nativeResponse (clientFlags charsetNumber : Nat) : HandshakeResponse where
  clientFlags := clientFlags
  mariadbExtendedClientFlags := 0
  charsetNumber := charsetNumber
  user := ""
  database := ""
  authToken := []
  authPluginName := "mysql_native_password"
  connectAttributes := [("mysql_native_password", "mysql_native_password")]

/-- Its attributes, as bytes. -/
def nativeAttributes : Bytes :=
  writeLengthCodedBuffer nativeBytes ++ writeLengthCodedBuffer nativeBytes

theorem toUint32_nativeResponse (bits : clientFlags < 4294967296) :
    toUint32 (nativeResponse clientFlags charsetNumber).clientFlags = clientFlags := by
  have range : 0 ≤ (clientFlags : Int) ∧ (clientFlags : Int) < 4294967296 := by omega
  exact toUint32_eq range

theorem nativeResponse_given (bits : clientFlags < 4294967296) (charset : charsetNumber < 256)
    (ascii : AsciiCompatible runtime (runtime.charsetToEncoding charsetNumber)) :
    (nativeResponse clientFlags charsetNumber).Given runtime where
  clientFlags := by
    show -2147483648 ≤ (clientFlags : Int) ∧ (clientFlags : Int) < 4294967296
    omega
  extendedFlags := ⟨Int.le_refl 0, by simp [nativeResponse]⟩
  charsetNumber := charset
  authToken := Nat.zero_le 250
  user := ⟨[], ascii.empty⟩
  database := ⟨[], ascii.empty⟩
  connectAttributes :=
    { encodes := by
        rintro pair member
        rw [List.mem_singleton.mp member]
        exact ⟨⟨nativeBytes, ascii.native⟩, nativeBytes, ascii.native⟩
      distinct := by simp [nativeResponse] }

theorem nativeResponse_written
    (faithful : FaithfulEncoding runtime (runtime.charsetToEncoding charsetNumber))
    (ascii : AsciiCompatible runtime (runtime.charsetToEncoding charsetNumber)) :
    (nativeResponse clientFlags charsetNumber).Written runtime [] [] nativeBytes
      nativeAttributes where
  user := ascii.empty
  database := ascii.empty
  authPluginName := faithful.ascii.native.encode
  attributes := by
    show writeAttributes runtime (runtime.charsetToEncoding charsetNumber)
      [("mysql_native_password", "mysql_native_password")] = _
    rw [writeAttributes, writeLengthCodedString, ascii.native.encode]
    simp [writeAttributes, nativeAttributes, Except.map, pure, Except.pure, ok_bind]

theorem nativeResponse_readable
    (faithful : FaithfulEncoding runtime (runtime.charsetToEncoding charsetNumber))
    (ascii : AsciiCompatible runtime (runtime.charsetToEncoding charsetNumber)) :
    (nativeResponse clientFlags charsetNumber).Readable runtime serverFlags where
  unsigned := Int.natCast_nonneg clientFlags
  user := ⟨[], ascii.empty.encode, ascii.kept_empty⟩
  database := fun _ => ⟨[], ascii.empty.encode, ascii.kept_empty⟩
  authPluginName := fun _ => ⟨nativeBytes, faithful.ascii.native.encode, ascii.kept_native⟩
  connectAttributes := by
    rintro - pair member
    rw [List.mem_singleton.mp member]
    decide

theorem length_written_le (condition : Bool) (bytes : Bytes) :
    (if condition then bytes else []).length ≤ bytes.length := by
  cases condition with
  | false => exact Nat.zero_le _
  | true => exact Nat.le_refl _

theorem nativeResponse_fits
    (faithful : FaithfulEncoding runtime (runtime.charsetToEncoding charsetNumber))
    (bits : clientFlags < 4294967296) (charset : charsetNumber < 256)
    (ascii : AsciiCompatible runtime (runtime.charsetToEncoding charsetNumber))
    (secure : hasFlag clientFlags SECURE_CONNECTION = true) :
    (nativeResponse clientFlags charsetNumber).Fits runtime := by
  intro bytes bytesOk
  rw [← @toUint32_nativeResponse clientFlags charsetNumber bits] at secure
  have written := serializeResponse_ok (nativeResponse_given bits charset ascii)
    (Int.natCast_nonneg clientFlags) secure (nativeResponse_written faithful ascii)
  obtain rfl := Except.ok.inj (written.symm.trans bytesOk)
  have databaseLength := length_written_le
    (hasFlag (toUint32 (nativeResponse clientFlags charsetNumber).clientFlags) CONNECT_WITH_DB)
      ([] ++ [0])
  have pluginLength := length_written_le
    (hasFlag (toUint32 (nativeResponse clientFlags charsetNumber).clientFlags) PLUGIN_AUTH)
    (nativeBytes ++ [0])
  have attributesLength := length_written_le
    (hasFlag (toUint32 (nativeResponse clientFlags charsetNumber).clientFlags) CONNECT_ATTRS)
    (writeLengthCodedBuffer nativeAttributes)
  have pluginEq : (nativeBytes ++ [0]).length = 22 := by decide
  have attributesEq : (writeLengthCodedBuffer nativeAttributes).length = 45 := by decide
  rw [pluginEq] at pluginLength
  rw [attributesEq] at attributesLength
  simp only [List.length_append, List.length_cons, List.length_nil, optionalFields,
    HandshakeResponse.length_header, kMaxLength, nativeResponse]
    at databaseLength pluginLength attributesLength ⊢
  omega

/-- Nothing is ahead behind a text that is longer than the packet. -/
theorem ahead_of_readLengthCodedString {packet after : Packet} {byte : UInt8} {rest : Bytes}
    {text : Option String} (aheadEq : packet.ahead = byte :: rest) (small : byte.toNat < 251)
    (cut : rest.length ≤ byte.toNat)
    (run : (readLengthCodedString runtime.toDecoding encoding).run packet = .ok (text, after)) :
    after.ahead = [] := by
  have coded : packet.ahead = writeLengthCodedNumber byte.toNat ++ rest := by
    rw [aheadEq, writeLengthCodedNumber, if_pos small, toByte, UInt8.ofNat_toNat]
    rfl
  have safe : byte.toNat < 9007199254740992 := lt_trans small (by decide)
  rw [readLengthCodedString, run_bind_of_ok (readLengthCodedNumber_run _ _ coded safe)] at run
  have bufferRun :
      (readBuffer byte.toNat).run (packet.advance (lengthCodedNumberLength byte.toNat)) =
        .ok (_, (packet.advance (lengthCodedNumberLength byte.toNat)).advance byte.toNat) := rfl
  have run : StateT.run (readBuffer byte.toNat >>= _) _ = _ := run
  rw [run_bind_of_ok bufferRun, StateT.run_bind, bind_eq_ok_iff] at run
  obtain ⟨⟨value, afterDecode⟩, decodeRun, last⟩ := run
  obtain ⟨decoded, decodedOk, decodedEq⟩ := bind_eq_ok_iff.mp decodeRun
  cases decodedEq
  cases last
  rw [advance_advance, ahead_advance, aheadEq]
  have one : lengthCodedNumberLength byte.toNat = 1 := if_pos small
  rw [one, Nat.add_comm]
  exact List.drop_eq_nil_of_le (Nat.succ_le_succ cut)

/-- A loop over attributes that starts with a key longer than the packet. -/
theorem readAttributes_throws {packet : Packet} {byte : UInt8} {rest : Bytes} {keysEnd fuel : Nat}
    {attributes : Attributes} {result : Attributes × Packet} (inside : packet.offset < keysEnd)
    (aheadEq : packet.ahead = byte :: rest) (small : byte.toNat < 251)
    (cut : rest.length ≤ byte.toNat) :
    (readAttributes runtime encoding keysEnd (fuel + 1) attributes).run packet ≠ .ok result := by
  intro run
  rw [readAttributes, run_get_bind, if_pos inside, StateT.run_bind, bind_eq_ok_iff] at run
  obtain ⟨⟨key, afterKey⟩, keyRun, valueRun⟩ := run
  have nothing := ahead_of_readLengthCodedString aheadEq small cut keyRun
  have headless : readInt8.run afterKey = .ok (none, afterKey.advance 1) := by
    rw [readInt8_run, nothing]
    rfl
  have numberThrows : (readLengthCodedNumber false false).run afterKey = .error _ :=
    run_bind_of_ok headless
  have valueThrows : (readLengthCodedString runtime.toDecoding encoding).run afterKey = .error _ :=
    run_bind_of_error numberThrows
  rw [run_bind_of_error valueThrows] at valueRun
  exact absurd valueRun (by simp)

/-- What is read of that response if it comes back. -/
theorem readOptionalFields_of_roundTrips
    (faithful : FaithfulEncoding runtime (runtime.charsetToEncoding charsetNumber))
    (bits : clientFlags < 4294967296) (charset : charsetNumber < 256)
    (ascii : AsciiCompatible runtime (runtime.charsetToEncoding charsetNumber))
    (secure : inBoth clientFlags serverFlags SECURE_CONNECTION = true)
    (roundTrips : (nativeResponse clientFlags charsetNumber).RoundTrips runtime serverFlags) :
    ∃ packet fields last,
      packet.ahead = optionalFields clientFlags [] nativeBytes nativeAttributes ∧
      Whole packet ∧
      (readOptionalFields runtime (runtime.charsetToEncoding charsetNumber)
        (clientFlags &&& serverFlags)).run packet = .ok (fields, last) ∧
      (nativeResponse clientFlags charsetNumber).ReturnsFields clientFlags serverFlags fields := by
  have flagsEq := @toUint32_nativeResponse clientFlags charsetNumber bits
  have fits := nativeResponse_fits faithful bits charset ascii (inBoth_client secure)
  rw [← flagsEq] at secure
  have read := of_roundTrips faithful (nativeResponse_given bits charset ascii) fits secure
    (nativeResponse_written faithful ascii) roundTrips
  rw [flagsEq] at read
  exact read.2.2.2

/-- The first byte of a database that is not read is read as an empty name of a
plugin, or as the length of no attributes. -/
theorem not_roundTrips_of_database
    (faithful : FaithfulEncoding runtime (runtime.charsetToEncoding charsetNumber))
    (bits : clientFlags < 4294967296) (charset : charsetNumber < 256)
    (ascii : AsciiCompatible runtime (runtime.charsetToEncoding charsetNumber))
    (secure : inBoth clientFlags serverFlags SECURE_CONNECTION = true)
    (client : hasFlag clientFlags CONNECT_WITH_DB = true)
    (only : inBoth clientFlags serverFlags CONNECT_WITH_DB = false)
    (next : inBoth clientFlags serverFlags PLUGIN_AUTH = true ∨
      inBoth clientFlags serverFlags CONNECT_ATTRS = true) :
    ¬(nativeResponse clientFlags charsetNumber).RoundTrips runtime serverFlags := by
  intro roundTrips
  obtain ⟨packet, fields, last, aheadEq, whole, run, returns⟩ :=
    readOptionalFields_of_roundTrips faithful bits charset ascii secure roundTrips
  obtain ⟨afterDatabase, afterPlugin, databaseRun, pluginRun, attributesRun⟩ :=
    of_readOptionalFields run
  rw [only] at databaseRun
  obtain rfl := of_readIf_false databaseRun
  rw [optionalFields, if_pos client] at aheadEq
  cases pluginBoth : inBoth clientFlags serverFlags PLUGIN_AUTH with
  | true =>
      have emptyRun := readNullTerminatedString_run ascii.kept_empty aheadEq whole
      rw [pluginBoth, readIf, if_pos rfl, StateT.run_map, emptyRun,
        returns.authPluginName pluginBoth] at pluginRun
      have same : "" = "mysql_native_password" :=
        Option.some.inj (Prod.mk.inj (Except.ok.inj pluginRun)).1
      exact absurd same (by decide)
  | false =>
      rw [pluginBoth] at pluginRun
      obtain rfl := of_readIf_false pluginRun
      have attributesBoth := next.resolve_left (by rw [pluginBoth]; exact Bool.false_ne_true)
      rw [attributesBoth, returns.connectAttributes attributesBoth] at attributesRun
      have zeroAhead : packet.ahead = writeLengthCodedNumber 0 ++ _ := aheadEq
      have lengthRun := readLengthCodedNumber_run
        ((runtime.charsetToEncoding charsetNumber).any (· ≠ "")) false zeroAhead (by decide)
      have emptyRun : (readConnectAttributes runtime (runtime.charsetToEncoding charsetNumber)).run
          packet = .ok (.empty, packet.advance 1) := by
        rw [readConnectAttributes, run_bind_of_ok lengthRun]
        rfl
      rw [readIf, if_pos rfl, StateT.run_map, emptyRun] at attributesRun
      have same : some Attributes.empty = some (.ofList [_]) :=
        (Prod.mk.inj (Except.ok.inj attributesRun)).1
      exact absurd same (by decide)

/-- The name of a plugin that is not read is read as a length and a key that is
longer than the packet. -/
theorem not_roundTrips_of_plugin
    (faithful : FaithfulEncoding runtime (runtime.charsetToEncoding charsetNumber))
    (bits : clientFlags < 4294967296) (charset : charsetNumber < 256)
    (ascii : AsciiCompatible runtime (runtime.charsetToEncoding charsetNumber))
    (secure : inBoth clientFlags serverFlags SECURE_CONNECTION = true)
    (database : hasFlag clientFlags CONNECT_WITH_DB = true →
      inBoth clientFlags serverFlags CONNECT_WITH_DB = true)
    (client : hasFlag clientFlags PLUGIN_AUTH = true)
    (only : inBoth clientFlags serverFlags PLUGIN_AUTH = false)
    (next : inBoth clientFlags serverFlags CONNECT_ATTRS = true) :
    ¬(nativeResponse clientFlags charsetNumber).RoundTrips runtime serverFlags := by
  intro roundTrips
  obtain ⟨packet, fields, last, aheadEq, whole, run, returns⟩ :=
    readOptionalFields_of_roundTrips faithful bits charset ascii secure roundTrips
  obtain ⟨afterDatabase, afterPlugin, databaseRun, pluginRun, attributesRun⟩ :=
    of_readOptionalFields run
  have noCut : ∀ front behind : Bytes, [] = front ++ 0 :: behind →
      runtime.decode (runtime.charsetToEncoding charsetNumber) front ≠
        .ok (nativeResponse clientFlags charsetNumber).database := by
    intro front behind cut
    exact absurd cut (by simp)
  obtain ⟨-, pluginAhead, -⟩ := of_readIf noCut aheadEq inBoth_client database whole databaseRun
    returns.database
  rw [only] at pluginRun
  obtain rfl := of_readIf_false pluginRun
  rw [next, readIf, if_pos rfl, StateT.run_map] at attributesRun
  obtain ⟨⟨connectAttributes, end'⟩, attributesRun, -⟩ := map_eq_ok_iff.mp attributesRun
  rw [if_pos client, if_pos (inBoth_client next)] at pluginAhead
  have nameAhead : afterDatabase.ahead = writeLengthCodedNumber 109 ++ 121 :: (nativeBytes.drop 2 ++
      [0] ++ writeLengthCodedBuffer nativeAttributes) := pluginAhead
  have lengthRun := readLengthCodedNumber_run
    ((runtime.charsetToEncoding charsetNumber).any (· ≠ "")) false nameAhead (by decide)
  have keyAhead := ahead_advance_of_append _ nameAhead (length_writeLengthCodedNumber 109)
  rw [readConnectAttributes, run_bind_of_ok lengthRun, toNat_number, run_get_bind] at attributesRun
  exact readAttributes_throws (by simp) keyAhead (by decide) (by decide) attributesRun

/-- If the flags agree, the responses that come back are the readable ones.  All of
them come back only if the flags agree, where the encoding leaves ASCII texts as
they are. -/
theorem forall_roundTrips_iff
    (faithful : FaithfulEncoding runtime (runtime.charsetToEncoding charsetNumber))
    (bits : clientFlags < 4294967296) (charset : charsetNumber < 256)
    (secure : inBoth clientFlags serverFlags SECURE_CONNECTION = true) :
    (FlagsAgree clientFlags serverFlags →
      ∀ response : HandshakeResponse, toUint32 response.clientFlags = clientFlags →
        response.charsetNumber = charsetNumber → response.Given runtime → response.Fits runtime →
          (response.RoundTrips runtime serverFlags ↔ response.Readable runtime serverFlags)) ∧
    (AsciiCompatible runtime (runtime.charsetToEncoding charsetNumber) →
      (∀ response : HandshakeResponse, toUint32 response.clientFlags = clientFlags →
        response.charsetNumber = charsetNumber → response.Given runtime → response.Fits runtime →
          response.Readable runtime serverFlags → response.RoundTrips runtime serverFlags) →
        FlagsAgree clientFlags serverFlags) := by
  constructor
  · rintro agree response rfl rfl given fits
    exact roundTrips_iff_readable faithful given fits secure agree
  · rintro ascii all
    have native := all (nativeResponse clientFlags charsetNumber) (toUint32_nativeResponse bits) rfl
      (nativeResponse_given bits charset ascii)
      (nativeResponse_fits faithful bits charset ascii (inBoth_client secure))
      (nativeResponse_readable faithful ascii)
    have database : hasFlag clientFlags CONNECT_WITH_DB = true →
        inBoth clientFlags serverFlags CONNECT_WITH_DB = false →
          ¬(inBoth clientFlags serverFlags PLUGIN_AUTH = true ∨
            inBoth clientFlags serverFlags CONNECT_ATTRS = true) := fun client only next =>
      not_roundTrips_of_database faithful bits charset ascii secure client only next native
    constructor
    · intro client only
      obtain ⟨notPlugin, notAttributes⟩ := not_or.mp (database client only)
      exact ⟨Bool.eq_false_iff.mpr notPlugin, Bool.eq_false_iff.mpr notAttributes⟩
    · intro client only
      by_contra next
      have attributesBoth := Bool.eq_true_of_not_eq_false next
      have databaseAgrees : hasFlag clientFlags CONNECT_WITH_DB = true →
          inBoth clientFlags serverFlags CONNECT_WITH_DB = true := by
        intro databaseClient
        by_contra databaseOnly
        exact database databaseClient (Bool.eq_false_iff.mpr databaseOnly) (.inr attributesBoth)
      exact not_roundTrips_of_plugin faithful bits charset ascii secure databaseAgrees client only
        attributesBoth native

/-- A runtime with one byte for each character. -/
def latin1Runtime : Runtime :=
  { keylessRuntime with
    encode := fun _ text => .ok (text.toList.map fun char => toByte char.toNat) }

theorem asciiCompatible_latin1Runtime : AsciiCompatible latin1Runtime encoding := by
  rintro text ascii
  refine ⟨rfl, ?_⟩
  have same : ((text.toList.map fun char => toByte char.toNat).map fun byte =>
      Char.ofNat byte.toNat) = text.toList := by
    rw [List.map_map]
    refine (List.map_congr_left ?_).trans (List.map_id _)
    rintro char member
    have small : char.toNat % 256 = char.toNat :=
      Nat.mod_eq_of_lt (lt_trans (ascii char member) (by decide))
    show Char.ofNat (toByte char.toNat).toNat = char
    rw [toByte_toNat, small, Char.ofNat_toNat]
  show Except.ok (String.ofList _) = _
  rw [same, String.ofList_toList]

theorem faithful_latin1Runtime : FaithfulEncoding latin1Runtime encoding where
  latin1 := fun _ => ⟨_, rfl⟩
  ascii := asciiCompatible_latin1Runtime
  cut := by
    intro _ text front rest _ encoded decoded
    have bytesEq := congrArg List.length (Except.ok.inj encoded)
    have textEq := congrArg (·.toList.length) (Except.ok.inj decoded)
    simp only [List.length_map, List.length_append, List.length_cons, String.toList_ofList]
      at bytesEq textEq
    omega

/-- A client with a database. -/
def testdbResponse (clientFlags : Nat) : HandshakeResponse :=
  { nativeResponse clientFlags 224 with
    user := "root"
    database := "testdb" }

theorem testdbResponse_given (bits : clientFlags < 4294967296) :
    (testdbResponse clientFlags).Given latin1Runtime := by
  have latin1 : AsciiCompatible latin1Runtime (latin1Runtime.charsetToEncoding 224) :=
    asciiCompatible_latin1Runtime
  have native := nativeResponse_given bits (by decide) latin1
  exact ⟨native.clientFlags, native.extendedFlags, native.charsetNumber, native.authToken,
    ⟨_, latin1 "root" (isAscii_of_all (by decide))⟩,
    ⟨_, latin1 "testdb" (isAscii_of_all (by decide))⟩, native.connectAttributes⟩

theorem testdbResponse_readable :
    (testdbResponse clientFlags).Readable latin1Runtime serverFlags := by
  have latin1 : AsciiCompatible latin1Runtime (latin1Runtime.charsetToEncoding 224) :=
    asciiCompatible_latin1Runtime
  have native := @nativeResponse_readable latin1Runtime clientFlags serverFlags 224
    faithful_latin1Runtime latin1
  have user := latin1 "root" (isAscii_of_all (by decide))
  have database := latin1 "testdb" (isAscii_of_all (by decide))
  exact ⟨native.unsigned, ⟨_, user.encode, by decide, user.decode⟩,
    fun _ => ⟨_, database.encode, by decide, database.decode⟩, native.authPluginName,
    native.connectAttributes⟩

theorem fits_of_length {length : Nat} (short : 4 + length ≤ kMaxLength)
    (lengthOk : (response.serializeResponse runtime).map List.length = .ok length) :
    response.Fits runtime := by
  intro bytes bytesOk
  rw [bytesOk] at lengthOk
  rw [show bytes.length = length from Except.ok.inj lengthOk]
  exact short

/-- Both sides count all the fields. -/
theorem forall_roundTrips_iff_testdb :
    (testdbResponse 0x188008).RoundTrips latin1Runtime 0x188008 ∧
      FlagsAgree 0x188008 0x188008 := by
  have both := @forall_roundTrips_iff latin1Runtime 0x188008 0x188008 224 faithful_latin1Runtime
    (by decide) (by decide) (by decide)
  have agree := both.2 asciiCompatible_latin1Runtime fun response flagsEq charsetEq given fits =>
    (both.1 ⟨by decide, by decide⟩ response flagsEq charsetEq given fits).mpr
  have fits : (testdbResponse 0x188008).Fits latin1Runtime :=
    @fits_of_length _ _ 112 (by decide) (by decide)
  have comesBack := both.1 agree (testdbResponse 0x188008) (by decide) rfl
    (testdbResponse_given (by decide)) fits
  exact ⟨comesBack.mpr testdbResponse_readable, agree⟩

/-- With a server that does not count the database, it is read as the name of the
plugin. -/
theorem testdbResponse_read :
    ((testdbResponse 0x88008).toPacket latin1Runtime).bind (fun packet =>
      ((HandshakeResponse.fromPacket latin1Runtime 0x88000).run packet).map (·.1.authPluginName)) =
        .ok (some "testdb") := by
  decide

theorem not_forall_roundTrips :
    ¬∀ response : HandshakeResponse, ∀ serverFlags, response.Given latin1Runtime →
      response.Fits latin1Runtime → response.Readable latin1Runtime serverFlags →
        inBoth (toUint32 response.clientFlags) serverFlags SECURE_CONNECTION = true →
          response.RoundTrips latin1Runtime serverFlags := by
  intro all
  have fits : (testdbResponse 0x88008).Fits latin1Runtime :=
    @fits_of_length _ _ 67 (by decide) (by decide)
  obtain ⟨packet, reply, after, packetOk, replyRun, returned⟩ :=
    all (testdbResponse 0x88008) 0x88000 (testdbResponse_given (by decide)) fits
      testdbResponse_readable (by decide)
  have read := testdbResponse_read
  rw [packetOk] at read
  have read : ((HandshakeResponse.fromPacket latin1Runtime 0x88000).run packet).map _ = _ := read
  rw [replyRun] at read
  have native := returned.authPluginName (by decide)
  have different := native.symm.trans (Except.ok.inj read)
  exact absurd different (by decide)

end Mysql2.Auth

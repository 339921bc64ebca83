import Mysql2.Packets.Cursor
import Mysql2.Packets.ServerPackets

/-!
# OK packets

What a server writes into an OK packet under the capabilities that both sides have, and
what of it the driver reads, which goes by the capabilities of the server alone.
-/

namespace Mysql2.Packets

open Mysql2.Script

/-! ## What a server writes -/

/-- A length-coded number of a server. -/
def storeLength (n : Nat) : Bytes :=
  if n < 251 then [toByte n]
  else if n < 65536 then 0xfc :: writeUIntLE n 2
  else if n < 16777216 then 0xfd :: writeUIntLE n 3
  else 0xfe :: writeUIntLE n 8

/-- A length-coded string of a server. -/
def storeData (bytes : Bytes) : Bytes :=
  storeLength bytes.length ++ bytes

/-- A text in the encoding of the server, which is known: bytes that are read as the text,
and no shorter part of which is. -/
structure ServerText (config : ReadConfig) where
  bytes : Bytes
  text : String
  known : config.decode config.serverEncoding [] = .ok ""
  decodes : config.decode config.serverEncoding bytes = .ok text
  whole : ∀ part, part <:+: bytes → config.decode config.serverEncoding part = .ok text →
    part = bytes
  short : bytes.length < 9007199254740992

/-- A change of the state of a session. -/
inductive SessionTrackRecord (config : ReadConfig)
  | systemVariable (name value : ServerText config)
  | schema (name : ServerText config)
  | stateChange (changed : ServerText config)
  | gtids (ids : ServerText config)
  | other (type : UInt8) (unknown : 4 ≤ type.toNat) (payload : Bytes)

namespace SessionTrackRecord

variable {config : ReadConfig}

/-- The tag of a record. -/
def type : SessionTrackRecord config → UInt8
  | .systemVariable _ _ => 0
  | .schema _ => 1
  | .stateChange _ => 2
  | .gtids _ => 3
  | .other type _ _ => type

/-- The bytes behind the tag and the length.  Those of global transaction ids start with a
byte for their notation, of which there is one. -/
def payload : SessionTrackRecord config → Bytes
  | .systemVariable name value => storeData name.bytes ++ storeData value.bytes
  | .schema name => storeData name.bytes
  | .stateChange changed => storeData changed.bytes
  | .gtids ids => 0 :: storeData ids.bytes
  | .other _ _ payload => payload

def encode (record : SessionTrackRecord config) : Bytes :=
  record.type :: storeData record.payload

/-- A system variable named like the accessor of prototypes. -/
def NamesProto : SessionTrackRecord config → Prop
  | .systemVariable name _ => name.text = "__proto__"
  | _ => False

end SessionTrackRecord

/-- The changes that records tell, the last one of each kind. -/
structure SessionChanges where
  systemVariables : String → Option String
  schema : Option String
  gtids : List String
  trackStateChange : Option String

/-- No changes. -/
def SessionChanges.unchanged : SessionChanges :=
  ⟨fun _ => none, none, [], none⟩

/-- The changes with one more. -/
def SessionTrackRecord.apply {config : ReadConfig} (changes : SessionChanges) :
    SessionTrackRecord config → SessionChanges
  | .systemVariable name value =>
      { changes with
        systemVariables := Function.update changes.systemVariables name.text (some value.text) }
  | .schema name => { changes with schema := some name.text }
  | .stateChange changed => { changes with trackStateChange := some changed.text }
  | .gtids ids => { changes with gtids := ids.text.splitOn "," }
  | .other _ _ _ => changes

/-- What a server tells in an OK packet. -/
structure ServerOk (config : ReadConfig) where
  affectedRows : Nat
  insertId : Nat
  status : Nat
  warnings : Nat
  info : ServerText config
  records : List (SessionTrackRecord config)
  /-- Whether an empty info is left out where nothing follows it. -/
  omitsInfo : Bool
  affectedRows_lt : affectedRows < 18446744073709551616
  insertId_lt : insertId < 9223372036854775808
  status_lt : status < 65536
  warnings_lt : warnings < 65536
  records_short : (records.flatMap SessionTrackRecord.encode).length < 9007199254740992

/-- A capability that both sides have. -/
def ReadConfig.negotiated (config : ReadConfig) (client flag : Nat) : Bool :=
  hasFlag config.capabilityFlags flag && hasFlag client flag

namespace ServerOk

variable {config : ReadConfig} (client : Nat) (ok : ServerOk config)

/-- The status that a client with these flags is told. -/
def sentStatus : Option Nat :=
  if config.negotiated client PROTOCOL_41 || config.negotiated client TRANSACTIONS then
    some ok.status
  else
    none

/-- The number of warnings that it is told. -/
def sentWarnings : Option Nat :=
  if config.negotiated client PROTOCOL_41 then some ok.warnings else none

/-- Whether the records are sent. -/
def sendsRecords : Bool :=
  config.negotiated client SESSION_TRACK &&
    hasFlag ((ok.sentStatus client).getD 0) SERVER_SESSION_STATE_CHANGED

/-- The changes that it is told. -/
def sentChanges : Option SessionChanges :=
  if ok.sendsRecords client = true ∧ ok.records ≠ [] then
    some (ok.records.foldl SessionTrackRecord.apply SessionChanges.unchanged)
  else
    none

/-- The status and the warnings. -/
def statusBytes : Bytes :=
  (ok.sentStatus client).elim [] (writeUIntLE · 2) ++
    (ok.sentWarnings client).elim [] (writeUIntLE · 2)

/-- The info and the records. -/
def infoBytes : Bytes :=
  if config.negotiated client SESSION_TRACK then
    if ok.sendsRecords client then
      storeData ok.info.bytes ++ storeData (ok.records.flatMap SessionTrackRecord.encode)
    else if ok.info.bytes = [] ∧ ok.omitsInfo = true then
      []
    else
      storeData ok.info.bytes
  else
    ok.info.bytes

/-- The packet. -/
def encode : Bytes :=
  0 :: (storeLength ok.affectedRows ++ (storeLength ok.insertId ++
    (ok.statusBytes client ++ ok.infoBytes client)))

end ServerOk

/-! ## What the driver should read -/

/-- The number that a length-coded number stands for. -/
def Packet.LengthCoded.value : Packet.LengthCoded → Option Int
  | .null => none
  | .number value => some value
  | .string value => some value

/-- The changes as the driver keeps them. -/
structure StateChanges.Shows (changes : StateChanges) (session : SessionChanges) : Prop where
  systemVariables : ∀ key,
    changes.systemVariables.properties.lookup key = (session.systemVariables key).map some
  schema : changes.schema = session.schema
  gtids : changes.gtids = session.gtids
  trackStateChange : changes.trackStateChange = session.trackStateChange

/-- The header tells what the server has told. -/
structure OkPacket.Tells {config : ReadConfig} (client : Nat) (ok : ServerOk config)
    (header : OkPacket) : Prop where
  affectedRows : header.affectedRows.value = some (ok.affectedRows : Int)
  insertId : header.insertId.value = some (ok.insertId : Int)
  serverStatus : header.serverStatus = ok.sentStatus client
  warningStatus : header.warningStatus = ok.sentWarnings client
  info : header.info = ok.info.text
  stateChanges : Option.Rel StateChanges.Shows header.stateChanges (ok.sentChanges client)

/-- Wherever the packet lies in a buffer, and whatever follows it there, it is read as what
the server has told, and no further than its end. -/
def ServerOk.ReadsBack {config : ReadConfig} (client : Nat) (ok : ServerOk config) : Prop :=
  ∀ (packet : Packet) (behind : Bytes), packet.ahead = ok.encode client ++ behind →
    packet.endOffset = packet.offset + (ok.encode client).length →
      ∃ header after, (ResultSetHeader.read config).run packet = .ok (.ok header, after) ∧
        header.Tells client ok ∧ after.offset ≤ packet.endOffset

/-- The server writes the status in the form that the driver takes for negotiated. -/
structure ReadConfig.SameStatus (config : ReadConfig) (client : Nat) : Prop where
  status : hasFlag config.capabilityFlags PROTOCOL_41 = true → hasFlag client PROTOCOL_41 = true
  transactions : hasFlag config.capabilityFlags PROTOCOL_41 = false →
    hasFlag config.capabilityFlags TRANSACTIONS = true → hasFlag client TRANSACTIONS = true

/-- It writes the whole packet so. -/
structure ServerOk.SameForm {config : ReadConfig} (client : Nat) (ok : ServerOk config) : Prop
    extends config.SameStatus client where
  track : hasFlag config.capabilityFlags SESSION_TRACK = true →
    hasFlag client SESSION_TRACK = true ∨ ok.info.bytes = []

/-- So it does, and no record that it sends is about the accessor of prototypes. -/
structure ServerOk.Agrees {config : ReadConfig} (client : Nat) (ok : ServerOk config) : Prop
    extends ServerOk.SameForm client ok where
  names : ok.sendsRecords client = true → ∀ record ∈ ok.records, ¬ record.NamesProto

/-! ## Length-coded data -/

/-- What a length-coded number of a server is read as. -/
def coded (n : Nat) (bigNumberStrings signed : Bool) : Packet.LengthCoded :=
  if n < 16777216 then .number n
  else Packet.lengthCoded64 (n % 4294967296) (n / 4294967296) bigNumberStrings signed

theorem coded_of_safe {n : Nat} (safe : n < 9007199254740992) (bigNumberStrings signed : Bool) :
    coded n bigNumberStrings signed = .number n := by
  rw [coded]
  split
  · rfl
  · exact Packet.lengthCoded64_words safe bigNumberStrings signed

/-- A number is read as itself, whether as a number or as a text. -/
theorem value_coded {n : Nat} {bigNumberStrings signed : Bool}
    (inRange : signed = true → n < 9223372036854775808) :
    (coded n bigNumberStrings signed).value = some (n : Int) := by
  by_cases safe : n < 9007199254740992
  · rw [coded_of_safe safe]
    rfl
  · have notSmall : ¬ n < 16777216 := by omega
    have high : ¬ n / 4294967296 = 0 := by omega
    have unsafeHigh : ¬ n / 4294967296 < 2097152 := by omega
    have positive : ¬ (signed = true ∧ 2147483648 ≤ n / 4294967296) := by
      rintro ⟨isSigned, large⟩
      have inRange := inRange isSigned
      omega
    have words : ((n / 4294967296 : Nat) : Int) * 4294967296 + (n % 4294967296 : Nat) = n := by
      omega
    rw [coded, if_neg notSmall, Packet.lengthCoded64, if_neg high, if_neg unsafeHigh]
    simp only [if_neg positive, words]
    split
    · rfl
    · rfl

section Data

variable {packet : Packet} {rest : Bytes}

theorem readLengthCodedNumber_storeLength {n : Nat} (bigNumberStrings signed : Bool)
    (aheadEq : packet.ahead = storeLength n ++ rest) (fits : n < 18446744073709551616) :
    (Packet.readLengthCodedNumber bigNumberStrings signed).run packet =
      .ok (coded n bigNumberStrings signed, packet.advance (storeLength n).length) := by
  unfold storeLength at aheadEq ⊢
  unfold coded
  by_cases one : n < 251
  · have small : n < 16777216 := by omega
    rw [if_pos one] at aheadEq ⊢
    rw [if_pos small]
    exact Packet.readLengthCodedNumber_one _ _ aheadEq one
  rw [if_neg one] at aheadEq ⊢
  by_cases two : n < 65536
  · have small : n < 16777216 := by omega
    rw [if_pos two] at aheadEq ⊢
    rw [if_pos small]
    exact Packet.readLengthCodedNumber_two _ _ aheadEq two
  rw [if_neg two] at aheadEq ⊢
  by_cases three : n < 16777216
  · rw [if_pos three] at aheadEq ⊢
    rw [if_pos three]
    exact Packet.readLengthCodedNumber_three _ _ aheadEq three
  · rw [if_neg three] at aheadEq ⊢
    rw [if_neg three]
    exact Packet.readLengthCodedNumber_eight _ _ aheadEq fits

theorem readLength_storeLength {n : Nat} (aheadEq : packet.ahead = storeLength n ++ rest)
    (safe : n < 9007199254740992) :
    (Packet.readLengthCodedNumber false false).run packet =
      .ok (.number n, packet.advance (storeLength n).length) := by
  rw [readLengthCodedNumber_storeLength _ _ aheadEq (by omega), coded_of_safe safe]

theorem readLengthCodedString_storeData {config : ReadConfig} (text : ServerText config)
    (aheadEq : packet.ahead = storeData text.bytes ++ rest) :
    (Packet.readLengthCodedString config.toDecoding config.serverEncoding).run packet =
      .ok (some text.text, packet.advance (storeData text.bytes).length) := by
  rw [storeData, List.append_assoc] at aheadEq
  have lengthRun := readLength_storeLength aheadEq text.short
  have textAhead := Packet.ahead_advance_of_append _ aheadEq rfl
  rw [Packet.readLengthCodedString, run_bind_of_ok lengthRun]
  show StateT.run (Packet.readBuffer (Packet.LengthCoded.number text.bytes.length).toNat >>= _) _ = _
  rw [Packet.toNat_number, run_bind_of_ok (Packet.readBuffer_run textAhead),
    Packet.advance_advance, text.decodes, storeData, List.length_append]
  rfl

end Data

/-! ## The records of a session -/

namespace SessionTrackRecord

variable {config : ReadConfig}

/-- What a record makes of the changes that the driver has collected. -/
def put (changes : StateChanges) : SessionTrackRecord config → StateChanges
  | .systemVariable name value =>
      { changes with
        systemVariables := changes.systemVariables.assign name.text (some value.text) }
  | .schema name => { changes with schema := some name.text }
  | .stateChange changed => { changes with trackStateChange := some changed.text }
  | .gtids ids => { changes with gtids := ids.text.splitOn "," }
  | .other _ _ _ => changes

/-- The driver reads the bytes of a record. -/
theorem read_run (changes : StateChanges) (record : SessionTrackRecord config) {packet : Packet}
    {rest : Bytes} (aheadEq : packet.ahead = record.payload ++ rest) :
    ∃ count, (changes.read config (some record.type.toNat)).run packet =
      .ok (record.put changes, packet.advance count) := by
  cases record with
  | systemVariable name value =>
      rw [payload, List.append_assoc] at aheadEq
      have nameRun := readLengthCodedString_storeData name aheadEq
      have valueAhead := Packet.ahead_advance_of_append _ aheadEq rfl
      have valueRun := readLengthCodedString_storeData value valueAhead
      refine ⟨(storeData name.bytes).length + (storeData value.bytes).length, ?_⟩
      show StateT.run (Packet.readLengthCodedString config.toDecoding config.serverEncoding >>= _)
        packet = _
      rw [run_bind_of_ok nameRun, run_bind_of_ok valueRun, Packet.advance_advance]
      rfl
  | schema name =>
      refine ⟨(storeData name.bytes).length, ?_⟩
      show StateT.run (Packet.readLengthCodedString config.toDecoding config.serverEncoding >>= _)
        packet = _
      rw [run_bind_of_ok (readLengthCodedString_storeData name aheadEq)]
      rfl
  | stateChange changed =>
      refine ⟨(storeData changed.bytes).length, ?_⟩
      show StateT.run (Packet.readLengthCodedString config.toDecoding config.serverEncoding >>= _)
        packet = _
      rw [run_bind_of_ok (readLengthCodedString_storeData changed aheadEq)]
      rfl
  | gtids ids =>
      -- the byte for the notation is read as an empty string
      let nothing : ServerText config :=
        { bytes := []
          text := ""
          known := ids.known
          decodes := ids.known
          whole := fun part isPart _ => List.infix_nil.mp isPart
          short := by decide }
      have idsAhead : (packet.advance 1).ahead = storeData ids.bytes ++ rest :=
        Packet.ahead_advance_of_append [0] aheadEq rfl
      refine ⟨1 + (storeData ids.bytes).length, ?_⟩
      show StateT.run (Packet.readLengthCodedString config.toDecoding config.serverEncoding >>= _)
        packet = _
      rw [run_bind_of_ok (readLengthCodedString_storeData nothing aheadEq)]
      show StateT.run (Packet.readLengthCodedString config.toDecoding config.serverEncoding >>= _)
        (packet.advance 1) = _
      rw [run_bind_of_ok (readLengthCodedString_storeData ids idsAhead), Packet.advance_advance]
      rfl
  | other type unknown payload =>
      refine ⟨0, ?_⟩
      show StateT.run (StateChanges.read config changes (some type.toNat)) packet = _
      unfold StateChanges.read
      split
      case h_5 => rfl
      all_goals
        rename_i isKnown
        have isKnown := Option.some.inj isKnown
        omega

theorem length_encode (record : SessionTrackRecord config) :
    record.encode.length = 1 + (storeLength record.payload.length).length + record.payload.length := by
  rw [encode, List.length_cons, storeData, List.length_append]
  omega

theorem encode_append (record : SessionTrackRecord config) (bytes : Bytes) :
    record.encode ++ bytes =
      record.type :: (storeLength record.payload.length ++ (record.payload ++ bytes)) := by
  simp [encode, storeData]

/-- Behind a record the read position is set to the end that the record tells. -/
theorem resynchronize (record : SessionTrackRecord config) (packet : Packet) (count : Nat) :
    let behindLength := (packet.advance 1).advance (storeLength record.payload.length).length
    { behindLength.advance count with
      offset := behindLength.offset + (Packet.LengthCoded.number record.payload.length).toNat } =
        packet.advance record.encode.length := by
  rw [length_encode]
  simp [Packet.advance, Nat.add_assoc]

/-- The loop over the records reads them all, and stops where they end. -/
theorem readStateChanges_run {records : List (SessionTrackRecord config)} {changes : StateChanges}
    {packet : Packet} {rest : Bytes} {fuel : Nat}
    (aheadEq : packet.ahead = records.flatMap encode ++ rest)
    (short : (records.flatMap encode).length < 9007199254740992)
    (enough : (records.flatMap encode).length ≤ fuel) :
    (readStateChanges config (packet.offset + (records.flatMap encode).length) fuel changes).run
        packet =
      .ok (records.foldl put changes, packet.advance (records.flatMap encode).length) := by
  induction records generalizing changes packet fuel with
  | nil =>
      cases fuel with
      | zero => rfl
      | succ fuel =>
          have atEnd : ¬ packet.offset < packet.offset +
              (([] : List (SessionTrackRecord config)).flatMap encode).length :=
            Nat.lt_irrefl packet.offset
          rw [readStateChanges, run_get_bind, if_neg atEnd]
          rfl
  | cons record records ih =>
      rw [List.flatMap_cons, List.append_assoc] at aheadEq
      rw [List.flatMap_cons, List.length_append] at short enough ⊢
      have recordLength := length_encode record
      have payloadShort : record.payload.length < 9007199254740992 := by omega
      obtain ⟨fuel, rfl⟩ : ∃ less, fuel = less + 1 := ⟨fuel - 1, by omega⟩
      have inside : packet.offset <
          packet.offset + (record.encode.length + (records.flatMap encode).length) := by omega
      have behind : (packet.advance record.encode.length).ahead = records.flatMap encode ++ rest :=
        Packet.ahead_advance_of_append _ aheadEq rfl
      rw [encode_append] at aheadEq
      have lengthAhead := Packet.ahead_advance_one aheadEq
      have lengthRun := readLength_storeLength lengthAhead payloadShort
      have payloadAhead := Packet.ahead_advance_of_append _ lengthAhead rfl
      obtain ⟨count, recordRun⟩ := record.read_run changes payloadAhead
      rw [readStateChanges, run_get_bind, if_pos inside,
        run_bind_of_ok (Packet.readInt8_run_cons aheadEq), run_bind_of_ok lengthRun, run_get_bind,
        run_bind_of_ok recordRun, run_modify_bind, resynchronize]
      have later := @ih (record.put changes) _ fuel behind (by omega) (by omega)
      rw [Packet.offset_advance, Nat.add_assoc, Packet.advance_advance] at later
      exact later

end SessionTrackRecord

/-! ## What the object of system variables keeps -/

namespace SystemVariables

variable {object : SystemVariables}

/-- An object whose accessor of the prototype is in place. -/
structure Intact (object : SystemVariables) : Prop where
  inherits : object.inherits = true
  noProperty : object.properties.lookup "__proto__" = none

/-- A text assigned to the accessor is lost. -/
theorem Intact.assign_proto (intact : object.Intact) (value : String) :
    object.assign "__proto__" (some value) = object := by
  rw [assign, if_pos ⟨rfl, intact.inherits⟩, Option.isSome_some, ← intact.inherits]

theorem assign_of_ne {key : String} (notProto : key ≠ "__proto__") (value : Option String) :
    object.assign key value =
      { object with
        properties := (key, value) :: object.properties.filter fun property => property.1 ≠ key } :=
  if_neg fun isProto => notProto isProto.1

theorem lookup_filter_ne {properties : List (String × Option String)} {key other : String}
    (differ : other ≠ key) :
    (properties.filter fun property => property.1 ≠ key).lookup other = properties.lookup other := by
  induction properties with
  | nil => rfl
  | cons property properties ih =>
      by_cases sameKey : property.1 = key
      · have notOther : (other == property.1) = false := by simp [sameKey, differ]
        rw [List.filter_cons_of_neg (by simp [sameKey]), ih, List.lookup_cons, notOther]
      · rw [List.filter_cons_of_pos (by simp [sameKey]), List.lookup_cons, List.lookup_cons, ih]

theorem lookup_assign {key : String} (notProto : key ≠ "__proto__") (value : Option String)
    (other : String) :
    (object.assign key value).properties.lookup other =
      if other = key then some value else object.properties.lookup other := by
  rw [assign_of_ne notProto, List.lookup_cons]
  by_cases same : other = key
  · simp [same]
  · have differ : (other == key) = false := by simp [same]
    rw [differ, if_neg same]
    exact lookup_filter_ne same

theorem Intact.assign (intact : object.Intact) (key value : String) :
    (object.assign key (some value)).Intact := by
  by_cases isProto : key = "__proto__"
  · subst isProto
    rw [intact.assign_proto]
    exact intact
  · constructor
    · rw [assign_of_ne isProto]
      exact intact.inherits
    · rw [lookup_assign isProto, if_neg (Ne.symm isProto)]
      exact intact.noProperty

end SystemVariables

namespace SessionTrackRecord

variable {config : ReadConfig} {changes : StateChanges} {session : SessionChanges}

theorem intact_put (intact : changes.systemVariables.Intact) (record : SessionTrackRecord config) :
    (record.put changes).systemVariables.Intact := by
  cases record with
  | systemVariable name value => exact intact.assign name.text value.text
  | _ => exact intact

theorem shows_put (shows : changes.Shows session) {record : SessionTrackRecord config}
    (notProto : ¬ record.NamesProto) : (record.put changes).Shows (record.apply session) := by
  cases record with
  | systemVariable name value =>
      refine { shows with systemVariables := fun key => ?_ }
      rw [put, apply, SystemVariables.lookup_assign notProto]
      by_cases same : key = name.text
      · simp [same]
      · dsimp only
        rw [if_neg same, Function.update_of_ne same]
        exact shows.systemVariables key
  | schema name => exact { shows with schema := rfl }
  | stateChange changed => exact { shows with trackStateChange := rfl }
  | gtids ids => exact { shows with gtids := rfl }
  | other type unknown payload => exact shows

/-- The driver keeps the last of each kind. -/
theorem shows_foldl {records : List (SessionTrackRecord config)} (shows : changes.Shows session)
    (notProto : ∀ record ∈ records, ¬ record.NamesProto) :
    (records.foldl put changes).Shows (records.foldl apply session) := by
  induction records generalizing changes session with
  | nil => exact shows
  | cons record records ih =>
      obtain ⟨first, later⟩ := List.forall_mem_cons.mp notProto
      exact ih (shows_put shows first) later

theorem intact_foldl (records : List (SessionTrackRecord config))
    (intact : changes.systemVariables.Intact) :
    (records.foldl put changes).systemVariables.Intact := by
  induction records generalizing changes with
  | nil => exact intact
  | cons record records ih => exact ih (intact_put intact record)

/-- A variable that records name is among the changes. -/
theorem isSome_foldl (session : SessionChanges) {records : List (SessionTrackRecord config)}
    {key : String}
    (named : (session.systemVariables key).isSome = true ∨
      ∃ name value, .systemVariable name value ∈ records ∧ name.text = key) :
    ((records.foldl apply session).systemVariables key).isSome = true := by
  induction records generalizing session with
  | nil => simpa using named
  | cons record records ih =>
      apply ih (record.apply session)
      rcases named with before | ⟨name, value, member, isKey⟩
      · left
        cases record with
        | systemVariable name value =>
            by_cases same : key = name.text
            · simp [apply, same]
            · simpa [apply, Function.update_of_ne same] using before
        | _ => exact before
      · rcases List.mem_cons.mp member with rfl | later
        · left
          simp [apply, isKey]
        · exact .inr ⟨name, value, later, isKey⟩

end SessionTrackRecord

/-! ## Reading the packet -/

namespace ServerOk

variable {config : ReadConfig} {client : Nat} {ok : ServerOk config} {packet : Packet}
  {rest : Bytes}

theorem readInt16_writeUIntLE {n : Nat} (fits : n < 65536)
    (aheadEq : packet.ahead = writeUIntLE n 2 ++ rest) :
    Packet.readInt16.run packet = .ok (n, packet.advance 2) := by
  rw [Packet.readInt16_run aheadEq (length_writeUIntLE n 2), uintLE_writeUIntLE_of_lt fits]

/-- The driver reads the status in the form in which the server writes it. -/
theorem readStatus_run (same : config.SameStatus client)
    (aheadEq : packet.ahead = ok.statusBytes client ++ rest) :
    (OkPacket.readStatus config).run packet =
      .ok ((ok.sentStatus client, ok.sentWarnings client),
        packet.advance (ok.statusBytes client).length) := by
  by_cases protocol41 : hasFlag config.capabilityFlags PROTOCOL_41 = true
  · have both : config.negotiated client PROTOCOL_41 = true := by
      rw [ReadConfig.negotiated, protocol41, same.status protocol41]
      rfl
    have status : ok.sentStatus client = some ok.status := by simp [sentStatus, both]
    have warnings : ok.sentWarnings client = some ok.warnings := if_pos both
    have bytes : ok.statusBytes client = writeUIntLE ok.status 2 ++ writeUIntLE ok.warnings 2 := by
      rw [statusBytes, status, warnings]
      rfl
    rw [bytes, List.append_assoc] at aheadEq
    have warningsAhead := Packet.ahead_advance_of_append _ aheadEq (length_writeUIntLE ok.status 2)
    rw [OkPacket.readStatus, if_pos protocol41,
      run_bind_of_ok (readInt16_writeUIntLE ok.status_lt aheadEq),
      run_bind_of_ok (readInt16_writeUIntLE ok.warnings_lt warningsAhead), bytes, status, warnings,
      Packet.advance_advance, List.length_append, length_writeUIntLE, length_writeUIntLE]
    rfl
  · have not41 : hasFlag config.capabilityFlags PROTOCOL_41 = false := Bool.eq_false_iff.mpr protocol41
    have notBoth : config.negotiated client PROTOCOL_41 = false := by
      rw [ReadConfig.negotiated, not41, Bool.false_and]
    have warnings : ok.sentWarnings client = none := by simp [sentWarnings, notBoth]
    by_cases transactions : hasFlag config.capabilityFlags TRANSACTIONS = true
    · have both : config.negotiated client TRANSACTIONS = true := by
        rw [ReadConfig.negotiated, transactions, same.transactions not41 transactions]
        rfl
      have status : ok.sentStatus client = some ok.status := by simp [sentStatus, both]
      have bytes : ok.statusBytes client = writeUIntLE ok.status 2 := by
        rw [statusBytes, status, warnings]
        exact List.append_nil _
      rw [bytes] at aheadEq
      rw [OkPacket.readStatus, if_neg protocol41, if_pos transactions,
        run_bind_of_ok (readInt16_writeUIntLE ok.status_lt aheadEq), bytes, status, warnings,
        length_writeUIntLE]
      rfl
    · have neither : config.negotiated client TRANSACTIONS = false := by
        rw [ReadConfig.negotiated, Bool.eq_false_iff.mpr transactions, Bool.false_and]
      have status : ok.sentStatus client = none := by simp [sentStatus, notBoth, neither]
      have bytes : ok.statusBytes client = [] := by
        rw [statusBytes, status, warnings]
        rfl
      rw [OkPacket.readStatus, if_neg protocol41, if_neg transactions, bytes, status, warnings]
      rfl

/-- The changes that the driver makes of the records. -/
def readChanges (ok : ServerOk config) (client : Nat) : Option StateChanges :=
  if ok.sendsRecords client = true ∧ ok.records ≠ [] then
    some (ok.records.foldl SessionTrackRecord.put ⟨⟨[], true⟩, none, [], none⟩)
  else
    none

theorem readRecords_run (sends : ok.sendsRecords client = true)
    (aheadEq : packet.ahead = storeData (ok.records.flatMap SessionTrackRecord.encode) ++ rest)
    (inside : packet.offset < packet.endOffset) :
    (OkPacket.readStateChanges config).run packet = .ok (ok.readChanges client,
      packet.advance (storeData (ok.records.flatMap SessionTrackRecord.encode)).length) := by
  rw [storeData, List.append_assoc] at aheadEq
  have moreData : packet.haveMoreData = true := decide_eq_true inside
  have lengthRun := readLength_storeLength aheadEq ok.records_short
  have recordsAhead := Packet.ahead_advance_of_append _ aheadEq rfl
  rw [OkPacket.readStateChanges, run_get_bind, if_pos moreData, run_bind_of_ok lengthRun,
    Packet.toNat_number]
  by_cases none : ok.records = []
  · have empty : (ok.records.flatMap SessionTrackRecord.encode).length = 0 := by simp [none]
    rw [if_neg (by omega), readChanges, if_neg fun sent => sent.2 none, storeData,
      List.length_append, empty]
    rfl
  · have some : 0 < (ok.records.flatMap SessionTrackRecord.encode).length := by
      obtain ⟨record, records, isCons⟩ := List.exists_cons_of_ne_nil none
      rw [isCons, List.flatMap_cons, List.length_append, record.length_encode]
      omega
    have enough := Nat.le_add_left (ok.records.flatMap SessionTrackRecord.encode).length
      (packet.advance (storeLength
        (ok.records.flatMap SessionTrackRecord.encode).length).length).offset
    rw [if_pos some, run_get_bind]
    show StateT.run (readStateChanges config _ _ _ >>= _) _ = _
    rw [run_bind_of_ok
      (SessionTrackRecord.readStateChanges_run recordsAhead ok.records_short enough),
        readChanges, if_pos ⟨sends, none⟩, storeData,
      List.length_append, Packet.advance_advance]
    rfl

/-- The rest of the packet is read as the info. -/
theorem readString_run (aheadEq : packet.ahead = ok.info.bytes ++ rest)
    (endEq : packet.endOffset = packet.offset + ok.info.bytes.length) :
    (Packet.readString config.toDecoding config.serverEncoding).run packet =
      .ok (ok.info.text, packet.advance ok.info.bytes.length) := by
  have lengthEq : packet.endOffset - packet.offset = ok.info.bytes.length := by omega
  rw [Packet.readString, run_get_bind, lengthEq, run_bind_of_ok (Packet.readBuffer_run aheadEq),
    ok.info.decodes]
  rfl

/-- Where nothing is ahead, the empty info is read. -/
theorem readInfo_run_of_empty {status : Option Nat} (empty : ok.info.bytes = [])
    (endEq : packet.endOffset = packet.offset) :
    (OkPacket.readInfo config status).run packet = .ok ((some ok.info.text, none), packet) := by
  have noMore : ¬ (hasFlag config.capabilityFlags SESSION_TRACK && packet.haveMoreData) = true := by
    simp [Packet.haveMoreData, endEq]
  have aheadEq : packet.ahead = ok.info.bytes ++ packet.ahead := by
    rw [empty]
    rfl
  have readRun := ok.readString_run aheadEq (by rw [empty, endEq]; rfl)
  rw [OkPacket.readInfo, run_get_bind, if_neg noMore, run_bind_of_ok readRun, empty]
  rfl

theorem length_storeLength_pos (n : Nat) : 0 < (storeLength n).length := by
  unfold storeLength
  repeat' split
  all_goals simp

theorem length_storeData_pos (bytes : Bytes) : 0 < (storeData bytes).length := by
  have positive := length_storeLength_pos bytes.length
  rw [storeData, List.length_append]
  omega

/-- The driver reads the info in the form in which the server writes it. -/
theorem readInfo_run (same : ok.SameForm client)
    (aheadEq : packet.ahead = ok.infoBytes client ++ rest)
    (endEq : packet.endOffset = packet.offset + (ok.infoBytes client).length) :
    (OkPacket.readInfo config (ok.sentStatus client)).run packet =
      .ok ((some ok.info.text, ok.readChanges client),
        packet.advance (ok.infoBytes client).length) := by
  by_cases both : config.negotiated client SESSION_TRACK = true
  · have server : hasFlag config.capabilityFlags SESSION_TRACK = true :=
      (Bool.and_eq_true_iff.mp both).1
    by_cases sends : ok.sendsRecords client = true
    · have bytes : ok.infoBytes client = storeData ok.info.bytes ++
          storeData (ok.records.flatMap SessionTrackRecord.encode) := by
        rw [infoBytes, if_pos both, if_pos sends]
      have infoPositive := length_storeData_pos ok.info.bytes
      have recordsPositive := length_storeData_pos (ok.records.flatMap SessionTrackRecord.encode)
      have changed : hasFlag ((ok.sentStatus client).getD 0) SERVER_SESSION_STATE_CHANGED = true :=
        (Bool.and_eq_true_iff.mp sends).2
      rw [bytes, List.append_assoc] at aheadEq
      rw [bytes, List.length_append] at endEq ⊢
      have moreData : (hasFlag config.capabilityFlags SESSION_TRACK && packet.haveMoreData) = true := by
        simp [server, Packet.haveMoreData]
        omega
      have recordsAhead := Packet.ahead_advance_of_append _ aheadEq rfl
      have inside : (packet.advance (storeData ok.info.bytes).length).offset <
          (packet.advance (storeData ok.info.bytes).length).endOffset := by
        rw [Packet.offset_advance, Packet.endOffset_advance]
        omega
      rw [OkPacket.readInfo, run_get_bind, if_pos moreData,
        run_bind_of_ok (readLengthCodedString_storeData ok.info aheadEq), if_pos changed,
        run_bind_of_ok (readRecords_run sends recordsAhead inside), Packet.advance_advance]
      rfl
    · have noChanges : ok.readChanges client = none := if_neg fun sent => sends sent.1
      have unchanged : ¬ hasFlag ((ok.sentStatus client).getD 0) SERVER_SESSION_STATE_CHANGED = true :=
        fun changed => sends (Bool.and_eq_true_iff.mpr ⟨both, changed⟩)
      by_cases omitted : ok.info.bytes = [] ∧ ok.omitsInfo = true
      · have bytes : ok.infoBytes client = [] := by
          rw [infoBytes, if_pos both, if_neg sends, if_pos omitted]
        rw [bytes] at endEq ⊢
        rw [readInfo_run_of_empty omitted.1 endEq, noChanges]
        rfl
      · have bytes : ok.infoBytes client = storeData ok.info.bytes := by
          rw [infoBytes, if_pos both, if_neg sends, if_neg omitted]
        have infoPositive := length_storeData_pos ok.info.bytes
        rw [bytes] at aheadEq endEq ⊢
        have moreData :
            (hasFlag config.capabilityFlags SESSION_TRACK && packet.haveMoreData) = true := by
          simp [server, Packet.haveMoreData]
          omega
        rw [OkPacket.readInfo, run_get_bind, if_pos moreData,
          run_bind_of_ok (readLengthCodedString_storeData ok.info aheadEq), if_neg unchanged,
          noChanges]
        rfl
  · have bytes : ok.infoBytes client = ok.info.bytes := if_neg both
    have noChanges : ok.readChanges client = none :=
      if_neg fun sent => both (Bool.and_eq_true_iff.mp sent.1).1
    rw [bytes] at aheadEq endEq ⊢
    by_cases server : hasFlag config.capabilityFlags SESSION_TRACK = true
    · rcases same.track server with isClient | empty
      · exact absurd (Bool.and_eq_true_iff.mpr ⟨server, isClient⟩) both
      · rw [empty] at endEq ⊢
        rw [readInfo_run_of_empty empty endEq, noChanges]
        rfl
    · have noTrack : ¬ (hasFlag config.capabilityFlags SESSION_TRACK && packet.haveMoreData) = true :=
        fun both => server (Bool.and_eq_true_iff.mp both).1
      rw [OkPacket.readInfo, run_get_bind, if_neg noTrack,
        run_bind_of_ok (ok.readString_run aheadEq endEq), noChanges]
      rfl

/-- The header that the driver makes of the packet. -/
def header (ok : ServerOk config) (client : Nat) : OkPacket where
  affectedRows := coded ok.affectedRows config.bigNumberStrings false
  insertId := coded ok.insertId config.bigNumberStrings true
  serverStatus := ok.sentStatus client
  warningStatus := ok.sentWarnings client
  info := ok.info.text
  stateChanges := ok.readChanges client
  changedRows := changedRows ok.info.text

/-- The numbers at the start are read, whatever the form of the rest. -/
theorem read_numbers {γ : Type} (next : Packet.LengthCoded → Packet.LengthCoded → Reader γ)
    (aheadEq : packet.ahead = storeLength ok.affectedRows ++ (storeLength ok.insertId ++ rest)) :
    (do
      let affectedRows ← Packet.readLengthCodedNumber config.bigNumberStrings false
      let insertId ← Packet.readLengthCodedNumber config.bigNumberStrings true
      next affectedRows insertId).run packet =
    (next (coded ok.affectedRows config.bigNumberStrings false)
      (coded ok.insertId config.bigNumberStrings true)).run
        (packet.advance ((storeLength ok.affectedRows).length + (storeLength ok.insertId).length)) := by
  have insertIdAhead := Packet.ahead_advance_of_append _ aheadEq rfl
  have insertId_lt := ok.insertId_lt
  rw [run_bind_of_ok (readLengthCodedNumber_storeLength _ _ aheadEq ok.affectedRows_lt),
    run_bind_of_ok (readLengthCodedNumber_storeLength _ _ insertIdAhead (by omega)),
    Packet.advance_advance]

/-- Behind the marker the fields are read. -/
theorem read_marker (aheadEq : packet.ahead = 0 :: rest) :
    (ResultSetHeader.read config).run packet =
      ((OkPacket.read config).run (packet.advance 1)).map fun read => (.ok read.1, read.2) := by
  have isOk : ¬ packet.peekByte ≠ some 0 := by
    rw [Packet.peekByte_eq, aheadEq]
    exact fun differ => differ rfl
  rw [ResultSetHeader.read, run_get_bind, if_neg isOk, run_bind_of_ok (Packet.skip_run packet 1)]
  cases ran : (OkPacket.read config).run (packet.advance 1) with
  | error error => exact run_bind_of_error ran
  | ok read => exact run_bind_of_ok ran

theorem length_encode (ok : ServerOk config) (client : Nat) :
    (ok.encode client).length = 1 + ((storeLength ok.affectedRows).length +
      (storeLength ok.insertId).length) + (ok.statusBytes client).length +
        (ok.infoBytes client).length := by
  simp only [encode, List.length_append, List.length_cons]
  omega

/-- A packet in the form that the driver reads is read to its end. -/
theorem read_run (same : ok.SameForm client) (aheadEq : packet.ahead = ok.encode client ++ rest)
    (endEq : packet.endOffset = packet.offset + (ok.encode client).length) :
    (ResultSetHeader.read config).run packet =
      .ok (.ok (ok.header client), packet.advance (ok.encode client).length) := by
  have encodeLength := ok.length_encode client
  simp only [encode, List.append_assoc, List.cons_append] at aheadEq
  have numbersAhead := Packet.ahead_advance_one aheadEq
  have statusAhead := Packet.ahead_advance_of_append (storeLength ok.affectedRows ++
    storeLength ok.insertId) (by rw [numbersAhead, List.append_assoc]) List.length_append
  have infoAhead := Packet.ahead_advance_of_append _ statusAhead rfl
  rw [read_marker aheadEq, OkPacket.read, read_numbers _ numbersAhead,
    run_bind_of_ok (readStatus_run same.toSameStatus statusAhead),
    run_bind_of_ok (readInfo_run same infoAhead (by
      simp only [Packet.offset_advance, Packet.endOffset_advance]
      omega)), encodeLength]
  simp only [Packet.advance_advance]
  rfl

/-- The driver makes of the records what they tell. -/
theorem shows_readChanges
    (names : ok.sendsRecords client = true → ∀ record ∈ ok.records, ¬ record.NamesProto) :
    Option.Rel StateChanges.Shows (ok.readChanges client) (ok.sentChanges client) := by
  rw [readChanges, sentChanges]
  by_cases sends : ok.sendsRecords client = true ∧ ok.records ≠ []
  · rw [if_pos sends, if_pos sends]
    have nothing : StateChanges.Shows ⟨⟨[], true⟩, none, [], none⟩ SessionChanges.unchanged :=
      { systemVariables := fun _ => rfl
        schema := rfl
        gtids := rfl
        trackStateChange := rfl }
    exact .some (SessionTrackRecord.shows_foldl nothing (names sends.1))
  · rw [if_neg sends, if_neg sends]
    exact .none

theorem readsBack_of_agrees (agrees : ok.Agrees client) : ok.ReadsBack client := by
  intro packet behind aheadEq endEq
  refine ⟨ok.header client, packet.advance (ok.encode client).length,
    read_run agrees.toSameForm aheadEq endEq, ?_, Nat.le_of_eq endEq.symm⟩
  exact
    { affectedRows := value_coded fun isSigned => nomatch isSigned
      insertId := value_coded fun _ => ok.insertId_lt
      serverStatus := rfl
      warningStatus := rfl
      info := rfl
      stateChanges := shows_readChanges agrees.names }

/-! ### What a form that the driver does not expect leads to -/

/-- Which fields the status has is up to the capabilities of the server. -/
theorem readStatus_form {status : Option Nat × Option Nat} {after : Packet}
    (run : (OkPacket.readStatus config).run packet = .ok (status, after)) :
    status.1.isSome = (hasFlag config.capabilityFlags PROTOCOL_41 ||
        hasFlag config.capabilityFlags TRANSACTIONS) ∧
      status.2.isSome = hasFlag config.capabilityFlags PROTOCOL_41 := by
  rw [OkPacket.readStatus] at run
  by_cases protocol41 : hasFlag config.capabilityFlags PROTOCOL_41 = true
  · rw [if_pos protocol41, StateT.run_bind, bind_eq_ok_iff] at run
    obtain ⟨⟨serverStatus, behind⟩, -, run⟩ := run
    obtain ⟨⟨warningStatus, behindWarnings⟩, -, last⟩ := bind_eq_ok_iff.mp run
    cases last
    rw [protocol41]
    exact ⟨rfl, rfl⟩
  · rw [if_neg protocol41] at run
    rw [Bool.eq_false_iff.mpr protocol41]
    by_cases transactions : hasFlag config.capabilityFlags TRANSACTIONS = true
    · rw [if_pos transactions, StateT.run_bind, bind_eq_ok_iff] at run
      obtain ⟨⟨serverStatus, behind⟩, -, last⟩ := run
      cases last
      rw [transactions]
      exact ⟨rfl, rfl⟩
    · rw [if_neg transactions] at run
      cases run
      rw [Bool.eq_false_iff.mpr transactions]
      exact ⟨rfl, rfl⟩

/-- How a packet that is read was read. -/
theorem read_eq_ok {header : OkPacket} {after : Packet}
    (aheadEq : packet.ahead = storeLength ok.affectedRows ++ (storeLength ok.insertId ++ rest))
    (run : (OkPacket.read config).run packet = .ok (header, after)) :
    ∃ behindStatus, (OkPacket.readStatus config).run (packet.advance
        ((storeLength ok.affectedRows).length + (storeLength ok.insertId).length)) =
          .ok ((header.serverStatus, header.warningStatus), behindStatus) ∧
      (OkPacket.readInfo config header.serverStatus).run behindStatus =
        .ok ((some header.info, header.stateChanges), after) := by
  rw [OkPacket.read, read_numbers _ aheadEq, StateT.run_bind, bind_eq_ok_iff] at run
  obtain ⟨⟨⟨serverStatus, warningStatus⟩, behindStatus⟩, statusRun, run⟩ := run
  obtain ⟨⟨⟨info, stateChanges⟩, behindInfo⟩, infoRun, last⟩ := bind_eq_ok_iff.mp run
  cases info with
  | none => cases last
  | some info =>
      cases last
      exact ⟨behindStatus, statusRun, infoRun⟩

/-- The packet alone in a buffer. -/
def alone (ok : ServerOk config) (client : Nat) : Packet :=
  .new 0 ([0, 0, 0, 0] ++ ok.encode client) 0 (4 + (ok.encode client).length)

theorem ahead_alone : (ok.alone client).ahead = ok.encode client ++ [] := by
  rw [List.append_nil]
  exact Packet.ahead_new 0 _ _ _ rfl

/-- A packet that is read back, alone in a buffer. -/
theorem ReadsBack.alone (readsBack : ok.ReadsBack client) :
    ∃ header after, (OkPacket.read config).run ((ok.alone client).advance 1) = .ok (header, after) ∧
      header.Tells client ok := by
  obtain ⟨header, after, run, tells, -⟩ := readsBack (ok.alone client) [] ahead_alone rfl
  have marker : (ok.alone client).ahead = 0 :: _ := ahead_alone
  rw [read_marker marker] at run
  obtain ⟨⟨read, behind⟩, readRun, same⟩ := map_eq_ok_iff.mp run
  cases same
  exact ⟨read, behind, readRun, tells⟩

/-- An info that is read as a length-coded text is not read as itself. -/
theorem info_ne_of_track {header : OkPacket} {after : Packet}
    (server : hasFlag config.capabilityFlags SESSION_TRACK = true)
    (aheadEq : packet.ahead = ok.info.bytes) (inside : packet.offset < packet.endOffset)
    (run : (OkPacket.readInfo config header.serverStatus).run packet =
      .ok ((some header.info, header.stateChanges), after)) :
    header.info ≠ ok.info.text ∨ ok.info.bytes = [] := by
  by_cases empty : ok.info.bytes = []
  · exact .inr empty
  left
  intro same
  have moreData : (hasFlag config.capabilityFlags SESSION_TRACK && packet.haveMoreData) = true := by
    simp [server, Packet.haveMoreData, inside]
  rw [OkPacket.readInfo, run_get_bind, if_pos moreData, StateT.run_bind, bind_eq_ok_iff] at run
  obtain ⟨⟨info, behind⟩, infoRun, rest⟩ := run
  have isInfo : info = some header.info := by
    split at rest
    · obtain ⟨⟨changes, behindChanges⟩, -, last⟩ := bind_eq_ok_iff.mp rest
      exact congrArg (fun read => read.1.1) (Except.ok.inj last)
    · exact congrArg (fun read => read.1.1) (Except.ok.inj rest)
  rw [isInfo] at infoRun
  obtain ⟨part, isPart, decodes⟩ := Packet.readLengthCodedString_part infoRun
  rw [aheadEq] at isPart
  rw [same] at decodes
  have isWhole := ok.info.whole part (isPart.trans (List.drop_suffix 1 _).isInfix) decodes
  have shorter := isPart.length_le
  have positive := List.length_pos_iff.mpr empty
  rw [isWhole, List.length_drop] at shorter
  omega

theorem ReadsBack.sameForm (readsBack : ok.ReadsBack client) : ok.SameForm client := by
  obtain ⟨header, after, run, tells⟩ := readsBack.alone
  have fieldsAhead : ((ok.alone client).advance 1).ahead = storeLength ok.affectedRows ++
      (storeLength ok.insertId ++ (ok.statusBytes client ++ ok.infoBytes client)) := by
    have marker : (ok.alone client).ahead = 0 :: _ := ahead_alone
    rw [Packet.ahead_advance_one marker]
    exact List.append_nil _
  obtain ⟨behindStatus, statusRun, infoRun⟩ := read_eq_ok fieldsAhead run
  have same : config.SameStatus client := by
    obtain ⟨hasStatus, hasWarnings⟩ := readStatus_form statusRun
    rw [tells.serverStatus, sentStatus] at hasStatus
    rw [tells.warningStatus, sentWarnings] at hasWarnings
    constructor
    · intro server
      rw [server] at hasWarnings
      by_cases both : config.negotiated client PROTOCOL_41 = true
      · exact (Bool.and_eq_true_iff.mp both).2
      · rw [if_neg both] at hasWarnings
        cases hasWarnings
    · intro not41 server
      rw [not41, server, ReadConfig.negotiated, not41, Bool.false_and, Bool.false_or] at hasStatus
      by_cases both : config.negotiated client TRANSACTIONS = true
      · exact (Bool.and_eq_true_iff.mp both).2
      · rw [if_neg both] at hasStatus
        cases hasStatus
  refine ⟨same, fun server => ?_⟩
  by_cases isClient : hasFlag client SESSION_TRACK = true
  · exact .inl isClient
  -- the driver takes the first byte of the info for its length
  right
  have notBoth : ¬ config.negotiated client SESSION_TRACK = true :=
    fun both => isClient (Bool.and_eq_true_iff.mp both).2
  have infoEq : ok.infoBytes client = ok.info.bytes := if_neg notBoth
  have statusAhead := Packet.ahead_advance_of_append (storeLength ok.affectedRows ++
    storeLength ok.insertId) (by rw [fieldsAhead, List.append_assoc]) List.length_append
  rw [readStatus_run same statusAhead] at statusRun
  obtain rfl := congrArg Prod.snd (Except.ok.inj statusRun)
  have infoAhead := Packet.ahead_advance_of_append _ statusAhead rfl
  rw [infoEq] at infoAhead
  by_cases empty : ok.info.bytes = []
  · exact empty
  have encodeLength := ok.length_encode client
  rw [infoEq] at encodeLength
  have positive := List.length_pos_iff.mpr empty
  have endEq : (ok.alone client).endOffset =
      (ok.alone client).offset + (ok.encode client).length := rfl
  rcases info_ne_of_track server infoAhead (by
    simp only [Packet.offset_advance, Packet.endOffset_advance]
    omega) infoRun with differ | empty
  · exact absurd tells.info differ
  · exact empty

theorem ReadsBack.names (readsBack : ok.ReadsBack client) (sends : ok.sendsRecords client = true) :
    ∀ record ∈ ok.records, ¬ record.NamesProto := by
  intro record member isProto
  obtain ⟨header, after, run, tells, -⟩ := readsBack (ok.alone client) [] ahead_alone rfl
  rw [read_run readsBack.sameForm ahead_alone rfl] at run
  cases run
  have some : ok.sendsRecords client = true ∧ ok.records ≠ [] :=
    ⟨sends, List.ne_nil_of_mem member⟩
  have shown := tells.stateChanges
  rw [sentChanges, if_pos some] at shown
  have read : (ok.header client).stateChanges =
      .some (ok.records.foldl SessionTrackRecord.put ⟨⟨[], true⟩, none, [], none⟩) := if_pos some
  rw [read] at shown
  cases shown with
  | some shows =>
      let nothing : StateChanges := ⟨⟨[], true⟩, none, [], none⟩
      have intact : nothing.systemVariables.Intact := ⟨rfl, rfl⟩
      have lost := (SessionTrackRecord.intact_foldl ok.records intact).noProperty
      rw [shows.systemVariables "__proto__"] at lost
      cases record with
      | systemVariable name value =>
          have told := SessionTrackRecord.isSome_foldl .unchanged (.inr ⟨name, value, member, isProto⟩)
          rw [Option.map_eq_none_iff.mp lost] at told
          cases told
      | _ => exact isProto

/-- A packet is read back exactly if the server writes it in the form that the driver takes
for negotiated, and no record that it sends is about the accessor of prototypes. -/
theorem readsBack_iff (client : Nat) (ok : ServerOk config) :
    ok.ReadsBack client ↔ ok.Agrees client := by
  constructor
  · intro readsBack
    exact { readsBack.sameForm with names := readsBack.names }
  · exact readsBack_of_agrees

/-! ### An update whose client does not track the session -/

/-- A connection whose server tracks sessions, with texts of one byte a character. -/
def tracking : ReadConfig where
  decode _ bytes := .ok (String.ofList (bytes.map fun byte => Char.ofNat byte.toNat))
  errorCodeToName _ := none
  charsetToEncoding _ := none
  clientEncoding := some "latin1"
  serverEncoding := some "latin1"
  capabilityFlags := 0x800200
  bigNumberStrings := false
  mariadbExtendedMetadata := false

/-- The text of some bytes. -/
def tracking.text (bytes : Bytes) (short : bytes.length < 9007199254740992) :
    ServerText tracking where
  bytes := bytes
  text := String.ofList (bytes.map fun byte => Char.ofNat byte.toNat)
  known := rfl
  decodes := rfl
  whole := by
    intro part isPart sameText
    have lists := String.ofList_injective (Except.ok.inj sameText)
    have lengths := congrArg List.length lists
    rw [List.length_map, List.length_map] at lengths
    exact isPart.eq_of_length lengths
  short := short

/-- `Rows matched: 1` behind an update. -/
def updated : ServerOk tracking where
  affectedRows := 1
  insertId := 0
  status := 2
  warnings := 0
  info := tracking.text [82, 111, 119, 115, 32, 109, 97, 116, 99, 104, 101, 100, 58, 32, 49] (by decide)
  records := []
  omitsInfo := true
  affectedRows_lt := by decide
  insertId_lt := by decide
  status_lt := by decide
  warnings_lt := by decide
  records_short := by decide

/-- A client without `SESSION_TRACK` does not read it back. -/
theorem updated_not_readsBack : ¬ updated.ReadsBack 0x200 := by
  intro readsBack
  rcases readsBack.sameForm.track rfl with isClient | empty
  · exact absurd isClient (by decide)
  · exact absurd empty (by decide)

end ServerOk

end Mysql2.Packets

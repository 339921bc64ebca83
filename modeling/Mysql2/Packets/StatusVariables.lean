import Mysql2.Packets.BinlogQueryStatusVars
import Mysql2.Packets.LengthCoded

/-!
# Status variables as they are sent

Where every key has a case of the documented size, the parser is at the start of a variable before
each iteration.  One variable without such a case is enough to lose the start of the next.
-/

namespace Mysql2.Packets

open Mysql2.Script

/-! ## What a server sends -/

/-- A text whose length takes one byte. -/
structure ShortText where
  string : JsString
  wellFormed : IsWellFormed string
  short : utf8ByteLength string < 256

/-- Names of databases, few enough to be sent. -/
structure DbNames where
  names : List JsString
  wellFormed : ∀ name ∈ names, IsWellFormed name
  noZero : ∀ name ∈ names, ∀ unit ∈ name, unit ≠ 0
  few : names.length < 254

/-- The documented variables with their values. -/
inductive StatusVariable
  | flags2 (flags : UInt32)
  | sqlMode (mode : UInt64)
  | catalog (name : ShortText)
  | autoIncrement (increment offset : UInt16)
  | charset (client connection server : UInt16)
  | timeZone (name : ShortText)
  | catalogNz (name : ShortText)
  | lcTimeNames (code : UInt16)
  | charsetDatabase (code : UInt16)
  | tableMapForUpdate (first second : UInt32)
  | masterDataWritten (size : UInt32)
  | invokers (username hostname : ShortText)
  | updatedDbNames (names : DbNames)
  /-- The mark of names that are too many to be sent. -/
  | tooManyDbNames
  | microseconds (value : Fin 16777216)

/-- The bytes of a text, behind their number. -/
def ShortText.encode (text : ShortText) : Bytes :=
  toByte (utf8 text.string).length :: utf8 text.string

namespace StatusVariable

/-- The documented key. -/
def key : StatusVariable → Nat
  | flags2 _ => 0
  | sqlMode _ => 1
  | catalog _ => 2
  | autoIncrement _ _ => 3
  | charset _ _ _ => 4
  | timeZone _ => 5
  | catalogNz _ => 6
  | lcTimeNames _ => 7
  | charsetDatabase _ => 8
  | tableMapForUpdate _ _ => 9
  | masterDataWritten _ => 10
  | invokers _ _ => 11
  | updatedDbNames _ | tooManyDbNames => 12
  | microseconds _ => 13

/-- The documented form of the value. -/
def value : StatusVariable → Bytes
  | flags2 flags => writeUIntLE flags.toNat 4
  | sqlMode mode => writeUIntLE mode.toNat 8
  | catalog name => name.encode ++ [0]
  | autoIncrement increment offset =>
      writeUIntLE increment.toNat 2 ++ writeUIntLE offset.toNat 2
  | charset client connection server =>
      writeUIntLE client.toNat 2 ++ (writeUIntLE connection.toNat 2 ++ writeUIntLE server.toNat 2)
  | timeZone name => name.encode
  | catalogNz name => name.encode
  | lcTimeNames code => writeUIntLE code.toNat 2
  | charsetDatabase code => writeUIntLE code.toNat 2
  | tableMapForUpdate first second => writeUIntLE first.toNat 4 ++ writeUIntLE second.toNat 4
  | masterDataWritten size => writeUIntLE size.toNat 4
  | invokers username hostname => username.encode ++ hostname.encode
  | updatedDbNames names =>
      toByte names.names.length :: names.names.flatMap fun name => utf8 name ++ [0]
  | tooManyDbNames => [254]
  | microseconds value => writeUIntLE value 3

/-- A variable in the form of its documentation. -/
def encode (var : StatusVariable) : Bytes :=
  toByte var.key :: var.value

/-- Variables one behind the other. -/
def encodeAll (vars : List StatusVariable) : Bytes :=
  vars.flatMap encode

end StatusVariable

/-- The object has the value of a variable.  There is no property for `AUTO_INCREMENT`. -/
def StatusVars.Shows (result : StatusVars) : StatusVariable → Prop
  | .flags2 flags => result.flags = some flags.toNat
  | .sqlMode mode => result.sqlMode = some mode.toNat
  | .catalog name => result.catalog = some name.string
  | .autoIncrement _ _ => False
  | .charset client connection server =>
      result.clientCharset = some client.toNat ∧
        result.connectionCollation = some connection.toNat ∧
          result.serverCharset = some server.toNat
  | .timeZone name => result.timeZone = some name.string
  | .catalogNz name => result.catalogNz = some name.string
  | .lcTimeNames code => result.lcTimeNames = some code.toNat
  | .charsetDatabase code => result.schemaCharset = some code.toNat
  | .tableMapForUpdate first second =>
      result.mapForUpdate1 = some first.toNat ∧ result.mapForUpdate2 = some second.toNat
  | .masterDataWritten size => result.masterDataWritten = some size.toNat
  | .invokers username hostname =>
      result.invokerUsername = some username.string ∧
        result.invokerHostname = some hostname.string
  | .updatedDbNames names => result.updatedDBs = some names.names
  | .tooManyDbNames => True
  | .microseconds value => result.microseconds = some (value.val : Int)

/-- The last variable with its key. -/
def StatusVariable.IsLast (vars : List StatusVariable) (var : StatusVariable) : Prop :=
  ∃ before after, vars = before ++ var :: after ∧
    ∀ later ∈ after, later.key ≠ var.key

/-- The variables are consumed one by one, each with its documented size, and the object that is
returned has the last value of each. -/
structure StatusVariable.ParsedRight (vars : List StatusVariable) : Prop where
  consumed : ∀ count ≤ vars.length, ∃ result,
    iterations (encodeAll vars) count =
      .ok ⟨(encodeAll (vars.take count)).length, result⟩
  shown : ∃ result, parseStatusVars (encodeAll vars) = .ok result ∧
    ∀ var, IsLast vars var → result.Shows var

/-! ## Bytes at an offset -/

/-- The buffer has the bytes at the offset. -/
def Lies (buffer : Bytes) (offset : Nat) (bytes : Bytes) : Prop :=
  bytes <+: buffer.drop offset

section Lies

variable {buffer bytes more : Bytes} {offset : Nat}

theorem Lies.left (lies : Lies buffer offset (bytes ++ more)) : Lies buffer offset bytes :=
  (List.prefix_append bytes more).trans lies

theorem Lies.right (lies : Lies buffer offset (bytes ++ more)) :
    Lies buffer (offset + bytes.length) more := by
  obtain ⟨rest, restEq⟩ := lies
  refine ⟨rest, ?_⟩
  rw [← List.drop_drop, ← restEq, List.append_assoc, List.drop_left]

theorem Lies.tail {byte : UInt8} (lies : Lies buffer offset (byte :: bytes)) :
    Lies buffer (offset + 1) bytes :=
  Lies.right (show Lies buffer offset ([byte] ++ bytes) from lies)

theorem Lies.length_le (lies : Lies buffer offset bytes) (nonempty : bytes ≠ []) :
    offset + bytes.length ≤ buffer.length := by
  have positive := List.length_pos_iff.mpr nonempty
  have shorter := List.IsPrefix.length_le lies
  rw [List.length_drop] at shorter
  omega

theorem Lies.getElem? {byte : UInt8} (lies : Lies buffer offset (byte :: bytes)) :
    buffer[offset]? = some byte := by
  obtain ⟨rest, restEq⟩ := lies
  rw [← List.head?_drop, ← restEq]
  rfl

theorem Lies.byteAt {byte : UInt8} (lies : Lies buffer offset (byte :: bytes)) :
    byteAt buffer offset = byte.toNat := by
  rw [Packets.byteAt, List.getD_eq_getElem?_getD, lies.getElem?]
  rfl

theorem Lies.slice (lies : Lies buffer offset bytes) :
    slice buffer offset (offset + bytes.length) = bytes := by
  obtain ⟨rest, restEq⟩ := lies
  rw [Packets.slice, ← restEq, Nat.add_sub_cancel_left, List.take_left]

theorem readUIntLE_of_lies {width n : Nat} (fits : n < 256 ^ width) (positive : 0 < width)
    (lies : Lies buffer offset (writeUIntLE n width)) : readUIntLE width buffer offset = .ok n := by
  have nonempty : writeUIntLE n width ≠ [] :=
    List.ne_nil_of_length_pos (by rwa [length_writeUIntLE])
  have inside := lies.length_le nonempty
  have bytesEq := lies.slice
  rw [length_writeUIntLE] at inside bytesEq
  rw [readUIntLE, if_pos inside, bytesEq, uintLE_writeUIntLE_of_lt fits]

theorem readUInt16LE_of_lies (n : UInt16) (lies : Lies buffer offset (writeUIntLE n.toNat 2)) :
    readUInt16LE buffer offset = .ok n.toNat :=
  readUIntLE_of_lies n.toNat_lt (by decide) lies

theorem readUInt32LE_of_lies (n : UInt32) (lies : Lies buffer offset (writeUIntLE n.toNat 4)) :
    readUInt32LE buffer offset = .ok n.toNat :=
  readUIntLE_of_lies n.toNat_lt (by decide) lies

theorem readText_of_lies (text : ShortText) (lies : Lies buffer offset text.encode) :
    readText buffer offset = (text.string, offset + text.encode.length) := by
  have lengthEq : (toByte (utf8 text.string).length).toNat = (utf8 text.string).length :=
    toNat_toByte_of_lt (by rw [length_utf8]; exact text.short)
  have decoded : utf8Slice (utf8 text.string) = text.string :=
    (utf8Slice_utf8 _).trans text.wellFormed
  rw [readText, lies.getElem?]
  dsimp only
  rw [lengthEq, lies.tail.slice, decoded, ShortText.encode, List.length_cons, Nat.add_assoc,
    Nat.add_comm 1]

/-- A name is passed with its zero byte. -/
theorem passedBytes_of_noZero {name : Bytes} (noZero : 0 ∉ name) (rest : Bytes) :
    passedBytes (name ++ [0] ++ rest) = name.length + 1 := by
  induction name with
  | nil => exact if_neg fun both => both.1 rfl
  | cons byte name ih =>
      have first : (0 : UInt8) ≠ byte := List.ne_of_not_mem_cons noZero
      have others : (0 : UInt8) ∉ name := List.not_mem_of_not_mem_cons noZero
      have nonempty : name ++ [0] ++ rest ≠ [] := by simp
      rw [List.cons_append, List.cons_append, passedBytes, if_pos ⟨Ne.symm first, nonempty⟩,
        ih others, List.length_cons]

theorem readNames_of_lies {names : List JsString}
    (wellFormed : ∀ name ∈ names, IsWellFormed name)
    (noZero : ∀ name ∈ names, ∀ unit ∈ name, unit ≠ 0)
    (lies : Lies buffer offset (names.flatMap fun name => utf8 name ++ [0])) :
    readNames buffer names.length offset =
      (names, offset + (names.flatMap fun name => utf8 name ++ [0]).length) := by
  induction names generalizing offset with
  | nil => rfl
  | cons name names ih =>
      rw [List.flatMap_cons] at lies ⊢
      have decoded : utf8Slice (utf8 name) = name :=
        (utf8Slice_utf8 name).trans (wellFormed name List.mem_cons_self)
      obtain ⟨rest, restEq⟩ := lies.left
      have passed : passedBytes (buffer.drop offset) = (utf8 name ++ [0]).length := by
        rw [← restEq, passedBytes_of_noZero (zero_notMem_utf8 (noZero name List.mem_cons_self)),
          List.length_append, List.length_singleton]
      have others := ih (fun name member => wellFormed name (List.mem_cons_of_mem _ member))
        (fun name member => noZero name (List.mem_cons_of_mem _ member)) lies.right
      have content := lies.left.left.slice
      have ends : offset + (utf8 name ++ [0]).length - 1 = offset + (utf8 name).length := by
        rw [List.length_append, List.length_singleton, ← Nat.add_assoc, Nat.add_sub_cancel]
      rw [List.length_cons, readNames]
      dsimp only
      rw [passed, others, ends, content, decoded]
      simp only [List.length_append, Nat.add_assoc]

end Lies

/-! ## One variable -/

namespace StatusVariable

/-- There is a case for the key, and the value has a known end. -/
def IsHandled : StatusVariable → Prop
  | autoIncrement _ _ | tooManyDbNames | microseconds _ => False
  | _ => True

/-- What the cases keep of a variable. -/
def kept : StatusVariable → StatusVariable
  | sqlMode mode => sqlMode (mode % 4294967296)
  | var => var

/-- What the cases make of the object. -/
def assign (result : StatusVars) : StatusVariable → StatusVars
  | flags2 flags => { result with flags := some flags.toNat }
  | sqlMode mode => { result with sqlMode := some (mode.toNat % 4294967296) }
  | catalog name => { result with catalog := some name.string }
  | charset client connection server =>
      { result with
        clientCharset := some client.toNat
        connectionCollation := some connection.toNat
        serverCharset := some server.toNat }
  | timeZone name => { result with timeZone := some name.string }
  | catalogNz name => { result with catalogNz := some name.string }
  | lcTimeNames code => { result with lcTimeNames := some code.toNat }
  | charsetDatabase code => { result with schemaCharset := some code.toNat }
  | tableMapForUpdate first second =>
      { result with mapForUpdate1 := some first.toNat, mapForUpdate2 := some second.toNat }
  | masterDataWritten size => { result with masterDataWritten := some size.toNat }
  | invokers username hostname =>
      { result with
        invokerUsername := some username.string
        invokerHostname := some hostname.string }
  | updatedDbNames names => { result with updatedDBs := some names.names }
  | autoIncrement _ _ | tooManyDbNames | microseconds _ => result

variable {buffer : Bytes} {offset : Nat} {result : StatusVars} {var : StatusVariable}

/-- The cases of the keys take what their variables take, if they are the documented ones. -/
theorem parseValue_of_lies (handled : var.IsHandled) (lies : Lies buffer offset var.value) :
    parseValue buffer var.key offset result =
      .ok ⟨offset + var.value.length, var.assign result⟩ := by
  cases var with
  | flags2 flags =>
      have read := readUInt32LE_of_lies flags lies
      simp only [key, parseValue, read]
      rfl
  | sqlMode mode =>
      have low : writeUIntLE mode.toNat 8 = writeUIntLE (mode.toNat % 4294967296) 4 ++
          writeUIntLE (mode.toNat / 4294967296) 4 := by
        rw [show writeUIntLE (mode.toNat % 4294967296) 4 = writeUIntLE mode.toNat 4 from
          Packet.writeUIntLE_mod mode.toNat 4]
        exact Packet.writeUIntLE_add mode.toNat 4 4
      have lies : Lies buffer offset (writeUIntLE mode.toNat 8) := lies
      rw [low] at lies
      have read : readUInt32LE buffer offset = .ok (mode.toNat % 4294967296) :=
        readUIntLE_of_lies (Nat.mod_lt _ (by decide)) (by decide) lies.left
      simp only [key, parseValue, read]
      rfl
  | catalog name =>
      have read := readText_of_lies name (Lies.left lies)
      simp only [key, parseValue, read, value, List.length_append, List.length_singleton,
        ← Nat.add_assoc]
      rfl
  | charset client connection server =>
      have first := readUInt16LE_of_lies client (Lies.left lies)
      have second : readUInt16LE buffer (offset + 2) = .ok connection.toNat :=
        readUInt16LE_of_lies connection (Lies.left (Lies.right lies))
      have third : readUInt16LE buffer (offset + 4) = .ok server.toNat :=
        readUInt16LE_of_lies server (Lies.right (Lies.right lies))
      simp only [key, parseValue, first, second, third]
      rfl
  | timeZone name =>
      have read := readText_of_lies name lies
      simp only [key, parseValue, read]
      rfl
  | catalogNz name =>
      have read := readText_of_lies name lies
      simp only [key, parseValue, read]
      rfl
  | lcTimeNames code =>
      have read := readUInt16LE_of_lies code lies
      simp only [key, parseValue, read]
      rfl
  | charsetDatabase code =>
      have read := readUInt16LE_of_lies code lies
      simp only [key, parseValue, read]
      rfl
  | tableMapForUpdate first second =>
      have low := readUInt32LE_of_lies first (Lies.left lies)
      have high : readUInt32LE buffer (offset + 4) = .ok second.toNat :=
        readUInt32LE_of_lies second (Lies.right lies)
      simp only [key, parseValue, low, high]
      rfl
  | masterDataWritten size =>
      have read := readUInt32LE_of_lies size lies
      simp only [key, parseValue, read]
      rfl
  | invokers username hostname =>
      have first := readText_of_lies username (Lies.left lies)
      have second := readText_of_lies hostname (Lies.right lies)
      simp only [key, parseValue, first, second, value, List.length_append, ← Nat.add_assoc]
      rfl
  | updatedDbNames names =>
      have lies : Lies buffer offset (toByte names.names.length ::
        names.names.flatMap fun name => utf8 name ++ [0]) := lies
      have few := names.few
      have count : byteAt buffer offset = names.names.length := by
        rw [lies.byteAt, toNat_toByte_of_lt (by omega)]
      have read := readNames_of_lies names.wellFormed names.noZero lies.tail
      simp only [key, parseValue, count, read, value, List.length_cons]
      rw [Nat.add_assoc, Nat.add_comm 1]
      rfl
  | autoIncrement increment offset => exact absurd handled id
  | tooManyDbNames => exact absurd handled id
  | microseconds value => exact absurd handled id

theorem length_encode (var : StatusVariable) : var.encode.length = 1 + var.value.length := by
  rw [encode, List.length_cons, Nat.add_comm]

theorem byteAt_of_lies (lies : Lies buffer offset var.encode) : byteAt buffer offset = var.key := by
  have lies : Lies buffer offset (toByte var.key :: var.value) := lies
  have small : var.key < 256 := by cases var <;> exact of_decide_eq_true rfl
  rw [lies.byteAt, toNat_toByte_of_lt small]

theorem parseVariable_of_lies (handled : var.IsHandled) (lies : Lies buffer offset var.encode) :
    parseVariable buffer ⟨offset, result⟩ =
      .ok ⟨offset + var.encode.length, var.assign result⟩ := by
  rw [parseVariable, byteAt_of_lies lies, parseValue_of_lies handled lies.tail, length_encode,
    Nat.add_assoc]

/-- Otherwise the next iteration starts at a wrong offset. -/
theorem parseVariable_of_not_isHandled (notHandled : ¬var.IsHandled)
    (lies : Lies buffer offset var.encode) {after : StatusVarsState}
    (parsed : parseVariable buffer ⟨offset, result⟩ = .ok after) :
    after.offset ≠ offset + var.encode.length := by
  rw [parseVariable, byteAt_of_lies lies] at parsed
  rw [length_encode]
  cases var with
  | autoIncrement increment offset' =>
      simp only [key, parseValue, Script.bind_eq_ok_iff, Script.pure_eq_ok_iff] at parsed
      obtain ⟨low, -, rfl⟩ := parsed
      show offset + 1 + 3 ≠ offset + (1 + 4)
      omega
  | microseconds micros =>
      simp only [key, parseValue, Script.pure_eq_ok_iff] at parsed
      subst parsed
      show offset + 1 ≠ offset + (1 + 3)
      omega
  | tooManyDbNames =>
      have count : byteAt buffer (offset + 1) = 254 := (Lies.tail lies).byteAt
      simp only [key, parseValue, count, Script.pure_eq_ok_iff] at parsed
      have further := readNames_le buffer 254 (offset + 1 + 1)
      have one : (value tooManyDbNames).length = 1 := rfl
      rw [← parsed, one]
      dsimp only
      omega
  | _ => exact absurd trivial notHandled

/-! ## All variables -/

theorem encodeAll_append (before after : List StatusVariable) :
    encodeAll (before ++ after) = encodeAll before ++ encodeAll after :=
  List.flatMap_append

theorem lies_encodeAll (before : List StatusVariable) (var : StatusVariable)
    (after : List StatusVariable) :
    Lies (encodeAll (before ++ var :: after)) (encodeAll before).length var.encode := by
  refine ⟨encodeAll after, ?_⟩
  rw [encodeAll_append, List.drop_left]
  rfl

/-- The offset of a variable is inside the buffer. -/
theorem length_encodeAll_lt (before : List StatusVariable) (var : StatusVariable)
    (after : List StatusVariable) :
    (encodeAll before).length < (encodeAll (before ++ var :: after)).length := by
  have within := (lies_encodeAll before var after).length_le (List.cons_ne_nil _ _)
  have positive := var.length_encode
  omega

/-- A list around one of its elements. -/
theorem take_append_cons {vars : List StatusVariable} {count : Nat} (inside : count < vars.length) :
    vars = vars.take count ++ vars[count] :: vars.drop (count + 1) := by
  rw [← List.drop_eq_getElem_cons inside, List.take_append_drop]

theorem iterations_of_handled {vars : List StatusVariable}
    (handled : ∀ var ∈ vars, var.IsHandled) {count : Nat} (inside : count ≤ vars.length) :
    iterations (encodeAll vars) count =
      .ok ⟨(encodeAll (vars.take count)).length, (vars.take count).foldl assign .empty⟩ := by
  induction count with
  | zero => rfl
  | succ count ih =>
      have lies := lies_encodeAll (vars.take count) vars[count] (vars.drop (count + 1))
      rw [← take_append_cons inside] at lies
      rw [iterations, ih (Nat.le_of_succ_le inside), Script.ok_bind,
        parseVariable_of_lies (handled _ (List.getElem_mem inside)) lies,
        List.take_succ_eq_append_getElem inside, encodeAll_append, List.length_append,
        List.foldl_append]
      simp [encodeAll]

theorem length_le_encodeAll (vars : List StatusVariable) :
    vars.length ≤ (encodeAll vars).length := by
  induction vars with
  | nil => exact Nat.le_refl _
  | cons var vars ih =>
      have positive := var.length_encode
      rw [encodeAll, List.flatMap_cons, List.length_append, List.length_cons]
      rw [encodeAll] at ih
      omega

theorem parseStatusVars_of_handled {vars : List StatusVariable}
    (handled : ∀ var ∈ vars, var.IsHandled) :
    parseStatusVars (encodeAll vars) = .ok (vars.foldl assign .empty) := by
  have reached := iterations_of_handled handled (Nat.le_refl _)
  rw [List.take_length] at reached
  have looped := parseVariables_of_iterations reached
    (fun earlier less before reachedBefore => by
      rw [iterations_of_handled handled (Nat.le_of_lt less)] at reachedBefore
      cases reachedBefore
      have lt := length_encodeAll_lt (vars.take earlier) vars[earlier] (vars.drop (earlier + 1))
      rwa [← take_append_cons less] at lt) ((encodeAll vars).length - vars.length)
  have ended : (encodeAll vars).length ≤
      (StatusVarsState.mk (encodeAll vars).length (vars.foldl assign .empty)).offset :=
    Nat.le_refl _
  rw [Nat.add_sub_cancel' (length_le_encodeAll vars), parseVariables_of_ended ended] at looped
  rw [parseStatusVars, looped]
  rfl

/-! ## The last value of each -/

theorem shows_assign_self (handled : var.IsHandled) : (var.assign result).Shows var.kept := by
  cases var with
  | sqlMode mode =>
      show some (mode.toNat % 4294967296) = some (mode % 4294967296).toNat
      rw [UInt64.toNat_mod]
      rfl
  | charset client connection server => exact ⟨rfl, rfl, rfl⟩
  | tableMapForUpdate first second => exact ⟨rfl, rfl⟩
  | invokers username hostname => exact ⟨rfl, rfl⟩
  | autoIncrement increment offset => exact absurd handled id
  | tooManyDbNames => exact absurd handled id
  | microseconds value => exact absurd handled id
  | _ => exact rfl

/-- A variable leaves the properties of the others as they are. -/
theorem shows_assign_other {later : StatusVariable} (differ : later.key ≠ var.key)
    (shows' : result.Shows var) : (later.assign result).Shows var := by
  cases later <;> cases var <;> first | exact shows' | exact absurd rfl differ

theorem key_kept (var : StatusVariable) : var.kept.key = var.key := by
  cases var <;> rfl

theorem shows_foldl {vars : List StatusVariable} (handled : var.IsHandled)
    (isLast : IsLast vars var) : (vars.foldl assign result).Shows var.kept := by
  obtain ⟨before, after, rfl, others⟩ := isLast
  rw [List.foldl_append, List.foldl_cons]
  have shown : (var.assign (before.foldl assign result)).Shows var.kept := shows_assign_self handled
  generalize var.assign (before.foldl assign result) = assigned at shown
  induction after generalizing assigned with
  | nil => exact shown
  | cons later after ih =>
      rw [List.forall_mem_cons] at others
      refine ih others.2 _ (shows_assign_other ?_ shown)
      rw [key_kept]
      exact others.1

end StatusVariable

open StatusVariable in
/-- The status variables of a query event are parsed right if none of them is `AUTO_INCREMENT`,
`MICROSECONDS` or the mark of too many names, and the last SQL mode fits into four bytes. -/
theorem parsedRight_iff (vars : List StatusVariable) :
    ParsedRight vars ↔ (∀ var ∈ vars, var.IsHandled) ∧
      ∀ mode, IsLast vars (.sqlMode mode) → mode.toNat < 4294967296 := by
  constructor
  · intro right
    have handled : ∀ var ∈ vars, var.IsHandled := by
      intro var member
      by_contra notHandled
      obtain ⟨before, after, rfl⟩ := List.append_of_mem member
      have longer : before.length < (before ++ var :: after).length := by
        rw [List.length_append, List.length_cons]
        omega
      obtain ⟨result, reached⟩ := right.consumed before.length (Nat.le_of_lt longer)
      obtain ⟨next, reachedNext⟩ := right.consumed (before.length + 1) longer
      have taken : (before ++ var :: after).take (before.length + 1) = before ++ [var] := by
        rw [List.take_length_add_append]
        rfl
      rw [List.take_left] at reached
      rw [iterations, reached, Script.ok_bind, taken] at reachedNext
      apply parseVariable_of_not_isHandled notHandled (lies_encodeAll before var after) reachedNext
      simp [encodeAll]
    refine ⟨handled, fun mode isLast => ?_⟩
    obtain ⟨result, parsed, shown⟩ := right.shown
    rw [parseStatusVars_of_handled handled] at parsed
    cases parsed
    have all : (vars.foldl assign .empty).sqlMode = some mode.toNat := shown _ isLast
    have low : (vars.foldl assign .empty).sqlMode = some (mode % 4294967296).toNat :=
      shows_foldl (show (sqlMode mode).IsHandled from trivial) isLast
    rw [all] at low
    have same := Option.some.inj low
    rw [UInt64.toNat_mod] at same
    rw [same]
    exact Nat.mod_lt _ (by decide)
  · rintro ⟨handled, small⟩
    refine ⟨fun count inside => ⟨_, iterations_of_handled handled inside⟩, _,
      parseStatusVars_of_handled handled, fun var isLast => ?_⟩
    have member : var ∈ vars := by
      obtain ⟨before, after, rfl, -⟩ := isLast
      exact List.mem_append_right _ List.mem_cons_self
    have shown : (vars.foldl assign .empty).Shows var.kept :=
      shows_foldl (handled var member) isLast
    have keptEq : var.kept = var := by
      cases var with
      | sqlMode mode =>
          have fits := small mode isLast
          rw [kept, sqlMode.injEq]
          apply UInt64.toNat_inj.mp
          rw [UInt64.toNat_mod]
          exact Nat.mod_eq_of_lt fits
      | _ => rfl
    rwa [keptEq] at shown

/-- A variable with the time's microseconds: its value is taken for further variables. -/
theorem not_parsedRight_microseconds :
    ¬∀ vars : List StatusVariable, StatusVariable.ParsedRight vars := by
  intro all
  obtain ⟨result, reached⟩ := (all [.microseconds 5]).consumed 1 (Nat.le_refl _)
  have lies := StatusVariable.lies_encodeAll [] (.microseconds 5) []
  exact StatusVariable.parseVariable_of_not_isHandled id lies reached rfl

end Mysql2.Packets

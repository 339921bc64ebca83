import Mysql2.Packets.Integers
import Mysql2.Packets.Utf8

/-!
# Status variables of binlog query events

A variable is a key and a value whose length only the key tells.  The parser goes from key to key,
and what it skips for one variable decides where it looks for the next.
-/

namespace Mysql2.Packets

open Mysql2.Script

/-! ## The parser -/

namespace keys

@[match_pattern]
def FLAGS2 : Nat := 0

@[match_pattern]
def SQL_MODE : Nat := 1

@[match_pattern]
def CATALOG : Nat := 2

@[match_pattern]
def AUTO_INCREMENT : Nat := 3

@[match_pattern]
def CHARSET : Nat := 4

@[match_pattern]
def TIME_ZONE : Nat := 5

@[match_pattern]
def CATALOG_NZ : Nat := 6

@[match_pattern]
def LC_TIME_NAMES : Nat := 7

@[match_pattern]
def CHARSET_DATABASE : Nat := 8

@[match_pattern]
def TABLE_MAP_FOR_UPDATE : Nat := 9

@[match_pattern]
def MASTER_DATA_WRITTEN : Nat := 10

@[match_pattern]
def INVOKERS : Nat := 11

@[match_pattern]
def UPDATED_DB_NAMES : Nat := 12

-- the same number as `AUTO_INCREMENT`, for which the parser has no case
@[match_pattern]
def MICROSECONDS : Nat := 3

end keys

/-- The object that `parseStatusVars` returns, with `none` for a property that is not set. -/
structure StatusVars where
  flags : Option Nat
  sqlMode : Option Nat
  catalog : Option JsString
  clientCharset : Option Nat
  connectionCollation : Option Nat
  serverCharset : Option Nat
  timeZone : Option JsString
  catalogNz : Option JsString
  lcTimeNames : Option Nat
  schemaCharset : Option Nat
  mapForUpdate1 : Option Nat
  mapForUpdate2 : Option Nat
  masterDataWritten : Option Nat
  invokerUsername : Option JsString
  invokerHostname : Option JsString
  updatedDBs : Option (List JsString)
  microseconds : Option Int
  deriving DecidableEq, Repr

/-- `{}`. -/
def StatusVars.empty : StatusVars :=
  ⟨none, none, none, none, none, none, none, none, none, none, none, none, none, none, none, none,
    none⟩

/-- `buffer.readUIntLE(offset, width)`. -/
def readUIntLE (width : Nat) (buffer : Bytes) (offset : Nat) : Except JsError Nat :=
  if offset + width ≤ buffer.length then .ok (uintLE (slice buffer offset (offset + width)))
  else .error .rangeError

/-- `buffer.readUInt16LE(offset)`. -/
def readUInt16LE (buffer : Bytes) (offset : Nat) : Except JsError Nat :=
  readUIntLE 2 buffer offset

/-- `buffer.readUInt32LE(offset)`. -/
def readUInt32LE (buffer : Bytes) (offset : Nat) : Except JsError Nat :=
  readUIntLE 4 buffer offset

/-- A text behind the byte with its length, and the offset behind it.  A length that the buffer
does not contain makes the offset `NaN`, which ends the loop. -/
def readText (buffer : Bytes) (offset : Nat) : JsString × Nat :=
  match buffer[offset]? with
  | none => ([], buffer.length)
  | some length =>
      (utf8Slice (slice buffer (offset + 1) (offset + 1 + length.toNat)), offset + 1 + length.toNat)

/-- How many bytes the loop that looks for the end of a name passes. -/
def passedBytes : Bytes → Nat
  | [] => 1
  | byte :: bytes => if byte ≠ 0 ∧ bytes ≠ [] then passedBytes bytes + 1 else 1

/-- The loop over the names of databases, and the offset behind them. -/
def readNames (buffer : Bytes) : Nat → Nat → List JsString × Nat
  | 0, offset => ([], offset)
  | length + 1, prevOffset =>
      let offset := prevOffset + passedBytes (buffer.drop prevOffset)
      let (names, last) := readNames buffer length offset
      (utf8Slice (slice buffer prevOffset (offset - 1)) :: names, last)

/-- What an iteration of the loop over the variables starts from. -/
structure StatusVarsState where
  offset : Nat
  result : StatusVars
  deriving DecidableEq, Repr

/-- The cases of a key, with the offset behind it. -/
def parseValue (buffer : Bytes) (key offset : Nat) (result : StatusVars) :
    Except JsError StatusVarsState := do
  match key with
  | keys.FLAGS2 =>
      let flags ← readUInt32LE buffer offset
      return ⟨offset + 4, { result with flags := some flags }⟩
  | keys.SQL_MODE =>
      -- the other four bytes are left out
      let sqlMode ← readUInt32LE buffer offset
      return ⟨offset + 8, { result with sqlMode := some sqlMode }⟩
  | keys.CATALOG =>
      let (catalog, offset) := readText buffer offset
      return ⟨offset + 1, { result with catalog := some catalog }⟩
  | keys.CHARSET =>
      let clientCharset ← readUInt16LE buffer offset
      let connectionCollation ← readUInt16LE buffer (offset + 2)
      let serverCharset ← readUInt16LE buffer (offset + 4)
      return ⟨offset + 6, { result with
        clientCharset := some clientCharset
        connectionCollation := some connectionCollation
        serverCharset := some serverCharset }⟩
  | keys.TIME_ZONE =>
      let (timeZone, offset) := readText buffer offset
      return ⟨offset, { result with timeZone := some timeZone }⟩
  | keys.CATALOG_NZ =>
      let (catalogNz, offset) := readText buffer offset
      return ⟨offset, { result with catalogNz := some catalogNz }⟩
  | keys.LC_TIME_NAMES =>
      let lcTimeNames ← readUInt16LE buffer offset
      return ⟨offset + 2, { result with lcTimeNames := some lcTimeNames }⟩
  | keys.CHARSET_DATABASE =>
      let schemaCharset ← readUInt16LE buffer offset
      return ⟨offset + 2, { result with schemaCharset := some schemaCharset }⟩
  | keys.TABLE_MAP_FOR_UPDATE =>
      let mapForUpdate1 ← readUInt32LE buffer offset
      let mapForUpdate2 ← readUInt32LE buffer (offset + 4)
      return ⟨offset + 8, { result with
        mapForUpdate1 := some mapForUpdate1
        mapForUpdate2 := some mapForUpdate2 }⟩
  | keys.MASTER_DATA_WRITTEN =>
      let masterDataWritten ← readUInt32LE buffer offset
      return ⟨offset + 4, { result with masterDataWritten := some masterDataWritten }⟩
  | keys.INVOKERS =>
      let (invokerUsername, offset) := readText buffer offset
      let (invokerHostname, offset) := readText buffer offset
      return ⟨offset, { result with
        invokerUsername := some invokerUsername
        invokerHostname := some invokerHostname }⟩
  | keys.UPDATED_DB_NAMES =>
      let (names, last) := readNames buffer (byteAt buffer offset) (offset + 1)
      return ⟨last, { result with updatedDBs := some names }⟩
  | keys.MICROSECONDS =>
      let low ← readUInt16LE buffer offset
      return ⟨offset + 3, { result with
        microseconds := some (toSigned 16 low + (byteAt buffer (offset + 2) <<< 16 : Nat)) }⟩
  | _ => return ⟨offset, result⟩

/-- An iteration of the loop over the variables. -/
def parseVariable (buffer : Bytes) (state : StatusVarsState) : Except JsError StatusVarsState :=
  parseValue buffer (byteAt buffer state.offset) (state.offset + 1) state.result

/-- The loop over the variables, each of which takes a byte at least. -/
def parseVariables (buffer : Bytes) : Nat → StatusVarsState → Except JsError StatusVarsState
  | 0, state => return state
  | fuel + 1, state => do
      if state.offset < buffer.length then
        parseVariables buffer fuel (← parseVariable buffer state)
      else
        return state

/-- `parseStatusVars(buffer)`. -/
def parseStatusVars (buffer : Bytes) : Except JsError StatusVars := do
  let state ← parseVariables buffer buffer.length ⟨0, .empty⟩
  return state.result

/-! ## The loop ends by itself -/

theorem readText_le (buffer : Bytes) (offset : Nat) :
    min offset buffer.length ≤ (readText buffer offset).2 := by
  rw [readText]
  split
  · exact Nat.min_le_right _ _
  · show min offset buffer.length ≤ offset + 1 + _
    omega

theorem readNames_le (buffer : Bytes) (length offset : Nat) :
    offset + length ≤ (readNames buffer length offset).2 := by
  induction length generalizing offset with
  | zero => exact Nat.le_refl _
  | succ length ih =>
      have positive : 1 ≤ passedBytes (buffer.drop offset) := by
        cases buffer.drop offset with
        | nil => exact Nat.le_refl _
        | cons byte bytes =>
            rw [passedBytes]
            split <;> omega
      have rest := ih (offset + passedBytes (buffer.drop offset))
      show offset + (length + 1) ≤ (readNames buffer length _).2
      omega

/-- An iteration does not go back. -/
theorem parseValue_le {buffer : Bytes} {key offset : Nat} {result : StatusVars}
    {after : StatusVarsState} (inside : offset ≤ buffer.length)
    (parsed : parseValue buffer key offset result = .ok after) : offset ≤ after.offset := by
  have text : offset ≤ (readText buffer offset).2 :=
    Nat.le_trans (Nat.le_min.mpr ⟨Nat.le_refl _, inside⟩) (readText_le buffer offset)
  rw [parseValue.eq_def] at parsed
  split at parsed <;> simp only [Script.bind_eq_ok_iff, Script.pure_eq_ok_iff] at parsed
  case h_1 | h_2 | h_7 | h_8 | h_10 | h_13 =>
    obtain ⟨_, -, rfl⟩ := parsed
    exact Nat.le_add_right _ _
  case h_4 =>
    obtain ⟨_, -, _, -, _, -, rfl⟩ := parsed
    exact Nat.le_add_right _ _
  case h_9 =>
    obtain ⟨_, -, _, -, rfl⟩ := parsed
    exact Nat.le_add_right _ _
  case h_3 =>
    subst parsed
    exact Nat.le_succ_of_le text
  case h_5 | h_6 =>
    subst parsed
    exact text
  case h_11 =>
    subst parsed
    exact Nat.le_trans (Nat.le_min.mpr ⟨text, inside⟩) (readText_le buffer _)
  case h_12 =>
    subst parsed
    have names := readNames_le buffer (byteAt buffer offset) (offset + 1)
    show offset ≤ (readNames buffer _ (offset + 1)).2
    omega
  case h_14 =>
    subst parsed
    exact Nat.le_refl _

theorem parseVariable_lt {buffer : Bytes} {state after : StatusVarsState}
    (inside : state.offset < buffer.length) (parsed : parseVariable buffer state = .ok after) :
    state.offset < after.offset :=
  parseValue_le (show state.offset + 1 ≤ buffer.length from inside) parsed

/-- The loop ends behind the buffer, whatever it contains. -/
theorem parseVariables_ends {buffer : Bytes} {fuel : Nat} {state after : StatusVarsState}
    (enough : buffer.length ≤ state.offset + fuel)
    (parsed : parseVariables buffer fuel state = .ok after) : buffer.length ≤ after.offset := by
  induction fuel generalizing state with
  | zero =>
      cases parsed
      exact enough
  | succ fuel ih =>
      rw [parseVariables] at parsed
      split at parsed
      case isTrue inside =>
        obtain ⟨next, step, rest⟩ := Script.bind_eq_ok_iff.mp parsed
        have further := parseVariable_lt inside step
        exact ih (by omega) rest
      case isFalse behind =>
        cases parsed
        omega

/-- A loop that has ended makes nothing of more fuel. -/
theorem parseVariables_of_ended {buffer : Bytes} {state : StatusVarsState}
    (ended : buffer.length ≤ state.offset) (fuel : Nat) :
    parseVariables buffer fuel state = .ok state := by
  cases fuel with
  | zero => rfl
  | succ fuel => rw [parseVariables, if_neg (Nat.not_lt.mpr ended)]; rfl

/-- What the loop has come to after a number of iterations. -/
def iterations (buffer : Bytes) : Nat → Except JsError StatusVarsState
  | 0 => .ok ⟨0, .empty⟩
  | count + 1 => iterations buffer count >>= parseVariable buffer

/-- The loop makes the iterations that start inside the buffer. -/
theorem parseVariables_of_iterations {buffer : Bytes} {count : Nat} {state : StatusVarsState}
    (reached : iterations buffer count = .ok state)
    (inside : ∀ earlier < count, ∀ before, iterations buffer earlier = .ok before →
      before.offset < buffer.length) (fuel : Nat) :
    parseVariables buffer (count + fuel) ⟨0, .empty⟩ = parseVariables buffer fuel state := by
  induction count generalizing state fuel with
  | zero =>
      cases reached
      rw [Nat.zero_add]
  | succ count ih =>
      obtain ⟨before, reachedBefore, step⟩ := Script.bind_eq_ok_iff.mp reached
      have next := ih reachedBefore
        (fun earlier less => inside earlier (Nat.lt_succ_of_lt less)) (fuel + 1)
      rw [Nat.add_right_comm, Nat.add_assoc, next, parseVariables,
        if_pos (inside count (Nat.lt_succ_self count) before reachedBefore), step]
      rfl

end Mysql2.Packets

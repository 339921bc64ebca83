import Mysql2.Commands.Family
import Mysql2.Packets.Requests

/-!
# The driver's own serializer and cache

Commands are verified for any serializer of requests and any cache of prepared
statements.  These are the serializer of the driver, and the cache that it
creates: the least recently used statement leaves a full cache.
-/

namespace Mysql2.Commands

open Mysql2.Connection
open Mysql2.Packets
open Mysql2.Script

/-- An attribute, with the code units of its name. -/
def keyUnits (pair : String × JsValue) : JsString × JsValue :=
  (units pair.1, pair.2)

/-- The driver's serializer. -/
def RequestPackets.driver (settings : RequestSettings) (changeUser : Except JsError Packet) :
    RequestPackets JsValue :=
  { query := fun sql attributes => queryToPacket settings (units sql) (attributes.map keyUnits)
    execute := fun info values attributes =>
      executeToPacket settings info.id info.parameters values (attributes.map keyUnits)
    prepareStatement := fun sql => prepareStatementToPacket settings (units sql)
    closeStatement := fun statementId => .ok (closeStatementToPacket statementId)
    resetConnection := .ok resetConnectionToPacket
    changeUser := changeUser }

/-- Entries of a cache, the least recently used one first. -/
abbrev Entries :=
  List (String × PreparedStatementInfo)

/-- The entries without a key. -/
def Entries.erase (entries : Entries) (key : String) : Entries :=
  entries.filter fun entry => entry.1 ≠ key

/-- `createLRU` with room for `max` entries. -/
def createLRU (max : Nat) : StatementCache Entries :=
  { get := fun entries key =>
      match entries.lookup key with
      | none => (none, entries)
      | some info => (some info, entries.erase key ++ [(key, info)])
    set := fun entries key info =>
      match entries.lookup key with
      | some replaced => (entries.erase key ++ [(key, info)], [replaced])
      | none =>
          if entries.length < max then
            (entries ++ [(key, info)], [])
          else
            (entries.tail ++ [(key, info)], entries.head?.toList.map Prod.snd)
    delete := fun entries key => (entries.erase key, (entries.lookup key).toList)
    clear := fun entries => ([], entries.map Prod.snd) }

/-- Nothing shared yet. -/
def Store.empty {γ : Type} (statements : γ) : Store γ :=
  { statements := statements
    links := fun _ => .unset
    queryTimeout := fun _ => none
    localStreamError := fun _ => none }

/-- Text of one byte a character, which is how ASCII is decoded and encoded. -/
def asciiDecoding : Decoding :=
  { decode := fun _ bytes => .ok (String.ofList (bytes.map fun byte => Char.ofNat byte.toNat))
    errorCodeToName := fun
      | 1064 => some "ER_PARSE_ERROR"
      | 1146 => some "ER_NO_SUCH_TABLE"
      | 1243 => some "ER_UNKNOWN_STMT_HANDLER"
      | _ => none
    charsetToEncoding := fun
      | 63 => some "binary"
      | 224 => some "utf8"
      | _ => none }

/-- Requests in UTF-8. -/
def utf8Settings (queryAttributes : Bool) : RequestSettings :=
  { encoding := .utf8
    hasFastUtf8Write := true
    queryAttributes := queryAttributes
    timezone := "local"
    jsonAsString := false }

/-- A connection that speaks the protocol of version 4.1 in UTF-8. -/
def defaultConfig (queryAttributes : Bool) : CommandConfig JsValue Entries :=
  { read := {
      toDecoding := asciiDecoding
      clientEncoding := some "utf8"
      serverEncoding := some "utf8"
      capabilityFlags := 0x200
      bigNumberStrings := false
      mariadbExtendedMetadata := false }
    packets := .driver (utf8Settings queryAttributes) (.error .typeError)
    cache := createLRU 16000 }

/-- Code outside the commands that parses no rows and calls nothing. -/
def quiet : Behaviour JsValue Unit :=
  { buildParser := fun _ _ => .ok ()
    parseRow := fun _ _ _ _ => .error .typeError
    openStream := fun _ => .error .typeError
    calls := []
    written := []
    handshakeError := none
    result := .ok false }

/-- Events of a connection with the driver's commands. -/
abbrev DriverEvent :=
  BaseConnection.Event (Behaviour JsValue Unit) (Interrupt JsValue Unit) (Command JsValue Unit)

/-- A connection without a pool whose `error` event has a listener. -/
def listening : Config :=
  ⟨false, true, asciiDecoding⟩

end Mysql2.Commands

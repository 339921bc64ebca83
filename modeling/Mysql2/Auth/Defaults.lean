import Mysql2.Auth.ClientHandshake
import Mysql2.Commands.Defaults

/-!
# A runtime and a server

The connection phase is verified for any hashes and encryption.  These are a
runtime that knows no keys, and the packets of a server, for runs on fixed
inputs.
-/

namespace Mysql2.Auth

open Mysql2.Packets

/-- Strings in ASCII and UTF-8, hashes that keep their input, and no key that can
be read. -/
def keylessRuntime : Runtime :=
  { toDecoding := Commands.asciiDecoding
    sha1 := id
    sha256 := id
    publicEncrypt := fun _ _ => .error (.new "error:1E08010C:DECODER routines::unsupported")
    encode := fun _ text => .ok (utf8 text) }

/-- A configuration with passwords and nothing else. -/
def passwordConfig (password password2 password3 : Password) : AuthConfig :=
  { user := .text "root"
    database := .unset
    password := password
    password2 := password2
    password3 := password3
    passwordSha1 := none
    charsetNumber := 224
    clientFlags := 0x88201
    connectAttributes := []
    compress := false
    ssl := none
    socketPath := false
    enableCleartextPlugin := false
    authPlugins := fun _ => none
    authSwitchHandler := none }

/-- A hello packet with these capabilities and this plugin. -/
def helloPacket (capabilityFlags : Nat) (pluginName : String) : Packet :=
  let bytes := [0, 0, 0, 0, 10] ++ utf8 "8.0.36" ++ [0, 1, 0, 0, 0] ++ [1, 2, 3, 4, 5, 6, 7, 8] ++
    [0] ++ writeUIntLE capabilityFlags 2 ++ [255, 2, 0] ++
    writeUIntLE (capabilityFlags / 65536) 2 ++ [21] ++ List.replicate 10 0 ++
    [9, 10, 11, 12, 13, 14, 15, 16, 17, 18, 19, 20, 0] ++ utf8 pluginName ++ [0]
  .new 0 bytes 0 bytes.length

/-- A packet that switches to a plugin: `0xfe` for the same factor, `0x02` for
the next one. -/
def switchPacket (marker : UInt8) (pluginName : String) (pluginData : Bytes) : Packet :=
  let bytes := [0, 0, 0, 0, marker] ++ utf8 pluginName ++ [0] ++ pluginData
  .new 0 bytes 0 bytes.length

/-- A packet with more data. -/
def moreDataPacket (data : Bytes) : Packet :=
  .new 0 ([0, 0, 0, 0, 1] ++ data) 0 (5 + data.length)

/-- What the server sends is read back. -/
theorem helloPacket_fromPacket :
    (Handshake.fromPacket keylessRuntime (helloPacket 0x10088201 "caching_sha2_password")).map
        Prod.fst =
      .ok {
        capabilityFlags := 0x10088201
        authPluginData1 := [1, 2, 3, 4, 5, 6, 7, 8]
        authPluginData2 := some [9, 10, 11, 12, 13, 14, 15, 16, 17, 18, 19, 20, 0]
        authPluginName := some "caching_sha2_password"
        mariadbExtendedCapabilityFlags := 0 } :=
  rfl

end Mysql2.Auth

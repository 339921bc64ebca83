import Mysql2.Packets.Reader

/-!
# What a client answers with

The password of a user leaves the client as a token over the server's challenge,
encrypted with the server's key, or in clear.  The hashes and the encryption are
parameters.  An answer keeps what it has been computed from, next to the bytes.
-/

namespace Mysql2.Auth

open Mysql2.Packets

/-- A password setting, with `none` for `undefined`. -/
abbrev Password :=
  Option String

/-- A password that a condition of the source takes for set. -/
def Password.truthy : Password → Bool
  | none => false
  | some text => text ≠ ""

/-- `first || second`. -/
def Password.or (first second : Password) : Password :=
  if first.truthy then first else second

/-- The text of a password inside a template string. -/
def Password.text (password : Password) : String :=
  password.getD "undefined"

/-- `Buffer.from(text, 'utf8')`. -/
def utf8 (text : String) : Bytes :=
  text.toUTF8.data.toList

/-- Parts of the runtime: the hashes, the encryption with a public key, for a
given source of random bytes, and the encoder of strings. -/
structure Runtime extends Decoding where
  sha1 : Bytes → Bytes
  sha256 : Bytes → Bytes
  publicEncrypt : Bytes → Bytes → Except JsError Bytes
  encode : Option String → String → Except JsError Bytes

/-- `xor(a, b)`. -/
def xor (a b : Bytes) : Bytes :=
  a.mapIdx fun i byte => byte ^^^ b.getD i 0

/-- `xorRotating(a, seed)`. -/
def xorRotating (a seed : Bytes) : Bytes :=
  a.mapIdx fun i byte => byte ^^^ seed.getD (i % seed.length) 0

variable (runtime : Runtime)

/-- `calculateTokenFromPasswordSha(passwordSha, scramble1, scramble2)`. -/
def calculateTokenFromPasswordSha (passwordSha scramble1 scramble2 : Bytes) : Bytes :=
  let authPluginData1 := scramble1.take 8
  let authPluginData2 := scramble2.take 12
  let stage2 := runtime.sha1 passwordSha
  let stage3 := runtime.sha1 (authPluginData1 ++ authPluginData2 ++ stage2)
  xor stage3 passwordSha

/-- `auth41.calculateToken(password, scramble1, scramble2)`. -/
def calculateToken (password : Password) (scramble1 scramble2 : Bytes) : Bytes :=
  if password.truthy then
    calculateTokenFromPasswordSha runtime (runtime.sha1 (utf8 password.text)) scramble1 scramble2
  else
    []

/-- `calculateToken(password, scramble)` of `caching_sha2_password`. -/
def calculateSha2Token (password : Password) (scramble : Bytes) : Bytes :=
  if password.truthy then
    let stage1 := runtime.sha256 (utf8 password.text)
    let stage2 := runtime.sha256 stage1
    let stage3 := runtime.sha256 (stage2 ++ scramble)
    xor stage1 stage3
  else
    []

/-- A password in clear. -/
def clearText (password : Password) : Bytes :=
  utf8 (password.text ++ "\x00")

/-- `encrypt(password, scramble, key)`. -/
def encrypt (password : Password) (scramble key : Bytes) : Except JsError Bytes :=
  runtime.publicEncrypt key (xorRotating (clearText password) scramble)

/-- What an answer has been computed from.  `constant` are the requests of the
plugins and the empty answer, `outside` is an answer of code outside the driver. -/
inductive AuthData
  | constant (bytes : Bytes)
  | nativeToken (password : Password) (scramble1 scramble2 : Bytes)
  | nativeTokenOfSha1 (passwordSha1 scramble1 scramble2 : Bytes)
  | sha2Token (password : Password) (scramble : Bytes)
  | encrypted (password : Password) (scramble key : Bytes)
  | clear (password : Password)
  | outside (bytes : Bytes)
  deriving DecidableEq, Repr

namespace AuthData

/-- The bytes of an answer. -/
def toBytes : AuthData → Except JsError Bytes
  | .constant bytes => .ok bytes
  | .nativeToken password scramble1 scramble2 =>
      .ok (calculateToken runtime password scramble1 scramble2)
  | .nativeTokenOfSha1 passwordSha1 scramble1 scramble2 =>
      .ok (calculateTokenFromPasswordSha runtime passwordSha1 scramble1 scramble2)
  | .sha2Token password scramble => .ok (calculateSha2Token runtime password scramble)
  | .encrypted password scramble key => encrypt runtime password scramble key
  | .clear password => .ok (clearText password)
  | .outside bytes => .ok bytes

/-- The password is in the answer as it is. -/
def isClear : AuthData → Bool
  | .clear _ => true
  | _ => false

end AuthData

/-- The token of `mysql_native_password`, from the hash of the password if that is
set. -/
def nativePasswordData (password : Password) (passwordSha1 : Option Bytes)
    (scramble1 scramble2 : Bytes) : AuthData :=
  match passwordSha1 with
  | some passwordSha1 => .nativeTokenOfSha1 passwordSha1 scramble1 scramble2
  | none => .nativeToken password scramble1 scramble2

end Mysql2.Auth

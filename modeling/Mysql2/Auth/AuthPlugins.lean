import Mysql2.Auth.Auth41

/-!
# Authentication plugins

A factory makes an instance of a plugin for a command on a connection.  The
instance is called with the data of the server's packets.  The standard plugins
are created without options, so that no option overrides a password, a key or
whether the connection is secure.
-/

namespace Mysql2.Auth

open Mysql2.Packets

/-- A plugin of the user: what the promise settles with behind these calls. -/
abbrev CustomAuthPlugin :=
  List Bytes → Except JsError (Option Bytes)

/-- A setting that should be a string.  `other` is a value of another type that
a condition takes for set. -/
inductive TextSetting
  | unset
  | text (value : String)
  | other
  deriving DecidableEq, Repr

/-- `connection.config`, as far as authentication reads it.  `ssl` is what
`Tls.createSecureContext` does with the setting.  `authSwitchHandler` passes the
name and the data of a plugin on, and calls back. -/
structure AuthConfig where
  user : TextSetting
  database : TextSetting
  password : Password
  password2 : Password
  password3 : Password
  passwordSha1 : Option Bytes
  charsetNumber : Nat
  clientFlags : Nat
  connectAttributes : List (String × String)
  compress : Bool
  ssl : Option (Except JsError Unit)
  socketPath : Bool
  enableCleartextPlugin : Bool
  authPlugins : String → Option CustomAuthPlugin
  authSwitchHandler : Option (Option String → Bytes → Except JsError Bytes)

/-- `connection.config.ssl || connection.config.socketPath`. -/
def AuthConfig.isSecureConnection (config : AuthConfig) : Bool :=
  config.ssl.isSome || config.socketPath

/-- `standardAuthPlugins`. -/
inductive StandardAuthPlugin
  | sha256_password
  | caching_sha2_password
  | mysql_native_password
  | mysql_clear_password
  deriving DecidableEq, Repr

/-- The name of a standard plugin. -/
def StandardAuthPlugin.pluginName : StandardAuthPlugin → String
  | .sha256_password => "sha256_password"
  | .caching_sha2_password => "caching_sha2_password"
  | .mysql_native_password => "mysql_native_password"
  | .mysql_clear_password => "mysql_clear_password"

/-- `standardAuthPlugins[pluginName]`. -/
def standardAuthPlugins (pluginName : String) : Option StandardAuthPlugin :=
  if pluginName = "sha256_password" then some .sha256_password
  else if pluginName = "caching_sha2_password" then some .caching_sha2_password
  else if pluginName = "mysql_native_password" then some .mysql_native_password
  else if pluginName = "mysql_clear_password" then some .mysql_clear_password
  else none

theorem standardAuthPlugins_eq_clear {pluginName : String}
    (isClear : standardAuthPlugins pluginName = some .mysql_clear_password) :
    pluginName = "mysql_clear_password" := by
  unfold standardAuthPlugins at isClear
  split at isClear
  · cases isClear
  · split at isClear
    · cases isClear
    · split at isClear
      · cases isClear
      · split at isClear
        · assumption
        · cases isClear

/-- The passwords of a command.  `password1` is an alias of `password`. -/
structure AuthPasswords where
  password : Password
  password2 : Password
  password3 : Password
  passwordSha1 : Option Bytes
  deriving DecidableEq, Repr

namespace AuthPasswords

/-- The fields of a handshake that has not sent credentials. -/
def unset : AuthPasswords :=
  ⟨none, none, none, none⟩

/-- The passwords of a configuration. -/
def ofConfig (config : AuthConfig) : AuthPasswords :=
  ⟨config.password, config.password2, config.password3, config.passwordSha1⟩

/-- ``this[`password${factor}`]``. -/
def factor (passwords : AuthPasswords) : Nat → Password
  | 1 => passwords.password
  | 2 => passwords.password2
  | 3 => passwords.password3
  | _ => none

end AuthPasswords

/-- The state of `caching_sha2_password`, with the scramble where it is set. -/
inductive CachingSha2State
  | initial
  | tokenSent (scramble : Bytes)
  | waitServerKey (scramble : Bytes)
  | final
  deriving DecidableEq, Repr

/-- The state of `sha256_password`, with the scramble where it is set. -/
inductive Sha256State
  | initial
  | waitServerKey (scramble : Bytes)
  | final
  deriving DecidableEq, Repr

/-- An instance of a plugin, with what it has captured. -/
inductive AuthPlugin
  | cachingSha2 (password : Password) (state : CachingSha2State)
  | sha256 (password : Password) (state : Sha256State)
  | native (password : Password) (passwordSha1 : Option Bytes)
  | clear (password : Password)
  | custom (plugin : CustomAuthPlugin) (received : List Bytes)

/-- What a call of a plugin returns.  The promise of a plugin of the user can be
rejected. -/
inductive PluginResult
  | resolved (answer : Option (AuthData × Bytes))
  | thrown (err : JsError)
  | rejected (err : JsError)

/-- How a plugin sees the connection: `config.ssl || config.socketPath`, and
whether the stream is an encrypted TLS socket. -/
structure ChannelView where
  isSecureConnection : Bool
  encrypted : Bool
  deriving DecidableEq, Repr

namespace StandardAuthPlugin

/-- The factory of a standard plugin, applied to a connection and a command. -/
def create (config : AuthConfig) (passwords : AuthPasswords) : StandardAuthPlugin → AuthPlugin
  | .caching_sha2_password => .cachingSha2 config.password .initial
  | .sha256_password => .sha256 config.password .initial
  | .mysql_native_password =>
      .native (passwords.password.or config.password)
        (passwords.passwordSha1.or config.passwordSha1)
  | .mysql_clear_password => .clear (passwords.password.or config.password)

end StandardAuthPlugin

/-- `getAuthPlugin(pluginName, connection)`, applied to a connection and a
command. -/
def getAuthPlugin (config : AuthConfig) (passwords : AuthPasswords) (pluginName : String) :
    Option AuthPlugin :=
  match config.authPlugins pluginName with
  | some plugin => some (.custom plugin [])
  | none =>
      (standardAuthPlugins pluginName).map (StandardAuthPlugin.create config passwords)

namespace AuthPlugin

/-- The error of data that a plugin does not expect in a state. -/
def unexpectedDataError (pluginName : String) : JsError :=
  .new (s!"Unexpected data in AuthMoreData packet received by {pluginName} plugin in " ++
    "STATE_FINAL state.")

/-- The error of a packet that `caching_sha2_password` cannot read. -/
def invalidPacketError : JsError :=
  .new ("Invalid AuthMoreData packet received by caching_sha2_password plugin in " ++
    "STATE_TOKEN_SENT state.")

/-- Answer with data, in the next state.  Encryption can throw, which leaves the
state as it was. -/
def answer (runtime : Runtime) (data : AuthData) (next plugin : AuthPlugin) :
    AuthPlugin × PluginResult :=
  match data.toBytes runtime with
  | .ok bytes => (next, .resolved (some (data, bytes)))
  | .error err => (plugin, .thrown err)

/-- A call of `caching_sha2_password`. -/
def callCachingSha2 (runtime : Runtime) (view : ChannelView) (password : Password)
    (data : Bytes) : CachingSha2State → AuthPlugin × PluginResult
  | .initial =>
      let scramble := data.take 20
      answer runtime (.sha2Token password scramble)
        (.cachingSha2 password (.tokenSent scramble)) (.cachingSha2 password .initial)
  | .tokenSent scramble =>
      let plugin := cachingSha2 password (.tokenSent scramble)
      if data = [3] then
        -- fast authentication has succeeded
        (.cachingSha2 password .final, .resolved none)
      else if data = [4] then
        -- full authentication is required
        if view.isSecureConnection then
          answer runtime (.clear password) (.cachingSha2 password .final) plugin
        else
          answer runtime (.constant [2]) (.cachingSha2 password (.waitServerKey scramble)) plugin
      else
        (plugin, .thrown invalidPacketError)
  | .waitServerKey scramble =>
      answer runtime (.encrypted password scramble data) (.cachingSha2 password .final)
        (.cachingSha2 password (.waitServerKey scramble))
  | .final =>
      (.cachingSha2 password .final, .thrown (unexpectedDataError "caching_sha2_password"))

/-- A call of `sha256_password`. -/
def callSha256 (runtime : Runtime) (view : ChannelView) (password : Password) (data : Bytes) :
    Sha256State → AuthPlugin × PluginResult
  | .initial =>
      if view.encrypted then
        -- no need to encrypt passwords over a TLS connection
        answer runtime (.clear password) (.sha256 password .initial) (.sha256 password .initial)
      else
        answer runtime (.constant [1]) (.sha256 password (.waitServerKey (data.take 20)))
          (.sha256 password .initial)
  | .waitServerKey scramble =>
      answer runtime (.encrypted password scramble data) (.sha256 password .final)
        (.sha256 password (.waitServerKey scramble))
  | .final => (.sha256 password .final, .thrown (unexpectedDataError "sha256_password"))

/-- A call of a plugin with data of the server. -/
def call (runtime : Runtime) (view : ChannelView) (plugin : AuthPlugin) (data : Bytes) :
    AuthPlugin × PluginResult :=
  match plugin with
  | .cachingSha2 password state => callCachingSha2 runtime view password data state
  | .sha256 password state => callSha256 runtime view password data state
  | .native password passwordSha1 =>
      answer runtime
        (nativePasswordData password passwordSha1 (data.take 8) ((data.drop 8).take 12))
        plugin plugin
  | .clear password => answer runtime (.clear password) plugin plugin
  | .custom outside received =>
      (.custom outside (received ++ [data]),
        match outside (received ++ [data]) with
        | .ok answer => .resolved (answer.map fun bytes => (.outside bytes, bytes))
        | .error err => .rejected err)

end AuthPlugin

end Mysql2.Auth

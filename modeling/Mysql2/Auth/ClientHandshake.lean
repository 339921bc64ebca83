import Mysql2.Auth.AuthPlugins
import Mysql2.Auth.HandshakePackets
import Mysql2.Transition.Mealy

/-!
# The connection phase

`ClientHandshake` and `ChangeUser` share the handler of the server's packets and
the plugin that the connection keeps.  A step is a packet of the server, the
callback of `startTLS`, or the start of a `ChangeUser` command.

A promise settles before the next chunk is read, so what follows a plugin's
answer is part of the step.  Behind a fatal error packets are skipped, and
packets that come while neither command is current belong to other commands.
-/

namespace Mysql2.Auth

open Mysql2.Packets
open ClientConstants

/-- The stream of a connection: the one it was created with, which can be an
encrypted TLS socket, or the socket of `startTLS`, before and behind the TLS
handshake. -/
inductive AuthStream
  | original (encrypted : Bool)
  | upgrading
  | secure
  deriving DecidableEq, Repr

/-- `stream instanceof Tls.TLSSocket && stream.encrypted === true`. -/
def AuthStream.encrypted : AuthStream → Bool
  | .original encrypted => encrypted
  | _ => true

/-- The handler of the current command. -/
inductive AuthHandler
  | handshakeInit
  | handshakeResult
  deriving DecidableEq, Repr

/-- The options of `ChangeUser`, behind the defaults that `changeUser` fills
in. -/
structure ChangeUserOptions where
  user : TextSetting
  database : TextSetting
  passwords : AuthPasswords
  charsetNumber : Nat

/-- A connection and its current command.  `isHandshake` says which command that
is, `next` is its handler, if it is one of the two commands.  `fatalError` says
that packets are skipped, `closedState` that `_handleFatalError` was called: no
more chunks are parsed and nothing is written. -/
structure AuthConnection where
  config : AuthConfig
  stream : AuthStream
  closedState : Bool
  serverCapabilityFlags : Nat
  handshakePacket : Option Handshake
  authorized : Bool
  authPlugin : Option AuthPlugin
  fatalError : Bool
  isHandshake : Bool
  next : Option AuthHandler
  handshake : Option Handshake
  clientFlags : Nat
  mariadbExtendedClientFlags : Nat
  passwords : AuthPasswords
  authenticationFactor : Nat

/-- What happens in a step.  The packets of the client come with what their
token has been computed from. -/
inductive AuthOutput
  | sslRequest (packet : Packet)
  | startTLS
  | handshakeResponse (packet : Packet) (authToken : AuthData)
  | changeUser (packet : Packet) (authToken : AuthData)
  | authSwitchResponse (packet : Packet) (data : AuthData)
  /-- The command is done, or reports an error. -/
  | finished (result : Except JsError Unit)
  /-- An exception that a handler throws. -/
  | fatal (err : JsError)
  /-- The connection's `error` event for a packet that is not written. -/
  | closedState

/-- A packet of the server, the callback of `startTLS`, or the start of a
`ChangeUser` command. -/
inductive AuthEvent
  | packet (packet : Packet)
  | onSecure (result : Except JsError Unit)
  | changeUser (options : ChangeUserOptions)

namespace AuthConnection

/-- A connection that has just been created, with its handshake command. -/
def new (config : AuthConfig) (encrypted : Bool) : AuthConnection :=
  { config := config
    stream := .original encrypted
    closedState := false
    serverCapabilityFlags := 0
    handshakePacket := none
    authorized := false
    authPlugin := none
    fatalError := false
    isHandshake := true
    next := some .handshakeInit
    handshake := none
    clientFlags := config.clientFlags
    mariadbExtendedClientFlags := 0
    passwords := .unset
    authenticationFactor := 0 }

/-- How plugins see the connection. -/
def view (conn : AuthConnection) : ChannelView :=
  { isSecureConnection := conn.config.isSecureConnection
    encrypted := conn.stream.encrypted }

/-- The command is done with an error that it reports.  The error of a handshake
is fatal for the connection. -/
def fail (conn : AuthConnection) (err : JsError) : AuthConnection × List AuthOutput :=
  ({ conn with
    next := none
    fatalError := conn.fatalError || conn.isHandshake }, [.finished (.error err)])

/-- A handler throws: `_handleFatalError`. -/
def handleFatalError (conn : AuthConnection) (err : JsError) :
    AuthConnection × List AuthOutput :=
  ({ conn with
    next := none
    fatalError := true
    closedState := true }, [.fatal { err with fatal := true }])

/-- `fail` is passed on from a promise, which does not end the command. -/
def authSwitchPluginError (conn : AuthConnection) (err : JsError) :
    AuthConnection × List AuthOutput :=
  ({ conn with fatalError := conn.fatalError || conn.isHandshake },
    [.finished (.error
      { err with
        code := some (.name "AUTH_SWITCH_PLUGIN_ERROR")
        fatal := true })])

/-! ## Credentials -/

/-- `canUseAuthMethodDirectly(authMethod, isSecureConnection)`. -/
def canUseAuthMethodDirectly (isSecureConnection : Bool) : StandardAuthPlugin → Bool
  | .mysql_native_password | .caching_sha2_password => true
  | .sha256_password | .mysql_clear_password => isSecureConnection

/-- The method of the response: the server's, if it can be used directly, and
`mysql_native_password` otherwise. -/
def clientAuthMethod (config : AuthConfig) (serverAuthMethod : Option String) :
    StandardAuthPlugin :=
  let hasCustomAuthPlugin := (config.authPlugins (serverAuthMethod.getD "undefined")).isSome
  let hasLegacyAuthSwitchHandler := config.authSwitchHandler.isSome
  match serverAuthMethod.bind standardAuthPlugins with
  | none => .mysql_native_password
  | some authMethod =>
      if !hasCustomAuthPlugin ∧ !hasLegacyAuthSwitchHandler ∧
          canUseAuthMethodDirectly config.isSecureConnection authMethod ∧
          (authMethod ≠ .mysql_clear_password ∨ config.enableCleartextPlugin) then
        authMethod
      else
        .mysql_native_password

/-- The twenty bytes of plugin data of a hello packet. -/
def authPluginData (handshake : Handshake) : Bytes :=
  match handshake.authPluginData2 with
  | some authPluginData2 => (handshake.authPluginData1 ++ authPluginData2).take 20
  | none => List.replicate 20 0

/-- `calculateAuthToken(authMethod, password, authPluginData)`. -/
def calculateAuthToken (passwords : AuthPasswords) (authPluginData : Bytes) :
    StandardAuthPlugin → AuthData
  | .mysql_native_password =>
      nativePasswordData passwords.password passwords.passwordSha1 (authPluginData.take 8)
        ((authPluginData.drop 8).take 12)
  | .caching_sha2_password => .sha2Token passwords.password authPluginData
  | .sha256_password | .mysql_clear_password =>
      if passwords.password.truthy then .clear passwords.password else .constant []

/-- The value of a setting that has to be a string. -/
def textOf (name : String) : TextSetting → Except JsError String
  | .unset => .ok ""
  | .text value => .ok value
  | .other => .error (.new s!"\"{name}\" connection config property must be a string")

/-- The response to a hello packet, around a token. -/
def handshakeResponseToPacket (runtime : Runtime) (conn : AuthConnection)
    (authMethod : StandardAuthPlugin) (authToken : Bytes) : Except JsError Packet := do
  let user ← textOf "user" conn.config.user
  let database ← textOf "database" conn.config.database
  let response : HandshakeResponse :=
    { clientFlags := toInt32 conn.clientFlags
      mariadbExtendedClientFlags := toInt32 conn.mariadbExtendedClientFlags
      charsetNumber := conn.config.charsetNumber
      user := user
      database := database
      authToken := authToken
      authPluginName := authMethod.pluginName
      connectAttributes := conn.config.connectAttributes }
  response.toPacket runtime

/-- The response to a hello packet, and what its token has been computed from. -/
def handshakeResponse (runtime : Runtime) (conn : AuthConnection) (handshake : Handshake)
    (authMethod : StandardAuthPlugin) : Except JsError (Packet × AuthData) :=
  let data := calculateAuthToken (.ofConfig conn.config) (authPluginData handshake) authMethod
  match data.toBytes runtime with
  | .error err => .error err
  | .ok authToken =>
      (conn.handshakeResponseToPacket runtime authMethod authToken).map fun packet => (packet, data)

/-- `initializeAuthPlugin(authMethod, authPluginData, connection)`: the answer
has already been sent, so only the state of the plugin changes. -/
def initializeAuthPlugin (runtime : Runtime) (conn : AuthConnection)
    (authMethod : StandardAuthPlugin) (authPluginData : Bytes) : AuthConnection :=
  match getAuthPlugin conn.config conn.passwords authMethod.pluginName with
  | none => conn
  | some plugin =>
      { conn with authPlugin := some (plugin.call runtime conn.view authPluginData).1 }

/-- The part of `sendCredentials` behind the choice of the method. -/
def sendHandshakeResponse (runtime : Runtime) (conn : AuthConnection) (handshake : Handshake)
    (authMethod : StandardAuthPlugin) : AuthConnection × Except JsError (List AuthOutput) :=
  match conn.handshakeResponse runtime handshake authMethod with
  | .error err => (conn, .error err)
  | .ok (packet, data) =>
      (if authMethod = .mysql_native_password then
          conn
        else
          -- prepare for more data
          conn.initializeAuthPlugin runtime authMethod (authPluginData handshake),
        .ok [.handshakeResponse packet data])

/-- `sendCredentials(connection)`. -/
def sendCredentials (runtime : Runtime) (conn : AuthConnection) :
    AuthConnection × Except JsError (List AuthOutput) :=
  match conn.handshake with
  | none => (conn, .error .typeError)
  | some handshake =>
      { conn with passwords := .ofConfig conn.config }.sendHandshakeResponse runtime handshake
        (clientAuthMethod conn.config handshake.authPluginName)

/-! ## Switches -/

/-- A packet with an answer. -/
def authSwitchResponse (answer : AuthData × Bytes) : AuthOutput :=
  .authSwitchResponse (authSwitchResponseToPacket answer.2) answer.1

/-- `authSwitchHandler` calls back. -/
def legacySwitchResponse (conn : AuthConnection) (response : Except JsError Bytes) :
    AuthConnection × Except JsError (List AuthOutput) :=
  match response with
  | .ok data => (conn, .ok [authSwitchResponse (.outside data, data)])
  | .error err =>
      let failed := conn.authSwitchPluginError err
      (failed.1, .ok failed.2)

/-- `Promise.resolve(connection._authPlugin(data))` and what is chained to it. -/
def callAuthPlugin (runtime : Runtime) (conn : AuthConnection) (plugin : AuthPlugin)
    (data : Bytes) : AuthConnection × Except JsError (List AuthOutput) :=
  let called := plugin.call runtime conn.view data
  let conn := { conn with authPlugin := some called.1 }
  match called.2 with
  | .resolved answer => (conn, .ok (answer.map authSwitchResponse).toList)
  | .thrown err => (conn, .error err)
  | .rejected err =>
      let failed := conn.authSwitchPluginError err
      (failed.1, .ok failed.2)

/-- The error of a server that asks for the password in clear. -/
def clearPasswordNotEnabledError : JsError :=
  { JsError.new ("Server requested authentication using mysql_clear_password, " ++
      "which sends the password in plaintext over the network and is " ++
      "disabled by default. To enable it, set the `enableCleartextPlugin` " ++
      "option to `true` in your connection configuration, or provide a " ++
      "custom `mysql_clear_password` auth plugin via the `authPlugins` " ++
      "option. Only use this over a secure connection (TLS/SSL).") with
    code := some (.name "MYSQL_CLEAR_PASSWORD_NOT_ENABLED")
    fatal := true }

/-- The error of a server that asks for a plugin that does not exist. -/
def unknownPluginError (pluginName : String) : JsError :=
  .new (s!"Server requests authentication using unknown plugin {pluginName}. See " ++
    "TODO: add plugins doco here on how to configure or author authentication plugins.")

/-- `authSwitchRequest`, behind the reading of the packet. -/
def switchAuth (runtime : Runtime) (conn : AuthConnection) (request : AuthSwitchRequest) :
    AuthConnection × Except JsError (List AuthOutput) :=
  let legacySwitchHandler :=
    -- the handler cannot override `mysql_native_password`
    if request.pluginName = "mysql_native_password" then none else conn.config.authSwitchHandler
  match legacySwitchHandler with
  | some handler =>
      conn.legacySwitchResponse (handler (some request.pluginName) request.pluginData)
  | none =>
      if request.pluginName = "mysql_clear_password" ∧
          (conn.config.authPlugins "mysql_clear_password").isNone ∧
          !conn.config.enableCleartextPlugin then
        (conn, .error clearPasswordNotEnabledError)
      else
        match getAuthPlugin conn.config conn.passwords request.pluginName with
        | none => (conn, .error (unknownPluginError request.pluginName))
        | some plugin => conn.callAuthPlugin runtime plugin request.pluginData

/-- `authSwitchRequest(packet, connection, command)`. -/
def authSwitchRequest (runtime : Runtime) (conn : AuthConnection) (packet : Packet) :
    AuthConnection × Except JsError (List AuthOutput) :=
  match AuthSwitchRequest.fromPacket runtime packet with
  | .error err => (conn, .error err)
  | .ok (request, _) => conn.switchAuth runtime request

/-- `authSwitchRequestMoreData(packet, connection, command)`. -/
def authSwitchRequestMoreData (runtime : Runtime) (conn : AuthConnection) (packet : Packet) :
    AuthConnection × Except JsError (List AuthOutput) :=
  match AuthSwitchRequestMoreData.fromPacket packet with
  | .error err => (conn, .error err)
  | .ok (data, _) =>
      match conn.config.authSwitchHandler with
      | some handler => conn.legacySwitchResponse (handler none data)
      | none =>
          match conn.authPlugin with
          | none =>
              (conn, .error (.new "AuthPluginMoreData received but no auth plugin instance found"))
          | some plugin => conn.callAuthPlugin runtime plugin data

/-! ## Handlers -/

/-- The password of the next factor becomes the password of the connection. -/
def nextAuthenticationFactor (conn : AuthConnection) : AuthConnection :=
  if conn.authenticationFactor = 0 then
    conn
  else
    { conn with
      config := { conn.config with
        password := conn.passwords.factor conn.authenticationFactor }
      authenticationFactor := conn.authenticationFactor + 1 }

/-- The `catch` block of `handshakeResult`. -/
def authSwitchError (err : JsError) : JsError :=
  { err with
    code := err.code.or (some (.name "AUTH_SWITCH_PLUGIN_ERROR"))
    fatal := true }

/-- The `try` block of `handshakeResult` ends, or throws. -/
def concludeAuthSwitch (answered : AuthConnection × Except JsError (List AuthOutput)) :
    AuthConnection × List AuthOutput :=
  match answered.2 with
  | .ok outputs => (answered.1, outputs)
  | .error err => answered.1.fail (authSwitchError err)

/-- `handshakeResult(packet, connection)`. -/
def handshakeResult (runtime : Runtime) (conn : AuthConnection) (packet : Packet) :
    AuthConnection × List AuthOutput :=
  match packet.peekByte with
  | some 0x01 => concludeAuthSwitch (conn.authSwitchRequestMoreData runtime packet)
  | some 0xfe | some 0x02 =>
      concludeAuthSwitch (conn.nextAuthenticationFactor.authSwitchRequest runtime packet)
  | some 0x00 =>
      ({ conn with
        next := none
        authorized := true
        handshakePacket := if conn.isHandshake then conn.handshake else conn.handshakePacket },
        [.finished (.ok ())])
  | _ =>
      conn.fail
        { JsError.new "Unexpected packet during handshake phase" with
          code := some (.name "HANDSHAKE_UNKNOWN_ERROR")
          fatal := true }

/-- `handshakeInit`, behind the reading of the packet and in front of its
reaction to the `ssl` setting: what the two sides can do. -/
def negotiate (conn : AuthConnection) (handshake : Handshake) : AuthConnection :=
  let extendedMetadata :=
    hasFlag handshake.mariadbExtendedCapabilityFlags MARIADB_CLIENT_EXTENDED_METADATA
  let clientFlags :=
    -- a MariaDB server reads the extended flags only without this flag
    if extendedMetadata ∧ hasFlag conn.clientFlags LONG_PASSWORD then
      conn.clientFlags - LONG_PASSWORD
    else
      conn.clientFlags
  let compress := conn.config.compress && hasFlag handshake.capabilityFlags COMPRESS
  { conn with
    handshake := some handshake
    serverCapabilityFlags := handshake.capabilityFlags
    mariadbExtendedClientFlags :=
      conn.mariadbExtendedClientFlags |||
        (if extendedMetadata then MARIADB_CLIENT_EXTENDED_METADATA else 0)
    config := { conn.config with compress := compress }
    clientFlags :=
      clientFlags ||| (handshake.capabilityFlags &&& MULTI_FACTOR_AUTHENTICATION) |||
        (if compress then COMPRESS else 0) }

/-- The end of `handshakeInit`. -/
def awaitResult (conn : AuthConnection) : AuthConnection :=
  { conn with
    next := some .handshakeResult
    authenticationFactor :=
      if hasFlag conn.serverCapabilityFlags MULTI_FACTOR_AUTHENTICATION then 1
      else conn.authenticationFactor }

/-- `startTLS(onSecure)`: the original stream is no longer parsed. -/
def startTLS (conn : AuthConnection) : AuthConnection :=
  { conn with stream := .upgrading }

/-- `sendSSLRequest` and `startTLS`, which throws if it cannot build a context. -/
def upgrade (conn : AuthConnection) (createSecureContext : Except JsError Unit) :
    AuthConnection × List AuthOutput :=
  let conn := { conn with clientFlags := conn.clientFlags ||| SSL }
  match sslRequestToPacket conn.clientFlags conn.config.charsetNumber
    conn.mariadbExtendedClientFlags with
  | .error err => conn.handleFatalError err
  | .ok packet =>
      match createSecureContext with
      | .error err =>
          let failed := conn.handleFatalError err
          (failed.1, .sslRequest packet :: failed.2)
      | .ok _ => (conn.startTLS.awaitResult, [.sslRequest packet, .startTLS])

/-- A server without support for TLS. -/
def noSSLSupportError : JsError :=
  { JsError.new "Server does not support secure connection" with
    code := some (.name "HANDSHAKE_NO_SSL_SUPPORT")
    fatal := true }

/-- `handshakeInit(helloPacket, connection)`. -/
def handshakeInit (runtime : Runtime) (conn : AuthConnection) (helloPacket : Packet) :
    AuthConnection × List AuthOutput :=
  match Handshake.fromPacket runtime helloPacket with
  | .error err => conn.handleFatalError err
  | .ok (handshake, _) =>
      let conn := conn.negotiate handshake
      match conn.config.ssl with
      | some createSecureContext =>
          if hasFlag handshake.capabilityFlags SSL then
            conn.upgrade createSecureContext
          else
            conn.fail noSSLSupportError
      | none =>
          match conn.sendCredentials runtime with
          | (conn, .error err) => conn.handleFatalError err
          | (conn, .ok outputs) => (conn.awaitResult, outputs)

/-- The callback that `handshakeInit` passes to `startTLS`. -/
def onSecure (runtime : Runtime) (conn : AuthConnection) (result : Except JsError Unit) :
    AuthConnection × List AuthOutput :=
  match conn.stream, result with
  | .upgrading, .error err =>
      ({ conn with fatalError := true }, [.finished (.error
        { err with
          code := some (.name "HANDSHAKE_SSL_ERROR")
          fatal := true })])
  | .upgrading, .ok _ =>
      -- rest of communication is encrypted
      match { conn with stream := .secure }.sendCredentials runtime with
      | (conn, .error err) => conn.handleFatalError err
      | (conn, .ok outputs) => (conn, if conn.closedState then [.closedState] else outputs)
  | _, _ => (conn, [])

/-- The token of a `ChangeUser` packet, for the plugin data of the hello packet. -/
def changeUserToken (runtime : Runtime) (handshakePacket : Option Handshake)
    (passwords : AuthPasswords) : Except JsError (AuthData × Bytes) :=
  match handshakePacket with
  | none => .error .typeError
  | some handshake =>
      if handshake.authPluginData2.isNone ∧
          (passwords.passwordSha1.isSome ∨ passwords.password.truthy) then
        .error .typeError
      else
        let data := nativePasswordData passwords.password passwords.passwordSha1
          handshake.authPluginData1 (handshake.authPluginData2.getD [])
        (data.toBytes runtime).map fun authToken => (data, authToken)

/-- The packet of `ChangeUser` around a token. -/
def changeUserToPacket (runtime : Runtime) (clientFlags : Nat) (options : ChangeUserOptions)
    (authToken : Bytes) : Except JsError Packet := do
  let user ← textOf "user" options.user
  let database ← textOf "database" options.database
  let packet : ChangeUserPacket :=
    { flags := clientFlags
      charsetNumber := options.charsetNumber
      user := user
      database := database
      authToken := authToken }
  packet.toPacket runtime

/-- `ChangeUser.start`, behind the computation of the token: the settings of the
connection change, and the packet is written. -/
def changeUserStart (runtime : Runtime) (conn : AuthConnection) (options : ChangeUserOptions)
    (token : AuthData × Bytes) : AuthConnection × List AuthOutput :=
  let changed :=
    { conn with
      passwords := options.passwords
      config := { conn.config with
        user := options.user
        database := options.database
        password := options.passwords.password
        charsetNumber := options.charsetNumber } }
  match changeUserToPacket runtime conn.config.clientFlags options token.2 with
  | .error err => changed.handleFatalError err
  | .ok packet =>
      ({ changed with
        authenticationFactor :=
          if hasFlag conn.serverCapabilityFlags MULTI_FACTOR_AUTHENTICATION then 1 else 0
        next := some .handshakeResult }, [.changeUser packet token.1])

/-- A `ChangeUser` command becomes current. -/
def startChangeUser (runtime : Runtime) (conn : AuthConnection) (options : ChangeUserOptions) :
    AuthConnection × List AuthOutput :=
  let conn := { conn with isHandshake := false }
  match changeUserToken runtime conn.handshakePacket options.passwords with
  | .error err => conn.handleFatalError err
  | .ok token => conn.changeUserStart runtime options token

/-- `execute` of the current command: an ERR packet ends it. -/
def execute (runtime : Runtime) (conn : AuthConnection) (handler : AuthHandler)
    (packet : Packet) : AuthConnection × List AuthOutput :=
  if packet.isError then
    match Packet.asError runtime.toDecoding
      (runtime.charsetToEncoding conn.config.charsetNumber) packet with
    | .error err => conn.handleFatalError err
    | .ok (err, _) => conn.fail err
  else
    match handler with
    | .handshakeInit => conn.handshakeInit runtime packet
    | .handshakeResult => conn.handshakeResult runtime packet

/-- A packet is handed over by the parser. -/
def handlePacket (runtime : Runtime) (conn : AuthConnection) (packet : Packet) :
    AuthConnection × List AuthOutput :=
  match conn.next with
  | none => (conn, [])
  | some handler => if conn.fatalError then (conn, []) else conn.execute runtime handler packet

/-- A step.  A `ChangeUser` command starts when no other command is current. -/
def step (runtime : Runtime) : Transition.Step AuthConnection AuthEvent AuthOutput
  | conn, .packet packet => conn.handlePacket runtime packet
  | conn, .onSecure result => conn.onSecure runtime result
  | conn, .changeUser options =>
      if conn.next.isSome ∨ conn.fatalError then
        (conn, [])
      else
        conn.startChangeUser runtime options

end AuthConnection

end Mysql2.Auth

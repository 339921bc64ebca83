import Mathlib.Data.Quot
import Mysql2.Auth.Defaults

/-!
# What an observer learns about the passwords

Two passwords are alike for an observer who sees whether they are set, their
tokens over any challenge and their encryption under any key.  On a connection
that is neither secure nor allowed to send passwords in clear, two runs with
alike passwords write the same packets.

A run is compared with its masked image, in which every password has been
replaced by a representative of those that are alike.
-/

namespace Mysql2.Auth

open Mysql2.Packets
open Mysql2.Transition

/-! ## Masks -/

/-- A replacement of passwords that an observer does not notice. -/
structure Masks (runtime : Runtime) (mask : Password → Password) : Prop where
  unset : mask none = none
  truthy : ∀ password, (mask password).truthy = password.truthy
  token : ∀ password scramble1 scramble2,
    calculateToken runtime (mask password) scramble1 scramble2 =
      calculateToken runtime password scramble1 scramble2
  sha2Token : ∀ password scramble,
    calculateSha2Token runtime (mask password) scramble =
      calculateSha2Token runtime password scramble
  encrypted : ∀ password scramble key,
    encrypt runtime (mask password) scramble key = encrypt runtime password scramble key

section Map

variable (mask : Password → Password)

/-- Masked passwords. -/
def AuthPasswords.map (passwords : AuthPasswords) : AuthPasswords :=
  { passwords with
    password := mask passwords.password
    password2 := mask passwords.password2
    password3 := mask passwords.password3 }

/-- A configuration with masked passwords. -/
def AuthConfig.map (config : AuthConfig) : AuthConfig :=
  { config with
    password := mask config.password
    password2 := mask config.password2
    password3 := mask config.password3 }

/-- An answer with masked passwords. -/
def AuthData.map : AuthData → AuthData
  | .nativeToken password scramble1 scramble2 => .nativeToken (mask password) scramble1 scramble2
  | .sha2Token password scramble => .sha2Token (mask password) scramble
  | .encrypted password scramble key => .encrypted (mask password) scramble key
  | .clear password => .clear (mask password)
  | data => data

/-- A plugin with masked passwords. -/
def AuthPlugin.map : AuthPlugin → AuthPlugin
  | .cachingSha2 password state => .cachingSha2 (mask password) state
  | .sha256 password state => .sha256 (mask password) state
  | .native password passwordSha1 => .native (mask password) passwordSha1
  | .clear password => .clear (mask password)
  | .custom plugin received => .custom plugin received

/-- A result with masked passwords. -/
def PluginResult.map : PluginResult → PluginResult
  | .resolved answer => .resolved (answer.map fun (data, bytes) => (data.map mask, bytes))
  | .thrown err => .thrown err
  | .rejected err => .rejected err

/-- A connection with masked passwords. -/
def AuthConnection.map (conn : AuthConnection) : AuthConnection :=
  { conn with
    config := conn.config.map mask
    passwords := conn.passwords.map mask
    authPlugin := conn.authPlugin.map (AuthPlugin.map mask) }

/-- Options with masked passwords. -/
def ChangeUserOptions.map (options : ChangeUserOptions) : ChangeUserOptions :=
  { options with passwords := options.passwords.map mask }

/-- An output with masked passwords.  The packets stay. -/
def AuthOutput.map : AuthOutput → AuthOutput
  | .handshakeResponse packet data => .handshakeResponse packet (data.map mask)
  | .changeUser packet data => .changeUser packet (data.map mask)
  | .authSwitchResponse packet data => .authSwitchResponse packet (data.map mask)
  | output => output

/-- An event with masked passwords. -/
def AuthEvent.map : AuthEvent → AuthEvent
  | .changeUser options => .changeUser (options.map mask)
  | event => event

end Map

namespace AuthOutput

/-- The packet that is written. -/
def packet? : AuthOutput → Option Packet
  | .sslRequest packet => some packet
  | .handshakeResponse packet _ => some packet
  | .changeUser packet _ => some packet
  | .authSwitchResponse packet _ => some packet
  | _ => none

/-- The password is written as it is. -/
def isClear : AuthOutput → Bool
  | .handshakeResponse _ data => data.isClear
  | .changeUser _ data => data.isClear
  | .authSwitchResponse _ data => data.isClear
  | _ => false

theorem packet?_map (mask : Password → Password) (output : AuthOutput) :
    (output.map mask).packet? = output.packet? := by
  cases output <;> rfl

end AuthOutput

/-- The packets that are written. -/
def written (outputs : List AuthOutput) : List Packet :=
  outputs.filterMap AuthOutput.packet?

theorem written_map (mask : Password → Password) (outputs : List AuthOutput) :
    written (outputs.map (AuthOutput.map mask)) = written outputs := by
  rw [written, written, List.filterMap_map]
  exact congrArg (List.filterMap · outputs) (funext (AuthOutput.packet?_map mask))

section Masked

variable {runtime : Runtime} {mask : Password → Password}

theorem Masks.or (masks : Masks runtime mask) (first second : Password) :
    (mask first).or (mask second) = mask (first.or second) := by
  unfold Password.or
  rw [masks.truthy]
  split <;> rfl

theorem Masks.factor (masks : Masks runtime mask) (passwords : AuthPasswords) (factor : Nat) :
    (passwords.map mask).factor factor = mask (passwords.factor factor) := by
  match factor with
  | 0 => exact masks.unset.symm
  | 1 | 2 | 3 => rfl
  | _ + 4 => exact masks.unset.symm

/-- An answer that is not in clear does not show the mask. -/
theorem Masks.toBytes (masks : Masks runtime mask) {data : AuthData}
    (notClear : data.isClear = false) : (data.map mask).toBytes runtime = data.toBytes runtime := by
  cases data with
  | nativeToken password scramble1 scramble2 =>
      exact congrArg Except.ok (masks.token password scramble1 scramble2)
  | sha2Token password scramble => exact congrArg Except.ok (masks.sha2Token password scramble)
  | encrypted password scramble key => exact masks.encrypted password scramble key
  | clear password => contradiction
  | _ => rfl

theorem nativePasswordData_map (password : Password) (passwordSha1 : Option Bytes)
    (scramble1 scramble2 : Bytes) :
    nativePasswordData (mask password) passwordSha1 scramble1 scramble2 =
      (nativePasswordData password passwordSha1 scramble1 scramble2).map mask := by
  cases passwordSha1 <;> rfl

theorem nativePasswordData_not_clear (password : Password) (passwordSha1 : Option Bytes)
    (scramble1 scramble2 : Bytes) :
    (nativePasswordData password passwordSha1 scramble1 scramble2).isClear = false := by
  cases passwordSha1 <;> rfl

/-! ## Plugins -/

/-- The plugin does not hold a password to be sent in clear. -/
def AuthPlugin.isClear : AuthPlugin → Bool
  | .clear _ => true
  | _ => false

/-- A connection that is not secure. -/
def exposed : ChannelView :=
  ⟨false, false⟩

/-- What a call of a plugin does and what it does with masked passwords. -/
structure CallConcealed (mask : Password → Password)
    (result masked : AuthPlugin × PluginResult) : Prop where
  pluginNotClear : result.1.isClear = false
  masked : masked = (result.1.map mask, result.2.map mask)
  notClear : ∀ answer, result.2 = .resolved (some answer) → answer.1.isClear = false

theorem concealed_thrown {plugin : AuthPlugin} (notClear : plugin.isClear = false)
    (err : JsError) :
    CallConcealed mask (plugin, .thrown err) (plugin.map mask, .thrown err) where
  pluginNotClear := notClear
  masked := rfl
  notClear := by
    intro answer isAnswer
    contradiction

theorem Masks.concealed_answer (masks : Masks runtime mask) (data : AuthData)
    (next plugin : AuthPlugin) (notClear : data.isClear = false)
    (nextNotClear : next.isClear = false) (pluginNotClear : plugin.isClear = false) :
    CallConcealed mask (AuthPlugin.answer runtime data next plugin)
      (AuthPlugin.answer runtime (data.map mask) (next.map mask) (plugin.map mask)) := by
  unfold AuthPlugin.answer
  rw [masks.toBytes notClear]
  cases data.toBytes runtime with
  | error err => exact concealed_thrown pluginNotClear err
  | ok bytes =>
      refine ⟨nextNotClear, rfl, ?_⟩
      rintro answer ⟨⟩
      exact notClear

theorem Masks.concealed_callCachingSha2 (masks : Masks runtime mask) (password : Password)
    (data : Bytes) (state : CachingSha2State) :
    CallConcealed mask (AuthPlugin.callCachingSha2 runtime exposed password data state)
      (AuthPlugin.callCachingSha2 runtime exposed (mask password) data state) := by
  cases state with
  | initial =>
      exact masks.concealed_answer (.sha2Token password (data.take 20))
        (.cachingSha2 password (.tokenSent (data.take 20))) (.cachingSha2 password .initial)
        rfl rfl rfl
  | tokenSent scramble =>
      unfold AuthPlugin.callCachingSha2
      dsimp only
      split
      · refine ⟨rfl, rfl, ?_⟩
        rintro answer ⟨⟩
      · split
        · exact masks.concealed_answer (.constant [2])
            (.cachingSha2 password (.waitServerKey scramble))
            (.cachingSha2 password (.tokenSent scramble)) rfl rfl rfl
        · exact concealed_thrown rfl _
  | waitServerKey scramble =>
      exact masks.concealed_answer (.encrypted password scramble data)
        (.cachingSha2 password .final) (.cachingSha2 password (.waitServerKey scramble))
        rfl rfl rfl
  | final => exact concealed_thrown rfl _

theorem Masks.concealed_callSha256 (masks : Masks runtime mask) (password : Password)
    (data : Bytes) (state : Sha256State) :
    CallConcealed mask (AuthPlugin.callSha256 runtime exposed password data state)
      (AuthPlugin.callSha256 runtime exposed (mask password) data state) := by
  cases state with
  | initial =>
      exact masks.concealed_answer (.constant [1]) (.sha256 password (.waitServerKey (data.take 20)))
        (.sha256 password .initial) rfl rfl rfl
  | waitServerKey scramble =>
      exact masks.concealed_answer (.encrypted password scramble data) (.sha256 password .final)
        (.sha256 password (.waitServerKey scramble)) rfl rfl rfl
  | final => exact concealed_thrown rfl _

/-- A plugin on a connection that is not secure conceals its password. -/
theorem Masks.concealed_call (masks : Masks runtime mask) {plugin : AuthPlugin}
    (notClear : plugin.isClear = false) (data : Bytes) :
    CallConcealed mask (plugin.call runtime exposed data)
      ((plugin.map mask).call runtime exposed data) := by
  cases plugin with
  | cachingSha2 password state => exact masks.concealed_callCachingSha2 password data state
  | sha256 password state => exact masks.concealed_callSha256 password data state
  | native password passwordSha1 =>
      unfold AuthPlugin.call AuthPlugin.map
      dsimp only
      rw [nativePasswordData_map]
      exact masks.concealed_answer _ (.native password passwordSha1)
        (.native password passwordSha1) (nativePasswordData_not_clear _ _ _ _) rfl rfl
  | clear password => contradiction
  | custom outside received =>
      refine ⟨rfl, ?_, ?_⟩
      · unfold AuthPlugin.call AuthPlugin.map
        dsimp only
        cases outside (received ++ [data]) with
        | error err => rfl
        | ok answer => cases answer <;> rfl
      · intro answer isAnswer
        unfold AuthPlugin.call at isAnswer
        dsimp only at isAnswer
        cases settled : outside (received ++ [data]) with
        | error err =>
            rw [settled] at isAnswer
            contradiction
        | ok bytes =>
            rw [settled] at isAnswer
            cases bytes with
            | none => cases isAnswer
            | some bytes =>
                cases isAnswer
                rfl

/-! ## Connections -/

/-- A configuration without TLS and socket path, which does not allow passwords
in clear and configures no authentication code of the user. -/
structure AuthConfig.Plain (config : AuthConfig) : Prop where
  ssl : config.ssl = none
  socketPath : config.socketPath = false
  enableCleartextPlugin : config.enableCleartextPlugin = false
  authPlugins : ∀ pluginName, config.authPlugins pluginName = none
  authSwitchHandler : config.authSwitchHandler = none

/-- A connection over an unencrypted stream with such a configuration, whose
plugin does not hold a password to be sent in clear. -/
structure AuthConnection.Guarded (conn : AuthConnection) : Prop where
  plain : conn.config.Plain
  stream : conn.stream = .original false
  plugin : ∀ plugin ∈ conn.authPlugin, plugin.isClear = false

theorem AuthConnection.Guarded.view {conn : AuthConnection} (guarded : conn.Guarded) :
    conn.view = exposed := by
  unfold AuthConnection.view AuthConfig.isSecureConnection
  rw [guarded.plain.ssl, guarded.plain.socketPath, guarded.stream]
  rfl

theorem isClear_map (plugin : AuthPlugin) : (plugin.map mask).isClear = plugin.isClear := by
  cases plugin <;> rfl

theorem AuthConfig.Plain.map {config : AuthConfig} (plain : config.Plain) :
    (config.map mask).Plain :=
  ⟨plain.ssl, plain.socketPath, plain.enableCleartextPlugin, plain.authPlugins,
    plain.authSwitchHandler⟩

theorem AuthConnection.Guarded.map {conn : AuthConnection} (guarded : conn.Guarded) :
    (conn.map mask).Guarded := by
  refine ⟨guarded.plain.map, guarded.stream, ?_⟩
  intro masked maskedMem
  obtain ⟨plugin, pluginEq, rfl⟩ := Option.map_eq_some_iff.mp maskedMem
  exact (isClear_map plugin).trans (guarded.plugin plugin pluginEq)

/-- What a step does and what it does with masked passwords. -/
structure StepConcealed (mask : Password → Password)
    (result masked : AuthConnection × List AuthOutput) : Prop where
  guarded : result.1.Guarded
  masked : masked = (result.1.map mask, result.2.map (AuthOutput.map mask))
  notClear : ∀ output ∈ result.2, output.isClear = false

/-- What a handler that can throw does and what it does with masked passwords. -/
structure AnswerConcealed (mask : Password → Password)
    (result masked : AuthConnection × Except JsError (List AuthOutput)) : Prop where
  guarded : result.1.Guarded
  masked : masked = (result.1.map mask, result.2.map (List.map (AuthOutput.map mask)))
  notClear : ∀ outputs, result.2 = .ok outputs → ∀ output ∈ outputs, output.isClear = false

theorem concealed_error {conn : AuthConnection} (guarded : conn.Guarded) (err : JsError) :
    AnswerConcealed mask (conn, .error err) (conn.map mask, .error err) where
  guarded := guarded
  masked := rfl
  notClear := by
    rintro outputs ⟨⟩

theorem concealed_ok {conn : AuthConnection} (guarded : conn.Guarded)
    {outputs : List AuthOutput} (notClear : ∀ output ∈ outputs, output.isClear = false) :
    AnswerConcealed mask (conn, .ok outputs)
      (conn.map mask, .ok (outputs.map (AuthOutput.map mask))) where
  guarded := guarded
  masked := rfl
  notClear := by
    rintro _ ⟨⟩
    exact notClear

theorem AuthConnection.Guarded.fail {conn : AuthConnection} (guarded : conn.Guarded)
    (err : JsError) : StepConcealed mask (conn.fail err) ((conn.map mask).fail err) where
  guarded := ⟨guarded.plain, guarded.stream, guarded.plugin⟩
  masked := rfl
  notClear := by
    intro output outputMem
    rw [List.mem_singleton.mp outputMem]
    rfl

theorem AuthConnection.Guarded.handleFatalError {conn : AuthConnection} (guarded : conn.Guarded)
    (err : JsError) :
    StepConcealed mask (conn.handleFatalError err) ((conn.map mask).handleFatalError err) where
  guarded := ⟨guarded.plain, guarded.stream, guarded.plugin⟩
  masked := rfl
  notClear := by
    intro output outputMem
    rw [List.mem_singleton.mp outputMem]
    rfl

/-- A handler ends or throws, and what it threw is handled. -/
theorem AnswerConcealed.concludeAuthSwitch
    {result masked : AuthConnection × Except JsError (List AuthOutput)}
    (concealed : AnswerConcealed mask result masked) :
    StepConcealed mask (AuthConnection.concludeAuthSwitch result)
      (AuthConnection.concludeAuthSwitch masked) := by
  obtain ⟨conn, answered⟩ := result
  rw [concealed.masked]
  cases answered with
  | error err => exact concealed.guarded.fail _
  | ok outputs => exact ⟨concealed.guarded, rfl, concealed.notClear outputs rfl⟩

theorem Masks.concealed_callAuthPlugin (masks : Masks runtime mask) {conn : AuthConnection}
    (guarded : conn.Guarded) {plugin : AuthPlugin} (notClear : plugin.isClear = false)
    (data : Bytes) :
    AnswerConcealed mask (conn.callAuthPlugin runtime plugin data)
      ((conn.map mask).callAuthPlugin runtime (plugin.map mask) data) := by
  have concealed := masks.concealed_call notClear data
  unfold AuthConnection.callAuthPlugin
  rw [show (conn.map mask).view = conn.view from rfl, guarded.view, concealed.masked]
  generalize plugin.call runtime exposed data = called at concealed
  obtain ⟨next, result⟩ := called
  have after : ({ conn with authPlugin := some next } : AuthConnection).Guarded := by
    refine ⟨guarded.plain, guarded.stream, ?_⟩
    rintro _ ⟨⟩
    exact concealed.pluginNotClear
  cases result with
  | thrown err => exact concealed_error after err
  | rejected err =>
      refine ⟨⟨after.plain, after.stream, after.plugin⟩, rfl, ?_⟩
      rintro outputs ⟨⟩ output outputMem
      rw [List.mem_singleton.mp outputMem]
      rfl
  | resolved answer =>
      cases answer with
      | none => exact concealed_ok after (List.forall_mem_nil _)
      | some answer =>
          have notClear : ∀ output ∈ [AuthConnection.authSwitchResponse answer],
              output.isClear = false := by
            intro output outputMem
            rw [List.mem_singleton.mp outputMem]
            exact concealed.notClear answer rfl
          exact concealed_ok after notClear

theorem Masks.create (masks : Masks runtime mask) (config : AuthConfig)
    (passwords : AuthPasswords) (plugin : StandardAuthPlugin) :
    plugin.create (config.map mask) (passwords.map mask) =
      (plugin.create config passwords).map mask := by
  cases plugin with
  | caching_sha2_password => rfl
  | sha256_password => rfl
  | mysql_native_password =>
      exact congrArg (AuthPlugin.native · _) (masks.or passwords.password config.password)
  | mysql_clear_password =>
      exact congrArg AuthPlugin.clear (masks.or passwords.password config.password)

theorem create_not_clear (config : AuthConfig) (passwords : AuthPasswords)
    {plugin : StandardAuthPlugin} (notClear : plugin ≠ .mysql_clear_password) :
    (plugin.create config passwords).isClear = false := by
  cases plugin with
  | mysql_clear_password => exact absurd rfl notClear
  | _ => rfl

theorem AuthConfig.Plain.getAuthPlugin {config : AuthConfig} (plain : config.Plain)
    (passwords : AuthPasswords) (pluginName : String) :
    getAuthPlugin config passwords pluginName =
      (standardAuthPlugins pluginName).map (StandardAuthPlugin.create config passwords) := by
  rw [Auth.getAuthPlugin, plain.authPlugins]

theorem Masks.concealed_switchAuth (masks : Masks runtime mask) {conn : AuthConnection}
    (guarded : conn.Guarded) (request : AuthSwitchRequest) :
    AnswerConcealed mask (conn.switchAuth runtime request)
      ((conn.map mask).switchAuth runtime request) := by
  have plain := guarded.plain
  have noHandler : ∀ conn : AuthConnection, conn.config.Plain →
      (if request.pluginName = "mysql_native_password" then none
        else conn.config.authSwitchHandler) = none := by
    intro conn plain
    rw [plain.authSwitchHandler]
    exact ite_self none
  unfold AuthConnection.switchAuth
  dsimp only
  rw [noHandler conn plain, noHandler (conn.map mask) plain.map]
  dsimp only
  by_cases isClear : request.pluginName = "mysql_clear_password"
  · have refused : ∀ conn : AuthConnection, conn.config.Plain →
        (request.pluginName = "mysql_clear_password" ∧
          (conn.config.authPlugins "mysql_clear_password").isNone ∧
          !conn.config.enableCleartextPlugin) := by
      intro conn plain
      rw [plain.authPlugins, plain.enableCleartextPlugin]
      exact ⟨isClear, rfl, rfl⟩
    rw [if_pos (refused conn plain), if_pos (refused (conn.map mask) plain.map)]
    exact concealed_error guarded _
  · rw [if_neg fun refused => isClear refused.1, if_neg fun refused => isClear refused.1,
      plain.getAuthPlugin]
    have masked : getAuthPlugin (conn.map mask).config (conn.map mask).passwords
        request.pluginName =
        (standardAuthPlugins request.pluginName).map fun plugin =>
          (plugin.create conn.config conn.passwords).map mask := by
      refine (AuthConfig.Plain.getAuthPlugin plain.map _ _).trans ?_
      exact congrArg (Option.map · _) (funext fun plugin => masks.create _ _ plugin)
    rw [masked]
    cases found : standardAuthPlugins request.pluginName with
    | none => exact concealed_error guarded _
    | some plugin =>
        refine masks.concealed_callAuthPlugin guarded (create_not_clear _ _ ?_) _
        rintro rfl
        exact isClear (standardAuthPlugins_eq_clear found)

theorem Masks.concealed_authSwitchRequest (masks : Masks runtime mask) {conn : AuthConnection}
    (guarded : conn.Guarded) (packet : Packet) :
    AnswerConcealed mask (conn.authSwitchRequest runtime packet)
      ((conn.map mask).authSwitchRequest runtime packet) := by
  unfold AuthConnection.authSwitchRequest
  cases AuthSwitchRequest.fromPacket runtime packet with
  | error err => exact concealed_error guarded err
  | ok read => exact masks.concealed_switchAuth guarded read.1

theorem Masks.concealed_authSwitchRequestMoreData (masks : Masks runtime mask)
    {conn : AuthConnection} (guarded : conn.Guarded) (packet : Packet) :
    AnswerConcealed mask (conn.authSwitchRequestMoreData runtime packet)
      ((conn.map mask).authSwitchRequestMoreData runtime packet) := by
  unfold AuthConnection.authSwitchRequestMoreData
  cases AuthSwitchRequestMoreData.fromPacket packet with
  | error err => exact concealed_error guarded err
  | ok read =>
      dsimp only
      rw [guarded.plain.authSwitchHandler,
        show (conn.map mask).config.authSwitchHandler = none from guarded.plain.authSwitchHandler,
        show (conn.map mask).authPlugin = conn.authPlugin.map (AuthPlugin.map mask) from rfl]
      cases found : conn.authPlugin with
      | none => exact concealed_error guarded _
      | some plugin =>
          exact masks.concealed_callAuthPlugin guarded (guarded.plugin plugin found) read.1

/-! ## Credentials -/

theorem AuthConfig.Plain.clientAuthMethod {config : AuthConfig} (plain : config.Plain)
    (serverAuthMethod : Option String) :
    AuthConnection.clientAuthMethod config serverAuthMethod = .mysql_native_password ∨
      AuthConnection.clientAuthMethod config serverAuthMethod = .caching_sha2_password := by
  have notSecure : config.isSecureConnection = false := by
    rw [AuthConfig.isSecureConnection, plain.ssl, plain.socketPath]
    rfl
  unfold AuthConnection.clientAuthMethod
  dsimp only
  rw [notSecure]
  split
  · exact Or.inl rfl
  · split
    · next authMethod found usable =>
        cases authMethod with
        | mysql_native_password => exact Or.inl rfl
        | caching_sha2_password => exact Or.inr rfl
        | sha256_password => exact absurd usable.2.2.1 Bool.false_ne_true
        | mysql_clear_password => exact absurd usable.2.2.1 Bool.false_ne_true
    · exact Or.inl rfl

theorem Masks.calculateAuthToken (masks : Masks runtime mask) (passwords : AuthPasswords)
    (authPluginData : Bytes) (authMethod : StandardAuthPlugin) :
    AuthConnection.calculateAuthToken (passwords.map mask) authPluginData authMethod =
      (AuthConnection.calculateAuthToken passwords authPluginData authMethod).map mask := by
  have inClear : (if (mask passwords.password).truthy then AuthData.clear (mask passwords.password)
        else .constant []) =
      (if passwords.password.truthy then AuthData.clear passwords.password
        else .constant []).map mask := by
    rw [masks.truthy]
    split <;> rfl
  cases authMethod with
  | mysql_native_password => exact nativePasswordData_map _ _ _ _
  | caching_sha2_password => rfl
  | sha256_password => exact inClear
  | mysql_clear_password => exact inClear

theorem calculateAuthToken_not_clear (passwords : AuthPasswords) (authPluginData : Bytes)
    {authMethod : StandardAuthPlugin}
    (hashed : authMethod = .mysql_native_password ∨ authMethod = .caching_sha2_password) :
    (AuthConnection.calculateAuthToken passwords authPluginData authMethod).isClear = false := by
  rcases hashed with rfl | rfl
  · exact nativePasswordData_not_clear _ _ _ _
  · rfl

/-- The response to a hello packet, for a hashed token. -/
theorem Masks.handshakeResponse (masks : Masks runtime mask) (conn : AuthConnection)
    (handshake : Handshake) {authMethod : StandardAuthPlugin}
    (hashed : authMethod = .mysql_native_password ∨ authMethod = .caching_sha2_password) :
    (conn.map mask).handshakeResponse runtime handshake authMethod =
      (conn.handshakeResponse runtime handshake authMethod).map fun response =>
        (response.1, response.2.map mask) := by
  have notClear := calculateAuthToken_not_clear (.ofConfig conn.config)
    (AuthConnection.authPluginData handshake) hashed
  have masked := masks.calculateAuthToken (.ofConfig conn.config)
    (AuthConnection.authPluginData handshake) authMethod
  unfold AuthConnection.handshakeResponse
  dsimp only
  rw [show AuthPasswords.ofConfig (conn.map mask).config =
    (AuthPasswords.ofConfig conn.config).map mask from rfl, masked, masks.toBytes notClear]
  generalize AuthConnection.calculateAuthToken _ _ _ = data
  cases data.toBytes runtime with
  | error err => rfl
  | ok authToken =>
      dsimp only
      rw [show (conn.map mask).handshakeResponseToPacket runtime authMethod authToken =
        conn.handshakeResponseToPacket runtime authMethod authToken from rfl]
      cases conn.handshakeResponseToPacket runtime authMethod authToken <;> rfl

theorem handshakeResponse_not_clear {conn : AuthConnection} {handshake : Handshake}
    {authMethod : StandardAuthPlugin}
    (hashed : authMethod = .mysql_native_password ∨ authMethod = .caching_sha2_password)
    {response : Packet × AuthData}
    (responded : conn.handshakeResponse runtime handshake authMethod = .ok response) :
    response.2.isClear = false := by
  have notClear := calculateAuthToken_not_clear (.ofConfig conn.config)
    (AuthConnection.authPluginData handshake) hashed
  unfold AuthConnection.handshakeResponse at responded
  dsimp only at responded
  generalize AuthConnection.calculateAuthToken _ _ _ = data at responded notClear
  cases bytes : data.toBytes runtime with
  | error err =>
      rw [bytes] at responded
      cases responded
  | ok authToken =>
      rw [bytes] at responded
      dsimp only at responded
      cases packet : conn.handshakeResponseToPacket runtime authMethod authToken with
      | error err =>
          rw [packet] at responded
          cases responded
      | ok packet =>
          rw [packet] at responded
          cases responded
          exact notClear

theorem Masks.initializeAuthPlugin (masks : Masks runtime mask) {conn : AuthConnection}
    (guarded : conn.Guarded) (authPluginData : Bytes) :
    (conn.initializeAuthPlugin runtime .caching_sha2_password authPluginData).Guarded ∧
      (conn.map mask).initializeAuthPlugin runtime .caching_sha2_password authPluginData =
        (conn.initializeAuthPlugin runtime .caching_sha2_password authPluginData).map mask := by
  have concealed := masks.concealed_callCachingSha2 conn.config.password authPluginData .initial
  have called : ∀ conn : AuthConnection, conn.Guarded →
      conn.initializeAuthPlugin runtime .caching_sha2_password authPluginData =
        { conn with
          authPlugin := some (AuthPlugin.callCachingSha2 runtime exposed conn.config.password
            authPluginData .initial).1 } := by
    intro conn guarded
    unfold AuthConnection.initializeAuthPlugin
    rw [guarded.plain.getAuthPlugin, guarded.view]
    rfl
  rw [called conn guarded, called (conn.map mask) guarded.map]
  refine ⟨⟨guarded.plain, guarded.stream, ?_⟩, ?_⟩
  · rintro _ ⟨⟩
    exact concealed.pluginNotClear
  · have plugin : (AuthPlugin.callCachingSha2 runtime exposed (mask conn.config.password)
        authPluginData .initial).1 = _ := congrArg Prod.fst concealed.masked
    exact congrArg (fun plugin => ({ conn.map mask with authPlugin := some plugin } :
      AuthConnection)) plugin

theorem Masks.concealed_sendHandshakeResponse (masks : Masks runtime mask)
    {conn : AuthConnection} (guarded : conn.Guarded) (handshake : Handshake)
    {authMethod : StandardAuthPlugin}
    (hashed : authMethod = .mysql_native_password ∨ authMethod = .caching_sha2_password) :
    AnswerConcealed mask (conn.sendHandshakeResponse runtime handshake authMethod)
      ((conn.map mask).sendHandshakeResponse runtime handshake authMethod) := by
  unfold AuthConnection.sendHandshakeResponse
  rw [masks.handshakeResponse conn handshake hashed]
  cases responded : conn.handshakeResponse runtime handshake authMethod with
  | error err => exact concealed_error guarded err
  | ok response =>
      obtain ⟨packet, data⟩ := response
      have notClear : ∀ output ∈ [AuthOutput.handshakeResponse packet data],
          output.isClear = false := by
        intro output outputMem
        rw [List.mem_singleton.mp outputMem]
        exact handshakeResponse_not_clear hashed responded
      rcases hashed with rfl | rfl
      · exact concealed_ok guarded notClear
      · obtain ⟨initialized, masked⟩ := masks.initializeAuthPlugin guarded
          (AuthConnection.authPluginData handshake)
        have concealed : AnswerConcealed mask _ _ := concealed_ok initialized notClear
        rw [← masked] at concealed
        exact concealed

theorem Masks.concealed_sendCredentials (masks : Masks runtime mask) {conn : AuthConnection}
    (guarded : conn.Guarded) :
    AnswerConcealed mask (conn.sendCredentials runtime)
      ((conn.map mask).sendCredentials runtime) := by
  unfold AuthConnection.sendCredentials
  rw [show (conn.map mask).handshake = conn.handshake from rfl]
  cases conn.handshake with
  | none => exact concealed_error guarded _
  | some handshake =>
      let sending : AuthConnection :=
        { conn with
          handshake := some handshake
          passwords := .ofConfig conn.config }
      have sendingGuarded : sending.Guarded := ⟨guarded.plain, guarded.stream, guarded.plugin⟩
      exact masks.concealed_sendHandshakeResponse sendingGuarded handshake
        (guarded.plain.clientAuthMethod handshake.authPluginName)

/-! ## Handlers -/

theorem StepConcealed.same {conn : AuthConnection} (guarded : conn.Guarded) :
    StepConcealed mask (conn, []) (conn.map mask, []) :=
  ⟨guarded, rfl, List.forall_mem_nil _⟩

theorem Masks.nextAuthenticationFactor (masks : Masks runtime mask) (conn : AuthConnection) :
    (conn.map mask).nextAuthenticationFactor = conn.nextAuthenticationFactor.map mask := by
  unfold AuthConnection.nextAuthenticationFactor
  rw [show (conn.map mask).authenticationFactor = conn.authenticationFactor from rfl,
    show (conn.map mask).passwords = conn.passwords.map mask from rfl, masks.factor]
  split <;> rfl

theorem AuthConnection.Guarded.nextAuthenticationFactor {conn : AuthConnection}
    (guarded : conn.Guarded) : conn.nextAuthenticationFactor.Guarded := by
  obtain ⟨plain, stream, plugin⟩ := guarded
  unfold AuthConnection.nextAuthenticationFactor
  split
  · exact ⟨plain, stream, plugin⟩
  · exact ⟨⟨plain.ssl, plain.socketPath, plain.enableCleartextPlugin, plain.authPlugins,
      plain.authSwitchHandler⟩, stream, plugin⟩

theorem Masks.concealed_handshakeResult (masks : Masks runtime mask) {conn : AuthConnection}
    (guarded : conn.Guarded) (packet : Packet) :
    StepConcealed mask (conn.handshakeResult runtime packet)
      ((conn.map mask).handshakeResult runtime packet) := by
  have switched : StepConcealed mask
      (AuthConnection.concludeAuthSwitch
        (conn.nextAuthenticationFactor.authSwitchRequest runtime packet))
      (AuthConnection.concludeAuthSwitch
        ((conn.map mask).nextAuthenticationFactor.authSwitchRequest runtime packet)) := by
    rw [masks.nextAuthenticationFactor]
    exact (masks.concealed_authSwitchRequest guarded.nextAuthenticationFactor
      packet).concludeAuthSwitch
  unfold AuthConnection.handshakeResult
  split
  · exact (masks.concealed_authSwitchRequestMoreData guarded packet).concludeAuthSwitch
  · exact switched
  · exact switched
  · refine ⟨⟨guarded.plain, guarded.stream, guarded.plugin⟩, ?_, ?_⟩
    · rfl
    · intro output outputMem
      rw [List.mem_singleton.mp outputMem]
      rfl
  · exact guarded.fail _

theorem AuthConnection.Guarded.negotiate {conn : AuthConnection} (guarded : conn.Guarded)
    (handshake : Handshake) : (conn.negotiate handshake).Guarded :=
  ⟨⟨guarded.plain.ssl, guarded.plain.socketPath, guarded.plain.enableCleartextPlugin,
    guarded.plain.authPlugins, guarded.plain.authSwitchHandler⟩, guarded.stream, guarded.plugin⟩

theorem Masks.concealed_handshakeInit (masks : Masks runtime mask) {conn : AuthConnection}
    (guarded : conn.Guarded) (helloPacket : Packet) :
    StepConcealed mask (conn.handshakeInit runtime helloPacket)
      ((conn.map mask).handshakeInit runtime helloPacket) := by
  unfold AuthConnection.handshakeInit
  cases Handshake.fromPacket runtime helloPacket with
  | error err => exact guarded.handleFatalError err
  | ok read =>
      obtain ⟨handshake, -⟩ := read
      have negotiated := guarded.negotiate handshake
      have concealed := masks.concealed_sendCredentials negotiated
      dsimp only
      rw [show (conn.map mask).negotiate handshake = (conn.negotiate handshake).map mask from rfl,
        show ((conn.negotiate handshake).map mask).config.ssl = none from negotiated.plain.ssl,
        negotiated.plain.ssl]
      dsimp only
      rw [concealed.masked]
      generalize (conn.negotiate handshake).sendCredentials runtime = sent at concealed
      obtain ⟨conn, answered⟩ := sent
      cases answered with
      | error err => exact concealed.guarded.handleFatalError err
      | ok outputs =>
          have guarded := concealed.guarded
          exact ⟨⟨guarded.plain, guarded.stream, guarded.plugin⟩, rfl,
            concealed.notClear outputs rfl⟩

theorem Masks.concealed_handlePacket (masks : Masks runtime mask) {conn : AuthConnection}
    (guarded : conn.Guarded) (packet : Packet) :
    StepConcealed mask (conn.handlePacket runtime packet)
      ((conn.map mask).handlePacket runtime packet) := by
  unfold AuthConnection.handlePacket
  rw [show (conn.map mask).next = conn.next from rfl,
    show (conn.map mask).fatalError = conn.fatalError from rfl]
  cases conn.next with
  | none => exact .same guarded
  | some handler =>
      dsimp only
      split
      · exact .same guarded
      · unfold AuthConnection.execute
        rw [show (conn.map mask).config.charsetNumber = conn.config.charsetNumber from rfl]
        split
        · split
          · exact guarded.handleFatalError _
          · exact guarded.fail _
        · cases handler with
          | handshakeInit => exact masks.concealed_handshakeInit guarded packet
          | handshakeResult => exact masks.concealed_handshakeResult guarded packet

theorem Masks.changeUserToken (masks : Masks runtime mask) (handshakePacket : Option Handshake)
    (passwords : AuthPasswords) :
    AuthConnection.changeUserToken runtime handshakePacket (passwords.map mask) =
      (AuthConnection.changeUserToken runtime handshakePacket passwords).map fun token =>
        (token.1.map mask, token.2) := by
  unfold AuthConnection.changeUserToken
  cases handshakePacket with
  | none => rfl
  | some handshake =>
      dsimp only
      rw [show (passwords.map mask).passwordSha1 = passwords.passwordSha1 from rfl,
        show (passwords.map mask).password = mask passwords.password from rfl, masks.truthy,
        nativePasswordData_map, masks.toBytes (nativePasswordData_not_clear _ _ _ _)]
      split
      · rfl
      · cases AuthData.toBytes runtime _ <;> rfl

theorem changeUserToken_not_clear {handshakePacket : Option Handshake}
    {passwords : AuthPasswords} {token : AuthData × Bytes}
    (computed : AuthConnection.changeUserToken runtime handshakePacket passwords = .ok token) :
    token.1.isClear = false := by
  unfold AuthConnection.changeUserToken at computed
  cases handshakePacket with
  | none => cases computed
  | some handshake =>
      dsimp only at computed
      split at computed
      · cases computed
      · have notClear := nativePasswordData_not_clear passwords.password passwords.passwordSha1
          handshake.authPluginData1 (handshake.authPluginData2.getD [])
        generalize nativePasswordData _ _ _ _ = data at computed notClear
        cases bytes : data.toBytes runtime with
        | error err =>
            rw [bytes] at computed
            cases computed
        | ok bytes' =>
            rw [bytes] at computed
            cases computed
            exact notClear

theorem Masks.concealed_startChangeUser (masks : Masks runtime mask) {conn : AuthConnection}
    (guarded : conn.Guarded) (options : ChangeUserOptions) :
    StepConcealed mask (conn.startChangeUser runtime options)
      ((conn.map mask).startChangeUser runtime (options.map mask)) := by
  have started : ({ conn with isHandshake := false } : AuthConnection).Guarded :=
    ⟨guarded.plain, guarded.stream, guarded.plugin⟩
  unfold AuthConnection.startChangeUser
  dsimp only
  rw [show (conn.map mask).handshakePacket = conn.handshakePacket from rfl,
    show (options.map mask).passwords = options.passwords.map mask from rfl,
    masks.changeUserToken]
  cases computed : AuthConnection.changeUserToken runtime conn.handshakePacket
      options.passwords with
  | error err => exact started.handleFatalError err
  | ok token =>
      obtain ⟨data, bytes⟩ := token
      change StepConcealed mask
        (AuthConnection.changeUserStart runtime _ options (data, bytes))
        (AuthConnection.changeUserStart runtime _ (options.map mask) (data.map mask, bytes))
      unfold AuthConnection.changeUserStart
      dsimp only
      rw [show AuthConnection.changeUserToPacket runtime (conn.map mask).config.clientFlags
          (options.map mask) bytes =
        AuthConnection.changeUserToPacket runtime conn.config.clientFlags options bytes from rfl]
      have changed : ∀ next factor,
          ({ conn with
            isHandshake := false
            passwords := options.passwords
            config := { conn.config with
              user := options.user
              database := options.database
              password := options.passwords.password
              charsetNumber := options.charsetNumber }
            authenticationFactor := factor
            next := next } : AuthConnection).Guarded := fun _ _ =>
        ⟨⟨guarded.plain.ssl, guarded.plain.socketPath, guarded.plain.enableCleartextPlugin,
          guarded.plain.authPlugins, guarded.plain.authSwitchHandler⟩, guarded.stream,
          guarded.plugin⟩
      cases AuthConnection.changeUserToPacket runtime conn.config.clientFlags options bytes with
      | error err => exact (changed conn.next conn.authenticationFactor).handleFatalError err
      | ok packet =>
          refine ⟨changed _ _, rfl, ?_⟩
          intro output outputMem
          rw [List.mem_singleton.mp outputMem]
          exact changeUserToken_not_clear computed

/-- A step from a guarded connection conceals the passwords. -/
theorem Masks.concealed_step (masks : Masks runtime mask) {conn : AuthConnection}
    (guarded : conn.Guarded) (event : AuthEvent) :
    StepConcealed mask (AuthConnection.step runtime conn event)
      (AuthConnection.step runtime (conn.map mask) (event.map mask)) := by
  cases event with
  | packet packet => exact masks.concealed_handlePacket guarded packet
  | onSecure result =>
      have ignored : ∀ conn : AuthConnection, conn.Guarded →
          conn.onSecure runtime result = (conn, []) := by
        intro conn guarded
        unfold AuthConnection.onSecure
        rw [guarded.stream]
      change StepConcealed mask (conn.onSecure runtime result)
        ((conn.map mask).onSecure runtime result)
      rw [ignored conn guarded, ignored (conn.map mask) guarded.map]
      exact .same guarded
  | changeUser options =>
      unfold AuthConnection.step AuthEvent.map
      dsimp only
      rw [show (conn.map mask).next = conn.next from rfl,
        show (conn.map mask).fatalError = conn.fatalError from rfl]
      split
      · exact .same guarded
      · exact masks.concealed_startChangeUser guarded options

/-- A run from a guarded connection conceals the passwords. -/
theorem Masks.concealed_run (masks : Masks runtime mask) {conn : AuthConnection}
    (guarded : conn.Guarded) (events : List AuthEvent) :
    StepConcealed mask (run (AuthConnection.step runtime) conn events)
      (run (AuthConnection.step runtime) (conn.map mask) (events.map (AuthEvent.map mask))) := by
  induction events generalizing conn with
  | nil => exact .same guarded
  | cons event events ih =>
      have first := masks.concealed_step guarded event
      have later := ih first.guarded
      rw [List.map_cons, run_cons, run_cons, first.masked]
      refine ⟨later.guarded, ?_, ?_⟩
      · dsimp only
        rw [later.masked, List.map_append]
      · intro output outputMem
        rcases List.mem_append.mp outputMem with inFirst | inLater
        · exact first.notClear output inFirst
        · exact later.notClear output inLater

end Masked

/-! ## Alike passwords -/

/-- Passwords that an observer of their tokens and their encryption cannot tell
apart.  Whether a password is set shows in the length of its tokens. -/
structure Password.Alike (runtime : Runtime) (first second : Password) : Prop where
  truthy : first.truthy = second.truthy
  token : ∀ scramble1 scramble2,
    calculateToken runtime first scramble1 scramble2 =
      calculateToken runtime second scramble1 scramble2
  sha2Token : ∀ scramble,
    calculateSha2Token runtime first scramble = calculateSha2Token runtime second scramble
  encrypted : ∀ scramble key,
    encrypt runtime first scramble key = encrypt runtime second scramble key

namespace Password.Alike

variable {runtime : Runtime} {first second third : Password}

theorem refl (password : Password) : Password.Alike runtime password password :=
  ⟨rfl, fun _ _ => rfl, fun _ => rfl, fun _ _ => rfl⟩

theorem symm (alike : Password.Alike runtime first second) :
    Password.Alike runtime second first where
  truthy := alike.truthy.symm
  token := fun scramble1 scramble2 => (alike.token scramble1 scramble2).symm
  sha2Token := fun scramble => (alike.sha2Token scramble).symm
  encrypted := fun scramble key => (alike.encrypted scramble key).symm

theorem trans (alike : Password.Alike runtime first second)
    (alikeNext : Password.Alike runtime second third) : Password.Alike runtime first third where
  truthy := alike.truthy.trans alikeNext.truthy
  token := fun scramble1 scramble2 =>
    (alike.token scramble1 scramble2).trans (alikeNext.token scramble1 scramble2)
  sha2Token := fun scramble => (alike.sha2Token scramble).trans (alikeNext.sha2Token scramble)
  encrypted := fun scramble key =>
    (alike.encrypted scramble key).trans (alikeNext.encrypted scramble key)

end Password.Alike

/-- Being alike, as an equivalence. -/
def alikeSetoid (runtime : Runtime) : Setoid Password where
  r := Password.Alike runtime
  iseqv := ⟨Password.Alike.refl, Password.Alike.symm, Password.Alike.trans⟩

open Classical in
/-- One of the passwords that are alike, which is no password if that is one of
them. -/
noncomputable def representative (runtime : Runtime) (password : Password) : Password :=
  if Password.Alike runtime none password then
    none
  else
    (Quotient.mk (alikeSetoid runtime) password).out

theorem representative_alike (runtime : Runtime) (password : Password) :
    Password.Alike runtime (representative runtime password) password := by
  unfold representative
  split
  · assumption
  · exact Quotient.exact (Quotient.out_eq (Quotient.mk (alikeSetoid runtime) password))

theorem representative_masks (runtime : Runtime) : Masks runtime (representative runtime) where
  unset := if_pos (Password.Alike.refl none)
  truthy := fun password => (representative_alike runtime password).truthy
  token := fun password => (representative_alike runtime password).token
  sha2Token := fun password => (representative_alike runtime password).sha2Token
  encrypted := fun password => (representative_alike runtime password).encrypted

theorem representative_eq {runtime : Runtime} {first second : Password}
    (alike : Password.Alike runtime first second) :
    representative runtime first = representative runtime second := by
  have same : Quotient.mk (alikeSetoid runtime) first = Quotient.mk (alikeSetoid runtime) second :=
    Quotient.sound alike
  unfold representative
  rw [same]
  by_cases unset : Password.Alike runtime none first
  · rw [if_pos unset, if_pos (unset.trans alike)]
  · rw [if_neg unset, if_neg fun other => unset (other.trans alike.symm)]

/-- Passwords that are alike, with the same hash setting. -/
structure AuthPasswords.Alike (runtime : Runtime) (first second : AuthPasswords) : Prop where
  password : Password.Alike runtime first.password second.password
  password2 : Password.Alike runtime first.password2 second.password2
  password3 : Password.Alike runtime first.password3 second.password3
  passwordSha1 : first.passwordSha1 = second.passwordSha1

/-- Configurations with alike passwords and otherwise the same settings. -/
structure AuthConfig.Alike (runtime : Runtime) (first second : AuthConfig) : Prop where
  passwords : AuthPasswords.Alike runtime (.ofConfig first) (.ofConfig second)
  settings : second =
    { first with
      password := second.password
      password2 := second.password2
      password3 := second.password3 }

/-- The same packets and callbacks, and `ChangeUser` commands with alike
passwords. -/
def AuthEvent.Alike (runtime : Runtime) : AuthEvent → AuthEvent → Prop
  | .changeUser options, other =>
      ∃ passwords, AuthPasswords.Alike runtime options.passwords passwords ∧
        other = .changeUser { options with passwords := passwords }
  | event, other => event = other

section Representative

variable {runtime : Runtime}

theorem AuthPasswords.Alike.representative_eq {first second : AuthPasswords}
    (alike : AuthPasswords.Alike runtime first second) :
    first.map (representative runtime) = second.map (representative runtime) := by
  unfold AuthPasswords.map
  rw [Auth.representative_eq alike.password, Auth.representative_eq alike.password2,
    Auth.representative_eq alike.password3, alike.passwordSha1]

theorem AuthConfig.Alike.representative_eq {first second : AuthConfig}
    (alike : AuthConfig.Alike runtime first second) :
    first.map (representative runtime) = second.map (representative runtime) := by
  have password : representative runtime first.password = representative runtime second.password :=
    Auth.representative_eq alike.passwords.password
  have password2 :
      representative runtime first.password2 = representative runtime second.password2 :=
    Auth.representative_eq alike.passwords.password2
  have password3 :
      representative runtime first.password3 = representative runtime second.password3 :=
    Auth.representative_eq alike.passwords.password3
  rw [alike.settings]
  unfold AuthConfig.map
  dsimp only
  rw [password, password2, password3]

theorem AuthEvent.Alike.representative_eq {first second : AuthEvent}
    (alike : AuthEvent.Alike runtime first second) :
    first.map (representative runtime) = second.map (representative runtime) := by
  cases first with
  | changeUser options =>
      obtain ⟨passwords, alikePasswords, rfl⟩ := alike
      exact congrArg (fun passwords => AuthEvent.changeUser { options with passwords := passwords })
        alikePasswords.representative_eq
  | packet packet => exact congrArg (AuthEvent.map _) alike
  | onSecure result => exact congrArg (AuthEvent.map _) alike

end Representative

theorem guarded_new {config : AuthConfig} (plain : config.Plain) :
    (AuthConnection.new config false).Guarded :=
  ⟨plain, rfl, by rintro plugin ⟨⟩⟩

/-- On a connection without TLS, a socket path, passwords in clear and the
user's own authentication code, over a stream that is not an encrypted TLS
socket either, two runs over the same packets with alike passwords, also of the
`ChangeUser` commands, write the same packets, and none has been computed from a
password in clear. -/
theorem run_passwordsConcealed (runtime : Runtime) (config other : AuthConfig)
    (plain : config.Plain) (alike : AuthConfig.Alike runtime config other)
    (events otherEvents : List AuthEvent)
    (eventsAlike : List.Forall₂ (AuthEvent.Alike runtime) events otherEvents) :
    written (run (AuthConnection.step runtime) (.new config false) events).2 =
        written (run (AuthConnection.step runtime) (.new other false) otherEvents).2 ∧
      ∀ output ∈ (run (AuthConnection.step runtime) (.new config false) events).2,
        output.isClear = false := by
  have masks := representative_masks runtime
  have otherPlain : other.Plain := by
    rw [alike.settings]
    exact ⟨plain.ssl, plain.socketPath, plain.enableCleartextPlugin, plain.authPlugins,
      plain.authSwitchHandler⟩
  have sameStart : (AuthConnection.new config false).map (representative runtime) =
      (AuthConnection.new other false).map (representative runtime) := by
    have masked : ∀ config : AuthConfig,
        (AuthConnection.new config false).map (representative runtime) =
          { AuthConnection.new (config.map (representative runtime)) false with
            passwords := AuthPasswords.unset.map (representative runtime) } := fun _ => rfl
    rw [masked, masked, alike.representative_eq]
  have sameEvents : events.map (AuthEvent.map (representative runtime)) =
      otherEvents.map (AuthEvent.map (representative runtime)) := by
    induction eventsAlike with
    | nil => rfl
    | cons first _ ih => exact congrArg₂ List.cons first.representative_eq ih
  have concealed := masks.concealed_run (guarded_new plain) events
  have otherConcealed := masks.concealed_run (guarded_new otherPlain) otherEvents
  refine ⟨?_, concealed.notClear⟩
  calc written (run (AuthConnection.step runtime) (.new config false) events).2
      = written (run (AuthConnection.step runtime)
          ((AuthConnection.new config false).map (representative runtime))
          (events.map (AuthEvent.map (representative runtime)))).2 := by
        rw [concealed.masked, written_map]
    _ = written (run (AuthConnection.step runtime)
          ((AuthConnection.new other false).map (representative runtime))
          (otherEvents.map (AuthEvent.map (representative runtime)))).2 := by
        rw [sameStart, sameEvents]
    _ = written (run (AuthConnection.step runtime) (.new other false) otherEvents).2 := by
        rw [otherConcealed.masked, written_map]

/-! ## Fixed inputs -/

theorem passwordConfig_plain (password password2 password3 : Password) :
    (passwordConfig password password2 password3).Plain :=
  ⟨rfl, rfl, rfl, fun _ => rfl, rfl⟩

/-- A server that asks for full authentication and sends a key that cannot be
read. -/
def fullAuthentication : List AuthEvent :=
  [.packet (helloPacket 0x88201 "caching_sha2_password"), .packet (moreDataPacket [4]),
    .packet (moreDataPacket [1, 2, 3])]

/-- A runtime whose digests tell the length of a text. -/
def lengthRuntime : Runtime :=
  { keylessRuntime with
    sha1 := fun bytes => List.replicate 20 (toByte bytes.length)
    sha256 := fun bytes => List.replicate 32 (toByte bytes.length) }

theorem run_passwordsConcealed_sameLength :
    written (run (AuthConnection.step lengthRuntime)
          (.new (passwordConfig (some "secret") (some "first") none) false) fullAuthentication).2 =
        written (run (AuthConnection.step lengthRuntime)
          (.new (passwordConfig (some "sesame") (some "other") none) false)
            fullAuthentication).2 ∧
      ∀ output ∈ (run (AuthConnection.step lengthRuntime)
          (.new (passwordConfig (some "secret") (some "first") none) false)
            fullAuthentication).2,
        output.isClear = false := by
  apply run_passwordsConcealed lengthRuntime (passwordConfig (some "secret") (some "first") none)
    (passwordConfig (some "sesame") (some "other") none)
    (passwordConfig_plain (some "secret") (some "first") none)
  · have password : Password.Alike lengthRuntime (some "secret") (some "sesame") :=
      ⟨rfl, fun _ _ => rfl, fun _ => rfl, fun _ _ => rfl⟩
    have password2 : Password.Alike lengthRuntime (some "first") (some "other") :=
      ⟨rfl, fun _ _ => rfl, fun _ => rfl, fun _ _ => rfl⟩
    exact ⟨⟨password, password2, .refl none, rfl⟩, rfl⟩
  · exact .cons rfl (.cons rfl (.cons rfl .nil))

/-- On a stream that is an encrypted TLS socket, although neither TLS nor a
socket path is configured, a server that switches to `sha256_password` is sent
the password in clear. -/
theorem encryptedStream_clear :
    (passwordConfig (some "secret") none none).Plain ∧
      (run (AuthConnection.step keylessRuntime)
          (.new (passwordConfig (some "secret") none none) true)
          [.packet (helloPacket 0x88201 "caching_sha2_password"),
            .packet (switchPacket 0xfe "sha256_password" (List.replicate 20 1))]).2.getLast? =
        some (.authSwitchResponse
          (.new 0 [0, 0, 0, 0, 115, 101, 99, 114, 101, 116, 0] 0 11) (.clear (some "secret"))) :=
  ⟨passwordConfig_plain (some "secret") none none, rfl⟩

end Mysql2.Auth

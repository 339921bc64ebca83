import Mysql2.Auth.Defaults
import Mysql2.Transition.Simulation

/-!
# The passwords of authentication factors

A server that uses several factors asks for the first one with its hello packet,
which an `AuthSwitchRequest` can replace, and for the next ones with
`AuthNextFactor` packets.  The counter of the client advances with every such
packet, so it is one ahead of the factors if the first factor has been switched.

An `AuthNextFactor` packet is answered from the password of its factor exactly if
the plugin that it names takes that password.
-/

namespace Mysql2.Auth

open Mysql2.Packets
open Mysql2.Transition
open ClientConstants

/-! ## Factors -/

/-- The factor that the server is asking for, and whether it has switched the
plugin of the first one. -/
structure FactorRecord where
  factor : Nat
  switched : Bool
  deriving DecidableEq, Repr

namespace FactorRecord

/-- In front of the hello packet. -/
def start : FactorRecord :=
  ⟨1, false⟩

/-- Packets advance the record. -/
def count (record : FactorRecord) (event : AuthEvent) (_outputs : List AuthOutput) :
    FactorRecord :=
  match event with
  | .packet packet =>
      match packet.peekByte with
      | some 0x02 => { record with factor := record.factor + 1 }
      | some 0xfe => { record with switched := true }
      | _ => record
  | _ => record

end FactorRecord

/-- The connection phase next to the record of the factors. -/
def factorStep (runtime : Runtime) : Step (AuthConnection × FactorRecord) AuthEvent AuthOutput :=
  observing (AuthConnection.step runtime) FactorRecord.count

/-- What a packet of the client has been computed from. -/
def AuthOutput.data? : AuthOutput → Option AuthData
  | .handshakeResponse _ data => some data
  | .changeUser _ data => some data
  | .authSwitchResponse _ data => some data
  | _ => none

/-- The responses of a step, with the factor they are sent for. -/
def responses (after : AuthConnection × FactorRecord) (outputs : List AuthOutput) :
    List (Nat × AuthData) :=
  outputs.filterMap fun output => output.data?.map fun data => (after.2.factor, data)

/-- The configured password of a factor. -/
def factorPassword (config : AuthConfig) (factor : Nat) : Password :=
  (AuthPasswords.ofConfig config).factor factor

/-- The response has been computed from the password of a factor, or from none.
The hash setting stands in for the first password. -/
def ComputedFrom (config : AuthConfig) (factor : Nat) : AuthData → Prop
  | .constant _ => True
  | .nativeToken password _ _ => password = factorPassword config factor
  | .nativeTokenOfSha1 passwordSha1 _ _ => factor = 1 ∧ config.passwordSha1 = some passwordSha1
  | .sha2Token password _ => password = factorPassword config factor
  | .encrypted password _ _ => password = factorPassword config factor
  | .clear password => password = factorPassword config factor
  | .outside _ => True

/-! ## The protocol -/

/-- What a server does that advertises several factors.  It does not send
anything else in front of the client's response, switches the plugin of the first
factor at most once, and asks for at most three factors.  The client does not
change its user meanwhile. -/
def ProtocolLegal (runtime : Runtime) (state : AuthConnection × FactorRecord) :
    AuthEvent → Prop
  | .packet packet =>
      match state.1.next with
      | none => True
      | some .handshakeInit =>
          packet.peekByte ≠ some 0xfe ∧ packet.peekByte ≠ some 0x02 ∧
            ∀ handshake rest, Handshake.fromPacket runtime packet = .ok (handshake, rest) →
              hasFlag handshake.capabilityFlags MULTI_FACTOR_AUTHENTICATION = true
      | some .handshakeResult =>
          state.1.stream ≠ .upgrading ∧
            (packet.peekByte = some 0xfe → state.2 = .start) ∧
            (packet.peekByte = some 0x02 → state.2.factor < 3)
  | .onSecure _ => True
  | .changeUser _ => False

/-- The password that the connection's setting is replaced by when the server
asks for the next factor. -/
def takenPassword (config : AuthConfig) (record : FactorRecord) : Password :=
  factorPassword config (if record.switched then record.factor + 1 else record.factor)

/-- The built-in plugin that answers a switch to a name, unless the configuration
has another answer to it. -/
def builtinPlugin (config : AuthConfig) (pluginName : String) : Option StandardAuthPlugin :=
  if (config.authPlugins pluginName).isSome ∨
      pluginName ≠ "mysql_native_password" ∧ config.authSwitchHandler.isSome ∨
      pluginName = "mysql_clear_password" ∧ !config.enableCleartextPlugin then
    none
  else
    standardAuthPlugins pluginName

/-- The plugin that the server names for the next factor takes the password of
that factor. -/
def TakesNextPassword (config : AuthConfig) (record : FactorRecord) (pluginName : String) : Prop :=
  match builtinPlugin config pluginName with
  | none => True
  | some .caching_sha2_password | some .sha256_password =>
      takenPassword config record = factorPassword config (record.factor + 1)
  | some .mysql_native_password =>
      config.passwordSha1 = none ∧
        config.password.or (takenPassword config record) =
          factorPassword config (record.factor + 1)
  | some .mysql_clear_password =>
      config.password.or (takenPassword config record) = factorPassword config (record.factor + 1)

/-- A step in which the plugin of the next factor takes the password of that
factor. -/
def TakesPasswords (runtime : Runtime) (config : AuthConfig)
    (state : AuthConnection × FactorRecord) : AuthEvent → Prop
  | .packet packet =>
      state.1.next = some .handshakeResult → packet.peekByte = some 0x02 →
        ∀ request rest, AuthSwitchRequest.fromPacket runtime packet = .ok (request, rest) →
          TakesNextPassword config state.2 request.pluginName
  | _ => True

/-! ## Plugins -/

/-- The plugin answers from the password of a factor. -/
def PluginRight (config : AuthConfig) (factor : Nat) : AuthPlugin → Prop
  | .cachingSha2 password _ => password = factorPassword config factor
  | .sha256 password _ => password = factorPassword config factor
  | .native password passwordSha1 =>
      match passwordSha1 with
      | some passwordSha1 => factor = 1 ∧ config.passwordSha1 = some passwordSha1
      | none => password = factorPassword config factor
  | .clear password => password = factorPassword config factor
  | .custom _ _ => True

/-- What a call of a plugin leaves and answers. -/
structure CallRight (config : AuthConfig) (factor : Nat) (result : AuthPlugin × PluginResult) :
    Prop where
  plugin : PluginRight config factor result.1
  answer : ∀ answer, result.2 = .resolved (some answer) → ComputedFrom config factor answer.1

section Plugins

variable {runtime : Runtime} {config : AuthConfig} {factor : Nat} {scramble1 scramble2 : Bytes}

theorem callRight_thrown {plugin : AuthPlugin} (right : PluginRight config factor plugin)
    (err : JsError) : CallRight config factor (plugin, .thrown err) :=
  ⟨right, by rintro answer ⟨⟩⟩

theorem callRight_answer {data : AuthData} {next plugin : AuthPlugin}
    (computed : ComputedFrom config factor data) (nextRight : PluginRight config factor next)
    (right : PluginRight config factor plugin) :
    CallRight config factor (AuthPlugin.answer runtime data next plugin) := by
  unfold AuthPlugin.answer
  cases data.toBytes runtime with
  | error err => exact callRight_thrown right err
  | ok bytes =>
      refine ⟨nextRight, ?_⟩
      rintro answer ⟨⟩
      exact computed

theorem callRight_cachingSha2 {password : Password}
    (right : password = factorPassword config factor) (view : ChannelView) (data : Bytes)
    (state : CachingSha2State) :
    CallRight config factor (AuthPlugin.callCachingSha2 runtime view password data state) := by
  have pluginRight : ∀ state, PluginRight config factor (.cachingSha2 password state) :=
    fun _ => right
  cases state with
  | initial =>
      unfold AuthPlugin.callCachingSha2
      dsimp only
      apply callRight_answer
      · exact right
      · exact pluginRight _
      · exact pluginRight _
  | tokenSent scramble =>
      unfold AuthPlugin.callCachingSha2
      dsimp only
      split
      · refine ⟨right, ?_⟩
        rintro answer ⟨⟩
      · split
        · split
          · apply callRight_answer
            · exact right
            · exact pluginRight _
            · exact pluginRight _
          · apply callRight_answer
            · trivial
            · exact pluginRight _
            · exact pluginRight _
        · exact callRight_thrown (pluginRight _) _
  | waitServerKey scramble =>
      apply callRight_answer
      · exact right
      · exact pluginRight _
      · exact pluginRight _
  | final => exact callRight_thrown (pluginRight _) _

theorem callRight_sha256 {password : Password}
    (right : password = factorPassword config factor) (view : ChannelView) (data : Bytes)
    (state : Sha256State) :
    CallRight config factor (AuthPlugin.callSha256 runtime view password data state) := by
  have pluginRight : ∀ state, PluginRight config factor (.sha256 password state) := fun _ => right
  cases state with
  | initial =>
      change CallRight config factor (if view.encrypted then _ else _)
      split
      · apply callRight_answer
        · exact right
        · exact pluginRight _
        · exact pluginRight _
      · apply callRight_answer
        · trivial
        · exact pluginRight _
        · exact pluginRight _
  | waitServerKey scramble =>
      apply callRight_answer
      · exact right
      · exact pluginRight _
      · exact pluginRight _
  | final => exact callRight_thrown (pluginRight _) _

/-- A plugin that answers from the password of a factor goes on to do so. -/
theorem PluginRight.call {plugin : AuthPlugin} (right : PluginRight config factor plugin)
    (view : ChannelView) (data : Bytes) :
    CallRight config factor (plugin.call runtime view data) := by
  cases plugin with
  | cachingSha2 password state => exact callRight_cachingSha2 right view data state
  | sha256 password state => exact callRight_sha256 right view data state
  | native password passwordSha1 =>
      apply callRight_answer
      · cases passwordSha1 <;> exact right
      · exact right
      · exact right
  | clear password =>
      unfold AuthPlugin.call
      dsimp only
      apply callRight_answer
      · exact right
      · exact right
      · exact right
  | custom outside received =>
      refine ⟨trivial, ?_⟩
      intro answer isAnswer
      unfold AuthPlugin.call at isAnswer
      dsimp only at isAnswer
      cases settled : outside (received ++ [data]) with
      | error err =>
          rw [settled] at isAnswer
          cases isAnswer
      | ok bytes =>
          rw [settled] at isAnswer
          cases bytes with
          | none => cases isAnswer
          | some bytes =>
              cases isAnswer
              trivial

/-- Which passwords a standard plugin has to be created with. -/
theorem create_right_iff (current : AuthConfig) (passwords : AuthPasswords)
    (plugin : StandardAuthPlugin) :
    PluginRight config factor (plugin.create current passwords) ↔
      match plugin with
      | .caching_sha2_password | .sha256_password =>
          current.password = factorPassword config factor
      | .mysql_native_password =>
          match passwords.passwordSha1.or current.passwordSha1 with
          | some passwordSha1 => factor = 1 ∧ config.passwordSha1 = some passwordSha1
          | none => passwords.password.or current.password = factorPassword config factor
      | .mysql_clear_password =>
          passwords.password.or current.password = factorPassword config factor := by
  cases plugin <;> rfl

theorem or_self (password : Password) : password.or password = password :=
  ite_self password

theorem nativePasswordData_computedFrom :
    ComputedFrom config 1 (nativePasswordData config.password config.passwordSha1
      scramble1 scramble2) := by
  unfold nativePasswordData
  split
  · next passwordSha1 isSet => exact ⟨rfl, isSet⟩
  · rfl

/-- A standard plugin for the first factor. -/
theorem create_right_first (current : AuthConfig) (password : current.password = config.password)
    (passwordSha1 : current.passwordSha1 = config.passwordSha1) (plugin : StandardAuthPlugin) :
    PluginRight config 1 (plugin.create current (.ofConfig config)) := by
  apply (create_right_iff _ _ plugin).mpr
  cases plugin with
  | caching_sha2_password => exact password
  | sha256_password => exact password
  | mysql_native_password =>
      dsimp only
      rw [passwordSha1, password, show (AuthPasswords.ofConfig config).passwordSha1 =
        config.passwordSha1 from rfl, show (AuthPasswords.ofConfig config).password =
        config.password from rfl, or_self]
      cases config.passwordSha1 with
      | none => rfl
      | some sha1 => exact ⟨rfl, rfl⟩
  | mysql_clear_password =>
      dsimp only
      rw [password, show (AuthPasswords.ofConfig config).password = config.password from rfl,
        or_self]
      rfl

/-- A standard plugin for the next factor. -/
theorem create_right_next {record : FactorRecord} {pluginName : String}
    (takes : TakesNextPassword config record pluginName) (current : AuthConfig)
    (password : current.password = takenPassword config record)
    (passwordSha1 : current.passwordSha1 = config.passwordSha1) {plugin : StandardAuthPlugin}
    (found : builtinPlugin config pluginName = some plugin) :
    PluginRight config (record.factor + 1) (plugin.create current (.ofConfig config)) := by
  unfold TakesNextPassword at takes
  rw [found] at takes
  apply (create_right_iff _ _ plugin).mpr
  cases plugin with
  | caching_sha2_password => exact password.trans takes
  | sha256_password => exact password.trans takes
  | mysql_native_password =>
      dsimp only
      rw [passwordSha1, show (AuthPasswords.ofConfig config).passwordSha1 =
        config.passwordSha1 from rfl, takes.1, password]
      exact takes.2
  | mysql_clear_password =>
      dsimp only
      rw [password]
      exact takes

end Plugins

/-! ## Connections -/

/-- The responses of a list of outputs have been computed from the password of a
factor. -/
def Right (config : AuthConfig) (factor : Nat) (outputs : List AuthOutput) : Prop :=
  ∀ output ∈ outputs, ∀ data ∈ output.data?, ComputedFrom config factor data

/-- The credentials have not been sent. -/
structure Unsent (config : AuthConfig) (conn : AuthConnection) (record : FactorRecord) : Prop where
  passwords : AuthPasswords.ofConfig conn.config = .ofConfig config
  plugins : builtinPlugin conn.config = builtinPlugin config
  plugin : conn.authPlugin = none
  record : record = .start

/-- The credentials have been sent. -/
structure Sent (config : AuthConfig) (conn : AuthConnection) (record : FactorRecord) : Prop where
  passwords : conn.passwords = .ofConfig config
  passwordSha1 : conn.config.passwordSha1 = config.passwordSha1
  plugins : builtinPlugin conn.config = builtinPlugin config
  factor : conn.authenticationFactor =
    if record.switched then record.factor + 1 else record.factor
  stream : conn.stream ≠ .upgrading

/-- The plugin of the connection, which a legacy handler replaces, answers from
the password of a factor. -/
def HoldsPlugin (config : AuthConfig) (factor : Nat) (conn : AuthConnection) : Prop :=
  conn.config.authSwitchHandler = none →
    ∀ plugin ∈ conn.authPlugin, PluginRight config factor plugin

/-- The passwords that are in place while a handler waits for a packet. -/
def InPhase (config : AuthConfig) (state : AuthConnection × FactorRecord) : Prop :=
  match state.1.next with
  | none => state.1.stream ≠ .upgrading
  | some .handshakeInit => Unsent config state.1 state.2 ∧ state.1.stream ≠ .upgrading
  | some .handshakeResult =>
      Unsent config state.1 state.2 ∧ state.1.authenticationFactor = 1 ∧
          state.1.stream = .upgrading ∨
        Sent config state.1 state.2 ∧ HoldsPlugin config state.2.factor state.1 ∨
        state.1.fatalError = true ∧ state.1.stream ≠ .upgrading

/-- What a step leaves and sends. -/
structure StepRight (config : AuthConfig) (record : FactorRecord)
    (result : AuthConnection × List AuthOutput) : Prop where
  inPhase : InPhase config (result.1, record)
  right : Right config record.factor result.2

/-- What a handler of a switch leaves and sends. -/
structure AnswerRight (config : AuthConfig) (record : FactorRecord)
    (result : AuthConnection × Except JsError (List AuthOutput)) : Prop where
  sent : Sent config result.1 record
  next : result.1.next = some .handshakeResult
  answered : ∀ outputs, result.2 = .ok outputs →
    HoldsPlugin config record.factor result.1 ∧ Right config record.factor outputs

section Connections

variable {runtime : Runtime} {config : AuthConfig} {conn : AuthConnection} {record : FactorRecord}

theorem right_silent {output : AuthOutput} (silent : output.data? = none) (factor : Nat) :
    Right config factor [output] := by
  intro other otherMem data dataMem
  rw [List.mem_singleton.mp otherMem, silent] at dataMem
  cases dataMem

theorem right_one {output : AuthOutput} {data : AuthData} (isData : output.data? = some data)
    {factor : Nat} (computed : ComputedFrom config factor data) :
    Right config factor [output] := by
  intro other otherMem found foundMem
  rw [List.mem_singleton.mp otherMem, isData] at foundMem
  cases foundMem
  exact computed

theorem stepRight_fail (stream : conn.stream ≠ .upgrading) (err : JsError) :
    StepRight config record (conn.fail err) :=
  ⟨stream, right_silent rfl record.factor⟩

theorem stepRight_handleFatalError (stream : conn.stream ≠ .upgrading) (err : JsError) :
    StepRight config record (conn.handleFatalError err) :=
  ⟨stream, right_silent rfl record.factor⟩

theorem answerRight_error (sent : Sent config conn record)
    (next : conn.next = some .handshakeResult) (err : JsError) :
    AnswerRight config record (conn, .error err) :=
  ⟨sent, next, by rintro outputs ⟨⟩⟩

/-- What follows the handler of a switch. -/
theorem AnswerRight.concludeAuthSwitch
    {result : AuthConnection × Except JsError (List AuthOutput)}
    (answerRight : AnswerRight config record result) :
    StepRight config record (AuthConnection.concludeAuthSwitch result) := by
  obtain ⟨conn, answered⟩ := result
  cases answered with
  | error err => exact stepRight_fail answerRight.sent.stream _
  | ok outputs =>
      obtain ⟨holdsPlugin, right⟩ := answerRight.answered outputs rfl
      refine ⟨?_, right⟩
      unfold InPhase
      rw [show (AuthConnection.concludeAuthSwitch (conn, .ok outputs)).1 = conn from rfl,
        answerRight.next]
      exact Or.inr (Or.inl ⟨answerRight.sent, holdsPlugin⟩)

theorem answerRight_callAuthPlugin (sent : Sent config conn record)
    (next : conn.next = some .handshakeResult) {plugin : AuthPlugin}
    (right : PluginRight config record.factor plugin) (data : Bytes) :
    AnswerRight config record (conn.callAuthPlugin runtime plugin data) := by
  have called : CallRight config record.factor (plugin.call runtime conn.view data) :=
    right.call conn.view data
  unfold AuthConnection.callAuthPlugin
  generalize plugin.call runtime conn.view data = result at called
  obtain ⟨after, answer⟩ := result
  have sentAfter : Sent config { conn with authPlugin := some after } record :=
    ⟨sent.passwords, sent.passwordSha1, sent.plugins, sent.factor, sent.stream⟩
  have holdsAfter : HoldsPlugin config record.factor { conn with authPlugin := some after } := by
    rintro - _ ⟨⟩
    exact called.plugin
  cases answer with
  | thrown err => exact answerRight_error sentAfter next err
  | rejected err =>
      refine ⟨⟨sent.passwords, sent.passwordSha1, sent.plugins, sent.factor,
        sent.stream⟩, next, ?_⟩
      rintro outputs ⟨⟩
      exact ⟨holdsAfter, right_silent rfl record.factor⟩
  | resolved answer =>
      refine ⟨sentAfter, next, ?_⟩
      rintro outputs ⟨⟩
      refine ⟨holdsAfter, ?_⟩
      cases answer with
      | none => exact List.forall_mem_nil _
      | some answer => exact right_one rfl (called.answer answer rfl)

theorem answerRight_legacySwitchResponse (sent : Sent config conn record)
    (next : conn.next = some .handshakeResult) (handled : conn.config.authSwitchHandler ≠ none)
    (response : Except JsError Bytes) :
    AnswerRight config record (conn.legacySwitchResponse response) := by
  have holdsPlugin : HoldsPlugin config record.factor conn := fun none => absurd none handled
  cases response with
  | ok data =>
      refine ⟨sent, next, ?_⟩
      rintro outputs ⟨⟩
      have isData : (AuthConnection.authSwitchResponse (.outside data, data)).data? =
          some (.outside data) := rfl
      exact ⟨holdsPlugin, right_one isData trivial⟩
  | error err =>
      refine ⟨⟨sent.passwords, sent.passwordSha1, sent.plugins, sent.factor,
        sent.stream⟩, next, ?_⟩
      rintro outputs ⟨⟩
      exact ⟨holdsPlugin, right_silent rfl record.factor⟩

/-- The plugin of a switch. -/
theorem getAuthPlugin_eq {pluginName : String}
    (noHandler : pluginName ≠ "mysql_native_password" → conn.config.authSwitchHandler = none)
    (notRefused : ¬(pluginName = "mysql_clear_password" ∧
      (conn.config.authPlugins "mysql_clear_password").isNone ∧
      !conn.config.enableCleartextPlugin)) :
    getAuthPlugin conn.config conn.passwords pluginName =
      match conn.config.authPlugins pluginName with
      | some plugin => some (.custom plugin [])
      | none => (builtinPlugin conn.config pluginName).map
          fun plugin => plugin.create conn.config conn.passwords := by
  unfold getAuthPlugin
  cases custom : conn.config.authPlugins pluginName with
  | some plugin => rfl
  | none =>
      have builtin : builtinPlugin conn.config pluginName = standardAuthPlugins pluginName := by
        apply if_neg
        rintro (isCustom | ⟨notNative, handled⟩ | ⟨isClear, disabled⟩)
        · rw [custom] at isCustom
          exact Bool.noConfusion isCustom
        · rw [noHandler notNative] at handled
          exact Bool.noConfusion handled
        · refine notRefused ⟨isClear, ?_, disabled⟩
          rw [← isClear, custom]
          rfl
      rw [builtin]

/-- A switch to a plugin that is created with the right password. -/
theorem answerRight_switchAuth (sent : Sent config conn record)
    (next : conn.next = some .handshakeResult) (request : AuthSwitchRequest)
    (created : ∀ plugin, builtinPlugin config request.pluginName = some plugin →
      PluginRight config record.factor (plugin.create conn.config conn.passwords)) :
    AnswerRight config record (conn.switchAuth runtime request) := by
  unfold AuthConnection.switchAuth
  dsimp only
  split
  · next handler isHandler =>
      apply answerRight_legacySwitchResponse sent next
      intro unset
      rw [unset, ite_self] at isHandler
      cases isHandler
  · next noHandler =>
      split
      · exact answerRight_error sent next _
      · next notRefused =>
          have notHandled : request.pluginName ≠ "mysql_native_password" →
              conn.config.authSwitchHandler = none := by
            intro notNative
            rw [if_neg notNative] at noHandler
            exact noHandler
          rw [getAuthPlugin_eq notHandled notRefused]
          cases conn.config.authPlugins request.pluginName with
          | some plugin =>
              apply answerRight_callAuthPlugin sent next
              trivial
          | none =>
              rw [sent.plugins]
              cases found : builtinPlugin config request.pluginName with
              | none => exact answerRight_error sent next _
              | some plugin =>
                  exact answerRight_callAuthPlugin sent next (created plugin found) _

/-- What `sendCredentials` leaves and sends. -/
structure SendRight (config : AuthConfig) (conn : AuthConnection)
    (result : AuthConnection × Except JsError (List AuthOutput)) : Prop where
  passwordSha1 : result.1.config.passwordSha1 = config.passwordSha1
  plugins : builtinPlugin result.1.config = builtinPlugin config
  stream : result.1.stream = conn.stream
  next : result.1.next = conn.next
  serverCapabilityFlags : result.1.serverCapabilityFlags = conn.serverCapabilityFlags
  authenticationFactor : result.1.authenticationFactor = conn.authenticationFactor
  answered : ∀ outputs, result.2 = .ok outputs →
    result.1.passwords = .ofConfig config ∧
      HoldsPlugin config 1 result.1 ∧ Right config 1 outputs

theorem computedFrom_calculateAuthToken (authPluginData : Bytes)
    (authMethod : StandardAuthPlugin) :
    ComputedFrom config 1
      (AuthConnection.calculateAuthToken (.ofConfig config) authPluginData authMethod) := by
  have inClear : ComputedFrom config 1 (if config.password.truthy then .clear config.password
      else .constant []) := by
    split
    · rfl
    · trivial
  cases authMethod with
  | mysql_native_password => exact nativePasswordData_computedFrom
  | caching_sha2_password => rfl
  | sha256_password => exact inClear
  | mysql_clear_password => exact inClear

theorem computedFrom_handshakeResponse
    (passwords : AuthPasswords.ofConfig conn.config = .ofConfig config) {handshake : Handshake}
    {authMethod : StandardAuthPlugin} {response : Packet × AuthData}
    (responded : conn.handshakeResponse runtime handshake authMethod = .ok response) :
    ComputedFrom config 1 response.2 := by
  have computed : ComputedFrom config 1 (AuthConnection.calculateAuthToken (.ofConfig config)
      (AuthConnection.authPluginData handshake) authMethod) :=
    computedFrom_calculateAuthToken _ authMethod
  unfold AuthConnection.handshakeResponse at responded
  dsimp only at responded
  rw [passwords] at responded
  generalize AuthConnection.calculateAuthToken _ _ _ = data at responded computed
  cases bytes : data.toBytes runtime with
  | error err =>
      rw [bytes] at responded
      cases responded
  | ok authToken =>
      rw [bytes] at responded
      dsimp only at responded
      cases packet : conn.handshakeResponseToPacket runtime authMethod authToken with
      | error err =>
          rw [packet] at responded
          cases responded
      | ok packet =>
          rw [packet] at responded
          cases responded
          exact computed

/-- The plugin that is primed for more data. -/
theorem initializeAuthPlugin_right (runtime : Runtime)
    (passwords : AuthPasswords.ofConfig conn.config = .ofConfig config)
    (taken : conn.passwords = .ofConfig conn.config) (plugin : conn.authPlugin = none)
    (authMethod : StandardAuthPlugin) (authPluginData : Bytes) :
    ∃ authPlugin, conn.initializeAuthPlugin runtime authMethod authPluginData =
        { conn with authPlugin := authPlugin } ∧
      ∀ plugin ∈ authPlugin, PluginRight config 1 plugin := by
  unfold AuthConnection.initializeAuthPlugin
  cases found : getAuthPlugin conn.config conn.passwords authMethod.pluginName with
  | none =>
      refine ⟨conn.authPlugin, rfl, ?_⟩
      rw [plugin]
      rintro plugin ⟨⟩
  | some created =>
      have right : PluginRight config 1 created := by
        unfold getAuthPlugin at found
        split at found
        · cases found
          trivial
        · obtain ⟨standard, -, rfl⟩ := Option.map_eq_some_iff.mp found
          rw [taken, passwords]
          exact create_right_first conn.config (congrArg AuthPasswords.password passwords)
            (congrArg AuthPasswords.passwordSha1 passwords) standard
      have called : CallRight config 1 (created.call runtime conn.view authPluginData) :=
        right.call conn.view authPluginData
      refine ⟨_, rfl, ?_⟩
      rintro plugin ⟨⟩
      exact called.plugin

theorem sendRight_sendHandshakeResponse (unsent : Unsent config conn record)
    (taken : conn.passwords = .ofConfig conn.config) (handshake : Handshake)
    (authMethod : StandardAuthPlugin) :
    SendRight config conn (conn.sendHandshakeResponse runtime handshake authMethod) := by
  have passwordSha1 : conn.config.passwordSha1 = config.passwordSha1 :=
    congrArg AuthPasswords.passwordSha1 unsent.passwords
  unfold AuthConnection.sendHandshakeResponse
  cases responded : conn.handshakeResponse runtime handshake authMethod with
  | error err =>
      refine ⟨passwordSha1, unsent.plugins, rfl, rfl, rfl, rfl, ?_⟩
      rintro outputs ⟨⟩
  | ok response =>
      obtain ⟨packet, data⟩ := response
      have right : Right config 1 [.handshakeResponse packet data] :=
        right_one rfl (computedFrom_handshakeResponse unsent.passwords responded)
      have primed : ∀ authPlugin, (∀ plugin ∈ authPlugin, PluginRight config 1 plugin) →
          SendRight config conn ({ conn with authPlugin := authPlugin },
            .ok [.handshakeResponse packet data]) := by
        intro authPlugin pluginRight
        refine ⟨passwordSha1, unsent.plugins, rfl, rfl, rfl, rfl, ?_⟩
        rintro outputs ⟨⟩
        exact ⟨taken.trans unsent.passwords, fun _ => pluginRight, right⟩
      dsimp only
      split
      · apply primed conn.authPlugin
        rw [unsent.plugin]
        rintro plugin ⟨⟩
      · obtain ⟨authPlugin, initialized, pluginRight⟩ := initializeAuthPlugin_right
          runtime unsent.passwords taken unsent.plugin authMethod
          (AuthConnection.authPluginData handshake)
        rw [initialized]
        exact primed authPlugin pluginRight

theorem sendRight_sendCredentials (unsent : Unsent config conn record) :
    SendRight config conn (conn.sendCredentials runtime) := by
  unfold AuthConnection.sendCredentials
  cases found : conn.handshake with
  | none =>
      refine ⟨congrArg AuthPasswords.passwordSha1 unsent.passwords,
        unsent.plugins, rfl, rfl, rfl, rfl, ?_⟩
      rintro outputs ⟨⟩
  | some handshake =>
      let sending : AuthConnection :=
        { conn with
          handshake := some handshake
          passwords := .ofConfig conn.config }
      have sendingUnsent : Unsent config sending record :=
        ⟨unsent.passwords, unsent.plugins, unsent.plugin, unsent.record⟩
      have sent : SendRight config sending (sending.sendHandshakeResponse runtime handshake
          (AuthConnection.clientAuthMethod conn.config handshake.authPluginName)) :=
        sendRight_sendHandshakeResponse sendingUnsent rfl handshake _
      exact ⟨sent.passwordSha1, sent.plugins, sent.stream, sent.next,
        sent.serverCapabilityFlags, sent.authenticationFactor, sent.answered⟩

/-! ## Steps -/

theorem right_cons {output : AuthOutput} {outputs : List AuthOutput}
    (silent : output.data? = none) {factor : Nat} (right : Right config factor outputs) :
    Right config factor (output :: outputs) := by
  intro other otherMem data dataMem
  rcases List.mem_cons.mp otherMem with rfl | later
  · rw [silent] at dataMem
    cases dataMem
  · exact right other later data dataMem

theorem stepRight_upgrade (unsent : Unsent config conn record) (stream : conn.stream ≠ .upgrading)
    (factors : hasFlag conn.serverCapabilityFlags MULTI_FACTOR_AUTHENTICATION = true)
    (createSecureContext : Except JsError Unit) :
    StepRight config record (conn.upgrade createSecureContext) := by
  unfold AuthConnection.upgrade
  dsimp only
  cases sslRequestToPacket (conn.clientFlags ||| SSL) conn.config.charsetNumber
      conn.mariadbExtendedClientFlags with
  | error err => exact ⟨stream, right_silent rfl record.factor⟩
  | ok packet =>
      cases createSecureContext with
      | error err => exact ⟨stream, right_cons rfl (right_silent rfl record.factor)⟩
      | ok _ =>
          refine ⟨Or.inl ⟨?_, if_pos factors, rfl⟩,
            right_cons rfl (right_silent rfl record.factor)⟩
          exact ⟨unsent.passwords, unsent.plugins, unsent.plugin, unsent.record⟩

/-- The hello packet of a server with several factors. -/
theorem stepRight_handshakeInit (unsent : Unsent config conn record)
    (stream : conn.stream ≠ .upgrading) (helloPacket : Packet)
    (advertised : ∀ handshake rest,
      Handshake.fromPacket runtime helloPacket = .ok (handshake, rest) →
      hasFlag handshake.capabilityFlags MULTI_FACTOR_AUTHENTICATION = true) :
    StepRight config record (conn.handshakeInit runtime helloPacket) := by
  unfold AuthConnection.handshakeInit
  cases read : Handshake.fromPacket runtime helloPacket with
  | error err => exact stepRight_handleFatalError stream err
  | ok read' =>
      obtain ⟨handshake, rest⟩ := read'
      have factors := advertised handshake rest read
      have negotiated : Unsent config (conn.negotiate handshake) record :=
        ⟨unsent.passwords, unsent.plugins, unsent.plugin, unsent.record⟩
      dsimp only
      cases ssl : (conn.negotiate handshake).config.ssl with
      | some createSecureContext =>
          dsimp only
          split
          · exact stepRight_upgrade negotiated stream factors createSecureContext
          · have streamAfter : (conn.negotiate handshake).stream ≠ .upgrading := stream
            exact stepRight_fail streamAfter _
      | none =>
          have sent : SendRight config (conn.negotiate handshake)
              ((conn.negotiate handshake).sendCredentials runtime) :=
            sendRight_sendCredentials negotiated
          dsimp only
          generalize (conn.negotiate handshake).sendCredentials runtime = result at sent
          obtain ⟨after, answered⟩ := result
          have streamAfter : after.stream ≠ .upgrading := by
            rw [show after.stream = conn.stream from sent.stream]
            exact stream
          cases answered with
          | error err => exact stepRight_handleFatalError streamAfter err
          | ok outputs =>
              obtain ⟨passwords, holdsPlugin, right⟩ := sent.answered outputs rfl
              have start := unsent.record
              subst start
              refine ⟨Or.inr (Or.inl ⟨⟨passwords, sent.passwordSha1, sent.plugins, ?_,
                streamAfter⟩, holdsPlugin⟩), right⟩
              refine (if_pos ?_).trans rfl
              rw [show after.serverCapabilityFlags = handshake.capabilityFlags from
                sent.serverCapabilityFlags]
              exact factors

/-- The packet that is read for the next plugin. -/
theorem answerRight_authSwitchRequest (sent : Sent config conn record)
    (next : conn.next = some .handshakeResult) (packet : Packet)
    (created : ∀ request rest, AuthSwitchRequest.fromPacket runtime packet = .ok (request, rest) →
      ∀ plugin, builtinPlugin config request.pluginName = some plugin →
        PluginRight config record.factor (plugin.create conn.config conn.passwords)) :
    AnswerRight config record (conn.authSwitchRequest runtime packet) := by
  unfold AuthConnection.authSwitchRequest
  cases read : AuthSwitchRequest.fromPacket runtime packet with
  | error err => exact answerRight_error sent next err
  | ok read' => exact answerRight_switchAuth sent next read'.1 (created read'.1 read'.2 read)

theorem answerRight_moreData (sent : Sent config conn record)
    (holdsPlugin : HoldsPlugin config record.factor conn)
    (next : conn.next = some .handshakeResult) (packet : Packet) :
    AnswerRight config record (conn.authSwitchRequestMoreData runtime packet) := by
  unfold AuthConnection.authSwitchRequestMoreData
  cases AuthSwitchRequestMoreData.fromPacket packet with
  | error err => exact answerRight_error sent next err
  | ok read =>
      cases handler : conn.config.authSwitchHandler with
      | some handle =>
          apply answerRight_legacySwitchResponse sent next
          rw [handler]
          exact Option.some_ne_none handle
      | none =>
          cases plugin : conn.authPlugin with
          | none => exact answerRight_error sent next _
          | some plugin' =>
              exact answerRight_callAuthPlugin sent next (holdsPlugin handler plugin' plugin) read.1

/-- The connection's password setting behind a packet that switches. -/
theorem nextAuthenticationFactor_eq (sent : Sent config conn record) (positive : 0 < record.factor) :
    conn.nextAuthenticationFactor =
      { conn with
        config := { conn.config with password := takenPassword config record }
        authenticationFactor := conn.authenticationFactor + 1 } := by
  have notZero : conn.authenticationFactor ≠ 0 := by
    rw [sent.factor]
    split
    · exact Nat.succ_ne_zero record.factor
    · exact Nat.ne_of_gt positive
  unfold AuthConnection.nextAuthenticationFactor takenPassword factorPassword
  rw [if_neg notZero, sent.passwords, sent.factor]

/-- A packet for a connection whose credentials have been sent. -/
theorem stepRight_handshakeResult (sent : Sent config conn record)
    (holdsPlugin : HoldsPlugin config record.factor conn)
    (next : conn.next = some .handshakeResult) (positive : 0 < record.factor) (packet : Packet)
    (switches : packet.peekByte = some 0xfe → record = .start)
    (takes : packet.peekByte = some 0x02 →
      ∀ request rest, AuthSwitchRequest.fromPacket runtime packet = .ok (request, rest) →
        TakesNextPassword config record request.pluginName) :
    StepRight config (record.count (.packet packet) []) (conn.handshakeResult runtime packet) := by
  unfold AuthConnection.handshakeResult FactorRecord.count
  dsimp only
  split
  · next marker =>
      -- the next factor
      rw [marker, nextAuthenticationFactor_eq sent positive]
      apply AnswerRight.concludeAuthSwitch
      apply answerRight_authSwitchRequest
      · refine ⟨sent.passwords, sent.passwordSha1, sent.plugins, ?_, sent.stream⟩
        dsimp only
        rw [sent.factor]
        split <;> rfl
      · exact next
      · intro request rest read plugin found
        have created := create_right_next (takes marker request rest read)
          { conn.config with password := takenPassword config record }
          rfl sent.passwordSha1 found
        rw [show conn.passwords = .ofConfig config from sent.passwords]
        exact created
  · next marker =>
      -- the plugin of the first factor is switched
      have start := switches marker
      subst start
      rw [marker, nextAuthenticationFactor_eq sent positive]
      apply AnswerRight.concludeAuthSwitch
      apply answerRight_authSwitchRequest
      · exact ⟨sent.passwords, sent.passwordSha1, sent.plugins,
          congrArg (· + 1) sent.factor, sent.stream⟩
      · exact next
      · intro request rest read plugin found
        have password : takenPassword config .start = config.password := rfl
        have created := create_right_first
          { conn.config with password := takenPassword config .start }
          password sent.passwordSha1 plugin
        rw [show conn.passwords = .ofConfig config from sent.passwords]
        exact created
  · next notNext notSwitch =>
      split
      · exact (answerRight_moreData sent holdsPlugin next packet).concludeAuthSwitch
      · next marker => exact absurd marker notSwitch
      · next marker => exact absurd marker notNext
      · exact ⟨sent.stream, right_silent rfl _⟩
      · exact stepRight_fail sent.stream _

theorem onSecure_error (runtime : Runtime) (upgrading : conn.stream = .upgrading) (err : JsError) :
    ∃ reported, conn.onSecure runtime (.error err) =
      ({ conn with fatalError := true }, [.finished (.error reported)]) := by
  unfold AuthConnection.onSecure
  rw [upgrading]
  exact ⟨_, rfl⟩

theorem onSecure_ignored (notUpgrading : conn.stream ≠ .upgrading)
    (result : Except JsError Unit) : conn.onSecure runtime result = (conn, []) := by
  unfold AuthConnection.onSecure
  cases stream : conn.stream with
  | original encrypted => rfl
  | secure => rfl
  | upgrading => exact absurd stream notUpgrading

/-- The callback of `startTLS`. -/
theorem stepRight_onSecure (inPhase : InPhase config (conn, record))
    (result : Except JsError Unit) : StepRight config record (conn.onSecure runtime result) := by
  by_cases upgrading : conn.stream = .upgrading
  · obtain ⟨next, unsent, factor⟩ : conn.next = some .handshakeResult ∧
        Unsent config conn record ∧ conn.authenticationFactor = 1 := by
      unfold InPhase at inPhase
      split at inPhase
      · exact absurd upgrading inPhase
      · exact absurd upgrading inPhase.2
      · next isResult =>
          rcases inPhase with ⟨unsent, factor, -⟩ | ⟨sent, -⟩ | ⟨-, notUpgrading⟩
          · exact ⟨isResult, unsent, factor⟩
          · exact absurd upgrading sent.stream
          · exact absurd upgrading notUpgrading
    cases result with
    | error err =>
        obtain ⟨reported, reports⟩ := onSecure_error runtime upgrading err
        rw [reports]
        refine ⟨?_, right_silent rfl record.factor⟩
        unfold InPhase
        rw [show ({ conn with fatalError := true } : AuthConnection).next = _ from next]
        refine Or.inl ⟨?_, factor, upgrading⟩
        exact ⟨unsent.passwords, unsent.plugins, unsent.plugin, unsent.record⟩
    | ok _ =>
        let secured : AuthConnection := { conn with stream := .secure }
        have securedUnsent : Unsent config secured record :=
          ⟨unsent.passwords, unsent.plugins, unsent.plugin, unsent.record⟩
        have sent : SendRight config secured (secured.sendCredentials runtime) :=
          sendRight_sendCredentials securedUnsent
        unfold AuthConnection.onSecure
        rw [upgrading]
        dsimp only
        generalize secured.sendCredentials runtime = sending at sent
        obtain ⟨after, answered⟩ := sending
        have streamAfter : after.stream ≠ .upgrading := by
          rw [show after.stream = .secure from sent.stream]
          exact AuthStream.noConfusion
        cases answered with
        | error err => exact stepRight_handleFatalError streamAfter err
        | ok outputs =>
            obtain ⟨passwords, holdsPlugin, right⟩ := sent.answered outputs rfl
            have start := unsent.record
            subst start
            have nextAfter : after.next = some .handshakeResult := sent.next.trans next
            have factorAfter : after.authenticationFactor = 1 :=
              sent.authenticationFactor.trans factor
            refine ⟨?_, ?_⟩
            · unfold InPhase
              rw [nextAfter]
              exact Or.inr (Or.inl ⟨⟨passwords, sent.passwordSha1, sent.plugins,
                factorAfter, streamAfter⟩, holdsPlugin⟩)
            · dsimp only
              split
              · exact right_silent rfl 1
              · exact right
  · rw [onSecure_ignored upgrading result]
    exact ⟨inPhase, List.forall_mem_nil _⟩

/-- An ERR packet ends the command. -/
theorem stepRight_isError (stream : conn.stream ≠ .upgrading) {handler : AuthHandler}
    {packet : Packet} (isError : packet.isError = true) :
    StepRight config record (conn.execute runtime handler packet) := by
  unfold AuthConnection.execute
  rw [if_pos isError]
  split
  · exact stepRight_handleFatalError stream _
  · exact stepRight_fail stream _

/-- Other packets leave the record alone. -/
theorem count_other {packet : Packet} (notNext : packet.peekByte ≠ some 0x02)
    (notSwitch : packet.peekByte ≠ some 0xfe) (outputs : List AuthOutput) :
    record.count (.packet packet) outputs = record := by
  unfold FactorRecord.count
  dsimp only
  split
  · next marker => exact absurd marker notNext
  · next marker => exact absurd marker notSwitch
  · rfl

theorem count_positive (positive : 0 < record.factor) (event : AuthEvent)
    (outputs : List AuthOutput) : 0 < (record.count event outputs).factor := by
  unfold FactorRecord.count
  split
  · split
    · exact Nat.succ_pos record.factor
    · exact positive
    · exact positive
  · exact positive

/-- A packet of the server. -/
theorem stepRight_handlePacket (inPhase : InPhase config (conn, record))
    (positive : 0 < record.factor) (packet : Packet)
    (legal : ProtocolLegal runtime (conn, record) (.packet packet))
    (takes : TakesPasswords runtime config (conn, record) (.packet packet)) :
    StepRight config (record.count (.packet packet) []) (conn.handlePacket runtime packet) := by
  unfold AuthConnection.handlePacket
  unfold InPhase at inPhase
  unfold ProtocolLegal at legal
  dsimp only at inPhase legal
  cases next : conn.next with
  | none =>
      rw [next] at inPhase
      refine ⟨?_, List.forall_mem_nil _⟩
      unfold InPhase
      rw [next]
      exact inPhase
  | some handler =>
      rw [next] at inPhase legal
      dsimp only
      cases handler with
      | handshakeInit =>
          obtain ⟨notSwitch, notNext, advertised⟩ := legal
          obtain ⟨unsent, stream⟩ := inPhase
          rw [count_other notNext notSwitch]
          split
          · refine ⟨?_, List.forall_mem_nil _⟩
            unfold InPhase
            rw [next]
            exact ⟨unsent, stream⟩
          · by_cases isError : packet.isError = true
            · exact stepRight_isError stream isError
            · unfold AuthConnection.execute
              rw [if_neg isError]
              exact stepRight_handshakeInit unsent stream packet advertised
      | handshakeResult =>
          obtain ⟨stream, switches, -⟩ := legal
          split
          · next fatalError =>
              refine ⟨?_, List.forall_mem_nil _⟩
              unfold InPhase
              rw [next]
              exact Or.inr (Or.inr ⟨fatalError, stream⟩)
          · next notFatal =>
              by_cases isError : packet.isError = true
              · exact stepRight_isError stream isError
              · unfold AuthConnection.execute
                rw [if_neg isError]
                rcases inPhase with ⟨-, -, upgrading⟩ | ⟨sent, holdsPlugin⟩ | ⟨fatalError, -⟩
                · exact absurd upgrading stream
                · exact stepRight_handshakeResult sent holdsPlugin next positive packet switches
                    (takes next)
                · exact absurd fatalError notFatal

/-- A step of a legal run. -/
theorem stepRight_step (inPhase : InPhase config (conn, record)) (positive : 0 < record.factor)
    (event : AuthEvent) (legal : ProtocolLegal runtime (conn, record) event)
    (takes : TakesPasswords runtime config (conn, record) event) (outputs : List AuthOutput) :
    StepRight config (record.count event outputs) (conn.step runtime event) := by
  cases event with
  | packet packet => exact stepRight_handlePacket inPhase positive packet legal takes
  | onSecure result => exact stepRight_onSecure inPhase result
  | changeUser options => exact absurd legal not_false

theorem responses_computedFrom_of_right {after : AuthConnection × FactorRecord}
    {outputs : List AuthOutput} (right : Right config after.2.factor outputs) :
    ∀ response ∈ responses after outputs, ComputedFrom config response.1 response.2 := by
  intro response responseMem
  obtain ⟨output, outputMem, isResponse⟩ := List.mem_filterMap.mp responseMem
  obtain ⟨data, isData, rfl⟩ := Option.map_eq_some_iff.mp isResponse
  exact right output outputMem data isData

end Connections

/-! ## Runs -/

/-- The responses for a factor are computed from its password, whatever the
server switches to, as long as it names plugins for the next factors that take
the next password. -/
theorem run_responses_computedFrom (runtime : Runtime) (config : AuthConfig) (encrypted : Bool)
    (events : List AuthEvent)
    (meets : Meets (factorStep runtime)
      (fun state event => ProtocolLegal runtime state event ∧
        TakesPasswords runtime config state event)
      (AuthConnection.new config encrypted, .start) events) :
    ∀ response ∈ trace (factorStep runtime) responses
        (AuthConnection.new config encrypted, .start) events,
      ComputedFrom config response.1 response.2 := by
  refine meets.trace_forall (fun state => InPhase config state ∧ 0 < state.2.factor)
    (fun response : Nat × AuthData => ComputedFrom config response.1 response.2) ?_
    ⟨⟨⟨rfl, rfl, rfl, rfl⟩, ?_⟩, ?_⟩
  · rintro ⟨conn, record⟩ event ⟨inPhase, positive⟩ ⟨legal, takes⟩
    have stepped : StepRight config (record.count event (conn.step runtime event).2)
        (conn.step runtime event) :=
      stepRight_step inPhase positive event legal takes (conn.step runtime event).2
    exact ⟨⟨stepped.inPhase, count_positive positive event (conn.step runtime event).2⟩,
      responses_computedFrom_of_right stepped.right⟩
  · exact AuthStream.noConfusion
  · exact Nat.one_pos

/-! ## Fixed inputs -/

/-- Three passwords. -/
def threePasswords : AuthConfig :=
  passwordConfig (some "a") (some "b") (some "c")

/-- The packets of a server that asks for three factors and switches the plugin
of the first one. -/
def switchedFactors : List AuthEvent :=
  [.packet (helloPacket 0x10088201 "caching_sha2_password"),
    .packet (switchPacket 0xfe "caching_sha2_password" [1, 0]),
    .packet (switchPacket 0x02 "caching_sha2_password" [2, 0]),
    .packet (switchPacket 0x02 "caching_sha2_password" [3, 0])]

/-- The packets of a server that asks for a second factor when the first one has
been answered directly. -/
def directFactors : List AuthEvent :=
  [.packet (helloPacket 0x10088201 "caching_sha2_password"),
    .packet (switchPacket 0x02 "caching_sha2_password" [2, 0])]

theorem legal_hello {state : AuthConnection × FactorRecord}
    (next : state.1.next = some .handshakeInit) :
    ProtocolLegal keylessRuntime state
      (.packet (helloPacket 0x10088201 "caching_sha2_password")) := by
  unfold ProtocolLegal
  dsimp only
  rw [next]
  refine ⟨by decide, by decide, ?_⟩
  intro handshake rest read
  have fromPacket := helloPacket_fromPacket
  rw [read] at fromPacket
  cases Except.ok.inj fromPacket
  decide

theorem takes_notNext {runtime : Runtime} {config : AuthConfig}
    {state : AuthConnection × FactorRecord} {packet : Packet}
    (notNext : packet.peekByte ≠ some 0x02) :
    TakesPasswords runtime config state (.packet packet) := by
  intro _ isNext
  exact absurd isNext notNext

theorem takes_cachingSha2 {state : AuthConnection × FactorRecord} {packet : Packet}
    (switched : state.2.switched = true)
    (read : (AuthSwitchRequest.fromPacket keylessRuntime packet).map
      (fun read => read.1.pluginName) = .ok "caching_sha2_password") :
    TakesPasswords keylessRuntime threePasswords state (.packet packet) := by
  intro _ _ request rest isRequest
  rw [isRequest] at read
  have isCachingSha2 : request.pluginName = "caching_sha2_password" := Except.ok.inj read
  have found : builtinPlugin threePasswords "caching_sha2_password" =
      some .caching_sha2_password := rfl
  unfold TakesNextPassword takenPassword
  rw [isCachingSha2, found, if_pos switched]

theorem run_responses_computedFrom_switchedFactors :
    (trace (factorStep keylessRuntime) responses
        (AuthConnection.new threePasswords false, .start) switchedFactors).length = 4 ∧
      ∀ response ∈ trace (factorStep keylessRuntime) responses
          (AuthConnection.new threePasswords false, .start) switchedFactors,
        ComputedFrom threePasswords response.1 response.2 := by
  refine ⟨rfl, run_responses_computedFrom _ _ _ _ ?_⟩
  refine ⟨⟨legal_hello rfl, ?_⟩, ⟨⟨AuthStream.noConfusion, ?_, ?_⟩, ?_⟩,
    ⟨⟨AuthStream.noConfusion, ?_, ?_⟩, ?_⟩, ⟨⟨AuthStream.noConfusion, ?_, ?_⟩, ?_⟩, trivial⟩
  · exact takes_notNext (by decide)
  · intro _
    rfl
  · decide
  · exact takes_notNext (by decide)
  · decide
  · decide
  · exact takes_cachingSha2 rfl rfl
  · decide
  · decide
  · exact takes_cachingSha2 rfl rfl

theorem trace_directFactors :
    trace (factorStep keylessRuntime) responses
        (AuthConnection.new threePasswords false, .start) directFactors =
      [(1, .sha2Token (some "a")
          [1, 2, 3, 4, 5, 6, 7, 8, 9, 10, 11, 12, 13, 14, 15, 16, 17, 18, 19, 20]),
        (2, .sha2Token (some "a") [2, 0])] :=
  rfl

theorem directFactors_wrongPassword :
    Meets (factorStep keylessRuntime) (ProtocolLegal keylessRuntime)
        (AuthConnection.new threePasswords false, .start) directFactors ∧
      ¬∀ response ∈ trace (factorStep keylessRuntime) responses
          (AuthConnection.new threePasswords false, .start) directFactors,
        ComputedFrom threePasswords response.1 response.2 := by
  refine ⟨⟨legal_hello rfl, ⟨AuthStream.noConfusion, ?_, ?_⟩, trivial⟩, ?_⟩
  · intro _
    rfl
  · decide
  · intro computed
    rw [trace_directFactors] at computed
    have second : some "a" = factorPassword threePasswords 2 :=
      computed (2, .sha2Token (some "a") [2, 0]) (.tail _ (.head _))
    revert second
    decide

end Mysql2.Auth

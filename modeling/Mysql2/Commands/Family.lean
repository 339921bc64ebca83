import Mysql2.Commands.ResultSet
import Mysql2.Commands.Prepare
import Mysql2.Commands.Simple

/-!
# The commands of a connection

The command classes as one family, and the functions outside the commands that
work on what they share: timers, the streams of local files, and the functions
of the connection that use prepared statements.
-/

namespace Mysql2.Commands

open Mysql2.Connection
open Mysql2.Packets

variable {V ρ γ : Type}

namespace Command

/-- The start handler has been run. -/
def started : Command V ρ → Bool
  | .resultSet command => command.next.isSome
  | .prepare command => command.next.isSome
  | .closeStatement command _ => command.next.isSome
  | .resetConnection command => command.next.isSome
  | .changeUser command => command.next.isSome
  | .other command _ => command.next.isSome

/-- `command.onResult` is set.  `ChangeUser` always has a callback of the
connection's own. -/
def hasCallback : Command V ρ → Bool
  | .resultSet command => command.onResult
  | .prepare command => command.onResult ≠ .none
  | .closeStatement command _ => command.onResult
  | .resetConnection command => command.onResult
  | .changeUser _ => true
  | .other command isHandshake => command.onResult && !isHandshake

/-- `command.constructor === Commands.ClientHandshake`. -/
def isHandshake : Command V ρ → Bool
  | .other _ isHandshake => isHandshake
  | _ => false

/-- Collect what a handler did.  Listeners and callbacks it has invoked can call
the connection. -/
def outcome {α : Type} (behaviour : Behaviour V ρ) (wrap : α → Command V ρ)
    (handled : World α V ρ γ × Except JsError Bool) :
    Outcome (Store γ) (Command V ρ) (CommandOutput ρ) :=
  { store := handled.1.store
    wire := handled.1.wire
    command := wrap handled.1.command
    calls := handled.1.added.map .addCommand ++
      if handled.1.userCode then behaviour.calls else []
    handshakeError := none
    outputs := handled.1.outputs
    result := handled.2 }

/-- `command.execute(packet, connection)`. -/
def execute (config : CommandConfig V γ) (behaviour : Behaviour V ρ) (view : View)
    (store : Store γ) (wire : Wire) (command : Command V ρ) (packet : Option Packet) :
    Outcome (Store γ) (Command V ρ) (CommandOutput ρ) :=
  match command with
  | .resultSet command =>
      outcome behaviour .resultSet
        ((ResultSetCommand.handlers config behaviour view).execute config.read
          (.new command store wire) packet)
  | .prepare command =>
      outcome behaviour .prepare
        ((Prepare.handlers config view).execute config.read (.new command store wire) packet)
  | .closeStatement command statementId =>
      outcome behaviour (.closeStatement · statementId)
        ((SimpleCommand.handlers (SimpleCommand.closeStatementStart config statementId)
          (SimpleCommand.unmodelled behaviour)).execute config.read
            (.new command store wire) packet)
  | .resetConnection command =>
      outcome behaviour .resetConnection
        ((SimpleCommand.handlers (SimpleCommand.resetConnectionStart config)
          (SimpleCommand.resetConnectionResponse config view)).execute config.read
            (.new command store wire) packet)
  | .changeUser command =>
      outcome behaviour .changeUser
        ((SimpleCommand.handlers (SimpleCommand.changeUserStart config view)
          (SimpleCommand.unmodelled behaviour)).execute config.read
            (.new command store wire) packet)
  | .other command isHandshake =>
      let handled := outcome behaviour (.other · isHandshake)
        ((SimpleCommand.handlers (SimpleCommand.unmodelled behaviour)
          (SimpleCommand.unmodelled behaviour)).execute config.read
            (.new command store wire) packet)
      { handled with handshakeError := if isHandshake then behaviour.handshakeError else none }

/-- The effect of `command.onResult(err)`. -/
def onResult (behaviour : Behaviour V ρ) (store : Store γ) (wire : Wire) (command : Command V ρ)
    (err : JsError) : Effect (Store γ) (Command V ρ) (CommandOutput ρ) :=
  let called (id : Nat) : Effect (Store γ) (Command V ρ) (CommandOutput ρ) :=
    { store := store
      wire := wire
      calls := behaviour.calls
      outputs := [.callback id (.error err)]
      uncaught := false }
  match command with
  | .resultSet command => called command.id
  | .prepare command =>
      let world : World Prepare V ρ γ := .new command store wire
      let reported := Prepare.callWithError world err
      { store := reported.1.store
        wire := reported.1.wire
        calls := behaviour.calls
        outputs := reported.1.outputs
        uncaught := match reported.2 with
          | .error _ => true
          | .ok _ => false }
  | .closeStatement command _ => called command.id
  | .resetConnection command => called command.id
  | .changeUser command => called command.id
  | .other command _ => called command.id

end Command

/-- The arguments of `connection.execute(sql, values, cb)`, with the identity of
the call. -/
structure ExecuteCall (V : Type) where
  id : Nat
  sql : String
  key : String
  values : List V
  attributes : List (String × V)
  onResult : Bool
  errorListener : Bool
  timeout : Nat
  streamFactory : Bool

/-- The execute command of `connection.execute`. -/
def ExecuteCall.executeCommand (call : ExecuteCall V) : Command V ρ :=
  .resultSet (.new call.id .execute (some call.sql) .linked call.values call.attributes
    call.onResult call.errorListener call.timeout call.streamFactory)

/-- The prepare command of `connection.execute`. -/
def ExecuteCall.prepareCommand (call : ExecuteCall V) : Command V ρ :=
  .prepare (.new call.id call.sql call.key
    (.execute call.id call.onResult call.errorListener) false)

/-- Events of the stream of a local file. -/
inductive LocalStreamEvent
  | data (bytes : Bytes)
  | ended
  | error (err : JsError)

/-- Functions that run outside the commands: a timer's handler, the listeners on
a local stream, and the functions of the connection that use prepared
statements. -/
inductive Interrupt (V ρ : Type)
  | timeout (id : Nat) (calls : List (Call (Command V ρ)))
  | localStream (id : Nat) (event : LocalStreamEvent)
  | execute (call : ExecuteCall V)
  | unprepare (key : String)

/-- The error of `_handleTimeoutError`. -/
def timeoutError : JsError :=
  { JsError.new "Query inactivity timeout" with code := some (.name "PROTOCOL_SEQUENCE_TIMEOUT") }

/-- `_handleTimeoutError()`, if the timer is armed. -/
def handleTimeoutError (id : Nat) (calls : List (Call (Command V ρ))) (store : Store γ)
    (wire : Wire) : Effect (Store γ) (Command V ρ) (CommandOutput ρ) :=
  match store.queryTimeout id with
  | none => ⟨store, wire, [], [], false⟩
  | some timer =>
      let store := { store with queryTimeout := Function.update store.queryTimeout id none }
      if timer.onResult then
        ⟨store, wire, calls, [.callback id (.error timeoutError)], false⟩
      else if timer.errorListener then
        ⟨store, wire, calls, [.event id (.error timeoutError)], false⟩
      else
        ⟨store, wire, [], [], true⟩

/-- The listeners `onData`, `onEnd` and `onError` of `_streamLocalInfile`. -/
def localStreamEvent (id : Nat) (event : LocalStreamEvent) (store : Store γ) (wire : Wire) :
    Effect (Store γ) (Command V ρ) (CommandOutput ρ) :=
  match event with
  | .data bytes =>
      ⟨store, writePacket wire (.new 0 ([0, 0, 0, 0] ++ bytes) 0 (bytes.length + 4)), [], [],
        false⟩
  | .ended => ⟨store, writePacket wire ResultSetCommand.createEmptyPacket, [], [], false⟩
  | .error err =>
      ⟨{ store with localStreamError := Function.update store.localStreamError id (some err) },
        writePacket wire ResultSetCommand.createEmptyPacket, [], [], false⟩

/-- `connection.unprepare(sql)`: the eviction closes the statement, and so does
the function itself. -/
def unprepare (cache : StatementCache γ) (key : String) (store : Store γ) (wire : Wire) :
    Effect (Store γ) (Command V ρ) (CommandOutput ρ) :=
  let cached := cache.get store.statements key
  match cached.1 with
  | none => ⟨{ store with statements := cached.2 }, wire, [], [], false⟩
  | some info =>
      let deleted := cache.delete cached.2 key
      ⟨{ store with statements := deleted.1 }, wire,
        (deleted.2 ++ [info]).map fun info => .addCommand info.closeStatement, [], false⟩

/-- `connection.execute(sql, values, cb)`: a prepare command, and the execute
command it is linked to. -/
def executeCall (call : ExecuteCall V) (store : Store γ) (wire : Wire) :
    Effect (Store γ) (Command V ρ) (CommandOutput ρ) :=
  ⟨{ store with links := Function.update store.links call.id .unset }, wire,
    [.addCommand call.prepareCommand, .addCommand call.executeCommand], [], false⟩

/-- Run a function outside the commands. -/
def runInterrupt (cache : StatementCache γ) (function : Interrupt V ρ) (store : Store γ) (wire : Wire) :
    Effect (Store γ) (Command V ρ) (CommandOutput ρ) :=
  match function with
  | .timeout id calls => handleTimeoutError id calls store wire
  | .localStream id event => localStreamEvent id event store wire
  | .execute call => executeCall call store wire
  | .unprepare key => unprepare cache key store wire

/-! ## Commands that have not ended have been started -/

/-- A class whose handlers keep `next` set, unless they return no next state. -/
structure Handlers.KeepsNext {α : Type} (handlers : Handlers α V ρ γ) : Prop where
  start : ∀ command, handlers.started (handlers.start command) = true
  fail : ∀ {world err thrown}, handlers.started world.command = true →
    (handlers.fail world err).2 = .error thrown →
    handlers.started (handlers.fail world err).1.command = true
  next : ∀ {world packet}, handlers.started world.command = true →
    (handlers.next world packet).2 ≠ .ok false →
    handlers.started (handlers.next world packet).1.command = true

theorem Handlers.KeepsNext.execute {α : Type} {handlers : Handlers α V ρ γ}
    (keeps : handlers.KeepsNext) {read : ReadConfig} {world : World α V ρ γ}
    {packet : Option Packet} (continues : (handlers.execute read world packet).2 ≠ .ok true) :
    handlers.started (handlers.execute read world packet).1.command = true := by
  have begun : handlers.started (handlers.begin world).command = true := by
    rw [Handlers.begin]
    by_cases started : handlers.started world.command
    · rwa [if_pos started]
    · rw [if_neg started]
      exact keeps.start world.command
  cases filterEq : packet.filter Packet.isError with
  | none =>
      rw [handlers.execute_of_not_isError read world filterEq] at continues ⊢
      apply keeps.next begun
      intro ended
      rw [ended] at continues
      exact continues rfl
  | some errorPacket =>
      rcases Option.filter_eq_some_iff.mp filterEq with ⟨rfl, isError⟩
      cases asErrorEq : Packet.asError read.toDecoding read.clientEncoding errorPacket with
      | error err =>
          rw [handlers.execute_of_asError_throws world isError asErrorEq]
          exact begun
      | ok decoded =>
          rw [handlers.execute_of_asError world isError asErrorEq] at continues ⊢
          cases failedEq : (handlers.fail (handlers.begin world)
            { decoded.1 with sql := handlers.sql (handlers.begin world).command }).2 with
          | error thrown => exact keeps.fail begun failedEq
          | ok _ =>
              rw [failedEq] at continues
              exact absurd rfl continues

end Mysql2.Commands

import Mysql2.Connection.Connection
import Mysql2.Packets.ServerPackets

/-!
# Commands

The command objects of a connection and what they share.  A command has an
identity, under which an observer sees the calls of its callback.  The fields
that something other than the command's own handlers changes, such as its timer,
are kept in the shared store under that identity.

`V` are bind values and `ρ` are parsed rows.
-/

namespace Mysql2.Commands

open Mysql2.Connection
open Mysql2.Packets

/-- The class of a command that receives result sets: `Query` speaks the text
protocol, `Execute` the binary protocol. -/
inductive Protocol
  | query
  | execute
  deriving DecidableEq, Repr

/-- `PreparedStatementInfo`. -/
structure PreparedStatementInfo where
  query : String
  id : Nat
  columns : List ColumnDefinition
  parameters : List ColumnDefinition
  deriving DecidableEq, Repr

/-- The `statement` of an execute command: passed to it, or set by the prepare
command that `connection.execute` queues in front of it. -/
inductive StatementSource
  | given (statement : PreparedStatementInfo)
  | linked
  deriving DecidableEq, Repr

/-- What the prepare command of `connection.execute` has left in its execute
command: nothing yet, a statement, or a `start` that returns `null`. -/
inductive Link
  | unset
  | statement (info : PreparedStatementInfo)
  | skip
  deriving DecidableEq, Repr

/-- The handlers of `Query` and `Execute` that `next` can stand for. -/
inductive ResultSetState
  | start
  | resultsetHeader
  | readField
  | fieldsEOF
  | row
  | infileOk
  deriving DecidableEq, Repr

/-- An entry of `_rows`: the rows of a result set, or the header of an OK
packet. -/
inductive ResultRows (ρ : Type)
  | header (header : ResultSetHeader)
  | rows (rows : List ρ)

/-- The fields of a `Query` or `Execute` command.  `_currentRows` and
`_currentFields` are references to entries of `_rows` and `_fields`, and are
kept as indices.  `timeout` is zero for no timeout. -/
structure ResultSetCommand (V ρ : Type) where
  id : Nat
  protocol : Protocol
  sql : Option String
  statement : StatementSource
  values : List V
  attributes : List (String × V)
  onResult : Bool
  errorListener : Bool
  timeout : Nat
  streamFactory : Bool
  next : Option ResultSetState
  fieldCount : Packet.LengthCoded
  receivedFieldsCount : Nat
  rowParser : Option (List ColumnDefinition)
  rows : List (ResultRows ρ)
  fields : List (Option (List ColumnDefinition))
  currentRows : Option Nat
  currentFields : Option Nat
  resultIndex : Nat

/-- The handlers of `Prepare`. -/
inductive PrepareState
  | start
  | prepareHeader
  | readParameter
  | readField
  | parametersEOF
  | fieldsEOF
  deriving DecidableEq, Repr

/-- The callback of a prepare command: the caller's, or the one with which
`connection.execute` sets up the execute command `execute`. -/
inductive PrepareCallback
  | none
  | caller
  | execute (execute : Nat) (onResult errorListener : Bool)
  deriving DecidableEq, Repr

/-- The fields of a `Prepare` command.  `key` is the key of the statement in the
connection's cache. -/
structure Prepare where
  id : Nat
  query : String
  key : String
  onResult : PrepareCallback
  errorListener : Bool
  next : Option PrepareState
  statementId : Nat
  fieldCount : Nat
  parameterCount : Nat
  fields : List ColumnDefinition
  parameterDefinitions : List ColumnDefinition

/-- The handlers of a command without result sets: its start, and the handler
of its response. -/
inductive SimpleState
  | start
  | response
  deriving DecidableEq, Repr

/-- The fields of a command without result sets. -/
structure SimpleCommand where
  id : Nat
  onResult : Bool
  errorListener : Bool
  next : Option SimpleState
  deriving DecidableEq, Repr

/-- The commands of a connection.  `other` stands for the commands whose
handlers are not part of the model, among them the handshake. -/
inductive Command (V ρ : Type)
  | resultSet (command : ResultSetCommand V ρ)
  | prepare (command : Prepare)
  | closeStatement (command : SimpleCommand) (statementId : Nat)
  | resetConnection (command : SimpleCommand)
  | changeUser (command : SimpleCommand)
  | other (command : SimpleCommand) (isHandshake : Bool)

/-- The command that `PreparedStatementInfo.close` adds. -/
def PreparedStatementInfo.closeStatement {V ρ : Type} (info : PreparedStatementInfo) :
    Command V ρ :=
  .closeStatement ⟨0, false, false, none⟩ info.id

/-- Results of a command as its callback receives them. -/
inductive Results (ρ : Type)
  | single (rows : Option (ResultRows ρ)) (fields : Option (List ColumnDefinition))
  | multiple (rows : List (ResultRows ρ)) (fields : List (Option (List ColumnDefinition)))

/-- The arguments of a callback. -/
inductive Reply (ρ : Type)
  | error (err : JsError)
  | results (results : Results ρ)
  | statement (info : PreparedStatementInfo)
  | ok

/-- Events of a command. -/
inductive CommandEvent (ρ : Type)
  | fields (fields : Option (List ColumnDefinition))
  | header (header : ResultSetHeader)
  | row (row : ρ) (resultIndex : Nat)
  | error (err : JsError)
  | finished

/-- The requests that a server answers or that change its prepared statements. -/
inductive Request
  | query
  | execute (statementId : Nat)
  | prepare
  | closeStatement (statementId : Nat)
  | resetConnection
  | changeUser
  deriving DecidableEq, Repr

/-- What an observer sees of a command: its callback being called or scheduled
for the next tick, its events, and the requests it sends. -/
inductive CommandOutput (ρ : Type)
  | callback (id : Nat) (reply : Reply ρ)
  | scheduled (id : Nat) (reply : Reply ρ)
  | event (id : Nat) (event : CommandEvent ρ)
  | request (id : Nat) (request : Request)
  /-- The connection's `error` event, emitted by a handler. -/
  | connectionError (err : JsError)

/-- The cache of prepared statements, with the statements that each operation
reports to `onEviction`. -/
structure StatementCache (γ : Type) where
  get : γ → String → Option PreparedStatementInfo × γ
  set : γ → String → PreparedStatementInfo → γ × List PreparedStatementInfo
  delete : γ → String → γ × List PreparedStatementInfo
  clear : γ → γ × List PreparedStatementInfo

/-- A timer that is armed, with what its handler needs of the command. -/
structure QueryTimeout where
  onResult : Bool
  errorListener : Bool
  deriving DecidableEq, Repr

/-- What the commands of a connection share. -/
structure Store (γ : Type) where
  statements : γ
  links : Nat → Link
  queryTimeout : Nat → Option QueryTimeout
  localStreamError : Nat → Option JsError

/-- Serialization of requests, which can throw. -/
structure RequestPackets (V : Type) where
  query : String → List (String × V) → Except JsError Packet
  execute : PreparedStatementInfo → List V → List (String × V) → Except JsError Packet
  prepareStatement : String → Except JsError Packet
  closeStatement : Nat → Except JsError Packet
  resetConnection : Except JsError Packet
  changeUser : Except JsError Packet

/-- The code outside the commands in one step: what building a row parser and
parsing a row do, whether opening a local file throws, what listeners and
callbacks call, and what a handler outside the model does: what it writes, an
`error` event of the handshake, and how it ends. -/
structure Behaviour (V ρ : Type) where
  buildParser : Protocol → List ColumnDefinition → Except JsError Unit
  parseRow : Protocol → List ColumnDefinition → List ColumnDefinition → Packet → Except JsError ρ
  openStream : String → Except JsError Unit
  calls : List (Call (Command V ρ))
  written : List Packet
  handshakeError : Option JsError
  result : Except JsError Bool

/-- Settings of the commands of a connection. -/
structure CommandConfig (V γ : Type) where
  read : ReadConfig
  packets : RequestPackets V
  cache : StatementCache γ

/-- A running handler: the command, what it shares with others, what it has
emitted so far, the commands it has added itself, and whether it has run code
outside the commands. -/
structure World (α V ρ γ : Type) where
  command : α
  store : Store γ
  wire : Wire
  outputs : List (CommandOutput ρ)
  added : List (Command V ρ)
  userCode : Bool

namespace World

variable {α V ρ γ : Type}

/-- A handler that is about to run. -/
def new (command : α) (store : Store γ) (wire : Wire) : World α V ρ γ :=
  { command := command
    store := store
    wire := wire
    outputs := []
    added := []
    userCode := false }

/-- Emit something that code outside the commands reacts to. -/
def emit (world : World α V ρ γ) (output : CommandOutput ρ) : World α V ρ γ :=
  { world with
    outputs := world.outputs ++ [output]
    userCode := true }

/-- Write the packet of a request. -/
def writeRequest (world : World α V ρ γ) (id : Nat) (request : Request) (packet : Packet) :
    World α V ρ γ :=
  { world with
    wire := writePacket world.wire packet
    outputs := world.outputs ++ [.request id request] }

/-- `emit('error', err)` on a command, which throws without a listener. -/
def emitError {τ : Type} (world : World α V ρ γ) (id : Nat) (errorListener : Bool)
    (err : JsError) (returns : τ) : World α V ρ γ × Except JsError τ :=
  if errorListener then (world.emit (.event id (.error err)), .ok returns) else (world, .error err)

/-- Close statements that have left the cache.  In the closed state the added
commands fail, with an `error` event of the connection. -/
def closeEvicted (world : World α V ρ γ) (view : View) (evicted : List PreparedStatementInfo) :
    World α V ρ γ × Except JsError Unit :=
  if view.closedState ∧ view.errorListener = false ∧ evicted ≠ [] then
    (world, .error BaseConnection.closedStateError)
  else
    ({ world with
      added := world.added ++ evicted.map PreparedStatementInfo.closeStatement }, .ok ())

/-- `connection.protocolError(message)` inside a handler: it returns `undefined`
or throws. -/
def protocolError {τ : Type} (world : World α V ρ γ) (view : View) (message : String) :
    World α V ρ γ × Except JsError (Option τ) :=
  let err := BaseConnection.protocolErrorOf message none
  if view.closing then
    (world, .ok none)
  else if view.errorListener then
    (world.emit (.connectionError err), .ok none)
  else
    (world, .error err)

end World

/-- What `Command.execute` needs of a class of commands: `this.next` and its
initial value, the report of an ERR packet, and the call of the next handler,
which tells whether it returned a next state. -/
structure Handlers (α V ρ γ : Type) where
  started : α → Bool
  start : α → α
  sql : α → Option String
  fail : World α V ρ γ → JsError → World α V ρ γ × Except JsError Unit
  next : World α V ρ γ → Option Packet → World α V ρ γ × Except JsError Bool

namespace Handlers

variable {α V ρ γ : Type}

/-- `this.next = this.start` for a command that has not been executed before. -/
def begin (handlers : Handlers α V ρ γ) (world : World α V ρ γ) : World α V ρ γ :=
  if handlers.started world.command then
    world
  else
    { world with
      command := handlers.start world.command
      wire := world.wire.resetSequenceId }

/-- `Command.execute(packet, connection)`. -/
def execute (handlers : Handlers α V ρ γ) (read : ReadConfig) (world : World α V ρ γ)
    (packet : Option Packet) : World α V ρ γ × Except JsError Bool :=
  let world := handlers.begin world
  match packet.filter Packet.isError with
  | some errorPacket =>
      match Packet.asError read.toDecoding read.clientEncoding errorPacket with
      | .error err => (world, .error err)
      | .ok (err, _) =>
          let failed := handlers.fail world { err with sql := handlers.sql world.command }
          (failed.1, failed.2.map fun _ => true)
  | none =>
      let handled := handlers.next world packet
      (handled.1, handled.2.map fun continues => !continues)

theorem execute_of_not_isError (handlers : Handlers α V ρ γ) (read : ReadConfig)
    (world : World α V ρ γ) {packet : Option Packet}
    (notError : packet.filter Packet.isError = none) :
    handlers.execute read world packet =
      ((handlers.next (handlers.begin world) packet).1,
        (handlers.next (handlers.begin world) packet).2.map fun continues => !continues) := by
  rw [execute, notError]

theorem execute_of_asError_throws (handlers : Handlers α V ρ γ) {read : ReadConfig}
    (world : World α V ρ γ) {packet : Packet} {err : JsError} (isError : packet.isError = true)
    (throws : Packet.asError read.toDecoding read.clientEncoding packet = .error err) :
    handlers.execute read world (some packet) = (handlers.begin world, .error err) := by
  rw [execute, Option.filter_some, if_pos isError]
  dsimp only
  rw [throws]

theorem execute_of_asError (handlers : Handlers α V ρ γ) {read : ReadConfig}
    (world : World α V ρ γ) {packet rest : Packet} {err : JsError}
    (isError : packet.isError = true)
    (asError : Packet.asError read.toDecoding read.clientEncoding packet = .ok (err, rest)) :
    handlers.execute read world (some packet) =
      ((handlers.fail (handlers.begin world)
          { err with sql := handlers.sql (handlers.begin world).command }).1,
        (handlers.fail (handlers.begin world)
          { err with sql := handlers.sql (handlers.begin world).command }).2.map
            fun _ => true) := by
  rw [execute, Option.filter_some, if_pos isError]
  dsimp only
  rw [asError]

end Handlers

end Mysql2.Commands

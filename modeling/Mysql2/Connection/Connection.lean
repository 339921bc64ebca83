import Mysql2.Connection.WritePacket
import Mysql2.Packets.Reader
import Mysql2.Transition.Mealy

/-!
# The connection

A connection hands packets to its current command and starts the next command
when the current one is done.  While it is paused, packets and command starts
are parked.

JavaScript runs one call to its end before the next event is looked at, and
calls nest: a packet handler can end a command, which starts the next one, whose
start can end it, and the callbacks in between can call the connection.  The
model keeps the rest of the calls in progress on a stack of tasks and performs
one task a step.  An input is accepted when the stack is empty, that is, when no
handler is running.
-/

namespace Mysql2.Connection

open Mysql2.Packets
open Mysql2.Transition

/-- What a command reads of the connection's state. -/
structure View where
  closing : Bool
  closedState : Bool
  errorListener : Bool

/-- What a command, or a callback or listener it invokes, asks of the
connection.  Such calls are performed behind the code that makes them. -/
inductive Call (κ : Type)
  | pause
  | resume
  | addCommand (command : κ)
  | close

/-- The effect of `command.execute`: what it leaves behind, the calls made from
inside it, an `error` event of the handshake, for which the connection has a
listener, and whether it threw or returned. -/
structure Outcome (σ κ ο : Type) where
  store : σ
  wire : Wire
  command : κ
  calls : List (Call κ)
  handshakeError : Option JsError
  outputs : List ο
  result : Except JsError Bool

/-- The effect of calling a callback, or of a function outside the commands.
`uncaught` says that it threw what nothing catches. -/
structure Effect (σ κ ο : Type) where
  store : σ
  wire : Wire
  calls : List (Call κ)
  outputs : List ο
  uncaught : Bool

/-- A family of commands.  `ω` is the behaviour of the code that a step calls
out to, `ι` are functions that run outside the commands (API functions, timers),
`σ` is the state they share with the commands, `κ` are the commands and `ο` what
an observer sees. -/
structure CommandFamily (ω ι σ κ ο : Type) where
  execute : ω → View → σ → Wire → κ → Option Packet → Outcome σ κ ο
  hasCallback : κ → Bool
  onResult : ω → σ → Wire → κ → JsError → Effect σ κ ο
  isHandshake : κ → Bool
  interrupt : ι → σ → Wire → Effect σ κ ο
  /-- The start handler has been run. -/
  started : κ → Bool
  handshake_callback : ∀ command, isHandshake command → hasCallback command = false
  handshakeError_execute : ∀ behaviour view store wire command packet,
    isHandshake command = false →
      (execute behaviour view store wire command packet).handshakeError = none
  started_execute : ∀ behaviour view store wire command packet,
    (execute behaviour view store wire command packet).result ≠ .ok true →
      started (execute behaviour view store wire command packet).command

/-- The rest of a call in progress. -/
inductive Task (κ : Type)
  | handlePacket (packet : Option Packet)
  | call (call : Call κ)
  /-- The listener of the handshake's `error` event. -/
  | handshakeError (err : JsError)
  /-- `handlePacket` behind `command.execute`. -/
  | finish (done : Bool)
  /-- The loop of `resume`. -/
  | resume
  | handleFatalError (err : JsError)
  /-- `_notifyError`, followed by `this._fatalError = err` if it is called by
  `_handleFatalError`. -/
  | notifyError (err : JsError) (fatal : Bool)
  /-- `this._command = null` in `_notifyError`. -/
  | dropCommand
  /-- The loop of `_notifyError` and what follows it. -/
  | drain (err : JsError) (bubbleErrorToConnection fatal : Bool)

/-- What an observer sees of a step. -/
inductive Output (κ ο : Type)
  | received (packet : Packet)
  /-- `handlePacket` got past the check of `_paused`. -/
  | processed (packet : Option Packet)
  | warn (expected received : Nat)
  /-- `execute` of this command was called. -/
  | executed (command : κ) (packet : Option Packet)
  /-- The current command was done. -/
  | removed
  /-- The connection's `error` event. -/
  | error (err : JsError)
  | command (output : ο)

/-- Settings of a connection: whether a pool owns it, whether its `error` event
has a listener, and how server errors are decoded. -/
structure Config where
  pool : Bool
  errorListener : Bool
  decoding : Decoding

/-- The fields of a connection.  `closedState` says that `addCommand` has been
replaced, `writeClosed` that `write` has; `crashed` is an exception that nothing
catches. -/
structure BaseConnection (σ κ : Type) where
  command : Option κ
  commands : List κ
  paused : Bool
  pausedPackets : List (Option Packet)
  wire : Wire
  fatalError : Option JsError
  protocolError : Option JsError
  closing : Bool
  closedState : Bool
  writeClosed : Bool
  store : σ
  todo : List (Task κ)
  crashed : Bool

namespace BaseConnection

variable {ω ι σ κ ο : Type}

/-- A connection in its first state, with nothing queued. -/
def new (store : σ) : BaseConnection σ κ :=
  { command := none
    commands := []
    paused := false
    pausedPackets := []
    wire := ⟨0, 0, []⟩
    fatalError := none
    protocolError := none
    closing := false
    closedState := false
    writeClosed := false
    store := store
    todo := []
    crashed := false }

/-- Put tasks on the stack. -/
def push (conn : BaseConnection σ κ) (tasks : List (Task κ)) : BaseConnection σ κ :=
  { conn with todo := tasks ++ conn.todo }

/-- What a command sees of the connection. -/
def view (config : Config) (conn : BaseConnection σ κ) : View :=
  { closing := conn.closing
    closedState := conn.closedState
    errorListener := config.errorListener }

/-- `close()`. -/
def close (conn : BaseConnection σ κ) : BaseConnection σ κ :=
  { conn with
    closing := true
    closedState := true }

/-- `emit('error', err)` on the connection, which throws without a listener. -/
def emitError (config : Config) (conn : BaseConnection σ κ) (err : JsError) :
    BaseConnection σ κ × List (Output κ ο) :=
  if config.errorListener then (conn, [.error err]) else ({ conn with crashed := true }, [])

/-- The error that `protocolError(message, code)` builds. -/
def protocolErrorOf (message : String) (code : Option ErrorCode) : JsError :=
  let code := if code = none ∨ code = some (.number 0) then some (.name "PROTOCOL_ERROR") else code
  { JsError.new message with
    code := code
    fatal := true }

/-- `handlePacket` without a current command: a protocol error, unless the
connection is closing, and `close()`. -/
def unexpectedPacket (config : Config) (conn : BaseConnection σ κ) (packet : Packet) :
    BaseConnection σ κ × List (Output κ ο) :=
  let raised : Except JsError JsError :=
    if packet.peekByte = some 0xff then
      (errorFromPacket config.decoding packet).map fun error =>
        protocolErrorOf error.1.message error.1.code
    else
      .ok (protocolErrorOf "Unexpected packet while no commands in the queue"
        (some (.name "PROTOCOL_UNEXPECTED_PACKET")))
  match raised with
  | .error _ => ({ conn with crashed := true }, [])
  | .ok err =>
      if conn.closing then
        (conn.close, [])
      else
        let emitted := conn.emitError config err
        (if emitted.1.crashed then emitted.1 else emitted.1.close, emitted.2)

/-- The part of `handlePacket` in front of `execute` that tracks sequence ids. -/
def receiveSequenceId (conn : BaseConnection σ κ) (packet : Option Packet) :
    BaseConnection σ κ × List (Output κ ο) :=
  match packet with
  | none => (conn, [])
  | some packet =>
      ({ conn with wire := conn.wire.bumpSequenceId packet.numPackets },
        if conn.wire.sequenceId ≠ packet.sequenceId then
          [.warn conn.wire.sequenceId packet.sequenceId]
        else
          [])

/-- `this._command.execute(packet, this)` inside the `try` of `handlePacket`:
behind the calls made from inside it follows the rest of the block, or the
handler of what it threw. -/
def executeCommand (family : CommandFamily ω ι σ κ ο) (config : Config) (behaviour : ω)
    (conn : BaseConnection σ κ) (command : κ) (packet : Option Packet) :
    BaseConnection σ κ × List (Output κ ο) :=
  let outcome :=
    family.execute behaviour (conn.view config) conn.store conn.wire command packet
  let last :=
    match outcome.result with
    | .error err => Task.handleFatalError err
    | .ok done => Task.finish done
  let conn :=
    { conn with
      store := outcome.store
      wire := outcome.wire
      command := some outcome.command }
  (conn.push (outcome.calls.map .call ++
      (outcome.handshakeError.toList.map .handshakeError ++ [last])),
    .executed command packet :: outcome.outputs.map .command)

/-- `handlePacket(packet)`. -/
def handlePacket (family : CommandFamily ω ι σ κ ο) (config : Config) (behaviour : ω)
    (conn : BaseConnection σ κ) (packet : Option Packet) : BaseConnection σ κ × List (Output κ ο) :=
  if conn.paused then
    -- the parser reuses its packet instance
    ({ conn with pausedPackets := conn.pausedPackets ++ [packet.map Packet.clone] }, [])
  else
    match conn.command with
    | none =>
        let ended :=
          match packet with
          | none => ({ conn with crashed := true }, [])
          | some packet => conn.unexpectedPacket config packet
        (ended.1, .processed packet :: ended.2)
    | some command =>
        let counted := conn.receiveSequenceId packet
        if conn.fatalError.isSome then
          -- skip remaining packets after client is in the error state
          (counted.1, .processed packet :: counted.2)
        else
          let executed := counted.1.executeCommand family config behaviour command packet
          (executed.1, .processed packet :: (counted.2 ++ executed.2))

/-- The rest of `handlePacket` behind `execute`. -/
def finish (conn : BaseConnection σ κ) (done : Bool) : BaseConnection σ κ × List (Output κ ο) :=
  if done then
    match conn.commands with
    | [] => ({ conn with command := none }, [.removed])
    | next :: commands =>
        ({ conn with
          command := some next
          commands := commands
          wire := conn.wire.resetSequenceId }.push [.handlePacket none], [.removed])
  else
    (conn, [])

/-- The error of `_addCommandClosedState`. -/
def closedStateError : JsError :=
  { JsError.new "Can't add new command when connection is in closed state" with fatal := true }

/-- Take over an effect. -/
def apply (conn : BaseConnection σ κ) (effect : Effect σ κ ο) :
    BaseConnection σ κ × List (Output κ ο) :=
  ({ conn with
    store := effect.store
    wire := effect.wire
    crashed := conn.crashed || effect.uncaught }.push (effect.calls.map .call),
    effect.outputs.map .command)

/-- Call the callback of a command with an error. -/
def callOnResult (family : CommandFamily ω ι σ κ ο) (behaviour : ω) (conn : BaseConnection σ κ)
    (command : κ) (err : JsError) : BaseConnection σ κ × List (Output κ ο) :=
  conn.apply (family.onResult behaviour conn.store conn.wire command err)

/-- `_addCommandClosedState(cmd)`.  What it throws goes to the caller. -/
def addCommandClosedState (family : CommandFamily ω ι σ κ ο) (config : Config) (behaviour : ω)
    (conn : BaseConnection σ κ) (command : κ) : BaseConnection σ κ × List (Output κ ο) :=
  if family.hasCallback command then
    let called := conn.callOnResult family behaviour command closedStateError
    ({ called.1 with crashed := conn.crashed }, called.2)
  else
    (conn, if config.errorListener then [.error closedStateError] else [])

/-- `addCommand(cmd)`. -/
def addCommand (family : CommandFamily ω ι σ κ ο) (config : Config) (behaviour : ω)
    (conn : BaseConnection σ κ) (command : κ) : BaseConnection σ κ × List (Output κ ο) :=
  if conn.closedState then
    conn.addCommandClosedState family config behaviour command
  else
    match conn.command with
    | none => ({ conn with command := some command }.push [.handlePacket none], [])
    | some _ => ({ conn with commands := conn.commands ++ [command] }, [])

/-- Perform a call. -/
def perform (family : CommandFamily ω ι σ κ ο) (config : Config) (behaviour : ω)
    (conn : BaseConnection σ κ) : Call κ → BaseConnection σ κ × List (Output κ ο)
  | .pause => ({ conn with paused := true }, [])
  | .resume => ({ conn with paused := false }.push [.resume], [])
  | .addCommand command => conn.addCommand family config behaviour command
  | .close => (conn.close, [])

/-- One iteration of the loop of `resume`.  A parked start is `undefined`, which
ends the loop like an empty queue, although it has been taken out of it. -/
def resume (conn : BaseConnection σ κ) : BaseConnection σ κ :=
  if conn.paused then
    -- don't resume if packet handler paused connection
    conn
  else
    match conn.pausedPackets with
    | [] => conn
    | none :: parked => { conn with pausedPackets := parked }
    | some packet :: parked =>
        { conn with pausedPackets := parked }.push [.handlePacket (some packet), .resume]

/-- `_handleFatalError(err)`. -/
def handleFatalError (conn : BaseConnection σ κ) (err : JsError) : BaseConnection σ κ :=
  { conn with
    closedState := true
    writeClosed := true }.push [.notifyError { err with fatal := true } true]

/-- `this._fatalError = err` behind `_notifyError`, if `_handleFatalError` has
called it. -/
def setFatalError (conn : BaseConnection σ κ) (err : JsError) (fatal : Bool) :
    BaseConnection σ κ :=
  if fatal then { conn with fatalError := some err } else conn

/-- `_notifyError(err)` up to its loop. -/
def notifyError (family : CommandFamily ω ι σ κ ο) (behaviour : ω) (conn : BaseConnection σ κ)
    (err : JsError) (fatal : Bool) : BaseConnection σ κ × List (Output κ ο) :=
  if conn.fatalError.isSome then
    (conn.setFatalError err fatal, [])
  else
    match conn.command with
    | none => (conn.push [.drain err true fatal], [])
    | some command =>
        if family.hasCallback command then
          (conn.push [.dropCommand, .drain err false fatal]).callOnResult family behaviour
            command err
        else if family.isHandshake command ∧ conn.commands ≠ [] then
          (conn.push [.drain err false fatal], [])
        else
          (conn.push [.drain err true fatal], [])

/-- One iteration of the loop of `_notifyError`, or what follows the loop. -/
def drain (family : CommandFamily ω ι σ κ ο) (config : Config) (behaviour : ω)
    (conn : BaseConnection σ κ) (err : JsError) (bubbleErrorToConnection fatal : Bool) :
    BaseConnection σ κ × List (Output κ ο) :=
  match conn.commands with
  | command :: commands =>
      let conn := { conn with commands := commands }
      if family.hasCallback command then
        (conn.push [.drain err bubbleErrorToConnection fatal]).callOnResult family behaviour
          command err
      else
        (conn.push [.drain err true fatal], [])
  | [] =>
      let emitted :=
        if bubbleErrorToConnection ∨ config.pool then conn.emitError config err else (conn, [])
      if emitted.1.crashed then
        emitted
      else
        ((if err.fatal then emitted.1.close else emitted.1).setFatalError err fatal, emitted.2)

/-- Perform the task on top of the stack, which has been taken off. -/
def performTask (family : CommandFamily ω ι σ κ ο) (config : Config) (behaviour : ω)
    (conn : BaseConnection σ κ) : Task κ → BaseConnection σ κ × List (Output κ ο)
  | .handlePacket packet => conn.handlePacket family config behaviour packet
  | .call call => conn.perform family config behaviour call
  | .handshakeError err => ({ conn with closing := true }.push [.notifyError err false], [])
  | .finish done => conn.finish done
  | .resume => (conn.resume, [])
  | .handleFatalError err => (conn.handleFatalError err, [])
  | .notifyError err fatal => conn.notifyError family behaviour err fatal
  | .dropCommand => ({ conn with command := none }, [])
  | .drain err bubble fatal => conn.drain family config behaviour err bubble fatal

/-- What happens to a connection from outside. -/
inductive Input (ι κ : Type)
  | packet (packet : Packet)
  | call (call : Call κ)
  | resume
  | interrupt (function : ι)
  | networkError (err : JsError)
  | streamClose

/-- The error of a stream that closes without another error. -/
def connectionLostError : JsError :=
  { JsError.new "Connection lost: The server closed the connection." with
    code := some (.name "PROTOCOL_CONNECTION_LOST")
    fatal := true }

/-- The listener of the stream's `close` event. -/
def streamClose (conn : BaseConnection σ κ) : BaseConnection σ κ :=
  if conn.closing then
    conn
  else
    let err := conn.protocolError.getD connectionLostError
    { conn with protocolError := some err }.push [.notifyError err false]

/-- `_handleNetworkError(err)`. -/
def handleNetworkError (conn : BaseConnection σ κ) (err : JsError) : BaseConnection σ κ :=
  if err.code = some (.name "ECONNRESET") ∧ conn.closing then
    conn
  else
    conn.push [.handleFatalError err]

/-- A function outside the commands.  In the closed state its writes become an
`error` event. -/
def runInterrupt (family : CommandFamily ω ι σ κ ο) (config : Config) (conn : BaseConnection σ κ)
    (function : ι) : BaseConnection σ κ × List (Output κ ο) :=
  let effect := family.interrupt function conn.store conn.wire
  if conn.writeClosed ∧ effect.wire.written ≠ conn.wire.written then
    let applied := conn.apply { effect with wire := conn.wire }
    let emitted := applied.1.emitError config (.new "Can't write in closed state")
    (emitted.1, applied.2 ++ emitted.2)
  else
    conn.apply effect

/-- Accept an input. -/
def accept (family : CommandFamily ω ι σ κ ο) (config : Config) (conn : BaseConnection σ κ) :
    Input ι κ → BaseConnection σ κ × List (Output κ ο)
  | .packet packet => (conn.push [.handlePacket (some packet)], [.received packet])
  | .call call => (conn.push [.call call], [])
  | .resume => ({ conn with paused := false }.push [.resume], [])
  | .interrupt function => conn.runInterrupt family config function
  | .networkError err => (conn.handleNetworkError err, [])
  | .streamClose => (conn.streamClose, [])

/-- Events of a run: an input, or the next task with the behaviour of the code
it calls out to. -/
inductive Event (ω ι κ : Type)
  | input (input : Input ι κ)
  | proceed (behaviour : ω)

/-- One step of a connection. -/
def step (family : CommandFamily ω ι σ κ ο) (config : Config) :
    Step (BaseConnection σ κ) (Event ω ι κ) (Output κ ο)
  | conn, .input input =>
      if conn.crashed = false ∧ conn.todo = [] then conn.accept family config input else (conn, [])
  | conn, .proceed behaviour =>
      if conn.crashed then
        (conn, [])
      else
        match conn.todo with
        | [] => (conn, [])
        | task :: todo => { conn with todo := todo }.performTask family config behaviour task

end BaseConnection

end Mysql2.Connection

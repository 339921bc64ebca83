import Mysql2.Commands.Command

/-!
# Commands without result sets

`CloseStatement`, `ResetConnection` and the start of `ChangeUser`, and the
commands whose handlers are not modelled.
-/

namespace Mysql2.Commands

open Mysql2.Connection
open Mysql2.Packets

namespace SimpleCommand

variable {V ρ γ : Type}

/-- A world of a simple command, and the next state or what was thrown. -/
abbrev Handled (V ρ γ : Type) :=
  World SimpleCommand V ρ γ × Except JsError (Option SimpleState)

/-- Close all cached statements. -/
def clearStatements (config : CommandConfig V γ) (view : View)
    (world : World SimpleCommand V ρ γ) : World SimpleCommand V ρ γ × Except JsError Unit :=
  let cleared := config.cache.clear world.store.statements
  { world with store := { world.store with statements := cleared.1 } }.closeEvicted view cleared.2

/-- Send a request. -/
def send (world : World SimpleCommand V ρ γ) (request : Request)
    (packet : Except JsError Packet) (next : Option SimpleState) : Handled V ρ γ :=
  match packet with
  | .error err => (world, .error err)
  | .ok packet => (world.writeRequest world.command.id request packet, .ok next)

/-- `CloseStatement.start`. -/
def closeStatementStart (config : CommandConfig V γ) (statementId : Nat)
    (world : World SimpleCommand V ρ γ) : Handled V ρ γ :=
  send world (.closeStatement statementId) (config.packets.closeStatement statementId) none

/-- `ResetConnection.start`. -/
def resetConnectionStart (config : CommandConfig V γ) (world : World SimpleCommand V ρ γ) :
    Handled V ρ γ :=
  send world .resetConnection config.packets.resetConnection (some .response)

/-- `resetConnectionResponse`. -/
def resetConnectionResponse (config : CommandConfig V γ) (view : View)
    (world : World SimpleCommand V ρ γ) : Handled V ρ γ :=
  match clearStatements config view world with
  | (world, .error err) => (world, .error err)
  | (world, .ok _) =>
      if world.command.onResult then
        (world.emit (.scheduled world.command.id .ok), .ok none)
      else
        (world, .ok none)

/-- `ChangeUser.start`: all statements become invalid after a change of user. -/
def changeUserStart (config : CommandConfig V γ) (view : View)
    (world : World SimpleCommand V ρ γ) : Handled V ρ γ :=
  match clearStatements config view world with
  | (world, .error err) => (world, .error err)
  | (world, .ok _) => send world .changeUser config.packets.changeUser (some .response)

/-- A handler that is not modelled: it can write, run any code, and end in any
way. -/
def unmodelled (behaviour : Behaviour V ρ) (world : World SimpleCommand V ρ γ) :
    Handled V ρ γ :=
  ({ world with
    wire := behaviour.written.foldl writePacket world.wire
    userCode := true },
    behaviour.result.map fun done => if done then none else some .response)

/-- The `end` event. -/
def emitEnd (world : World SimpleCommand V ρ γ) : World SimpleCommand V ρ γ :=
  world.emit (.event world.command.id .finished)

/-- Report an error to the callback, or as an event. -/
def reportError (world : World SimpleCommand V ρ γ) (err : JsError) :
    World SimpleCommand V ρ γ × Except JsError Unit :=
  let command := world.command
  if command.onResult then
    (world.emit (.callback command.id (.error err)), .ok ())
  else
    world.emitError command.id command.errorListener err ()

/-- Report an ERR packet. -/
def fail (world : World SimpleCommand V ρ γ) (err : JsError) :
    World SimpleCommand V ρ γ × Except JsError Unit :=
  match reportError world err with
  | (world, .error err) => (world, .error err)
  | (world, .ok _) => (emitEnd world, .ok ())

/-- Set `next` to what the handler returned, and emit `end` if it returned no
next state. -/
def advance : Handled V ρ γ → World SimpleCommand V ρ γ × Except JsError Bool
  | (world, .error err) => (world, .error err)
  | (world, .ok next) =>
      let world := { world with command := { world.command with next := next } }
      (if next.isSome then world else emitEnd world, .ok next.isSome)

/-- A class of commands with a start handler and a handler of the response, as
`Command.execute` sees it. -/
def handlers (start response : World SimpleCommand V ρ γ → Handled V ρ γ) :
    Handlers SimpleCommand V ρ γ where
  started command := command.next.isSome
  start command := { command with next := some .start }
  sql _ := none
  fail := fail
  next world packet :=
    match world.command.next.getD .start, packet with
    | .start, _ => advance (start world)
    | .response, none => (world, .error .typeError)
    | .response, some _ => advance (response world)

end SimpleCommand

end Mysql2.Commands

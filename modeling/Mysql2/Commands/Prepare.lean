import Mysql2.Commands.Command

/-!
# Preparing statements

The handlers of `Prepare`.  `connection.execute` queues a prepare command whose
callback sets up the execute command behind it.
-/

namespace Mysql2.Commands

open Mysql2.Connection
open Mysql2.Packets

namespace Prepare

variable {V ρ γ : Type}

/-- A world of a prepare command, and the next state or what was thrown. -/
abbrev Handled (V ρ γ : Type) :=
  World Prepare V ρ γ × Except JsError (Option PrepareState)

/-- `new Prepare(options, callback)`. -/
def new (id : Nat) (query key : String) (onResult : PrepareCallback) (errorListener : Bool) :
    Prepare :=
  { id, query, key, onResult, errorListener
    next := none
    statementId := 0
    fieldCount := 0
    parameterCount := 0
    fields := []
    parameterDefinitions := [] }

/-- Set the link of an execute command. -/
def setLink (world : World Prepare V ρ γ) (execute : Nat) (link : Link) : World Prepare V ρ γ :=
  { world with
    store := { world.store with links := Function.update world.store.links execute link } }

/-- Call the callback with an error.  Without a callback the error is an
event. -/
def callWithError (world : World Prepare V ρ γ) (err : JsError) :
    World Prepare V ρ γ × Except JsError Unit :=
  let command := world.command
  match command.onResult with
  | .none => world.emitError command.id command.errorListener err ()
  | .caller => (world.emit (.callback command.id (.error err)), .ok ())
  | .execute execute onResult errorListener =>
      -- skip execute command if prepare failed
      let world := setLink world execute .skip
      if onResult then
        ((world.emit (.callback execute (.error err))).emit (.event execute .finished), .ok ())
      else
        let emitted := world.emitError execute errorListener err ()
        match emitted.2 with
        | .error err => (emitted.1, .error err)
        | .ok _ => (emitted.1.emit (.event execute .finished), .ok ())

/-- Call the callback with a statement. -/
def callWithStatement (world : World Prepare V ρ γ) (info : PreparedStatementInfo) :
    World Prepare V ρ γ :=
  let command := world.command
  match command.onResult with
  | .none => world
  | .caller => world.emit (.callback command.id (.statement info))
  | .execute execute _ _ => setLink world execute (.statement info)

/-- `start`. -/
def start (config : CommandConfig V γ) (world : World Prepare V ρ γ) : Handled V ρ γ :=
  let command := world.command
  let cached := config.cache.get world.store.statements command.key
  let world := { world with store := { world.store with statements := cached.2 } }
  match cached.1 with
  | some info => (callWithStatement world info, .ok none)
  | none =>
      match config.packets.prepareStatement command.query with
      | .error err => (world, .error err)
      | .ok packet =>
          (world.writeRequest command.id .prepare packet, .ok (some .prepareHeader))

/-- `prepareDone(connection)`. -/
def prepareDone (config : CommandConfig V γ) (view : View) (world : World Prepare V ρ γ) :
    Handled V ρ γ :=
  let command := world.command
  let info : PreparedStatementInfo :=
    { query := command.query
      id := command.statementId
      columns := command.fields
      parameters := command.parameterDefinitions }
  let cached := config.cache.set world.store.statements command.key info
  let world := { world with store := { world.store with statements := cached.1 } }
  match world.closeEvicted view cached.2 with
  | (world, .error err) => (world, .error err)
  | (world, .ok _) => (callWithStatement world info, .ok none)

/-- Behind the parameters: the fields, if there are any. -/
def fieldsOrDone (config : CommandConfig V γ) (view : View) (world : World Prepare V ρ γ) :
    Handled V ρ γ :=
  if 0 < world.command.fieldCount then
    (world, .ok (some .readField))
  else
    prepareDone config view world

/-- `prepareHeader(packet)`. -/
def prepareHeader (config : CommandConfig V γ) (view : View) (world : World Prepare V ρ γ)
    (packet : Packet) : Handled V ρ γ :=
  match PreparedStatementHeader.read packet with
  | .error err => (world, .error err)
  | .ok (header, _) =>
      let world :=
        { world with
          command := { world.command with
            statementId := header.id
            fieldCount := header.fieldCount
            parameterCount := header.parameterCount } }
      if 0 < header.parameterCount then
        (world, .ok (some .readParameter))
      else
        fieldsOrDone config view world

/-- `readParameter(packet)`.  The server may report more parameters than it
sends definitions of. -/
def readParameter (config : CommandConfig V γ) (view : View) (world : World Prepare V ρ γ)
    (packet : Packet) : Handled V ρ γ :=
  if packet.isEOF then
    fieldsOrDone config view world
  else
    match ColumnDefinition.read config.read packet with
    | .error err => (world, .error err)
    | .ok (definition, _) =>
        let command :=
          { world.command with
            parameterDefinitions := world.command.parameterDefinitions ++ [definition] }
        ({ world with command := command },
          .ok (some (if command.parameterDefinitions.length = command.parameterCount then
            .parametersEOF else .readParameter)))

/-- `readField(packet)`. -/
def readField (config : CommandConfig V γ) (view : View) (world : World Prepare V ρ γ)
    (packet : Packet) : Handled V ρ γ :=
  if packet.isEOF then
    prepareDone config view world
  else
    match ColumnDefinition.read config.read packet with
    | .error err => (world, .error err)
    | .ok (definition, _) =>
        let command := { world.command with fields := world.command.fields ++ [definition] }
        ({ world with command := command },
          .ok (some (if command.fields.length = command.fieldCount then
            .fieldsEOF else .readField)))

/-- `parametersEOF(packet)`. -/
def parametersEOF (config : CommandConfig V γ) (view : View) (world : World Prepare V ρ γ)
    (packet : Packet) : Handled V ρ γ :=
  if packet.isEOF then
    fieldsOrDone config view world
  else
    world.protocolError view "Expected EOF packet after parameters"

/-- `fieldsEOF(packet)`. -/
def fieldsEOF (config : CommandConfig V γ) (view : View) (world : World Prepare V ρ γ)
    (packet : Packet) : Handled V ρ γ :=
  if packet.isEOF then
    prepareDone config view world
  else
    world.protocolError view "Expected EOF packet after fields"

/-- `this.next(packet, connection)`. -/
def handle (config : CommandConfig V γ) (view : View) (world : World Prepare V ρ γ)
    (packet : Option Packet) : Handled V ρ γ :=
  match world.command.next.getD .start, packet with
  | .start, _ => start config world
  | _, none => (world, .error .typeError)
  | .prepareHeader, some packet => prepareHeader config view world packet
  | .readParameter, some packet => readParameter config view world packet
  | .readField, some packet => readField config view world packet
  | .parametersEOF, some packet => parametersEOF config view world packet
  | .fieldsEOF, some packet => fieldsEOF config view world packet

/-- The `end` event, which nobody listens to on the command that
`connection.execute` creates. -/
def emitEnd (world : World Prepare V ρ γ) : World Prepare V ρ γ :=
  match world.command.onResult with
  | .execute _ _ _ => world
  | _ => world.emit (.event world.command.id .finished)

/-- Set `next` to what the handler returned, and emit `end` if it returned no
next state. -/
def advance : Handled V ρ γ → World Prepare V ρ γ × Except JsError Bool
  | (world, .error err) => (world, .error err)
  | (world, .ok next) =>
      let world := { world with command := { world.command with next := next } }
      (if next.isSome then world else emitEnd world, .ok next.isSome)

/-- Report an ERR packet. -/
def fail (world : World Prepare V ρ γ) (err : JsError) :
    World Prepare V ρ γ × Except JsError Unit :=
  match callWithError world err with
  | (world, .error err) => (world, .error err)
  | (world, .ok _) => (emitEnd world, .ok ())

/-- The class as `Command.execute` sees it. -/
def handlers (config : CommandConfig V γ) (view : View) : Handlers Prepare V ρ γ where
  started command := command.next.isSome
  start command := { command with next := some .start }
  sql command := some command.query
  fail := fail
  next world packet := advance (handle config view world packet)

end Prepare

end Mysql2.Commands

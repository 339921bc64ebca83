import Mysql2.Commands.Command

/-!
# Commands with result sets

The handlers of `Query` and `Execute`.  The two classes share most of them: the
prototype of `Execute` takes them over from that of `Query`, except for
`infileOk`, which `Execute` does not have.
-/

namespace Mysql2.Commands

open Mysql2.Connection
open Mysql2.Packets

namespace ResultSetCommand

variable {V ρ γ : Type}

/-- A world of a result set command, and the next state or what was thrown. -/
abbrev Handled (V ρ γ : Type) :=
  World (ResultSetCommand V ρ) V ρ γ × Except JsError (Option ResultSetState)

/-- Empty fields of the constructors of `Query` and `Execute`. -/
def new (id : Nat) (protocol : Protocol) (sql : Option String) (statement : StatementSource)
    (values : List V) (attributes : List (String × V)) (onResult errorListener : Bool)
    (timeout : Nat) (streamFactory : Bool) : ResultSetCommand V ρ :=
  { id, protocol, sql, statement, values, attributes, onResult, errorListener, timeout
    streamFactory
    next := none
    fieldCount := .number 0
    receivedFieldsCount := 0
    rowParser := none
    rows := []
    fields := []
    currentRows := none
    currentFields := none
    resultIndex := 0 }

/-- `_setTimeout()`. -/
def setTimeout (world : World (ResultSetCommand V ρ) V ρ γ) :
    World (ResultSetCommand V ρ) V ρ γ :=
  let command := world.command
  if command.timeout ≠ 0 then
    { world with
      store := { world.store with
        queryTimeout := Function.update world.store.queryTimeout command.id
          (some ⟨command.onResult, command.errorListener⟩) } }
  else
    world

/-- `Timers.clearTimeout(this.queryTimeout)`, and `this.queryTimeout = null`. -/
def clearTimeout (world : World (ResultSetCommand V ρ) V ρ γ) :
    World (ResultSetCommand V ρ) V ρ γ :=
  { world with
    store := { world.store with
      queryTimeout := Function.update world.store.queryTimeout world.command.id none } }

/-- Set `_localStreamError`. -/
def setLocalStreamError (world : World (ResultSetCommand V ρ) V ρ γ) (err : JsError) :
    World (ResultSetCommand V ρ) V ρ γ :=
  { world with
    store := { world.store with
      localStreamError := Function.update world.store.localStreamError world.command.id
        (some err) } }

/-- Report an error to the callback, or as an event. -/
def reportError {τ : Type} (world : World (ResultSetCommand V ρ) V ρ γ) (err : JsError)
    (returns : τ) : World (ResultSetCommand V ρ) V ρ γ × Except JsError τ :=
  let command := world.command
  if command.onResult then
    (world.emit (.callback command.id (.error err)), .ok returns)
  else
    world.emitError command.id command.errorListener err returns

/-- The statement an execute command is started with. -/
def statementInfo (command : ResultSetCommand V ρ) (store : Store γ) : Option PreparedStatementInfo :=
  match command.statement with
  | .given info => some info
  | .linked =>
      match store.links command.id with
      | .statement info => some info
      | .unset => none
      | .skip => none

/-- `Query.start`. -/
def queryStart (config : CommandConfig V γ) (world : World (ResultSetCommand V ρ) V ρ γ) :
    Handled V ρ γ :=
  let world := setTimeout world
  let command := world.command
  match config.packets.query (command.sql.getD "") command.attributes with
  | .error err => (world, .error err)
  | .ok packet =>
      (world.writeRequest command.id .query packet, .ok (some .resultsetHeader))

/-- `Execute.start`.  `connection.execute` replaces it by a function that
returns `null` when preparing the statement has failed. -/
def executeStart (config : CommandConfig V γ) (world : World (ResultSetCommand V ρ) V ρ γ) :
    Handled V ρ γ :=
  if world.command.statement = .linked ∧ world.store.links world.command.id = .skip then
    (world, .ok none)
  else
    let world := setTimeout world
    let command := world.command
    match command.statementInfo world.store with
    | none => (world, .error .typeError)
    | some info =>
        match config.packets.execute info command.values command.attributes with
        | .error err => reportError (clearTimeout world) err none
        | .ok packet =>
            (world.writeRequest command.id (.execute info.id) packet,
              .ok (some .resultsetHeader))

/-- The results that `done` passes to the callback. -/
def results (command : ResultSetCommand V ρ) : Results ρ :=
  if command.resultIndex = 0 then
    .single command.rows.head? (command.fields.head?.getD none)
  else
    .multiple command.rows command.fields

/-- `done()`. -/
def done (world : World (ResultSetCommand V ρ) V ρ γ) : Handled V ρ γ :=
  let command := world.command
  -- if all ready timeout, return null directly
  if command.timeout ≠ 0 ∧ world.store.queryTimeout command.id = none then
    (world, .ok none)
  else
    let world := clearTimeout world
    if command.onResult then
      (world.emit (.scheduled command.id (.results command.results)), .ok none)
    else
      (world, .ok none)

/-- `rs.serverStatus & SERVER_MORE_RESULTS_EXISTS`. -/
def moreResults : ResultSetHeader → Bool
  | .ok header => header.moreResults
  | .columns _ => false
  | .infile _ => false

/-- `doneInsert(rs)`. -/
def doneInsert (world : World (ResultSetCommand V ρ) V ρ γ) (rs : Option ResultSetHeader) :
    Handled V ρ γ :=
  match world.store.localStreamError world.command.id, rs with
  | some err, _ => reportError world err none
  | none, none => (world, .error .typeError)
  | none, some rs =>
      let command := world.command
      let world :=
        { world with
          command := { command with
            rows := command.rows ++ [ResultRows.header rs]
            fields := command.fields ++ [none] } }
      let world := world.emit (.event command.id (.fields none))
      let world := world.emit (.event command.id (.header rs))
      if moreResults rs then
        ({ world with
          command := { world.command with resultIndex := world.command.resultIndex + 1 } },
          .ok (some .resultsetHeader))
      else
        done world

/-- An empty packet, which ends the contents of a local file. -/
def createEmptyPacket : Packet :=
  .new 0 [0, 0, 0, 0] 0 4

/-- The error of a LOCAL INFILE request without a stream factory. -/
def noStreamFactoryError (path : String) : JsError :=
  .new s!"As a result of LOCAL INFILE command server wants to read {path} file, but as of v2.0 you must provide streamFactory option returning ReadStream."

/-- `this.infileOk`, which an execute command does not have. -/
def infileOkState : Protocol → Option ResultSetState
  | .query => some .infileOk
  | .execute => none

/-- `_streamLocalInfile(connection, path)`. -/
def streamLocalInfile (behaviour : Behaviour V ρ) (world : World (ResultSetCommand V ρ) V ρ γ)
    (path : String) : Handled V ρ γ :=
  let command := world.command
  if command.streamFactory then
    ({ world with userCode := true },
      (behaviour.openStream path).map fun _ => infileOkState command.protocol)
  else
    let world := setLocalStreamError world (noStreamFactoryError path)
    ({ world with wire := writePacket world.wire createEmptyPacket },
      .ok (infileOkState command.protocol))

/-- `resultsetHeader(packet)`. -/
def resultsetHeader (config : CommandConfig V γ) (behaviour : Behaviour V ρ)
    (world : World (ResultSetCommand V ρ) V ρ γ) (packet : Packet) : Handled V ρ γ :=
  match ResultSetHeader.read config.read packet with
  | .error err => (world, .error err)
  | .ok (.infile path, _) =>
      streamLocalInfile behaviour
        { world with command := { world.command with fieldCount := .null } } path
  | .ok (.ok header, _) =>
      doneInsert { world with command := { world.command with fieldCount := .number 0 } }
        (some (.ok header))
  | .ok (.columns fieldCount, _) =>
      let command := { world.command with fieldCount := fieldCount }
      if fieldCount = .number 0 then
        doneInsert { world with command := command } (some (.columns fieldCount))
      else
        ({ world with
          command := { command with
            receivedFieldsCount := 0
            currentRows := some command.rows.length
            currentFields := some command.fields.length
            rows := command.rows ++ [.rows []]
            fields := command.fields ++ [some []] } }, .ok (some .readField))

/-- `this._fields[this._resultIndex]`, with `none` for `undefined`. -/
def resultFields (command : ResultSetCommand V ρ) : Option (List ColumnDefinition) :=
  (command.fields[command.resultIndex]?).getD none

/-- `this._fields[this._resultIndex].push(field)`. -/
def pushField (command : ResultSetCommand V ρ) (fields : List ColumnDefinition)
    (field : ColumnDefinition) : ResultSetCommand V ρ :=
  { command with fields := command.fields.set command.resultIndex (some (fields ++ [field])) }

/-- The row parser is built from the fields of the current result. -/
def buildParser (behaviour : Behaviour V ρ) (world : World (ResultSetCommand V ρ) V ρ γ)
    (fields : List ColumnDefinition) (next : ResultSetState) : Handled V ρ γ :=
  match behaviour.buildParser world.command.protocol fields with
  | .error err => (world, .error err)
  | .ok _ =>
      ({ world with command := { world.command with rowParser := some fields } }, .ok (some next))

/-- `Query.readField`.  Columns that are already in `_fields` are not parsed
again. -/
def queryReadField (config : CommandConfig V γ) (behaviour : Behaviour V ρ)
    (world : World (ResultSetCommand V ρ) V ρ γ) (packet : Packet) : Handled V ρ γ :=
  let command :=
    { world.command with receivedFieldsCount := world.command.receivedFieldsCount + 1 }
  let world := { world with command := command }
  match command.resultFields with
  | none => (world, .error .typeError)
  | some fields =>
      let read : Except JsError (List ColumnDefinition) :=
        if .number fields.length ≠ command.fieldCount then
          (ColumnDefinition.read config.read packet).map fun field => fields ++ [field.1]
        else
          .ok fields
      match read with
      | .error err => (world, .error err)
      | .ok fields =>
          let command :=
            { command with fields := command.fields.set command.resultIndex (some fields) }
          let world := { world with command := command }
          -- last field received
          if .number command.receivedFieldsCount = command.fieldCount then
            buildParser behaviour (world.emit (.event command.id (.fields (some fields)))) fields
              .fieldsEOF
          else
            (world, .ok (some .readField))

/-- `Execute.readField`. -/
def executeReadField (config : CommandConfig V γ) (world : World (ResultSetCommand V ρ) V ρ γ)
    (packet : Packet) : Handled V ρ γ :=
  match ColumnDefinition.read config.read packet with
  | .error err => (world, .error err)
  | .ok (field, _) =>
      let command :=
        { world.command with receivedFieldsCount := world.command.receivedFieldsCount + 1 }
      let world := { world with command := command }
      match command.resultFields with
      | none => (world, .error .typeError)
      | some fields =>
          let command := command.pushField fields field
          let world := { world with command := command }
          if .number command.receivedFieldsCount = command.fieldCount then
            (world.emit (.event command.id (.fields (some (fields ++ [field])))),
              .ok (some .fieldsEOF))
          else
            (world, .ok (some .readField))

/-- `Query.fieldsEOF`. -/
def queryFieldsEOF (view : View) (world : World (ResultSetCommand V ρ) V ρ γ)
    (packet : Packet) : Handled V ρ γ :=
  if packet.isEOF then
    (world, .ok (some .row))
  else
    world.protocolError view "Expected EOF packet"

/-- `Execute.fieldsEOF`. -/
def executeFieldsEOF (behaviour : Behaviour V ρ) (view : View)
    (world : World (ResultSetCommand V ρ) V ρ γ) (packet : Packet) : Handled V ρ γ :=
  if packet.isEOF then
    match world.command.resultFields with
    | none => (world, .error .typeError)
    | some fields => buildParser behaviour world fields .row
  else
    world.protocolError view "Expected EOF packet"

/-- `this._rowParser.next(packet, this._currentFields, this.options)`. -/
def parseRow (behaviour : Behaviour V ρ) (command : ResultSetCommand V ρ) (packet : Packet) :
    Except JsError ρ :=
  match command.rowParser with
  | none => .error .typeError
  | some parserFields =>
      let currentFields := (command.currentFields.bind (command.fields[·]?)).getD none
      behaviour.parseRow command.protocol parserFields (currentFields.getD []) packet

/-- `this._currentRows.push(row)`. -/
def pushRow (command : ResultSetCommand V ρ) (index : Nat) (row : ρ) : ResultSetCommand V ρ :=
  { command with
    rows := command.rows.modify index fun
      | .rows rows => .rows (rows ++ [row])
      | .header header => .header header }

/-- `row(packet)`. -/
def row (behaviour : Behaviour V ρ) (world : World (ResultSetCommand V ρ) V ρ γ)
    (packet : Packet) : Handled V ρ γ :=
  let command := world.command
  if packet.isEOF then
    match packet.eofStatusFlags with
    | .error err => (world, .error err)
    | .ok status =>
        if hasFlag status SERVER_MORE_RESULTS_EXISTS then
          ({ world with command := { command with resultIndex := command.resultIndex + 1 } },
            .ok (some .resultsetHeader))
        else
          done world
  else
    let world := { world with userCode := true }
    match parseRow behaviour command packet with
    | .error err => doneInsert (setLocalStreamError world err) none
    | .ok row =>
        if command.onResult then
          match command.currentRows with
          | none => (world, .error .typeError)
          | some index =>
              ({ world with command := command.pushRow index row }, .ok (some .row))
        else
          (world.emit (.event command.id (.row row command.resultIndex)), .ok (some .row))

/-- `infileOk(packet)`. -/
def infileOk (config : CommandConfig V γ) (world : World (ResultSetCommand V ρ) V ρ γ)
    (packet : Packet) : Handled V ρ γ :=
  match ResultSetHeader.read config.read packet with
  | .error err => (world, .error err)
  | .ok (rs, _) => doneInsert world (some rs)

/-- `this.next(packet, connection)`.  Only the start handlers run without a
packet; the others would read a property of `undefined`. -/
def handle (config : CommandConfig V γ) (behaviour : Behaviour V ρ) (view : View)
    (world : World (ResultSetCommand V ρ) V ρ γ) (packet : Option Packet) : Handled V ρ γ :=
  match world.command.next.getD .start, packet, world.command.protocol with
  | .start, _, .query => queryStart config world
  | .start, _, .execute => executeStart config world
  | _, none, _ => (world, .error .typeError)
  | .resultsetHeader, some packet, _ => resultsetHeader config behaviour world packet
  | .readField, some packet, .query => queryReadField config behaviour world packet
  | .readField, some packet, .execute => executeReadField config world packet
  | .fieldsEOF, some packet, .query => queryFieldsEOF view world packet
  | .fieldsEOF, some packet, .execute => executeFieldsEOF behaviour view world packet
  | .row, some packet, _ => row behaviour world packet
  | .infileOk, some packet, _ => infileOk config world packet

/-- The `end` event. -/
def emitEnd (world : World (ResultSetCommand V ρ) V ρ γ) :
    World (ResultSetCommand V ρ) V ρ γ :=
  world.emit (.event world.command.id .finished)

/-- Set `next` to what the handler returned, and emit `end` if it returned no
next state. -/
def advance : Handled V ρ γ → World (ResultSetCommand V ρ) V ρ γ × Except JsError Bool
  | (world, .error err) => (world, .error err)
  | (world, .ok next) =>
      let world := { world with command := { world.command with next := next } }
      (if next.isSome then world else emitEnd world, .ok next.isSome)

/-- Report an ERR packet.  Its timer is the only one that is cleared. -/
def fail (world : World (ResultSetCommand V ρ) V ρ γ) (err : JsError) :
    World (ResultSetCommand V ρ) V ρ γ × Except JsError Unit :=
  match reportError (clearTimeout world) err () with
  | (world, .error err) => (world, .error err)
  | (world, .ok _) => (emitEnd world, .ok ())

/-- The class as `Command.execute` sees it. -/
def handlers (config : CommandConfig V γ) (behaviour : Behaviour V ρ) (view : View) :
    Handlers (ResultSetCommand V ρ) V ρ γ where
  started command := command.next.isSome
  start command := { command with next := some .start }
  sql command := command.sql
  fail := fail
  next world packet := advance (handle config behaviour view world packet)

end ResultSetCommand

end Mysql2.Commands

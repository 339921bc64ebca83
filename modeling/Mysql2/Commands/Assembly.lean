import Mysql2.Commands.Defaults
import Mysql2.Commands.Results

/-!
# Responses as their callers see them

A query or execute command that is started and then receives the packets of a
response, with timers of other commands and calls of the connection in between,
reports the results of the response and nothing else.
-/

namespace Mysql2.Commands

open Mysql2.Connection
open Mysql2.Packets
open Mysql2.Transition

variable {V ρ γ : Type}

/-- The results of a response, with what was parsed of them. -/
abbrev Received (ρ : Type) :=
  List (ResultRows ρ × Option (List ColumnDefinition))

/-- What the callback receives of a response: a single result, or lists of
results. -/
def Received.results (received : Received ρ) : Results ρ :=
  match received with
  | [(rows, fields)] => .single (some rows) fields
  | received => .multiple (received.map Prod.fst) (received.map Prod.snd)

/-- A command with a callback schedules it with the results. -/
def scheduledResults (id : Nat) (onResult : Bool) (received : Received ρ) :
    List (CommandOutput ρ) :=
  if onResult then [.scheduled id (.results received.results)] else []

namespace ResultSetCommand

/-! ## The last packet -/

variable {origin command after : ResultSetCommand V ρ} {done : Finished ρ}
  {columns : List ColumnDefinition} {rows : List ρ} {config : CommandConfig V γ}
  {behaviour : Behaviour V ρ} {packet : Packet}

/-- The timer of the command has not fired, and no local stream of it has
failed. -/
structure Healthy (command : ResultSetCommand V ρ) (store : Store γ) : Prop where
  stream : store.localStreamError command.id = none
  timer : command.timeout ≠ 0 → store.queryTimeout command.id ≠ none

/-- The command has returned, without a request. -/
structure Returned (command : ResultSetCommand V ρ) (store : Store γ)
    (handled : World (ResultSetCommand V ρ) V ρ γ × Except JsError Bool) : Prop where
  result : handled.2 = .ok false
  id : handled.1.command.id = command.id
  stream : handled.1.store.localStreamError = store.localStreamError
  links : handled.1.store.links = store.links
  added : handled.1.added = []
  silent : handled.1.outputs.filterMap CommandOutput.request? = []

/-- A command that waits for it ends on the packet, which is no ERR packet.  What it
reports depends on its timer. -/
structure Ends (config : CommandConfig V γ) (behaviour : Behaviour V ρ)
    (command : ResultSetCommand V ρ) (packet : Packet) (outputs : List (CommandOutput ρ)) :
    Prop where
  started : command.next.isSome = true
  notError : packet.isError = false
  returns : ∀ other view store wire, other.buildParser = behaviour.buildParser →
    other.parseRow = behaviour.parseRow → store.localStreamError command.id = none →
    Returned command store
      (advance (handle config other view (.new command store wire) (some packet)))
  heard : ∀ other view store wire, other.buildParser = behaviour.buildParser →
    other.parseRow = behaviour.parseRow → Healthy command store →
    (advance (handle config other view (.new command store wire) (some packet))).1.outputs =
      outputs

theorem Aligned.results_eq (aligned : Aligned done command)
    (rows : ResultRows ρ) (fields : Option (List ColumnDefinition)) :
    results { command with
        rows := command.rows ++ [rows]
        fields := command.fields ++ [fields] } = Received.results (done ++ [(rows, fields)]) := by
  have ⟨rowsEq, fieldsEq, indexEq⟩ := aligned
  simp only [results, rowsEq, fieldsEq, indexEq]
  cases done with
  | nil => rfl
  | cons first done => cases done <;> simp [Received.results]

theorem Amid.results_eq (amid : Amid done columns rows command) :
    command.results = Received.results (done ++ [(.rows rows, some columns)]) := by
  have aligned : Aligned done { command with
      rows := done.map Prod.fst
      fields := done.map Prod.snd } := ⟨rfl, rfl, amid.resultIndex⟩
  rw [← aligned.results_eq, results, results, amid.rows, amid.fields]

/-- `done()` ends the command. -/
theorem done_returned (world : World (ResultSetCommand V ρ) V ρ γ) (added : world.added = [])
    (silent : world.outputs.filterMap CommandOutput.request? = []) :
    Returned world.command world.store (advance (ResultSetCommand.done world)) := by
  have ended (output : CommandOutput ρ) (notRequest : output.request? = none) :
      (world.outputs ++ [output]).filterMap CommandOutput.request? = [] := by
    rw [List.filterMap_append, silent, List.nil_append]
    exact List.filterMap_eq_nil_iff.mpr fun other member => by
      rw [List.mem_singleton.mp member]
      exact notRequest
  rw [ResultSetCommand.done]
  dsimp only
  split
  · exact ⟨rfl, rfl, rfl, rfl, added, ended _ rfl⟩
  · split
    · refine ⟨rfl, rfl, rfl, rfl, added, ?_⟩
      change (world.outputs ++ [_] ++ [_]).filterMap CommandOutput.request? = []
      rw [List.filterMap_append, ended _ rfl]
      rfl
    · exact ⟨rfl, rfl, rfl, rfl, added, ended _ rfl⟩

/-- `done()` of a command whose timer has not fired. -/
theorem done_outputs (world : World (ResultSetCommand V ρ) V ρ γ)
    (healthy : Healthy world.command world.store) :
    (advance (ResultSetCommand.done world)).1.outputs = world.outputs ++
      ((if world.command.onResult then
        [.scheduled world.command.id (.results world.command.results)] else []) ++
      [.event world.command.id .finished]) := by
  have armed : ¬(world.command.timeout ≠ 0 ∧
      world.store.queryTimeout world.command.id = none) :=
    fun ⟨hasTimeout, unarmed⟩ => healthy.timer hasTimeout unarmed
  rw [ResultSetCommand.done]
  dsimp only
  rw [if_neg armed]
  cases callback : world.command.onResult with
  | false =>
      rw [if_neg Bool.false_ne_true, if_neg Bool.false_ne_true]
      rfl
  | true =>
      rw [if_pos rfl, if_pos rfl]
      exact List.append_assoc _ [_] [_]

/-- The events at the end of a command. -/
def ending (id : Nat) (onResult : Bool) (received : Received ρ) : List (CommandOutput ρ) :=
  scheduledResults id onResult received ++ [.event id .finished]

/-- An OK packet behind which no result follows. -/
theorem AtHeader.ends_ok (atHeader : AtHeader origin done command) {rest : Packet}
    {header : OkPacket} (isOk : packet.peekByte = some 0)
    (reads : ResultSetHeader.read config.read packet = .ok (.ok header, rest))
    (noMore : header.moreResults = false) :
    Ends config behaviour command packet
      (resultEvents origin.id origin.onResult done.length none (.header (.ok header)) ++
        ending origin.id origin.onResult (done ++ [(.header (.ok header), none)])) := by
  have notError := not_isError_of_ok isOk
  let inserted (store : Store γ) (wire : Wire) : World (ResultSetCommand V ρ) V ρ γ :=
    { command := { command with
        next := some .resultsetHeader
        fieldCount := .number 0
        rows := command.rows ++ [.header (.ok header)]
        fields := command.fields ++ [none] }
      store := store
      wire := wire
      outputs := [.event command.id (.fields none), .event command.id (.header (.ok header))]
      added := []
      userCode := true }
  have handled (other : Behaviour V ρ) (view : View) (store : Store γ) (wire : Wire)
      (stream : store.localStreamError command.id = none) :
      handle config other view (.new command store wire) (some packet) =
        ResultSetCommand.done (inserted store wire) := by
    simp only [handle, World.new, atHeader.next, Option.getD_some, resultsetHeader, reads,
      doneInsert, stream, moreResults, noMore, World.emit]
    rw [if_neg Bool.false_ne_true]
    rfl
  refine ⟨by rw [atHeader.next]; rfl, notError, ?_, ?_⟩
  · intro other view store wire sameBuild sameParse stream
    rw [handled other view store wire stream]
    have returned := done_returned (inserted store wire) rfl rfl
    exact ⟨returned.result, returned.id, returned.stream, returned.links, returned.added,
      returned.silent⟩
  · intro other view store wire sameBuild sameParse healthy
    have results := atHeader.aligned.results_eq (.header (.ok header)) none
    have heard := done_outputs (inserted store wire) ⟨healthy.stream, healthy.timer⟩
    rw [handled other view store wire healthy.stream, resultEvents, ending, scheduledResults,
      ← atHeader.settings.id, ← atHeader.settings.onResult, ← results]
    exact heard

/-- The EOF packet behind the rows of the last result. -/
theorem AtRow.ends (atRow : AtRow origin done columns rows command) {status : Nat}
    (isEOF : EOFPacket status packet)
    (noMore : hasFlag status SERVER_MORE_RESULTS_EXISTS = false) :
    Ends config behaviour command packet
      (ending origin.id origin.onResult (done ++ [(.rows rows, some columns)])) := by
  have handled (other : Behaviour V ρ) (view : View) (store : Store γ) (wire : Wire) :
      handle config other view (.new command store wire) (some packet) =
        ResultSetCommand.done (.new command store wire) := by
    simp only [handle, World.new, atRow.next, Option.getD_some, ResultSetCommand.row, isEOF.isEOF,
      if_true, isEOF.eofStatusFlags, noMore]
    rw [if_neg Bool.false_ne_true]
  refine ⟨by rw [atRow.next]; rfl, isEOF.not_isError, ?_, ?_⟩
  · intro other view store wire sameBuild sameParse stream
    rw [handled]
    exact done_returned (.new command store wire) rfl rfl
  · intro other view store wire sameBuild sameParse healthy
    have heard := done_outputs (.new command store wire) healthy
    rw [handled, ending, scheduledResults, ← atRow.settings.id, ← atRow.settings.onResult,
      ← atRow.amid.results_eq]
    exact heard

/-- What a command has kept of what it has received. -/
def kept (onResult : Bool) (received : Received ρ) : Finished ρ :=
  received.map fun result => (collected onResult result.1, result.2)

theorem kept_true (received : Received ρ) : kept true received = received := by
  have same : (fun result : ResultRows ρ × Option (List ColumnDefinition) =>
      (collected true result.1, result.2)) = fun result => result := by
    funext result
    rcases result with ⟨rows, fields⟩
    cases rows <;> rfl
  rw [kept, same, List.map_id']

/-- The rows that a command with a callback has kept are all it has received. -/
theorem ending_kept (id : Nat) (onResult : Bool) (received : Received ρ) :
    ending id onResult (kept onResult received) = ending id onResult received := by
  cases onResult with
  | false => rfl
  | true => rw [kept_true]

/-- The last result of a response. -/
theorem AtHeader.ends_result (atHeader : AtHeader origin done command) {packets : List Packet}
    {last : Packet} {result : ServerResult} {parsed : ResultRows ρ}
    (packetsOf : ResultPackets config.read origin.protocol false packets last result)
    (parses : Parses behaviour origin.protocol result parsed) :
    ∃ between early late, Reaches config behaviour command packets early between ∧
      early ++ late = resultEvents origin.id origin.onResult done.length result.fields parsed ∧
      Ends config behaviour between last (late ++ ending origin.id origin.onResult
        (done ++ [(collected origin.onResult parsed, result.fields)])) := by
  cases packetsOf with
  | ok isOk reads flag =>
      cases parses with
      | ok header =>
          exact ⟨command, [], _, .refl command, rfl, atHeader.ends_ok isOk reads flag⟩
  | rows nonempty notError reads columnsRead isEOF rowPackets isLast flag =>
      cases parses with
      | rows builds parsesRows =>
          obtain ⟨between, reaches, atRow⟩ := atHeader.reaches_rows nonempty notError reads
            columnsRead isEOF (fun row member =>
              (rowPackets row member).not_special (List.length_pos_iff.mpr nonempty))
            builds parsesRows
          exact ⟨between, _, [], reaches, List.append_nil _, atRow.ends isLast flag⟩

/-- The packets of a response lead to its end. -/
theorem AtHeader.ends_response (atHeader : AtHeader origin done command) {packets : List Packet}
    {last : Packet} {results : List ServerResult} {parsed : List (ResultRows ρ)}
    (response : Response config.read origin.protocol packets last results)
    (parses : List.Forall₂ (Parses behaviour origin.protocol) results parsed) :
    ∃ between early late, Reaches config behaviour command packets early between ∧
      early ++ late = responseEvents origin.id origin.onResult done.length
        (parsed.zip (results.map ServerResult.fields)) ∧
      Ends config behaviour between last (late ++ ending origin.id origin.onResult
        (done ++ kept origin.onResult (parsed.zip (results.map ServerResult.fields)))) := by
  induction response generalizing command done parsed with
  | last packetsOf =>
      cases parses with
      | cons parsesResult parses =>
          cases parses
          obtain ⟨between, early, late, reaches, outputs, ends⟩ :=
            atHeader.ends_result packetsOf parsesResult
          refine ⟨between, early, late, reaches, outputs.trans ?_, ends⟩
          rw [List.map_cons, List.map_nil, List.zip_cons_cons, List.zip_nil_left, responseEvents,
            responseEvents, List.append_nil]
  | @more packets rest middle last result results packetsOf response ih =>
      cases parses with
      | @cons _ rows _ parsed parsesResult parses =>
          obtain ⟨next, reachesNext, atNext⟩ := atHeader.reaches_result packetsOf parsesResult
          obtain ⟨between, early, late, reaches, outputs, ends⟩ := ih atNext parses
          have joined := reachesNext.trans reaches
          rw [List.append_assoc, List.singleton_append] at joined
          refine ⟨between, _, late, joined, ?_, ?_⟩
          · rw [List.append_assoc, outputs, List.map_cons, List.zip_cons_cons, responseEvents,
              List.length_append, List.length_singleton]
          · rw [List.append_assoc, List.singleton_append] at ends
            exact ends

/-! ## The start -/

/-- The start of the command serializes its request. -/
def Requests (config : CommandConfig V γ) (command : ResultSetCommand V ρ) (store : Store γ) :
    Request → Packet → Prop
  | .query, packet =>
      command.protocol = .query ∧
        config.packets.query (command.sql.getD "") command.attributes = .ok packet
  | .execute statementId, packet =>
      command.protocol = .execute ∧ ∃ info, command.statementInfo store = some info ∧
        info.id = statementId ∧
        config.packets.execute info command.values command.attributes = .ok packet
  | _, _ => False

/-- A command that has not been started. -/
structure Fresh (command : ResultSetCommand V ρ) : Prop where
  next : command.next = none
  rows : command.rows = []
  fields : command.fields = []
  resultIndex : command.resultIndex = 0

theorem setTimeout_eq (world : World (ResultSetCommand V ρ) V ρ γ) :
    setTimeout world = { world with store := (setTimeout world).store } := by
  unfold setTimeout
  dsimp only
  split <;> rfl

theorem setTimeout_links (world : World (ResultSetCommand V ρ) V ρ γ) :
    (setTimeout world).store.links = world.store.links := by
  unfold setTimeout
  dsimp only
  split <;> rfl

theorem setTimeout_localStreamError (world : World (ResultSetCommand V ρ) V ρ γ) :
    (setTimeout world).store.localStreamError = world.store.localStreamError := by
  unfold setTimeout
  dsimp only
  split <;> rfl

/-- A command that has set its timer is healthy. -/
theorem setTimeout_healthy (world : World (ResultSetCommand V ρ) V ρ γ)
    (stream : world.store.localStreamError world.command.id = none) :
    Healthy world.command (setTimeout world).store := by
  constructor
  · rw [setTimeout_localStreamError]
    exact stream
  · intro hasTimeout
    rw [setTimeout_queryTimeout, if_pos hasTimeout, Function.update_self]
    exact Option.some_ne_none _

theorem statementInfo_of_links (command : ResultSetCommand V ρ) {store store' : Store γ}
    (links : store'.links = store.links) :
    command.statementInfo store' = command.statementInfo store := by
  rw [statementInfo, statementInfo, links]

/-- The start handler sends the request. -/
theorem Requests.handle_eq (world : World (ResultSetCommand V ρ) V ρ γ) {request : Request}
    {requestPacket : Packet} (atStart : world.command.next = some .start)
    (requests : Requests config world.command world.store request requestPacket)
    (other : Behaviour V ρ) (view : View) :
    handle config other view world none =
      (World.writeRequest { world with store := (setTimeout world).store } world.command.id
        request requestPacket, .ok (some .resultsetHeader)) := by
  cases request with
  | query =>
      obtain ⟨protocol, serializes⟩ := requests
      simp only [handle, atStart, Option.getD_some, protocol, queryStart]
      rw [setTimeout_eq]
      simp only [serializes]
  | execute statementId =>
      obtain ⟨protocol, info, isInfo, rfl, serializes⟩ := requests
      have linked : ¬(world.command.statement = .linked ∧
          world.store.links world.command.id = .skip) := by
        rintro ⟨isLinked, isSkip⟩
        rw [statementInfo, isLinked, isSkip] at isInfo
        contradiction
      have isInfo' := (statementInfo_of_links world.command (setTimeout_links world)).trans isInfo
      simp only [handle, atStart, Option.getD_some, protocol, executeStart, if_neg linked]
      rw [setTimeout_eq]
      simp only [isInfo', serializes]
  | prepare => exact requests.elim
  | closeStatement statementId => exact requests.elim
  | resetConnection => exact requests.elim
  | changeUser => exact requests.elim

/-- A fresh command sends its request and waits for the response. -/
theorem Fresh.start {command : ResultSetCommand V ρ} (fresh : Fresh command) {store : Store γ}
    {request : Request} {requestPacket : Packet}
    (requests : Requests config command store request requestPacket)
    (stream : store.localStreamError command.id = none) (other : Behaviour V ρ) (view : View)
    (wire : Wire) :
    ∃ after store' wire', Running.step config ⟨.resultSet command, store, wire, .running⟩
        (.execute other view none) =
      (⟨.resultSet after, store', wire', .running⟩, [.request command.id request]) ∧
      AtHeader command [] after ∧ after.sql = command.sql ∧ Healthy after store' := by
  have unstarted : ¬command.next.isSome = true := by
    rw [fresh.next]
    exact Bool.false_ne_true
  let begun : World (ResultSetCommand V ρ) V ρ γ :=
    { World.new command store wire with
      command := { command with next := some .start }
      wire := wire.resetSequenceId }
  have beginEq : (handlers config other view).begin (.new command store wire) = begun := by
    rw [Handlers.begin]
    exact if_neg unstarted
  have handled := Requests.handle_eq begun rfl requests other view
  have atHeader : AtHeader command [] { command with next := some .resultsetHeader } :=
    ⟨⟨rfl, rfl, rfl, rfl, rfl, rfl⟩, rfl, fresh.rows, fresh.fields, fresh.resultIndex⟩
  have healthy := setTimeout_healthy begun stream
  refine ⟨_, (setTimeout begun).store, writePacket begun.wire requestPacket, ?_, atHeader,
    rfl, healthy.stream, healthy.timer⟩
  have executed : (handlers config other view).execute config.read (.new command store wire) none =
      ((advance (handle config other view begun none)).1,
        (advance (handle config other view begun none)).2.map fun continues => !continues) := by
    rw [(handlers config other view).execute_of_not_isError config.read _ rfl, beginEq]
    rfl
  rw [Running.step, if_pos rfl, Command.execute, executed, handled]
  rfl

end ResultSetCommand

/-! ## Runs -/

/-- The packet that an input hands to the command. -/
def CommandInput.packet? : CommandInput V ρ → Option Packet
  | .execute _ _ packet => packet
  | .interrupt _ => none

/-- The input hands a packet to a command whose rows are parsed as `behaviour`
says, or is something outside it that is not the end of its timer or an error of
its local stream. -/
def CommandInput.Undisturbed (behaviour : Behaviour V ρ) (id : Nat) : CommandInput V ρ → Prop
  | .execute other _ packet =>
      packet.isSome = true ∧ other.buildParser = behaviour.buildParser ∧
        other.parseRow = behaviour.parseRow
  | .interrupt (.timeout other _) => other ≠ id
  | .interrupt (.localStream other (.error _)) => other ≠ id
  | .interrupt _ => True

namespace ResultSetCommand

/-- A function outside the command that does not disturb it is not heard of. -/
theorem Healthy.interrupt {command : ResultSetCommand V ρ} {store : Store γ}
    (healthy : Healthy command store) {function : Interrupt V ρ}
    (undisturbed : CommandInput.Undisturbed behaviour command.id (.interrupt function))
    (cache : StatementCache γ) (wire : Wire) :
    Healthy command (runInterrupt cache function store wire).store ∧
      ofCommand command.id (runInterrupt cache function store wire).outputs = [] := by
  cases function with
  | timeout other calls =>
      have notOther : other ≠ command.id := undisturbed
      cases armed : store.queryTimeout other with
      | none =>
          rw [runInterrupt, handleTimeoutError, armed]
          exact ⟨healthy, rfl⟩
      | some timer =>
          have sameTimer : Function.update store.queryTimeout other none command.id =
              store.queryTimeout command.id := Function.update_of_ne notOther.symm _ _
          have stillArmed : Healthy command
              { store with queryTimeout := Function.update store.queryTimeout other none } := by
            refine ⟨healthy.stream, fun hasTimeout => ?_⟩
            exact fun unarmed => healthy.timer hasTimeout (sameTimer.symm.trans unarmed)
          have isOther : some other ≠ some command.id := fun same => notOther (Option.some.inj same)
          rw [runInterrupt, handleTimeoutError, armed]
          dsimp only
          split
          · exact ⟨stillArmed, ofCommand_of_ne isOther⟩
          · split
            · exact ⟨stillArmed, ofCommand_of_ne isOther⟩
            · exact ⟨stillArmed, rfl⟩
  | localStream other event =>
      cases event with
      | data bytes => exact ⟨healthy, rfl⟩
      | ended => exact ⟨healthy, rfl⟩
      | error err =>
          have notOther : other ≠ command.id := undisturbed
          refine ⟨⟨?_, healthy.timer⟩, rfl⟩
          exact (Function.update_of_ne notOther.symm _ _).trans healthy.stream
  | execute call => exact ⟨⟨healthy.stream, healthy.timer⟩, rfl⟩
  | unprepare key =>
      rw [runInterrupt, unprepare]
      dsimp only
      split <;> exact ⟨⟨healthy.stream, healthy.timer⟩, rfl⟩

theorem begin_of_started {command : ResultSetCommand V ρ} {store : Store γ} {wire : Wire}
    {other : Behaviour V ρ} {view : View} (started : command.next.isSome = true) :
    (handlers config other view).begin (.new command store wire) = .new command store wire := by
  rw [Handlers.begin]
  exact if_pos started

/-- `execute` of a command that waits for a packet that is no ERR packet. -/
theorem execute_of_started {command : ResultSetCommand V ρ} {store : Store γ} {wire : Wire}
    (other : Behaviour V ρ) (view : View) (started : command.next.isSome = true)
    (notError : packet.isError = false) :
    (handlers config other view).execute config.read (.new command store wire) (some packet) =
      ((advance (handle config other view (.new command store wire) (some packet))).1,
        (advance (handle config other view (.new command store wire) (some packet))).2.map
          fun continues => !continues) := by
  have noError : (some packet).filter Packet.isError = none := by
    rw [Option.filter_some, notError]
    rfl
  rw [(handlers config other view).execute_of_not_isError config.read _ noError,
    begin_of_started started]
  rfl

/-- One packet of a response. -/
theorem Moves.step {command after : ResultSetCommand V ρ} {outputs : List (CommandOutput ρ)}
    (moves : Moves config behaviour command packet outputs after) {store : Store γ} (wire : Wire)
    (healthy : Healthy command store) {other : Behaviour V ρ} (view : View)
    (sameBuild : other.buildParser = behaviour.buildParser)
    (sameParse : other.parseRow = behaviour.parseRow) :
    Running.step config ⟨.resultSet command, store, wire, .running⟩
        (.execute other view (some packet)) =
      (⟨.resultSet after, store, wire, .running⟩, outputs) := by
  obtain ⟨userCode, handled⟩ :=
    moves.handles other view store wire sameBuild sameParse healthy.stream
  rw [Running.step, if_pos rfl, Command.execute,
    execute_of_started other view moves.started moves.notError, handled]
  rfl

theorem Moves.healthy {command after : ResultSetCommand V ρ} {outputs : List (CommandOutput ρ)}
    (moves : Moves config behaviour command packet outputs after) {store : Store γ}
    (healthy : Healthy command store) : Healthy after store := by
  constructor
  · rw [moves.settings.id]
    exact healthy.stream
  · rw [moves.settings.id, moves.settings.timeout]
    exact healthy.timer

/-- The packets of a part of a response, with whatever else happens. -/
theorem Reaches.runs {command after : ResultSetCommand V ρ} {outputs : List (CommandOutput ρ)}
    {packets : List Packet} (reaches : Reaches config behaviour command packets outputs after)
    {inputs : List (CommandInput V ρ)}
    (undisturbed : ∀ input ∈ inputs, input.Undisturbed behaviour command.id)
    (delivered : inputs.filterMap CommandInput.packet? = packets) {store : Store γ}
    (healthy : Healthy command store) (wire : Wire) :
    ∃ store' wire', (Transition.run (Running.step config)
        ⟨.resultSet command, store, wire, .running⟩ inputs).1 =
          ⟨.resultSet after, store', wire', .running⟩ ∧
      ofCommand command.id (Transition.run (Running.step config)
        ⟨.resultSet command, store, wire, .running⟩ inputs).2 = ofCommand command.id outputs ∧
      Healthy after store' := by
  induction inputs generalizing command packets outputs store wire with
  | nil =>
      subst delivered
      cases reaches
      exact ⟨store, wire, rfl, rfl, healthy⟩
  | cons input inputs ih =>
      have ⟨first, others⟩ := List.forall_mem_cons.mp undisturbed
      cases input with
      | interrupt function =>
          have interrupted := healthy.interrupt first config.cache wire
          obtain ⟨store', wire', ends, heard, healthyAfter⟩ := ih reaches others delivered
            interrupted.1 (runInterrupt config.cache function store wire).wire
          refine ⟨store', wire', ends, ?_, healthyAfter⟩
          rw [run_cons, ofCommand_append]
          exact (congrArg₂ (· ++ ·) interrupted.2 heard).trans (List.nil_append _)
      | execute other view packet =>
          obtain ⟨isPacket, sameBuild, sameParse⟩ := first
          obtain ⟨packet, rfl⟩ := Option.isSome_iff_exists.mp isPacket
          cases reaches with
          | refl => cases delivered
          | @packet _ between _ packet' packets outputs more moves later =>
              obtain ⟨rfl, laterDelivered⟩ := List.cons.inj delivered
              have step := moves.step wire healthy view sameBuild sameParse
              have sameId := moves.settings.id
              rw [← sameId] at others
              obtain ⟨store', wire', ends, heard, healthyAfter⟩ := ih later others laterDelivered
                (moves.healthy healthy) wire
              rw [run_cons, step]
              refine ⟨store', wire', ends, ?_, healthyAfter⟩
              rw [ofCommand_append, ofCommand_append, ← sameId, heard]

/-- The last packet of a response. -/
theorem Ends.step {command : ResultSetCommand V ρ} {outputs : List (CommandOutput ρ)}
    (ends : Ends config behaviour command packet outputs) {store : Store γ} {wire : Wire}
    (healthy : Healthy command store) {other : Behaviour V ρ} (view : View)
    (sameBuild : other.buildParser = behaviour.buildParser)
    (sameParse : other.parseRow = behaviour.parseRow) :
    (Running.step config ⟨.resultSet command, store, wire, .running⟩
        (.execute other view (some packet))).1.status = .returned ∧
      (Running.step config ⟨.resultSet command, store, wire, .running⟩
        (.execute other view (some packet))).2 = outputs := by
  have ended := (ends.returns other view store wire sameBuild sameParse healthy.stream).result
  have heard := ends.heard other view store wire sameBuild sameParse healthy
  rw [Running.step, if_pos rfl, Command.execute,
    execute_of_started other view ends.started ends.notError]
  refine ⟨?_, heard⟩
  change Status.of (Except.map _ _) = _
  rw [ended]
  rfl

/-- The report of an ERR packet to the callback, or to the listeners of the command. -/
def errorReport (command : ResultSetCommand V ρ) (err : JsError) : CommandOutput ρ :=
  if command.onResult then .callback command.id (.error { err with sql := command.sql })
  else .event command.id (.error { err with sql := command.sql })

/-- An ERR packet ends a command that waits for any packet. -/
theorem step_error {command : ResultSetCommand V ρ} (started : command.next.isSome = true)
    (heard : command.onResult = true ∨ command.errorListener = true) {rest : Packet}
    {err : JsError} (isError : packet.isError = true)
    (asError : Packet.asError config.read.toDecoding config.read.clientEncoding packet =
      .ok (err, rest)) (other : Behaviour V ρ) (view : View) (store : Store γ) (wire : Wire) :
    (Running.step config ⟨.resultSet command, store, wire, .running⟩
        (.execute other view (some packet))).1.status = .returned ∧
      (Running.step config ⟨.resultSet command, store, wire, .running⟩
        (.execute other view (some packet))).2 =
          [errorReport command err, .event command.id .finished] := by
  let world : World (ResultSetCommand V ρ) V ρ γ := clearTimeout (.new command store wire)
  let reported : JsError := { err with sql := command.sql }
  rw [Running.step, if_pos rfl, Command.execute,
    (handlers config other view).execute_of_asError _ isError asError, begin_of_started started,
    errorReport]
  change Status.of (Except.map _ (fail (.new command store wire) reported).2) = _ ∧
    (fail (.new command store wire) reported).1.outputs = _
  cases callback : command.onResult with
  | true =>
      have called : reportError world reported () =
          (world.emit (.callback command.id (.error reported)), .ok ()) := if_pos callback
      rw [fail, called]
      exact ⟨rfl, rfl⟩
  | false =>
      have listens : command.errorListener = true := by
        rw [callback] at heard
        exact heard.resolve_left Bool.false_ne_true
      have emitted : reportError world reported () =
          (world.emit (.event command.id (.error reported)), .ok ()) := by
        have noCallback : ¬world.command.onResult = true := by
          change ¬command.onResult = true
          rw [callback]
          exact Bool.false_ne_true
        exact (if_neg noCallback).trans (if_pos listens)
      rw [fail, emitted]
      exact ⟨rfl, rfl⟩

end ResultSetCommand

theorem Running.run_of_ended {state : Running V ρ γ} (ended : state.status ≠ .running)
    (config : CommandConfig V γ) (inputs : List (CommandInput V ρ)) :
    Transition.run (Running.step config) state inputs = (state, []) := by
  refine run_of_stays ?_ inputs
  intro input
  cases input <;> exact if_neg ended

/-- The input with the last packet, and those in front of it. -/
theorem exists_last_packet {inputs : List (CommandInput V ρ)} {packets : List Packet}
    {last : Packet} (delivered : inputs.filterMap CommandInput.packet? = packets ++ [last]) :
    ∃ early other view late, inputs = early ++ .execute other view (some last) :: late ∧
      early.filterMap CommandInput.packet? = packets := by
  obtain ⟨first, second, rfl, firstPackets, secondPackets⟩ :=
    List.filterMap_eq_append_iff.mp delivered
  obtain ⟨between, input, late, rfl, none, isLast, _⟩ :=
    List.filterMap_eq_cons_iff.mp secondPackets
  cases input with
  | interrupt function => cases isLast
  | execute other view packet =>
      change packet = some last at isLast
      subst isLast
      refine ⟨first ++ between, other, view, late, ?_, ?_⟩
      · rw [List.append_assoc]
      · rw [List.filterMap_append, firstPackets, List.filterMap_eq_nil_iff.mpr none,
          List.append_nil]

theorem command_of_mem_resultEvents {id index : Nat} {onResult : Bool}
    {fields : Option (List ColumnDefinition)} {rows : ResultRows ρ} {output : CommandOutput ρ}
    (member : output ∈ resultEvents id onResult index fields rows) :
    output.command = some id := by
  cases rows with
  | header header =>
      simp only [resultEvents, List.mem_cons, List.not_mem_nil, or_false] at member
      rcases member with rfl | rfl <;> rfl
  | rows rows =>
      rcases List.mem_cons.mp member with rfl | isRow
      · rfl
      · cases onResult with
        | true => cases isRow
        | false =>
            obtain ⟨row, _, rfl⟩ := List.mem_map.mp isRow
            rfl

/-- The events of a response are about the command. -/
theorem command_of_mem_responseEvents {id index : Nat} {onResult : Bool} {received : Received ρ}
    {output : CommandOutput ρ} (member : output ∈ responseEvents id onResult index received) :
    output.command = some id := by
  induction received generalizing index with
  | nil => cases member
  | cons result received ih =>
      rcases List.mem_append.mp member with isFirst | isLater
      · exact command_of_mem_resultEvents isFirst
      · exact ih isLater

namespace ResultSetCommand

/-- Packets of a response, and one on which the command returns. -/
theorem Reaches.run_last {command between : ResultSetCommand V ρ} {packets : List Packet}
    {last : Packet} {early late : List (CommandOutput ρ)} {inputs : List (CommandInput V ρ)}
    (reaches : Reaches config behaviour command packets early between)
    (undisturbed : ∀ input ∈ inputs, input.Undisturbed behaviour command.id)
    (delivered : inputs.filterMap CommandInput.packet? = packets ++ [last])
    (returns : ∀ other view store wire, other.buildParser = behaviour.buildParser →
      other.parseRow = behaviour.parseRow → Healthy between store →
      (Running.step config ⟨.resultSet between, store, wire, .running⟩
          (.execute other view (some last))).1.status = .returned ∧
        (Running.step config ⟨.resultSet between, store, wire, .running⟩
          (.execute other view (some last))).2 = late)
    {store : Store γ} (healthy : Healthy command store) (wire : Wire)
    (more : List (CommandInput V ρ)) :
    (run (Running.step config) ⟨.resultSet command, store, wire, .running⟩
        (inputs ++ more)).1.status = .returned ∧
      ofCommand command.id (run (Running.step config)
        ⟨.resultSet command, store, wire, .running⟩ (inputs ++ more)).2 =
          ofCommand command.id (early ++ late) := by
  obtain ⟨first, other, view, rest, rfl, firstPackets⟩ := exists_last_packet delivered
  have ⟨firstUndisturbed, isLast⟩ := List.forall_mem_append.mp undisturbed
  obtain ⟨_, sameBuild, sameParse⟩ := isLast _ List.mem_cons_self
  obtain ⟨store', wire', ended, heard, healthyBetween⟩ :=
    reaches.runs firstUndisturbed firstPackets healthy wire
  obtain ⟨returned, lastOutputs⟩ :=
    returns other view store' wire' sameBuild sameParse healthyBetween
  have notRunning : (Running.step config ⟨.resultSet between, store', wire', .running⟩
      (.execute other view (some last))).1.status ≠ .running := by
    rw [returned]
    exact Status.noConfusion
  rw [List.append_assoc, List.cons_append, run_append, ended, run_cons,
    Running.run_of_ended notRunning]
  refine ⟨returned, ?_⟩
  rw [List.append_nil, ofCommand_append, heard, lastOutputs, ← ofCommand_append]

theorem ofCommand_request (id : Nat) (request : Request) :
    ofCommand id ([.request id request] : List (CommandOutput ρ)) = [.request id request] :=
  ofCommand_of_forall fun output member => by
    rw [List.mem_singleton.mp member]
    rfl

theorem ofCommand_ending (id : Nat) (onResult : Bool) (received : Received ρ) :
    ofCommand id (ending id onResult received) = ending id onResult received := by
  refine ofCommand_of_forall fun output member => ?_
  cases onResult with
  | false =>
      rw [List.mem_singleton.mp member]
      rfl
  | true =>
      change output ∈ [_, _] at member
      simp only [List.mem_cons, List.not_mem_nil, or_false] at member
      rcases member with rfl | rfl <;> rfl

section Response

variable {command : ResultSetCommand V ρ} {store : Store γ} {request : Request}
  {requestPacket : Packet} {packets : List Packet} {last : Packet} {results : List ServerResult}
  {parsed : List (ResultRows ρ)} {inputs : List (CommandInput V ρ)}

/-- A command that is started and receives packets which lead to its end reports its request and
what leads there, and keeps running until the last packet. -/
theorem run_reaching (fresh : Fresh command)
    (requests : Requests config command store request requestPacket)
    (stream : store.localStreamError command.id = none) {received : Received ρ}
    (leads : ∀ waiting, AtHeader command [] waiting → ∃ between early late,
      Reaches config behaviour waiting packets early between ∧
        early ++ late = responseEvents command.id command.onResult 0 received ∧
        Ends config behaviour between last (late ++ ending command.id command.onResult
          (kept command.onResult received)))
    (undisturbed : ∀ input ∈ inputs, input.Undisturbed behaviour command.id)
    (delivered : inputs.filterMap CommandInput.packet? = packets ++ [last])
    (other : Behaviour V ρ) (view : View) (wire : Wire) (more : List (CommandInput V ρ)) :
    let state : Running V ρ γ := ⟨.resultSet command, store, wire, .running⟩
    (run (Running.step config) state (.execute other view none :: (inputs ++ more))).1.status =
        .returned ∧
      ofCommand command.id
          (run (Running.step config) state (.execute other view none :: (inputs ++ more))).2 =
        .request command.id request ::
          (responseEvents command.id command.onResult 0 received ++
            ending command.id command.onResult received) ∧
      ∀ before, before <+: inputs → before.filterMap CommandInput.packet? ≠ packets ++ [last] →
        (run (Running.step config) state (.execute other view none :: before)).1.status =
          .running := by
  intro state
  obtain ⟨waiting, store', wire', started, atHeader, _, healthy⟩ :=
    fresh.start requests stream other view wire
  obtain ⟨between, early, late, reaches, outputs, ends⟩ := leads waiting atHeader
  have sameId := atHeader.settings.id
  have requested := ofCommand_request (ρ := ρ) command.id request
  rw [← sameId] at undisturbed
  have whole := reaches.run_last undisturbed delivered
    (fun _ view _ _ sameBuild sameParse healthy => ends.step healthy view sameBuild sameParse)
    healthy wire' more
  rw [sameId, ← List.append_assoc early, outputs, ofCommand_append,
    ofCommand_of_forall fun _ => command_of_mem_responseEvents, ending_kept,
    ofCommand_ending] at whole
  refine ⟨?_, ?_, ?_⟩
  · rw [run_cons, started]
    exact whole.1
  · rw [run_cons, started, ofCommand_append, requested, whole.2]
    rfl
  · intro before isBefore notWhole
    have isPrefix : before.filterMap CommandInput.packet? <+: packets ++ [last] := by
      rw [← delivered]
      exact isBefore.filterMap _
    obtain ⟨rest, packetsEq⟩ := (List.prefix_concat_iff.mp isPrefix).resolve_left notWhole
    rw [← packetsEq] at reaches
    obtain ⟨_, middle, reachesMiddle, _⟩ := reaches.of_append
    obtain ⟨_, _, ended, _, _⟩ := reachesMiddle.runs
      (fun input member => undisturbed input (isBefore.subset member)) rfl healthy wire'
    rw [run_cons, started, ended]

/-- A command that is started and receives the packets of a response reports its
request, the results of the response and its end, and keeps running until the last
packet. -/
theorem run_response (fresh : Fresh command)
    (requests : Requests config command store request requestPacket)
    (stream : store.localStreamError command.id = none)
    (response : Response config.read command.protocol packets last results)
    (parses : List.Forall₂ (Parses behaviour command.protocol) results parsed)
    (undisturbed : ∀ input ∈ inputs, input.Undisturbed behaviour command.id)
    (delivered : inputs.filterMap CommandInput.packet? = packets ++ [last])
    (other : Behaviour V ρ) (view : View) (wire : Wire) (more : List (CommandInput V ρ)) :
    let received := parsed.zip (results.map ServerResult.fields)
    let state : Running V ρ γ := ⟨.resultSet command, store, wire, .running⟩
    (run (Running.step config) state (.execute other view none :: (inputs ++ more))).1.status =
        .returned ∧
      ofCommand command.id
          (run (Running.step config) state (.execute other view none :: (inputs ++ more))).2 =
        .request command.id request ::
          (responseEvents command.id command.onResult 0 received ++
            ending command.id command.onResult received) ∧
      ∀ before, before <+: inputs → before.filterMap CommandInput.packet? ≠ packets ++ [last] →
        (run (Running.step config) state (.execute other view none :: before)).1.status =
          .running :=
  run_reaching fresh requests stream
    (fun _ atHeader => atHeader.ends_response response parses) undisturbed delivered other view
    wire more

/-- An ERR packet in place of a packet of a response is reported to the callback, or
to the listeners, behind the events of what came before it.  No results are. -/
theorem run_failing_response (fresh : Fresh command)
    (requests : Requests config command store request requestPacket)
    (stream : store.localStreamError command.id = none)
    (heard : command.onResult = true ∨ command.errorListener = true)
    (response : Response config.read command.protocol packets last results)
    (parses : List.Forall₂ (Parses behaviour command.protocol) results parsed)
    {sent : List Packet} (isPrefix : sent <+: packets) {errorPacket rest : Packet} {err : JsError}
    (isError : errorPacket.isError = true)
    (asError : Packet.asError config.read.toDecoding config.read.clientEncoding errorPacket =
      .ok (err, rest))
    (undisturbed : ∀ input ∈ inputs, input.Undisturbed behaviour command.id)
    (delivered : inputs.filterMap CommandInput.packet? = sent ++ [errorPacket])
    (other : Behaviour V ρ) (view : View) (wire : Wire) (more : List (CommandInput V ρ)) :
    let received := parsed.zip (results.map ServerResult.fields)
    let ran := run (Running.step config) ⟨.resultSet command, store, wire, .running⟩
      (.execute other view none :: (inputs ++ more))
    ran.1.status = .returned ∧ ∃ events,
      events <+: responseEvents command.id command.onResult 0 received ∧
      ofCommand command.id ran.2 = .request command.id request ::
        (events ++ [errorReport command err, .event command.id .finished]) := by
  intro received ran
  obtain ⟨waiting, store', wire', started, atHeader, sql, healthy⟩ :=
    fresh.start requests stream other view wire
  obtain ⟨_, early, late, reaches, outputs, _⟩ := atHeader.ends_response response parses
  have settings := atHeader.settings
  obtain ⟨unsent, rfl⟩ := isPrefix
  obtain ⟨events, between, reachesSent, isEarly⟩ := reaches.of_append
  have kept := settings.trans reachesSent.settings
  have betweenStarted := reachesSent.started (by rw [atHeader.next]; rfl)
  have sameReport : errorReport between err = errorReport command err := by
    rw [errorReport, errorReport, kept.onResult, kept.id, reachesSent.sql, sql]
  rw [← settings.id] at undisturbed
  rw [← kept.onResult, ← kept.errorListener] at heard
  have whole := reachesSent.run_last undisturbed delivered
    (fun other view store wire _ _ _ =>
      step_error betweenStarted heard isError asError other view store wire)
    healthy wire' more
  have areEvents : events <+: responseEvents command.id command.onResult 0 received := by
    refine isEarly.trans ?_
    rw [List.length_nil] at outputs
    exact ⟨late, outputs⟩
  have own : ofCommand command.id events = events :=
    ofCommand_of_forall fun output member =>
      command_of_mem_responseEvents (areEvents.subset member)
  have reported : ofCommand command.id [errorReport command err, .event command.id .finished] =
      [errorReport command err, .event command.id .finished] := by
    refine ofCommand_of_forall fun output member => ?_
    simp only [List.mem_cons, List.not_mem_nil, or_false] at member
    rcases member with rfl | rfl
    · rw [errorReport]
      split <;> rfl
    · rfl
  rw [settings.id, ofCommand_append, own, sameReport, kept.id, reported] at whole
  have requested := ofCommand_request (ρ := ρ) command.id request
  have ranEq : ran = run (Running.step config) ⟨.resultSet command, store, wire, .running⟩
    (.execute other view none :: (inputs ++ more)) := rfl
  rw [run_cons, started] at ranEq
  rw [ranEq]
  refine ⟨whole.1, events, areEvents, ?_⟩
  rw [ofCommand_append, requested, whole.2]
  rfl

end Response

/-- Rows of a single text column. -/
def textColumn : Behaviour JsValue (Option String) :=
  { buildParser := fun _ _ => .ok ()
    parseRow := fun _ _ _ packet =>
      (Packet.readLengthCodedString asciiDecoding (some "ascii") packet).map Prod.fst
    openStream := fun _ => .error .typeError
    calls := []
    written := []
    handshakeError := none
    result := .ok false }

/-- A query with two statements. -/
def selectAndDo : ResultSetCommand JsValue (Option String) :=
  .new 1 .query (some "SELECT 'a'; DO 1") .linked [] [] true false 0 false

/-- The column of the first result. -/
def columnA : ColumnDefinition :=
  { catalog := [100, 101, 102]
    schema := []
    table := []
    orgTable := []
    name := "a"
    orgName := []
    characterSet := 63
    encoding := some "binary"
    columnLength := 1
    columnType := some 3
    flags := 0
    decimals := some 0
    extendedTypeName := none
    extendedFormat := none }

/-- The header of the second result. -/
def doneHeader : OkPacket :=
  { affectedRows := .number 0
    insertId := .number 0
    serverStatus := some 2
    warningStatus := some 0
    info := ""
    stateChanges := none
    changedRows := 0 }

/-- The packets of the first result, up to its row. -/
def firstPackets : List Packet :=
  [Running.received [1],
    Running.received
      [3, 100, 101, 102, 0, 0, 0, 1, 97, 0, 12, 63, 0, 1, 0, 0, 0, 3, 0, 0, 0, 0, 0],
    Running.received [0xfe, 0, 0, 2, 0],
    Running.received [1, 97]]

/-- The timer of another command fires in front of the packets. -/
def delivered (packets : List Packet) : List (CommandInput JsValue (Option String)) :=
  .interrupt (.timeout 2 []) :: packets.map fun packet =>
    .execute textColumn Running.openView (some packet)

theorem selectAndDo_fresh : Fresh selectAndDo :=
  ⟨rfl, rfl, rfl, rfl⟩

theorem delivered_undisturbed (packets : List Packet) :
    ∀ input ∈ delivered packets, input.Undisturbed textColumn 1 := by
  intro input member
  rcases List.mem_cons.mp member with rfl | isPacket
  · exact (by decide : (2 : Nat) ≠ 1)
  · obtain ⟨packet, _, rfl⟩ := List.mem_map.mp isPacket
    exact ⟨rfl, rfl, rfl⟩

theorem received_carries (payload : Bytes) : Carries (Running.received payload) payload := by
  refine ⟨rfl, ?_, ?_⟩
  · change ((payload.drop 0).take (4 + payload.length - 4)) = payload
    rw [Nat.add_sub_cancel_left, List.drop_zero, List.take_length]
  · change 4 + payload.length = 0 + 4 + payload.length
    rw [Nat.zero_add]

theorem selectAndDo_response :
    Response (defaultConfig false).read .query
      (firstPackets ++ [Running.received [0xfe, 0, 0, 10, 0]])
      (Running.received [0, 0, 0, 2, 0, 0, 0])
      [.rows [columnA] [Running.received [1, 97]], .ok doneHeader] := by
  have column : List.Forall₂ (ColumnPacket (defaultConfig false).read)
      [Running.received
        [3, 100, 101, 102, 0, 0, 0, 1, 97, 0, 12, 63, 0, 1, 0, 0, 0, 3, 0, 0, 0, 0, 0]]
      [columnA] := .cons ⟨rfl, _, rfl⟩ .nil
  have row : ∀ packet ∈ [Running.received [1, 97]],
      RowPacket .query [columnA].length packet := by
    intro packet member
    rw [List.mem_singleton.mp member]
    exact ⟨[some [97]], rfl, received_carries _⟩
  exact .more
    (.rows (List.cons_ne_nil _ _) rfl rfl column ⟨0, 0, 2, 0, rfl, received_carries _⟩ row
      ⟨0, 0, 10, 0, rfl, received_carries _⟩ rfl)
    (.last (.ok rfl rfl rfl))

theorem selectAndDo_parses :
    List.Forall₂ (Parses textColumn .query)
      [.rows [columnA] [Running.received [1, 97]], .ok doneHeader]
      [.rows [some "a"], .header (.ok doneHeader)] :=
  .cons (.rows rfl (.cons rfl .nil)) (.cons (.ok doneHeader) .nil)

/-- The state in front of the first step. -/
def selectAndDoState : Running JsValue (Option String) Entries :=
  ⟨.resultSet selectAndDo, .empty [], ⟨0, 0, []⟩, .running⟩

/-- The query with two statements and the packets of its response. -/
def selectAndDoRun (packets : List Packet) : List (CommandInput JsValue (Option String)) :=
  .execute textColumn Running.openView none :: (delivered packets ++ [])

/-- The ERR packet of a statement that cannot be parsed. -/
def parseErrorPacket : Packet :=
  Running.received [0xff, 0x28, 4, 35, 52, 50, 48, 48, 48, 120]

theorem selectAndDo_requests :
    ∃ packet, Requests (defaultConfig false) selectAndDo (.empty []) .query packet :=
  ⟨_, rfl, rfl⟩

theorem run_response_selectAndDo :
    ofCommand 1 (run (Running.step (defaultConfig false)) selectAndDoState
        (selectAndDoRun (firstPackets ++ [Running.received [0xfe, 0, 0, 10, 0]] ++
          [Running.received [0, 0, 0, 2, 0, 0, 0]]))).2 =
      [.request 1 .query, .event 1 (.fields (some [columnA])), .event 1 (.fields none),
        .event 1 (.header (.ok doneHeader)),
        .scheduled 1 (.results (.multiple [.rows [some "a"], .header (.ok doneHeader)]
          [some [columnA], none])),
        .event 1 .finished] := by
  obtain ⟨_, requests⟩ := selectAndDo_requests
  exact (run_response selectAndDo_fresh requests rfl selectAndDo_response selectAndDo_parses
    (delivered_undisturbed _) rfl textColumn Running.openView ⟨0, 0, []⟩ []).2.1

theorem run_failing_response_selectAndDo :
    ∃ events, ofCommand 1 (run (Running.step (defaultConfig false)) selectAndDoState
        (selectAndDoRun (firstPackets ++ [parseErrorPacket]))).2 =
      .request 1 .query :: (events ++ [.callback 1 (.error
        { message := "x"
          code := some (.name "ER_PARSE_ERROR")
          errno := some 1064
          sqlState := some "42000"
          sql := some "SELECT 'a'; DO 1"
          fatal := false }), .event 1 .finished]) := by
  obtain ⟨_, requests⟩ := selectAndDo_requests
  have sent : (delivered (firstPackets ++ [parseErrorPacket])).filterMap CommandInput.packet? =
      firstPackets ++ [parseErrorPacket] := rfl
  obtain ⟨_, events, _, heard⟩ := run_failing_response selectAndDo_fresh requests rfl (.inl rfl)
    selectAndDo_response selectAndDo_parses (List.prefix_append _ _) rfl rfl
    (delivered_undisturbed _) sent textColumn Running.openView ⟨0, 0, []⟩ []
  exact ⟨events, heard⟩

end ResultSetCommand

end Mysql2.Commands

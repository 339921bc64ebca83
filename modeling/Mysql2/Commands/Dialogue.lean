import Mysql2.Commands.Awaiting

/-!
# The driver's commands and their server

A query, execute, prepare or reset command sends one request, or ends without one, and
then takes the response to it.  So a connection hands every packet to the command
whose request it answers.
-/

namespace Mysql2.Commands

open Mysql2.Connection
open Mysql2.Packets
open Mysql2.Transition

variable {V ρ γ : Type}

variable {config : CommandConfig V γ} {format : RowFormat} {behaviour : Behaviour V ρ}

/-! ## Starts of commands -/

section Class

variable {α : Type} {wrap : α → Command V ρ} {command : α}
  {handlers : Behaviour V ρ → View → Handlers α V ρ γ} {view : View} {store : Store γ} {wire : Wire}
  {after : World α V ρ γ} {line : List (Command V ρ)}

/-- The start of a command keeps to the dialogue. -/
def Opens (config : CommandConfig V γ) (format : RowFormat) (line : List (Command V ρ))
    (command : Command V ρ) (outcome : Outcome (Store γ) (Command V ρ) (CommandOutput ρ)) : Prop :=
  (dialogue config format).Keeps command outcome ∧
    Dialogue.Starts (Command.family config) (dialogue config format) line outcome

/-- The start handler of a command. -/
def Handlers.first (handlers : Handlers α V ρ γ) (command : α) (store : Store γ) (wire : Wire) :
    World α V ρ γ × Except JsError Bool :=
  handlers.next
    { World.new (handlers.start command) store wire with wire := wire.resetSequenceId } none

theorem IsClass.start_eq (isClass : IsClass config wrap handlers)
    (unstarted : (handlers behaviour view).started command = false) {continues : Bool}
    (first : (handlers behaviour view).first command store wire = (after, .ok continues)) :
    Command.execute config behaviour view store wire (wrap command) none =
      Command.outcome behaviour wrap (after, .ok !continues) := by
  have beginEq : (handlers behaviour view).begin (.new command store wire) =
      { World.new ((handlers behaviour view).start command) store wire with
        wire := wire.resetSequenceId } := by
    rw [Handlers.begin]
    refine if_neg ?_
    change ¬(handlers behaviour view).started command = true
    rw [unstarted]
    exact Bool.false_ne_true
  rw [Handlers.first] at first
  rw [isClass, (handlers behaviour view).execute_of_not_isError config.read _ rfl, beginEq, first]
  rfl

/-- The command asks the server. -/
theorem IsClass.opens_asks (isClass : IsClass config wrap handlers)
    (allowed : behaviour.Allowed config format)
    (unstarted : (handlers behaviour view).started command = false)
    (first : (handlers behaviour view).first command store wire = (after, .ok true))
    (added : after.added = []) {request : Request}
    (asked : after.outputs.filterMap CommandOutput.request? = [((wrap command).name, request)])
    (name : (wrap after.command).name = (wrap command).name)
    (awaits : ∀ packets, Responds config.read format request packets →
      (dialogue config format).Awaits (Command.family config) (wrap after.command) packets)
    (sound : Command.Coherent after.store (wrap after.command :: line)) :
    Opens config format line (wrap command)
      (Command.execute config behaviour view store wire (wrap command) none) := by
  rw [isClass.start_eq unstarted first]
  refine ⟨keeps_outcome allowed name ?_, .asks asked ?_ awaits rfl sound⟩
  · change ∀ command ∈ after.added, command.Welcome config
    rw [added]
    exact fun _ member => absurd member List.not_mem_nil
  · exact name.symm

/-- The command ends, and has at most told the server something. -/
theorem IsClass.opens_ends (isClass : IsClass config wrap handlers) (view : View)
    (allowed : behaviour.Allowed config format)
    (unstarted : (handlers behaviour view).started command = false)
    (first : (handlers behaviour view).first command store wire = (after, .ok false))
    (name : (wrap after.command).name = (wrap command).name)
    (added : ∀ command ∈ after.added, command.Welcome config)
    (told : ∀ request ∈ after.outputs.filterMap CommandOutput.request?,
      (dialogue config format : Dialogue (Behaviour V ρ) (Interrupt V ρ) (Store γ) (Command V ρ)
        (CommandOutput ρ) (Nat × Request)).Told request)
    (sound : Command.Coherent after.store line) :
    Opens config format line (wrap command)
      (Command.execute config behaviour view store wire (wrap command) none) := by
  rw [isClass.start_eq unstarted first]
  exact ⟨keeps_outcome allowed name added, .ends told rfl sound⟩

/-- The command ends without a request. -/
theorem IsClass.opens_leaves (isClass : IsClass config wrap handlers)
    (allowed : behaviour.Allowed config format)
    (unstarted : (handlers behaviour view).started command = false)
    (first : (handlers behaviour view).first command store wire = (after, .ok false))
    (name : (wrap after.command).name = (wrap command).name)
    (leaves : (wrap command).Leaves config store after)
    (sound : Command.Coherent store (wrap command :: line)) :
    Opens config format line (wrap command)
      (Command.execute config behaviour view store wire (wrap command) none) := by
  refine isClass.opens_ends view allowed unstarted first name leaves.added ?_ (leaves.sound sound)
  rw [leaves.silent]
  exact fun _ member => absurd member List.not_mem_nil

end Class

/-- A request to close a statement is not answered. -/
theorem told_closeStatement (config : CommandConfig V γ) (id statementId : Nat) :
    (dialogue config format : Dialogue (Behaviour V ρ) (Interrupt V ρ) (Store γ) (Command V ρ)
      (CommandOutput ρ) (Nat × Request)).Told (id, .closeStatement statementId) := by
  intro packets responds
  cases responds with
  | whole answers => exact answers
  | failing answers isPrefix notWhole isError =>
      obtain rfl : _ = [] := answers
      exact absurd (List.prefix_nil.mp isPrefix) notWhole

namespace SimpleCommand

variable {command : SimpleCommand} {line : List (Command V ρ)} {store : Store γ}

theorem opens_closeStatement (serializes : config.Serializes)
    (allowed : behaviour.Allowed config format) {statementId : Nat} (fresh : command.next = none)
    (sound : Command.Coherent store (.closeStatement command statementId :: line)) (view : View)
    (wire : Wire) :
    Opens config format line (.closeStatement command statementId)
      (Command.execute config behaviour view store wire (.closeStatement command statementId)
        none) := by
  obtain ⟨packet, isPacket⟩ := serializes.closeStatement statementId
  let begun : World SimpleCommand V ρ γ :=
    { World.new { command with next := some .start } store wire with
      wire := wire.resetSequenceId }
  let sent := begun.writeRequest command.id (.closeStatement statementId) packet
  have first : (handlers (closeStatementStart config statementId)
      (unmodelled behaviour)).first command store wire =
        (emitEnd { sent with command := { command with next := none } }, .ok false) := by
    change advance (send begun _ (config.packets.closeStatement statementId) none) = _
    rw [isPacket]
    rfl
  refine (isClass_closeStatement config statementId).opens_ends view allowed ?_ first rfl
    (fun _ member => absurd member List.not_mem_nil) (fun request member => ?_)
    ⟨sound.stream, sound.linked.ended (fun _ isSet => isSet) fun _ prepares => by cases prepares⟩
  · change command.next.isSome = false
    rw [fresh]
    rfl
  · rw [List.mem_singleton.mp member]
    exact told_closeStatement config command.id statementId

theorem opens_resetConnection (serializes : config.Serializes)
    (allowed : behaviour.Allowed config format) (fresh : command.next = none)
    (heard : (Command.resetConnection command : Command V ρ).heard = true)
    (sound : Command.Coherent store (.resetConnection command :: line)) (view : View)
    (wire : Wire) :
    Opens config format line (.resetConnection command)
      (Command.execute config behaviour view store wire (.resetConnection command) none) := by
  obtain ⟨packet, isPacket⟩ := serializes.resetConnection
  let begun : World SimpleCommand V ρ γ :=
    { World.new { command with next := some .start } store wire with
      wire := wire.resetSequenceId }
  let sent := begun.writeRequest command.id .resetConnection packet
  let waiting : SimpleCommand := { command with next := some .response }
  have first : (handlers (resetConnectionStart config) (resetConnectionResponse config view)).first
      command store wire = ({ sent with command := waiting }, .ok true) := by
    change advance (send begun _ config.packets.resetConnection (some .response)) = _
    rw [isPacket]
    rfl
  have steady : (Command.resetConnection waiting : Command V ρ).Steady := ⟨rfl, heard⟩
  refine (isClass_resetConnection config).opens_asks allowed ?_ first rfl rfl rfl
    (fun packets responds => steady.awaits_responds (fun packets answers => ?_) responds)
    ⟨sound.stream, sound.linked.continued rfl rfl⟩
  · change command.next.isSome = false
    rw [fresh]
    rfl
  · obtain ⟨packet, notError, rfl⟩ := answers
    exact awaits_resetConnection rfl notError

end SimpleCommand

namespace Prepare

variable {command : Prepare} {line : List (Command V ρ)} {store : Store γ}

theorem opens (allowed : behaviour.Allowed config format) (fresh : command.Fresh)
    (heard : (Command.prepare command : Command V ρ).heard = true) {packet : Packet}
    (serializes : config.packets.prepareStatement command.query = .ok packet)
    (sound : Command.Coherent store (.prepare command :: line)) (view : View) (wire : Wire) :
    Opens config format line (.prepare command)
      (Command.execute config behaviour view store wire (.prepare command) none) := by
  have unstarted : command.next.isSome = false := by
    rw [fresh.next]
    rfl
  let cached := config.cache.get store.statements command.key
  let begun : World Prepare V ρ γ :=
    { World.new { command with next := some .start } store wire with
      wire := wire.resetSequenceId }
  let looked : World Prepare V ρ γ := { begun with store := { store with statements := cached.2 } }
  cases isCached : cached.1 with
  | some info =>
      obtain ⟨after, advanceEq, name, leaves⟩ := advance_callWithStatement config looked info
        (fun _ member => absurd member List.not_mem_nil) rfl
      have first : (handlers config view).first command store wire = (after, .ok false) := by
        rw [← advanceEq]
        change advance (start config begun) = _
        rw [start]
        dsimp only
        rw [show (config.cache.get begun.store.statements begun.command.key).1 = some info from
          isCached]
        rfl
      exact (isClass config).opens_leaves allowed unstarted first name
        ⟨leaves.added, leaves.silent, leaves.stream, leaves.kept, leaves.sets⟩ sound
  | none =>
      let sent := looked.writeRequest command.id .prepare packet
      let waiting : Prepare := { command with next := some .prepareHeader }
      have first : (handlers config view).first command store wire =
          ({ sent with command := waiting }, .ok true) := by
        change advance (start config begun) = _
        rw [start]
        dsimp only
        rw [show (config.cache.get begun.store.statements begun.command.key).1 = none from
          isCached]
        dsimp only
        rw [show config.packets.prepareStatement begun.command.query = .ok packet from serializes]
        rfl
      have steady : (Command.prepare waiting : Command V ρ).Steady := ⟨rfl, heard⟩
      refine (isClass config).opens_asks allowed unstarted first rfl rfl rfl
        (fun packets responds => steady.awaits_responds (fun packets answers => ?_) responds)
        ⟨sound.stream, sound.linked.continued rfl rfl⟩
      exact awaits_response rfl fresh.fields fresh.parameterDefinitions answers

end Prepare

namespace ResultSetCommand

variable {command : ResultSetCommand V ρ} {line : List (Command V ρ)} {store : Store γ}

/-- The start of a command that can serialize its request. -/
theorem Requests.opens {request : Request} {requestPacket : Packet} {wire : Wire}
    (requests : Requests config command store request requestPacket)
    (allowed : behaviour.Allowed config format) (fresh : command.Fresh)
    (heard : (Command.resultSet command).heard = true)
    (sound : Command.Coherent store (.resultSet command :: line)) (view : View) :
    Opens config format line (.resultSet command)
      (Command.execute config behaviour view store wire (.resultSet command) none) := by
  let begun : World (ResultSetCommand V ρ) V ρ γ :=
    { World.new { command with next := some .start } store wire with
      wire := wire.resetSequenceId }
  let stored : World (ResultSetCommand V ρ) V ρ γ :=
    { begun with store := (setTimeout begun).store }
  let sent := stored.writeRequest command.id request requestPacket
  let waiting : ResultSetCommand V ρ := { command with next := some .resultsetHeader }
  have first : (handlers config behaviour view).first command store wire =
      ({ sent with command := waiting }, .ok true) := by
    change advance (handle config behaviour view begun none) = _
    rw [Requests.handle_eq begun rfl requests behaviour view]
    rfl
  have unstarted : command.next.isSome = false := by
    rw [fresh.next]
    rfl
  have steady : (Command.resultSet waiting).Steady := ⟨rfl, heard⟩
  have atHeader : AtHeader command [] waiting :=
    ⟨⟨rfl, rfl, rfl, rfl, rfl, rfl⟩, rfl, fresh.rows, fresh.fields, fresh.resultIndex⟩
  refine (isClass config).opens_asks allowed unstarted first rfl rfl rfl
    (fun packets responds => steady.awaits_responds (fun packets answers => ?_) responds)
    ⟨fun id => ?_, ?_⟩
  · cases request with
    | query =>
        obtain ⟨response, parsable⟩ := answers
        rw [← requests.1] at response parsable
        exact atHeader.awaits response parsable
    | execute statementId =>
        obtain ⟨response, parsable⟩ := answers
        rw [← requests.1] at response parsable
        exact atHeader.awaits response parsable
    | prepare => exact requests.elim
    | closeStatement statementId => exact requests.elim
    | resetConnection => exact requests.elim
    | changeUser => exact requests.elim
  · change (setTimeout begun).store.localStreamError id = none
    rw [setTimeout_localStreamError]
    exact sound.stream id
  · change Command.Linked (setTimeout begun).store.links [] (Command.resultSet waiting :: line)
    rw [setTimeout_links]
    exact sound.linked.continued (awaitsLink_of_started rfl) rfl

/-- The command ends at once. -/
theorem opens_of_leaves {wire : Wire} {view : View} {stored : World (ResultSetCommand V ρ) V ρ γ}
    (allowed : behaviour.Allowed config format) (fresh : command.Fresh)
    (startEq : handle config behaviour view
        { World.new { command with next := some .start } store wire with
          wire := wire.resetSequenceId } none = (stored, .ok none))
    (id : stored.command.id = command.id) (added : stored.added = [])
    (silent : stored.outputs.filterMap CommandOutput.request? = [])
    (stream : stored.store.localStreamError = store.localStreamError)
    (links : stored.store.links = store.links)
    (sound : Command.Coherent store (.resultSet command :: line)) :
    Opens config format line (.resultSet command)
      (Command.execute config behaviour view store wire (.resultSet command) none) := by
  have unstarted : command.next.isSome = false := by
    rw [fresh.next]
    rfl
  have first : (handlers config behaviour view).first command store wire =
      (emitEnd { stored with command := { stored.command with next := none } }, .ok false) :=
    congrArg advance startEq
  refine (isClass config).opens_leaves allowed unstarted first id ⟨?_, ?_, stream, ?_, ?_⟩ sound
  · change ∀ command ∈ stored.added, command.Welcome config
    rw [added]
    exact fun _ member => absurd member List.not_mem_nil
  · change (stored.outputs ++ [_]).filterMap CommandOutput.request? = []
    rw [List.filterMap_append, silent]
    rfl
  · change ∀ id, _ → stored.store.links id ≠ .unset
    rw [links]
    exact fun _ isSet => isSet
  · intro id prepares
    cases prepares

/-- The values of an execute command cannot be serialized. -/
theorem executeStart_throws (world : World (ResultSetCommand V ρ) V ρ γ)
    (notSkipped : ¬(world.command.statement = .linked ∧
      world.store.links world.command.id = .skip))
    {info : PreparedStatementInfo} (isInfo : world.command.statementInfo world.store = some info)
    {err : JsError}
    (throws : config.packets.execute info world.command.values world.command.attributes =
      .error err) :
    executeStart config world = reportError (clearTimeout (setTimeout world)) err none := by
  have isInfo' : world.command.statementInfo (setTimeout world).store = some info :=
    (statementInfo_of_links world.command (setTimeout_links world)).trans isInfo
  rw [executeStart, if_neg notSkipped]
  simp only [setTimeout_command, isInfo', throws]

/-- A command that waits for a link has one when it is started. -/
theorem link_of_sound (fresh : command.Fresh) (execute : command.protocol = .execute)
    (linked : command.statement = .linked)
    (sound : Command.Coherent store (.resultSet command :: line)) :
    store.links command.id ≠ .unset :=
  (sound.linked.1 command.id (if_pos ⟨execute, linked, fresh.next⟩)).resolve_right
    List.not_mem_nil

theorem opens (allowed : behaviour.Allowed config format) (fresh : command.Fresh)
    (heard : (Command.resultSet command).heard = true)
    (serializes : command.protocol = .query → ∃ packet,
      config.packets.query (command.sql.getD "") command.attributes = .ok packet)
    (sound : Command.Coherent store (.resultSet command :: line)) (view : View) (wire : Wire) :
    Opens config format line (.resultSet command)
      (Command.execute config behaviour view store wire (.resultSet command) none) := by
  cases isProtocol : command.protocol with
  | query =>
      obtain ⟨packet, isPacket⟩ := serializes isProtocol
      have requests : Requests config command store .query packet := ⟨isProtocol, isPacket⟩
      exact requests.opens allowed fresh heard sound view
  | execute =>
      let begun : World (ResultSetCommand V ρ) V ρ γ :=
        { World.new { command with next := some .start } store wire with
          wire := wire.resetSequenceId }
      have startEq : handle config behaviour view begun none = executeStart config begun := by
        simp only [handle, begun, World.new, Option.getD_some, isProtocol]
      by_cases skips : command.statement = .linked ∧ store.links command.id = .skip
      · exact opens_of_leaves allowed fresh (startEq.trans (if_pos skips)) rfl rfl rfl rfl rfl
          sound
      · have isStatement : ∃ info, command.statementInfo store = some info := by
          rw [statementInfo]
          cases source : command.statement with
          | given info => exact ⟨info, rfl⟩
          | linked =>
              have isSet := link_of_sound fresh isProtocol source sound
              cases link : store.links command.id with
              | unset => exact absurd link isSet
              | statement info => exact ⟨info, rfl⟩
              | skip => exact absurd ⟨source, link⟩ skips
        obtain ⟨info, isInfo⟩ := isStatement
        cases isPacket : config.packets.execute info command.values command.attributes with
        | ok packet =>
            have requests : Requests config command store (.execute info.id) packet :=
              ⟨isProtocol, info, isInfo, rfl, isPacket⟩
            exact requests.opens allowed fresh heard sound view
        | error err =>
            obtain ⟨output, notRequest, reportEq⟩ := reportError_heard
              (clearTimeout (setTimeout begun)) err (none : Option ResultSetState)
              ((congrArg (Command.heard ∘ Command.resultSet) (setTimeout_command begun)).trans
                heard)
            have fails := (executeStart_throws begun skips isInfo isPacket).trans reportEq
            refine opens_of_leaves allowed fresh (startEq.trans fails) ?_ ?_ ?_ ?_ ?_ sound
            · change (setTimeout begun).command.id = command.id
              rw [setTimeout_command]
              rfl
            · change (setTimeout begun).added = []
              rw [setTimeout_eq]
              rfl
            · change ((setTimeout begun).outputs ++ [output]).filterMap CommandOutput.request? = []
              rw [setTimeout_eq]
              change [output].filterMap CommandOutput.request? = []
              rw [List.filterMap_cons, notRequest]
              rfl
            · exact setTimeout_localStreamError begun
            · exact setTimeout_links begun

end ResultSetCommand

/-! ## The family -/

namespace Command

variable {command : Command V ρ} {line : List (Command V ρ)} {store : Store γ}

theorem opens (serializes : config.Serializes) (allowed : behaviour.Allowed config format)
    (known : command.Known config) (sound : Coherent store (command :: line)) (view : View)
    (wire : Wire) :
    Opens config format line command (execute config behaviour view store wire command none) := by
  cases command with
  | resultSet command =>
      obtain ⟨heard, fresh, isQuery⟩ := known
      exact ResultSetCommand.opens allowed fresh heard isQuery sound view wire
  | prepare command =>
      obtain ⟨heard, fresh, packet, isPacket⟩ := known
      exact Prepare.opens allowed fresh heard isPacket sound view wire
  | closeStatement command statementId =>
      exact SimpleCommand.opens_closeStatement serializes allowed known sound view wire
  | resetConnection command =>
      exact SimpleCommand.opens_resetConnection serializes allowed known.2 known.1 sound view wire
  | changeUser command => exact known.elim
  | other command isHandshake => exact known.elim

/-- A command that is refused has reported it. -/
theorem Known.onResult (known : command.Known config) (allowed : behaviour.Allowed config format)
    (sound : Coherent store line) (wire : Wire) (err : JsError) :
    Coherent (Command.onResult behaviour store wire command err).store line ∧
      (∀ call ∈ (Command.onResult behaviour store wire command err).calls,
        call.Adds (Welcome config)) ∧
      (Command.onResult behaviour store wire command err).outputs.filterMap
        CommandOutput.request? = [] := by
  cases command with
  | prepare command =>
      obtain ⟨after, reportEq, quietly, _⟩ :=
        Prepare.callWithError_quietly (.new command store wire) err known.1
      simp only [Command.onResult, reportEq]
      refine ⟨⟨fun id => ?_, ?_⟩, allowed.calls, quietly.silent rfl⟩
      · exact (congrFun quietly.stream id).trans (sound.stream id)
      · exact sound.linked.mono fun id isKept => isKept.imp_left (quietly.kept id)
  | _ => exact ⟨sound, allowed.calls, rfl⟩

/-- Commands that do not wait for a link can be added. -/
theorem Coherent.append (sound : Coherent store line) {commands : List (Command V ρ)}
    (welcome : ∀ command ∈ commands, command.Welcome config) :
    Coherent store (line ++ commands) := by
  refine ⟨sound.stream, ?_⟩
  induction commands generalizing line with
  | nil =>
      rw [List.append_nil]
      exact sound.linked
  | cons first commands ih =>
      have ⟨isWelcome, others⟩ := List.forall_mem_cons.mp welcome
      have added : Linked store.links [] (line ++ [first]) := by
        refine Linked.insert ?_ isWelcome.2
        rw [List.append_nil]
        exact sound.linked
      rw [List.append_cons]
      exact ih ⟨sound.stream, added⟩ others

theorem addedCommands_welcome {calls : List (Call (Command V ρ))}
    (add : ∀ call ∈ calls, call.Adds (Welcome config)) :
    ∀ command ∈ addedCommands calls, command.Welcome config := by
  intro command member
  obtain ⟨call, isCall, adds⟩ := List.mem_filterMap.mp member
  cases call with
  | addCommand other =>
      cases adds
      exact add _ isCall
  | _ => cases adds

theorem addedCommands_map (commands : List (Command V ρ)) :
    addedCommands (commands.map Call.addCommand) = commands := by
  rw [addedCommands, List.filterMap_map]
  exact List.filterMap_some

end Command

/-- The handler of a timer. -/
theorem handleTimeoutError_sound (id : Nat) {calls : List (Call (Command V ρ))}
    (add : ∀ call ∈ calls, call.Adds (Command.Welcome config)) {store : Store γ}
    {line : List (Command V ρ)} (sound : Command.Coherent store line) (wire : Wire) :
    let effect := handleTimeoutError id calls store wire
    Command.Coherent effect.store (line ++ addedCommands effect.calls) ∧
      (∀ call ∈ effect.calls, call.Adds (Command.Known config)) ∧
      effect.outputs.filterMap CommandOutput.request? = [] := by
  have unchanged (after : Store γ) (sound : Command.Coherent after line) :
      Command.Coherent after (line ++ addedCommands []) := by
    rwa [show addedCommands ([] : List (Call (Command V ρ))) = [] from rfl, List.append_nil]
  rw [handleTimeoutError]
  cases store.queryTimeout id with
  | none => exact ⟨unchanged store sound, fun _ member => absurd member List.not_mem_nil, rfl⟩
  | some timer =>
      have disarmed : Command.Coherent
          { store with queryTimeout := Function.update store.queryTimeout id none } line :=
        ⟨sound.stream, sound.linked⟩
      have known : ∀ call ∈ calls, call.Adds (Command.Known config) :=
        fun call member => (add call member).imp And.left
      have added := disarmed.append (Command.addedCommands_welcome add)
      dsimp only
      split
      · exact ⟨added, known, rfl⟩
      · split
        · exact ⟨added, known, rfl⟩
        · exact ⟨unchanged _ disarmed, fun _ member => absurd member List.not_mem_nil, rfl⟩

/-- `connection.execute` adds its two commands. -/
theorem executeCall_sound {call : ExecuteCall V} {store : Store γ} {line : List (Command V ρ)}
    (gentle : (Interrupt.execute call).Gentle config line) (sound : Command.Coherent store line)
    (wire : Wire) :
    let effect := executeCall call store wire
    Command.Coherent effect.store (line ++ addedCommands effect.calls) ∧
      (∀ call ∈ effect.calls, call.Adds (Command.Known config)) ∧
      effect.outputs.filterMap CommandOutput.request? = [] := by
  obtain ⟨heard, serializes, nobody⟩ := gentle
  refine ⟨⟨sound.stream, ?_⟩, ?_, rfl⟩
  · exact (sound.linked.update nobody).concat rfl rfl rfl
  · intro added member
    rcases List.mem_cons.mp member with rfl | isExecute
    · exact ⟨heard, ⟨rfl, rfl, rfl⟩, serializes⟩
    · rw [List.mem_singleton.mp isExecute]
      exact ⟨heard, ⟨rfl, rfl, rfl, rfl⟩, fun isQuery => by cases isQuery⟩

/-- `unprepare` closes a statement, perhaps twice. -/
theorem unprepare_sound (config : CommandConfig V γ) (key : String) {store : Store γ}
    {line : List (Command V ρ)} (sound : Command.Coherent store line) (wire : Wire) :
    let effect := unprepare config.cache key store wire
    Command.Coherent effect.store (line ++ addedCommands effect.calls) ∧
      (∀ call ∈ effect.calls, call.Adds (Command.Known config)) ∧
      effect.outputs.filterMap CommandOutput.request? = [] := by
  rw [unprepare]
  dsimp only
  split
  · refine ⟨⟨sound.stream, ?_⟩, fun _ member => absurd member List.not_mem_nil, rfl⟩
    change Command.Linked store.links [] (line ++ [])
    rw [List.append_nil]
    exact sound.linked
  · rename_i info isCached
    have stored (statements : γ) : Command.Coherent { store with statements := statements } line :=
      ⟨sound.stream, sound.linked⟩
    generalize (config.cache.delete (config.cache.get store.statements key).2 key).2 ++ [info] =
      evicted
    have welcome := closeStatements_welcome (ρ := ρ) config evicted
    refine ⟨?_, ?_, rfl⟩
    · rw [← Function.comp_def, ← List.map_map, Command.addedCommands_map]
      exact (stored _).append welcome
    · intro call member
      obtain ⟨closed, isClosed, rfl⟩ := List.mem_map.mp member
      exact (welcome _ (List.mem_map_of_mem isClosed)).1

/-- A function outside the commands keeps to the dialogue. -/
theorem Interrupt.Gentle.run {function : Interrupt V ρ} {line : List (Command V ρ)}
    (gentle : function.Gentle config line) {store : Store γ} (sound : Command.Coherent store line)
    (wire : Wire) :
    let effect := runInterrupt config.cache function store wire
    Command.Coherent effect.store (line ++ addedCommands effect.calls) ∧
      (∀ call ∈ effect.calls, call.Adds (Command.Known config)) ∧
      effect.outputs.filterMap CommandOutput.request? = [] := by
  cases function with
  | timeout id calls => exact handleTimeoutError_sound id gentle sound wire
  | localStream id event => exact gentle.elim
  | execute call => exact executeCall_sound gentle sound wire
  | unprepare key => exact unprepare_sound config key sound wire

/-- The driver's commands keep to the dialogue. -/
theorem conducts (serializes : config.Serializes) :
    (dialogue config format : Dialogue (Behaviour V ρ) (Interrupt V ρ) (Store γ) (Command V ρ)
      (CommandOutput ρ) (Nat × Request)).Conducts (Command.family config) where
  known welcome := welcome.1
  starts known allowed _ sound wire := Command.opens serializes allowed known sound _ wire
  onResult known allowed sound wire err := known.onResult allowed sound wire err
  interrupt gentle sound wire := gentle.run sound wire
  insert sound welcome := ⟨sound.stream, sound.linked.insert welcome.2⟩
  take sound := ⟨sound.stream, sound.linked.take⟩

/-! ## Runs -/

/-- An event of a connection with the driver's commands, or of its server. -/
abbrev DialogueEvent (V ρ : Type) :=
  ExchangeEvent (Behaviour V ρ) (Interrupt V ρ) (Command V ρ)

/-- A connection with the driver's commands and its server. -/
def converse (config : CommandConfig V γ) (format : RowFormat) (settings : Config) :
    Step (Exchange (Store γ) (Command V ρ) (Nat × Request)) (DialogueEvent V ρ)
      (Output (Command V ρ) (CommandOutput ρ)) :=
  Exchange.step (Command.family config) (dialogue config format) settings

/-- In every run in which the program adds queries, executes, prepares and resets, and
the server answers with whole responses or errors, every packet is handed to the
command whose request it answers. -/
theorem run_converse (serializes : config.Serializes) {settings : Config}
    (listens : settings.errorListener = true) {store : Store γ}
    (stream : ∀ id, store.localStreamError id = none) {events : List (DialogueEvent V ρ)}
    (permitted : Meets (converse config format settings)
      (Exchange.Permitted (dialogue config format)) (.new store) events) :
    Exchange.Paired (dialogue config format)
      (run (converse config format settings) (.new store) events).2
      (run (converse config format settings) (.new store) events).1 :=
  Exchange.run_paired (conducts serializes) listens ⟨stream, trivial⟩ permitted

/-- What a behaviour parses. -/
def Behaviour.parsable (behaviour : Behaviour V ρ) : RowFormat :=
  { builds := fun protocol columns => behaviour.buildParser protocol columns = .ok ()
    parses := fun protocol columns packet =>
      ∃ row, behaviour.parseRow protocol columns columns packet = .ok row }

/-- An event, and the steps until the connection is idle again. -/
def untilIdle (event : DialogueEvent JsValue (Option String)) :
    List (DialogueEvent JsValue (Option String)) :=
  event :: List.replicate 4 (.client (.proceed ResultSetCommand.textColumn))

/-- A reset of the connection is called while a query is running. -/
def selectThenReset : List (DialogueEvent JsValue (Option String)) :=
  untilIdle (.client (.input (.call (.addCommand (.resultSet ResultSetCommand.selectAndDo))))) ++
    untilIdle (.client (.input (.call (.addCommand (.resetConnection ⟨2, true, false, none⟩)))))

/-- The response to the query, and to the reset. -/
def selectResponse : List Packet :=
  ResultSetCommand.firstPackets ++ [Running.received [0xfe, 0, 0, 10, 0]] ++
    [Running.received [0, 0, 0, 2, 0, 0, 0]]

def resetResponse : Packet :=
  Running.received [0, 0, 0, 2, 0, 0, 0]

def selectThenResetRun : List (DialogueEvent JsValue (Option String)) :=
  selectThenReset ++ .answer selectResponse ::
    ((List.replicate 6 (untilIdle .deliver)).flatten ++ .answer [resetResponse] ::
      untilIdle .deliver)

/-- Outside the answers, nothing in the run depends on the state. -/
theorem untilIdle_permitted (config : CommandConfig JsValue γ)
    (first : DialogueEvent JsValue (Option String))
    (permitted : ∀ state, Exchange.Permitted
      (dialogue config ResultSetCommand.textColumn.parsable) state first) :
    ∀ event ∈ untilIdle first, ∀ state, Exchange.Permitted
      (dialogue config ResultSetCommand.textColumn.parsable) state event := by
  intro event member state
  rcases List.mem_cons.mp member with rfl | isProceed
  · exact permitted state
  · obtain ⟨_, rfl⟩ := List.mem_replicate.mp isProceed
    exact ⟨fun builds => builds, fun parses => parses, fun _ isCall => by cases isCall⟩

theorem selectThenReset_permitted :
    ∀ event ∈ selectThenReset, ∀ state, Exchange.Permitted
      (dialogue (defaultConfig false) ResultSetCommand.textColumn.parsable) state event := by
  intro event member
  have select : (Command.resultSet ResultSetCommand.selectAndDo).Welcome (defaultConfig false) :=
    ⟨⟨rfl, ResultSetCommand.selectAndDo_fresh, fun _ => ⟨_, rfl⟩⟩, rfl⟩
  have reset : (Command.resetConnection ⟨2, true, false, none⟩ :
      Command JsValue (Option String)).Welcome (defaultConfig false) := ⟨⟨rfl, rfl⟩, rfl⟩
  rcases List.mem_append.mp member with isSelect | isReset
  · refine untilIdle_permitted (defaultConfig false) _ ?_ event isSelect
    exact fun _ => select
  · refine untilIdle_permitted (defaultConfig false) _ ?_ event isReset
    exact fun _ => reset

theorem selectResponse_responds :
    Responds (defaultConfig false).read ResultSetCommand.textColumn.parsable .query
      selectResponse := by
  refine .whole (.results ResultSetCommand.selectAndDo_response ?_)
  intro result member
  rcases List.mem_cons.mp member with rfl | isLast
  · refine ⟨rfl, fun packet isRow => ?_⟩
    rw [List.mem_singleton.mp isRow]
    exact ⟨_, rfl⟩
  · rw [List.mem_singleton.mp isLast]
    trivial

theorem run_converse_selectThenReset :
    Exchange.Paired (dialogue (defaultConfig false) ResultSetCommand.textColumn.parsable)
      (run (converse (defaultConfig false) ResultSetCommand.textColumn.parsable listening)
        (.new (.empty [])) selectThenResetRun).2
      (run (converse (defaultConfig false) ResultSetCommand.textColumn.parsable listening)
        (.new (.empty [])) selectThenResetRun).1 := by
  have delivering : ∀ event ∈ untilIdle .deliver, ∀ state, Exchange.Permitted
      (dialogue (defaultConfig false) ResultSetCommand.textColumn.parsable) state event :=
    untilIdle_permitted (defaultConfig false) .deliver fun _ => trivial
  refine run_converse ⟨fun _ => ⟨_, rfl⟩, ⟨_, rfl⟩⟩ rfl (fun _ => rfl)
    (.append (.of_forall selectThenReset_permitted _)
      ⟨?_, .append (.of_forall ?_ _) ⟨?_, .of_forall delivering _⟩⟩)
  · intro request isFirst
    obtain rfl : (1, .query) = request :=
      Option.some.inj (Eq.trans (by decide +kernel) isFirst)
    exact selectResponse_responds
  · intro event member
    obtain ⟨_, isRound, isEvent⟩ := List.mem_flatten.mp member
    obtain ⟨_, rfl⟩ := List.mem_replicate.mp isRound
    exact delivering event isEvent
  · intro request isFirst
    obtain rfl : (2, .resetConnection) = request :=
      Option.some.inj (Eq.trans (by decide +kernel) isFirst)
    exact .whole ⟨resetResponse, rfl, rfl⟩

end Mysql2.Commands

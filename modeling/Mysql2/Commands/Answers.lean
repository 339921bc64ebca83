import Mysql2.Commands.Assembly
import Mysql2.Connection.Exchange

/-!
# What commands say to the server

The requests of the commands and the packets that answer them.  A query, execute,
prepare or reset command is answered with a whole response, or with a part of one and
an ERR packet; nothing answers a request to close a statement.
-/

namespace Mysql2.Commands

open Mysql2.Connection
open Mysql2.Packets
open Mysql2.Transition

variable {V ρ γ : Type}

/-! ## Whole responses -/

/-- An ERR packet. -/
def ErrorPacket (read : ReadConfig) (packet : Packet) : Prop :=
  packet.isError = true ∧ ∃ err rest,
    Packet.asError read.toDecoding read.clientEncoding packet = .ok (err, rest)

/-- A definition of a parameter or column of a statement. -/
def DefinitionPacket (read : ReadConfig) (packet : Packet) : Prop :=
  packet.isEOF = false ∧ ∃ column, ColumnPacket read packet column

/-- Definitions of `count` parameters or columns, of which the server can leave some
out, and an EOF packet if there are any. -/
inductive Definitions (read : ReadConfig) : Nat → List Packet → Prop
  | none : Definitions read 0 []
  | some {count status : Nat} {packets : List Packet} {eof : Packet} (positive : 0 < count)
      (definitions : ∀ packet ∈ packets, DefinitionPacket read packet)
      (atMost : packets.length ≤ count) (isEOF : EOFPacket status eof) :
      Definitions read count (packets ++ [eof])

/-- What the server sends to a prepare command. -/
inductive PrepareResponse (read : ReadConfig) : List Packet → Prop
  | prepared {header : Packet} {info : PreparedStatementHeader} {rest : Packet}
      {parameters fields : List Packet} (notError : header.isError = false)
      (reads : PreparedStatementHeader.read header = .ok (info, rest))
      (areParameters : Definitions read info.parameterCount parameters)
      (areFields : Definitions read info.fieldCount fields) :
      PrepareResponse read (header :: (parameters ++ fields))

/-- The result sets for which row parsers are built, and the rows that they parse. -/
structure RowFormat where
  builds : Protocol → List ColumnDefinition → Prop
  parses : Protocol → List ColumnDefinition → Packet → Prop

/-- The rows of the result can be parsed. -/
def ServerResult.Parsable (format : RowFormat) (protocol : Protocol) : ServerResult → Prop
  | .ok _ => True
  | .rows columns packets => format.builds protocol columns ∧
      ∀ packet ∈ packets, format.parses protocol columns packet

/-- The results of a query or an execute command. -/
inductive ResultsResponse (read : ReadConfig) (format : RowFormat) (protocol : Protocol) :
    List Packet → Prop
  | results {packets : List Packet} {last : Packet} {results : List ServerResult}
      (response : Response read protocol packets last results)
      (parsable : ∀ result ∈ results, result.Parsable format protocol) :
      ResultsResponse read format protocol (packets ++ [last])

/-- The packets that answer a request, as long as there is no error. -/
def Answers (read : ReadConfig) (format : RowFormat) : Request → List Packet → Prop
  | .query, packets => ResultsResponse read format .query packets
  | .execute _, packets => ResultsResponse read format .execute packets
  | .prepare, packets => PrepareResponse read packets
  | .closeStatement _, packets => packets = []
  | .resetConnection, packets => ∃ packet : Packet, packet.isError = false ∧ packets = [packet]
  | .changeUser, _ => False

/-- The packets that answer a request: a whole response, or a part of one and an ERR
packet. -/
inductive Responds (read : ReadConfig) (format : RowFormat) (request : Request) :
    List Packet → Prop
  | whole {packets : List Packet} (answers : Answers read format request packets) :
      Responds read format request packets
  | failing {packets sent : List Packet} {errorPacket : Packet}
      (answers : Answers read format request packets) (isPrefix : sent <+: packets)
      (notWhole : sent ≠ packets) (isError : ErrorPacket read errorPacket) :
      Responds read format request (sent ++ [errorPacket])

/-- A prepare command that has not been started. -/
structure Prepare.Fresh (command : Prepare) : Prop where
  next : command.next = none
  fields : command.fields = []
  parameterDefinitions : command.parameterDefinitions = []

namespace Command

/-! ## Commands of the dialogue -/

/-- The identity under which a command is heard. -/
def name : Command V ρ → Nat
  | .resultSet command => command.id
  | .prepare command => command.id
  | .closeStatement command _ => command.id
  | .resetConnection command => command.id
  | .changeUser command => command.id
  | .other command _ => command.id

/-- An error of the command is reported to a callback or to a listener. -/
def heard : Command V ρ → Bool
  | .resultSet command => command.onResult || command.errorListener
  | .prepare command =>
      match command.onResult with
      | .none => command.errorListener
      | .caller => true
      | .execute _ onResult errorListener => onResult || errorListener
  | .closeStatement command _ => command.onResult || command.errorListener
  | .resetConnection command => command.onResult || command.errorListener
  | .changeUser command => command.onResult || command.errorListener
  | .other _ _ => false

/-- The execute command of `connection.execute` that has not been started. -/
def awaitsLink : Command V ρ → Option Nat
  | .resultSet command =>
      if command.protocol = .execute ∧ command.statement = .linked ∧ command.next = none then
        some command.id
      else
        none
  | _ => none

/-- The execute command that a prepare command of `connection.execute` sets up. -/
def preparesFor : Command V ρ → Option Nat
  | .prepare command =>
      match command.onResult with
      | .execute execute _ _ => some execute
      | _ => none
  | _ => none

/-- A command that has not been started, whose request can be serialized and whose
errors are heard. -/
def Known (config : CommandConfig V γ) : Command V ρ → Prop
  | .resultSet command => (Command.resultSet command).heard = true ∧ command.Fresh ∧
      (command.protocol = .query → ∃ packet,
        config.packets.query (command.sql.getD "") command.attributes = .ok packet)
  | .prepare command => (Command.prepare command : Command V ρ).heard = true ∧
      command.Fresh ∧ ∃ packet, config.packets.prepareStatement command.query = .ok packet
  | .closeStatement command _ => command.next = none
  | .resetConnection command =>
      (Command.resetConnection command : Command V ρ).heard = true ∧ command.next = none
  | .changeUser _ => False
  | .other _ _ => False

/-- A command that the program can add at any time. -/
def Welcome (config : CommandConfig V γ) (command : Command V ρ) : Prop :=
  command.Known config ∧ command.awaitsLink = none

/-- Execute commands of `connection.execute` are linked to a statement, or stand behind
the command that prepares it.  `prepared` are those whose prepare command stands in
front of the line. -/
def Linked (links : Nat → Link) : List Nat → List (Command V ρ) → Prop
  | _, [] => True
  | prepared, command :: line =>
      (∀ id, command.awaitsLink = some id → links id ≠ .unset ∨ id ∈ prepared) ∧
        Linked links (command.preparesFor.toList ++ prepared) line

/-- What the commands in line need of what they share. -/
structure Coherent (store : Store γ) (line : List (Command V ρ)) : Prop where
  stream : ∀ id, store.localStreamError id = none
  linked : Linked store.links [] line

end Command

/-- Requests without values can always be serialized. -/
structure CommandConfig.Serializes (config : CommandConfig V γ) : Prop where
  closeStatement : ∀ statementId, ∃ packet, config.packets.closeStatement statementId = .ok packet
  resetConnection : ∃ packet, config.packets.resetConnection = .ok packet

/-- Row parsers are built and parse rows as the format says, and listeners and callbacks
call the connection with commands of the dialogue. -/
structure Behaviour.Allowed (config : CommandConfig V γ) (format : RowFormat)
    (behaviour : Behaviour V ρ) : Prop where
  builds : ∀ {protocol columns}, format.builds protocol columns →
    behaviour.buildParser protocol columns = .ok ()
  parses : ∀ {protocol columns packet}, format.parses protocol columns packet →
    ∃ row, behaviour.parseRow protocol columns columns packet = .ok row
  calls : ∀ call ∈ behaviour.calls, call.Adds (Command.Welcome config)

/-- Functions outside the commands: timers, `connection.execute` with a new identity, and
`unprepare`. -/
def Interrupt.Gentle (config : CommandConfig V γ) (line : List (Command V ρ)) :
    Interrupt V ρ → Prop
  | .timeout _ calls => ∀ call ∈ calls, call.Adds (Command.Welcome config)
  | .localStream _ _ => False
  | .execute call => (call.onResult || call.errorListener) = true ∧
      (∃ packet, config.packets.prepareStatement call.sql = .ok packet) ∧
      ∀ command ∈ line, command.awaitsLink ≠ some call.id
  | .unprepare _ => True

/-- How the driver's commands talk to the server. -/
def dialogue (config : CommandConfig V γ) (format : RowFormat) :
    Dialogue (Behaviour V ρ) (Interrupt V ρ) (Store γ) (Command V ρ) (CommandOutput ρ)
      (Nat × Request) where
  request := CommandOutput.request?
  sender := Prod.fst
  name := Command.name
  responds request := Responds config.read format request.2
  allowed := Behaviour.Allowed config format
  sound := Command.Coherent
  welcome := Command.Welcome config
  known := Command.Known config
  gentle := Interrupt.Gentle config

/-! ## Links -/

namespace Command

variable {links links' : Nat → Link} {prepared prepared' : List Nat} {line : List (Command V ρ)}

/-- A link that has been set, or will be by a command in front, is not forgotten. -/
theorem Linked.mono (linked : Linked links prepared line)
    (kept : ∀ id, links id ≠ .unset ∨ id ∈ prepared → links' id ≠ .unset ∨ id ∈ prepared') :
    Linked links' prepared' line := by
  induction line generalizing prepared prepared' with
  | nil => trivial
  | cons command line ih =>
      refine ⟨fun id waits => kept id (linked.1 id waits), ih linked.2 fun id isKept => ?_⟩
      rcases isKept with isSet | member
      · exact (kept id (.inl isSet)).imp_right fun member => List.mem_append_right _ member
      · rcases List.mem_append.mp member with isFirst | isEarlier
        · exact .inr (List.mem_append_left _ isFirst)
        · exact (kept id (.inr isEarlier)).imp_right fun member => List.mem_append_right _ member

theorem Linked.insert {front back : List (Command V ρ)} {command : Command V ρ}
    (linked : Linked links prepared (front ++ back)) (needsNone : command.awaitsLink = none) :
    Linked links prepared (front ++ command :: back) := by
  induction front generalizing prepared with
  | nil =>
      refine ⟨fun id waits => ?_, linked.mono fun id isKept => ?_⟩
      · rw [needsNone] at waits
        cases waits
      · exact isKept.imp_right fun member => List.mem_append_right _ member
  | cons first front ih => exact ⟨linked.1, ih linked.2⟩

theorem Linked.take {front back : List (Command V ρ)}
    (linked : Linked links prepared (front ++ back)) : Linked links prepared front := by
  induction front generalizing prepared with
  | nil => trivial
  | cons first front ih => exact ⟨linked.1, ih linked.2⟩

/-- The two commands of `connection.execute` are put at the end of the line. -/
theorem Linked.concat {prepare execute : Command V ρ} {id : Nat}
    (linked : Linked links prepared line) (prepares : prepare.preparesFor = some id)
    (needsNone : prepare.awaitsLink = none) (needs : execute.awaitsLink = some id) :
    Linked links prepared (line ++ [prepare, execute]) := by
  induction line generalizing prepared with
  | nil =>
      refine ⟨fun other waits => ?_, fun other waits => ?_, trivial⟩
      · rw [needsNone] at waits
        cases waits
      · rw [needs] at waits
        cases waits
        rw [prepares]
        exact .inr List.mem_cons_self
  | cons first line ih => exact ⟨linked.1, ih linked.2⟩

/-- A link that nobody waits for can change. -/
theorem Linked.update {id : Nat} {link : Link} (linked : Linked links prepared line)
    (nobody : ∀ command ∈ line, command.awaitsLink ≠ some id) :
    Linked (Function.update links id link) prepared line := by
  induction line generalizing prepared with
  | nil => trivial
  | cons first line ih =>
      have ⟨notFirst, others⟩ := List.forall_mem_cons.mp nobody
      refine ⟨fun other waits => ?_, ih linked.2 others⟩
      have isOther : other ≠ id := by
        rintro rfl
        exact notFirst waits
      rw [Function.update_of_ne isOther]
      exact linked.1 other waits

/-- The first command of a line that is not in it any more. -/
theorem Linked.ended {command : Command V ρ} (linked : Linked links prepared (command :: line))
    (kept : ∀ id, links id ≠ .unset → links' id ≠ .unset)
    (sets : ∀ id, command.preparesFor = some id → links' id ≠ .unset) :
    Linked links' prepared line := by
  refine linked.2.mono fun id isKept => ?_
  rcases isKept with isSet | member
  · exact .inl (kept id isSet)
  · rcases List.mem_append.mp member with isFirst | isEarlier
    · exact .inl (sets id (Option.mem_toList.mp isFirst))
    · exact .inr isEarlier

/-- The first command of a line has been started, or has gone on. -/
theorem Linked.continued {command after : Command V ρ}
    (linked : Linked links prepared (command :: line)) (needsNone : after.awaitsLink = none)
    (same : after.preparesFor = command.preparesFor) :
    Linked links prepared (after :: line) := by
  refine ⟨fun id waits => ?_, ?_⟩
  · rw [needsNone] at waits
    cases waits
  · rw [same]
    exact linked.2

end Command

/-! ## Handlers that keep to the dialogue -/

variable {config : CommandConfig V γ} {format : RowFormat} {behaviour : Behaviour V ρ}

theorem closeStatement_welcome (config : CommandConfig V γ) (info : PreparedStatementInfo) :
    Command.Welcome config (info.closeStatement : Command V ρ) :=
  ⟨rfl, rfl⟩

/-- What a handler leaves behind keeps to the dialogue. -/
theorem keeps_outcome {α : Type} (allowed : behaviour.Allowed config format)
    {wrap : α → Command V ρ} {handled : World α V ρ γ × Except JsError Bool} {command : Command V ρ}
    (name : (wrap handled.1.command).name = command.name)
    (added : ∀ command ∈ handled.1.added, command.Welcome config) :
    (dialogue config format).Keeps command (Command.outcome behaviour wrap handled) := by
  refine ⟨name, ?_, rfl⟩
  intro call member
  rcases List.mem_append.mp member with isAdded | isCalled
  · obtain ⟨other, isOther, rfl⟩ := List.mem_map.mp isAdded
    exact added other isOther
  · split at isCalled
    · exact allowed.calls call isCalled
    · cases isCalled

/-- A command has ended without a request, and has linked what it prepares for. -/
structure Command.Leaves {α : Type} (command : Command V ρ) (config : CommandConfig V γ)
    (store : Store γ) (after : World α V ρ γ) : Prop where
  added : ∀ command ∈ after.added, command.Welcome config
  silent : after.outputs.filterMap CommandOutput.request? = []
  stream : after.store.localStreamError = store.localStreamError
  kept : ∀ id, store.links id ≠ .unset → after.store.links id ≠ .unset
  sets : ∀ id, command.preparesFor = some id → after.store.links id ≠ .unset

theorem Command.Leaves.sound {α : Type} {command : Command V ρ} {store : Store γ}
    {after : World α V ρ γ} {line : List (Command V ρ)} (leaves : command.Leaves config store after)
    (sound : Command.Coherent store (command :: line)) : Command.Coherent after.store line := by
  refine ⟨fun id => ?_, sound.linked.ended leaves.kept leaves.sets⟩
  exact (congrFun leaves.stream id).trans (sound.stream id)

/-- In the closed state the commands that close statements fail, with an event. -/
theorem closeEvicted_listens {α : Type} (world : World α V ρ γ) {view : View}
    (listens : view.errorListener = true) (evicted : List PreparedStatementInfo) :
    world.closeEvicted view evicted =
      ({ world with
        added := world.added ++ evicted.map PreparedStatementInfo.closeStatement }, .ok ()) := by
  rw [World.closeEvicted, if_neg]
  rw [listens]
  rintro ⟨-, deaf, -⟩
  cases deaf

theorem closeStatements_welcome (config : CommandConfig V γ)
    (evicted : List PreparedStatementInfo) :
    ∀ command ∈ (evicted.map PreparedStatementInfo.closeStatement : List (Command V ρ)),
      command.Welcome config := by
  intro command member
  obtain ⟨info, _, rfl⟩ := List.mem_map.mp member
  exact closeStatement_welcome config info

/-! ## One class of commands -/

section Class

variable {α : Type} {wrap : α → Command V ρ} {command : α} {packet : Packet} {rest : List Packet}

/-- The commands `wrap command` are a class with these handlers. -/
def IsClass (config : CommandConfig V γ) (wrap : α → Command V ρ)
    (handlers : Behaviour V ρ → View → Handlers α V ρ γ) : Prop :=
  ∀ behaviour view store wire command packet,
    Command.execute config behaviour view store wire (wrap command) packet =
      Command.outcome behaviour wrap
        ((handlers behaviour view).execute config.read (.new command store wire) packet)

variable {handlers : Behaviour V ρ → View → Handlers α V ρ γ}

theorem begin_started {behaviour : Behaviour V ρ} {view : View} {store : Store γ} {wire : Wire}
    (started : (handlers behaviour view).started command = true) :
    (handlers behaviour view).begin (.new command store wire) = .new command store wire := by
  rw [Handlers.begin]
  exact if_pos started

/-- `execute` of a command that waits for a packet that is no ERR packet. -/
theorem IsClass.execute_eq (isClass : IsClass config wrap handlers) {behaviour : Behaviour V ρ}
    {view : View} {store : Store γ} {wire : Wire}
    (started : (handlers behaviour view).started command = true)
    (notError : packet.isError = false) {after : World α V ρ γ} {continues : Bool}
    (nextEq : (handlers behaviour view).next (.new command store wire) (some packet) =
      (after, .ok continues)) :
    Command.execute config behaviour view store wire (wrap command) (some packet) =
      Command.outcome behaviour wrap (after, .ok !continues) := by
  have noError : (some packet).filter Packet.isError = none := by
    rw [Option.filter_some, notError]
    rfl
  rw [isClass, (handlers behaviour view).execute_of_not_isError config.read _ noError,
    begin_started started, nextEq]
  rfl

/-- A packet behind which the command waits for others. -/
theorem IsClass.awaits_cons (isClass : IsClass config wrap handlers)
    (started : ∀ behaviour view, (handlers behaviour view).started command = true)
    (notError : packet.isError = false) (nonempty : rest ≠ [])
    (leads : ∀ behaviour view store wire line, behaviour.Allowed config format →
      view.errorListener = true → Command.Coherent store (wrap command :: line) → ∃ after,
        (handlers behaviour view).next (.new command store wire) (some packet) =
            (after, .ok true) ∧
          (wrap after.command).name = (wrap command).name ∧
          (∀ command ∈ after.added, command.Welcome config) ∧
          after.outputs.filterMap CommandOutput.request? = [] ∧
          Command.Coherent after.store (wrap after.command :: line) ∧
          (dialogue config format).Awaits (Command.family config) (wrap after.command) rest) :
    (dialogue config format).Awaits (Command.family config) (wrap command) (packet :: rest) := by
  cases rest with
  | nil => contradiction
  | cons next rest =>
      intro behaviour view store wire line allowed listens sound
      obtain ⟨after, nextEq, name, added, silent, soundAfter, later⟩ :=
        leads behaviour view store wire line allowed listens sound
      refine ⟨_, isClass.execute_eq (started behaviour view) notError nextEq, ?_, ?_, ?_, ?_, ?_⟩
      · exact keeps_outcome allowed name added
      · exact silent
      · rfl
      · exact soundAfter
      · exact later

/-- The last packet of a response. -/
theorem IsClass.awaits_last (isClass : IsClass config wrap handlers)
    (started : ∀ behaviour view, (handlers behaviour view).started command = true)
    (notError : packet.isError = false)
    (ends : ∀ behaviour view store wire, behaviour.Allowed config format →
      view.errorListener = true → store.localStreamError = (fun _ => none) → ∃ after,
        (handlers behaviour view).next (.new command store wire) (some packet) =
            (after, .ok false) ∧
          (wrap after.command).name = (wrap command).name ∧
          (wrap command).Leaves config store after) :
    (dialogue config format).Awaits (Command.family config) (wrap command) [packet] := by
  intro behaviour view store wire line allowed listens sound
  obtain ⟨after, nextEq, name, leaves⟩ :=
    ends behaviour view store wire allowed listens (funext sound.stream)
  refine ⟨_, isClass.execute_eq (started behaviour view) notError nextEq, ?_, ?_, ?_, ?_⟩
  · exact keeps_outcome allowed name leaves.added
  · exact leaves.silent
  · rfl
  · exact leaves.sound sound

/-- An ERR packet. -/
theorem IsClass.awaits_error (isClass : IsClass config wrap handlers)
    (started : ∀ behaviour view, (handlers behaviour view).started command = true)
    (isError : ErrorPacket config.read packet)
    (fails : ∀ behaviour view store wire err, ∃ after,
      (handlers behaviour view).fail (.new command store wire) err = (after, .ok ()) ∧
        after.command = command ∧ (wrap command).Leaves config store after) :
    (dialogue config format).Awaits (Command.family config) (wrap command) [packet] := by
  intro behaviour view store wire line allowed listens sound
  obtain ⟨isErr, err, left, asError⟩ := isError
  let world : World α V ρ γ := .new command store wire
  obtain ⟨after, failEq, same, leaves⟩ := fails behaviour view store wire
    { err with sql := (handlers behaviour view).sql world.command }
  have executed : Command.execute config behaviour view store wire (wrap command)
      (some packet) = Command.outcome behaviour wrap (after, .ok true) := by
    rw [isClass, (handlers behaviour view).execute_of_asError _ isErr asError,
      begin_started (started behaviour view)]
    rw [failEq]
    rfl
  refine ⟨_, executed, ?_, ?_, ?_, ?_⟩
  · refine keeps_outcome allowed ?_ leaves.added
    rw [same]
  · exact leaves.silent
  · rfl
  · exact leaves.sound sound

end Class

end Mysql2.Commands

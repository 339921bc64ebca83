import Mysql2.Connection.Failing

/-!
# Requests and responses

The server answers the requests of a connection in their order, with packets that
arrive in the order in which they are sent.  Nothing in a packet says which request
it answers.  A connection runs one command at a time, and as long as every command
takes exactly the packets of the response to its request, each packet is handed to
the command whose request it answers, however sending, arriving and the calls of
the program are interleaved.
-/

namespace Mysql2.Connection

open Mysql2.Packets
open Mysql2.Transition

variable {ω ι σ κ ο δ : Type}

/-- How a family of commands talks to the server: the requests among what a
command shows, and the whole responses to a request.  `sound` relates the shared
state to the commands in line, the current one first.  The program adds `welcome`
commands at any time, functions outside the commands can add other `known` ones. -/
structure Dialogue (ω ι σ κ ο δ : Type) where
  request : ο → Option δ
  sender : δ → Nat
  name : κ → Nat
  responds : δ → List Packet → Prop
  allowed : ω → Prop
  sound : σ → List κ → Prop
  welcome : κ → Prop
  known : κ → Prop
  gentle : List κ → ι → Prop

/-- The calls add only commands that meet the condition, and do not pause. -/
def Call.Adds (condition : κ → Prop) : Call κ → Prop
  | .pause => False
  | .resume => True
  | .addCommand command => condition command
  | .close => True

/-- The commands that the calls add. -/
def addedCommands (calls : List (Call κ)) : List κ :=
  calls.filterMap fun
    | .addCommand command => some command
    | _ => none

theorem Call.Adds.imp {condition weaker : κ → Prop} {call : Call κ}
    (adds : call.Adds condition) (implies : ∀ {command}, condition command → weaker command) :
    call.Adds weaker := by
  cases call with
  | pause => exact adds
  | resume => trivial
  | addCommand command => exact implies adds
  | close => trivial

namespace Dialogue

/-- The requests among what commands show. -/
def requests (dialogue : Dialogue ω ι σ κ ο δ) (outputs : List ο) : List δ :=
  outputs.filterMap dialogue.request

/-- No packet answers the request. -/
def Told (dialogue : Dialogue ω ι σ κ ο δ) (request : δ) : Prop :=
  ∀ packets, dialogue.responds request packets → packets = []

/-- What every call of `execute` leaves as it is. -/
structure Keeps (dialogue : Dialogue ω ι σ κ ο δ) (command : κ) (outcome : Outcome σ κ ο) :
    Prop where
  name : dialogue.name outcome.command = dialogue.name command
  calls : ∀ call ∈ outcome.calls, call.Adds dialogue.welcome
  handshakeError : outcome.handshakeError = none

/-- The command takes exactly these packets, and sends no request. -/
def Awaits (family : CommandFamily ω ι σ κ ο) (dialogue : Dialogue ω ι σ κ ο δ) :
    κ → List Packet → Prop
  | _, [] => False
  | command, [packet] => ∀ behaviour view store wire line, dialogue.allowed behaviour →
      view.errorListener = true → dialogue.sound store (command :: line) →
      ∃ outcome, family.execute behaviour view store wire command (some packet) = outcome ∧
        dialogue.Keeps command outcome ∧ dialogue.requests outcome.outputs = [] ∧
        outcome.result = .ok true ∧ dialogue.sound outcome.store line
  | command, packet :: next :: packets => ∀ behaviour view store wire line,
      dialogue.allowed behaviour → view.errorListener = true →
      dialogue.sound store (command :: line) →
      ∃ outcome, family.execute behaviour view store wire command (some packet) = outcome ∧
        dialogue.Keeps command outcome ∧ dialogue.requests outcome.outputs = [] ∧
        outcome.result = .ok false ∧ dialogue.sound outcome.store (outcome.command :: line) ∧
        Awaits family dialogue outcome.command (next :: packets)

/-- A command that ends on a packet in place of any other takes a part of a response
and that packet. -/
theorem Awaits.failing {family : CommandFamily ω ι σ κ ο} {dialogue : Dialogue ω ι σ κ ο δ}
    {steady : κ → Prop} {errorPacket : Packet}
    (fails : ∀ command, steady command → Awaits family dialogue command [errorPacket])
    (stays : ∀ {command behaviour view store wire packet}, steady command →
      (family.execute behaviour view store wire command (some packet)).result = .ok false →
      steady (family.execute behaviour view store wire command (some packet)).command)
    {command : κ} (isSteady : steady command) {packets sent : List Packet}
    (awaits : Awaits family dialogue command packets) (isPrefix : sent <+: packets)
    (notWhole : sent ≠ packets) : Awaits family dialogue command (sent ++ [errorPacket]) := by
  induction sent generalizing command packets with
  | nil => exact fails command isSteady
  | cons packet sent ih =>
      obtain ⟨rest, rfl⟩ := isPrefix
      cases restEq : sent ++ rest with
      | nil =>
          obtain ⟨rfl, rfl⟩ := List.append_eq_nil_iff.mp restEq
          exact absurd rfl notWhole
      | cons next packets =>
          have laterNotWhole : sent ≠ next :: packets := by
            intro same
            rw [← restEq] at same
            exact notWhole (congrArg (packet :: ·) same)
          rw [List.cons_append, restEq] at awaits
          have isLater : sent <+: next :: packets := ⟨rest, restEq⟩
          have leads : ∀ behaviour view store wire line, dialogue.allowed behaviour →
              view.errorListener = true → dialogue.sound store (command :: line) →
              ∃ outcome, family.execute behaviour view store wire command (some packet) =
                  outcome ∧ dialogue.Keeps command outcome ∧
                dialogue.requests outcome.outputs = [] ∧ outcome.result = .ok false ∧
                dialogue.sound outcome.store (outcome.command :: line) ∧
                Awaits family dialogue outcome.command (sent ++ [errorPacket]) := by
            intro behaviour view store wire line allowed listens sound
            obtain ⟨outcome, rfl, keeps, silent, result, soundAfter, later⟩ :=
              awaits behaviour view store wire line allowed listens sound
            exact ⟨_, rfl, keeps, silent, result, soundAfter,
              ih (stays isSteady result) later isLater laterNotWhole⟩
          cases sent with
          | nil => exact leads
          | cons first sent => exact leads

/-- What the start of a command can lead to: its end, with a request that is not
answered or with none, or a request whose response it takes. -/
inductive Starts (family : CommandFamily ω ι σ κ ο) (dialogue : Dialogue ω ι σ κ ο δ)
    (line : List κ) (outcome : Outcome σ κ ο) : Prop
  | ends (told : ∀ request ∈ dialogue.requests outcome.outputs, dialogue.Told request)
      (result : outcome.result = .ok true) (sound : dialogue.sound outcome.store line)
  | asks {request : δ} (asked : dialogue.requests outcome.outputs = [request])
      (sender : dialogue.sender request = dialogue.name outcome.command)
      (awaits : ∀ packets, dialogue.responds request packets →
        Awaits family dialogue outcome.command packets)
      (result : outcome.result = .ok false)
      (sound : dialogue.sound outcome.store (outcome.command :: line))

/-- The family keeps to the dialogue. -/
structure Conducts (family : CommandFamily ω ι σ κ ο) (dialogue : Dialogue ω ι σ κ ο δ) :
    Prop where
  known : ∀ {command}, dialogue.welcome command → dialogue.known command
  starts : ∀ {command behaviour view store line}, dialogue.known command →
    dialogue.allowed behaviour → view.errorListener = true →
    dialogue.sound store (command :: line) → ∀ wire,
    dialogue.Keeps command (family.execute behaviour view store wire command none) ∧
      Starts family dialogue line (family.execute behaviour view store wire command none)
  onResult : ∀ {command behaviour store line}, dialogue.known command →
    dialogue.allowed behaviour → dialogue.sound store line → ∀ wire err,
    dialogue.sound (family.onResult behaviour store wire command err).store line ∧
      (∀ call ∈ (family.onResult behaviour store wire command err).calls,
        call.Adds dialogue.welcome) ∧
      dialogue.requests (family.onResult behaviour store wire command err).outputs = []
  interrupt : ∀ {function store line}, dialogue.gentle line function →
    dialogue.sound store line → ∀ wire,
    dialogue.sound (family.interrupt function store wire).store
        (line ++ addedCommands (family.interrupt function store wire).calls) ∧
      (∀ call ∈ (family.interrupt function store wire).calls, call.Adds dialogue.known) ∧
      dialogue.requests (family.interrupt function store wire).outputs = []
  insert : ∀ {store front back command}, dialogue.sound store (front ++ back) →
    dialogue.welcome command → dialogue.sound store (front ++ command :: back)
  take : ∀ {store front back}, dialogue.sound store (front ++ back) →
    dialogue.sound store front

end Dialogue

/-! ## A connection and its server -/

/-- A connection, the requests that the server has not answered, and the packets
on their way, each with the command whose request it answers.  `sent` are all
packets that the server has sent. -/
structure Exchange (σ κ δ : Type) where
  conn : BaseConnection σ κ
  unanswered : List δ
  inFlight : List (Nat × Packet)
  sent : List (Nat × Packet)

/-- What happens: a step of the connection, the response of the server to the first
request that it has not answered, or the arrival of a packet. -/
inductive ExchangeEvent (ω ι κ : Type)
  | client (event : BaseConnection.Event ω ι κ)
  | answer (packets : List Packet)
  | deliver

namespace Exchange

open BaseConnection

/-- A new connection to a server. -/
def new (store : σ) : Exchange σ κ δ :=
  { conn := .new store
    unanswered := []
    inFlight := []
    sent := [] }

/-- Behind a step of the connection: what it has sent reaches the server. -/
def follow (dialogue : Dialogue ω ι σ κ ο δ) (state : Exchange σ κ δ)
    (stepped : BaseConnection σ κ × List (Output κ ο)) : Exchange σ κ δ :=
  { state with
    conn := stepped.1
    unanswered := state.unanswered ++ dialogue.requests (shown stepped.2) }

/-- A step of the connection. -/
def stepClient (family : CommandFamily ω ι σ κ ο) (dialogue : Dialogue ω ι σ κ ο δ)
    (config : Config) (state : Exchange σ κ δ) (event : BaseConnection.Event ω ι κ) :
    Exchange σ κ δ × List (Output κ ο) :=
  (state.follow dialogue (state.conn.step family config event),
    (state.conn.step family config event).2)

/-- One step of a connection and its server.  Packets arrive while no handler is
running. -/
def step (family : CommandFamily ω ι σ κ ο) (dialogue : Dialogue ω ι σ κ ο δ)
    (config : Config) : Step (Exchange σ κ δ) (ExchangeEvent ω ι κ) (Output κ ο)
  | state, .client event => state.stepClient family dialogue config event
  | state, .answer packets =>
      match state.unanswered with
      | [] => (state, [])
      | request :: unanswered =>
          let response := packets.map fun packet => (dialogue.sender request, packet)
          ({ state with
            unanswered := unanswered
            inFlight := state.inFlight ++ response
            sent := state.sent ++ response }, [])
  | state, .deliver =>
      match state.inFlight with
      | [] => (state, [])
      | (_, packet) :: inFlight =>
          if state.conn.crashed = false ∧ state.conn.todo = [] then
            { state with inFlight := inFlight }.stepClient family dialogue config
              (.input (.packet packet))
          else
            (state, [])

/-- The commands of a connection, the current one first. -/
def line (conn : BaseConnection σ κ) : List κ :=
  conn.command.toList ++ conn.commands

/-- The program keeps to the dialogue and does not pause the connection, which has
no other errors, and the server sends whole responses. -/
def Permitted (dialogue : Dialogue ω ι σ κ ο δ) (state : Exchange σ κ δ) :
    ExchangeEvent ω ι κ → Prop
  | .client (.proceed behaviour) => dialogue.allowed behaviour
  | .client (.input (.call call)) => call.Adds dialogue.welcome
  | .client (.input .resume) => True
  | .client (.input (.interrupt function)) => dialogue.gentle (line state.conn) function
  | .client (.input (.packet _)) => False
  | .client (.input (.networkError _)) => False
  | .client (.input .streamClose) => False
  | .answer packets => ∀ request, state.unanswered.head? = some request →
      dialogue.responds request packets
  | .deliver => True

/-- The packets handed to commands, each with the command. -/
def handled (dialogue : Dialogue ω ι σ κ ο δ) (outputs : List (Output κ ο)) :
    List (Nat × Packet) :=
  outputs.filterMap fun
    | .executed command (some packet) => some (dialogue.name command, packet)
    | _ => none

theorem handled_append (dialogue : Dialogue ω ι σ κ ο δ) (outputs more : List (Output κ ο)) :
    handled dialogue (outputs ++ more) = handled dialogue outputs ++ handled dialogue more :=
  List.filterMap_append

/-! ## Whose turn it is -/

/-- Tasks beside the work of the current command. -/
def Aside (dialogue : Dialogue ω ι σ κ ο δ) (tasks : List (Task κ)) : Prop :=
  ∀ task ∈ tasks, task = .resume ∨ ∃ call : Call κ, task = .call call ∧ call.Adds dialogue.known

/-- The commands that tasks will add, unless the connection refuses them. -/
def pending (closed : Bool) (tasks : List (Task κ)) : List κ :=
  if closed then []
  else tasks.filterMap fun
    | .call (.addCommand command) => some command
    | _ => none

/-- Where the current command is: nowhere, in front of its start, behind its
request, in front of the packets of the response, in front of one that has arrived,
or at its end.  `head` is the task that runs it, `hand` the packet that has arrived,
and `front` the command as long as it has not ended. -/
inductive Phase (family : CommandFamily ω ι σ κ ο) (dialogue : Dialogue ω ι σ κ ο δ) :
    Option κ → List κ → List δ → List (Nat × Packet) → List (Task κ) → List (Nat × Packet) →
      List κ → Prop
  | idle {told : List δ} (areTold : ∀ request ∈ told, dialogue.Told request) :
      Phase family dialogue none [] told [] [] [] []
  | starting {command : κ} {commands : List κ} {told : List δ} (known : dialogue.known command)
      (areTold : ∀ request ∈ told, dialogue.Told request) :
      Phase family dialogue (some command) commands told [] [.handlePacket none] [] [command]
  | asking {command : κ} {commands : List κ} {told : List δ} {request : δ}
      {head : List (Task κ)} (areTold : ∀ request ∈ told, dialogue.Told request)
      (sender : dialogue.sender request = dialogue.name command)
      (awaits : ∀ packets, dialogue.responds request packets →
        dialogue.Awaits family command packets)
      (returning : head = [] ∨ head = [.finish false]) :
      Phase family dialogue (some command) commands (told ++ [request]) [] head [] [command]
  | answered {command : κ} {commands : List κ} {packets : List Packet} {head : List (Task κ)}
      (awaits : dialogue.Awaits family command packets)
      (returning : head = [] ∨ head = [.finish false]) :
      Phase family dialogue (some command) commands []
        (packets.map fun packet => (dialogue.name command, packet)) head [] [command]
  | reading {command : κ} {commands : List κ} {packet : Packet} {packets : List Packet}
      (awaits : dialogue.Awaits family command (packet :: packets)) :
      Phase family dialogue (some command) commands []
        (packets.map fun packet => (dialogue.name command, packet))
        [.handlePacket (some packet)] [(dialogue.name command, packet)] [command]
  | ending {command : κ} {commands : List κ} {told : List δ}
      (areTold : ∀ request ∈ told, dialogue.Told request) :
      Phase family dialogue (some command) commands told [] [.finish true] [] []

/-- The invariant of a run, with the stack of tasks taken apart. -/
structure Turn (family : CommandFamily ω ι σ κ ο) (dialogue : Dialogue ω ι σ κ ο δ)
    (outputs : List (Output κ ο)) (state : Exchange σ κ δ) (before head after : List (Task κ))
    (hand : List (Nat × Packet)) (front : List κ) : Prop where
  unpaused : state.conn.paused = false
  unparked : state.conn.pausedPackets = []
  unfailed : state.conn.fatalError = none
  writeOpen : state.conn.writeClosed = false
  known : ∀ command ∈ state.conn.commands, dialogue.known command
  todo : state.conn.todo = before ++ (head ++ after)
  asideBefore : Aside dialogue before
  asideAfter : Aside dialogue after
  phase : Phase family dialogue state.conn.command state.conn.commands state.unanswered
    state.inFlight head hand front
  account : handled dialogue outputs ++ (hand ++ state.inFlight) = state.sent
  sound : dialogue.sound state.conn.store
    (front ++ state.conn.commands ++ pending state.conn.closedState (before ++ after))

/-- The invariant of a run. -/
def InTurn (family : CommandFamily ω ι σ κ ο) (dialogue : Dialogue ω ι σ κ ο δ)
    (outputs : List (Output κ ο)) (state : Exchange σ κ δ) : Prop :=
  ∃ before head after hand front,
    Turn family dialogue outputs state before head after hand front

variable {family : CommandFamily ω ι σ κ ο} {dialogue : Dialogue ω ι σ κ ο δ}
  {outputs : List (Output κ ο)} {state : Exchange σ κ δ} {before head after : List (Task κ)}
  {hand : List (Nat × Packet)} {front : List κ}

theorem pending_append (closed : Bool) (tasks more : List (Task κ)) :
    pending closed (tasks ++ more) = pending closed tasks ++ pending closed more := by
  cases closed with
  | true => rfl
  | false => exact List.filterMap_append

theorem pending_nil (closed : Bool) : pending closed ([] : List (Task κ)) = [] := by
  cases closed <;> rfl

theorem pending_cons (closed : Bool) (task : Task κ) (tasks : List (Task κ)) :
    pending closed (task :: tasks) = pending closed [task] ++ pending closed tasks :=
  pending_append closed [task] tasks

theorem aside_append {tasks more : List (Task κ)} :
    Aside dialogue (tasks ++ more) ↔ Aside dialogue tasks ∧ Aside dialogue more :=
  List.forall_mem_append

theorem aside_calls {calls : List (Call κ)} (add : ∀ call ∈ calls, call.Adds dialogue.known) :
    Aside dialogue (calls.map .call) := by
  intro task member
  obtain ⟨call, isCall, rfl⟩ := List.mem_map.mp member
  exact .inr ⟨call, rfl, add call isCall⟩

theorem pending_calls (calls : List (Call κ)) :
    pending false (calls.map .call) = addedCommands calls := by
  rw [pending, if_neg Bool.false_ne_true, List.filterMap_map, addedCommands]
  congr 1
  funext call
  cases call <;> rfl

theorem sound_insert_all (conducts : dialogue.Conducts family) {store : σ}
    {line commands later : List κ} (welcome : ∀ command ∈ commands, dialogue.welcome command)
    (sound : dialogue.sound store (line ++ later)) :
    dialogue.sound store (line ++ (commands ++ later)) := by
  induction commands with
  | nil => exact sound
  | cons command commands ih =>
      have ⟨first, others⟩ := List.forall_mem_cons.mp welcome
      exact conducts.insert (ih others) first

/-- Calls of the program get in front of those that have been made before. -/
theorem sound_insert_calls (conducts : dialogue.Conducts family) {store : σ}
    {line : List κ} {calls : List (Call κ)} {tasks : List (Task κ)} {closed : Bool}
    (add : ∀ call ∈ calls, call.Adds dialogue.welcome)
    (sound : dialogue.sound store (line ++ pending closed tasks)) :
    dialogue.sound store (line ++ pending closed (calls.map .call ++ tasks)) := by
  rw [pending_append]
  cases closed with
  | true => exact sound
  | false =>
      rw [pending_calls]
      refine sound_insert_all conducts ?_ sound
      intro command member
      obtain ⟨call, isCall, adds⟩ := List.mem_filterMap.mp member
      cases call with
      | addCommand other =>
          cases adds
          exact add _ isCall
      | _ => cases adds

/-- Without a task of its command the stack has one part. -/
theorem Turn.joined (turn : Turn family dialogue outputs state before [] after hand front) :
    Turn family dialogue outputs state (before ++ after) [] [] hand front :=
  { turn with
    todo := by
      rw [turn.todo, List.nil_append, List.append_nil, List.append_nil]
    asideBefore := aside_append.mpr ⟨turn.asideBefore, turn.asideAfter⟩
    asideAfter := nofun
    sound := by
      rw [List.append_nil]
      exact turn.sound }

theorem inTurn_new (store : σ) (sound : dialogue.sound store []) :
    InTurn family dialogue [] (new store : Exchange σ κ δ) := by
  refine ⟨[], [], [], [], [], rfl, rfl, rfl, rfl, nofun, rfl, nofun, nofun, ?_, rfl, ?_⟩
  · exact .idle fun _ member => absurd member List.not_mem_nil
  · exact sound

/-- No packet is handed to a command, and no request is sent. -/
structure Mute (dialogue : Dialogue ω ι σ κ ο δ) (outputs : List (Output κ ο)) : Prop where
  handled : handled dialogue outputs = []
  requests : dialogue.requests (shown outputs) = []

theorem mute_nil : Mute dialogue ([] : List (Output κ ο)) :=
  ⟨rfl, rfl⟩

theorem handled_command (outputs : List ο) :
    handled dialogue (outputs.map .command : List (Output κ ο)) = [] := by
  rw [handled, List.filterMap_map]
  exact List.filterMap_eq_nil_iff.mpr fun _ _ => rfl

theorem mute_command {shows : List ο} (silent : dialogue.requests shows = []) :
    Mute dialogue (shows.map .command : List (Output κ ο)) :=
  ⟨handled_command shows, by rw [shown_command, silent]⟩

theorem mute_error (err : JsError) : Mute dialogue ([.error err] : List (Output κ ο)) :=
  ⟨rfl, rfl⟩

/-- The invariant holds behind a step of the connection. -/
def Follows (family : CommandFamily ω ι σ κ ο) (dialogue : Dialogue ω ι σ κ ο δ)
    (outputs : List (Output κ ο)) (state : Exchange σ κ δ)
    (stepped : BaseConnection σ κ × List (Output κ ο)) : Prop :=
  InTurn family dialogue (outputs ++ stepped.2) (state.follow dialogue stepped)

/-- A state behind a mute step. -/
theorem follows_of_mute {stepped : BaseConnection σ κ × List (Output κ ο)}
    (mute : Mute dialogue stepped.2)
    (inTurn : InTurn family dialogue outputs { state with conn := stepped.1 }) :
    Follows family dialogue outputs state stepped := by
  obtain ⟨before, head, after, hand, front, turn⟩ := inTurn
  refine ⟨before, head, after, hand, front, ?_⟩
  rw [follow, mute.requests, List.append_nil]
  exact { turn with
    account := by
      rw [handled_append, mute.handled, List.append_nil]
      exact turn.account }

/-- Without a current command nothing is on its way. -/
structure Idle (dialogue : Dialogue ω ι σ κ ο δ) (commands : List κ) (unanswered : List δ)
    (inFlight : List (Nat × Packet)) (head : List (Task κ)) (hand : List (Nat × Packet))
    (front : List κ) : Prop where
  commands : commands = []
  told : ∀ request ∈ unanswered, dialogue.Told request
  inFlight : inFlight = []
  head : head = []
  hand : hand = []
  front : front = []

theorem Phase.idle_of_none {commands : List κ} {unanswered : List δ}
    {inFlight : List (Nat × Packet)}
    (phase : Phase family dialogue none commands unanswered inFlight head hand front) :
    Idle dialogue commands unanswered inFlight head hand front := by
  cases phase with
  | idle areTold => exact ⟨rfl, areTold, rfl, rfl, rfl, rfl⟩

/-- Behind a call of `execute` that expects more packets. -/
theorem Phase.returned {active : Option κ} {commands : List κ} {unanswered : List δ}
    {inFlight : List (Nat × Packet)}
    (phase : Phase family dialogue active commands unanswered inFlight [.finish false] hand front) :
    Phase family dialogue active commands unanswered inFlight [] hand front := by
  generalize isHead : [Task.finish false] = head at phase
  cases phase with
  | idle areTold => cases isHead
  | starting known areTold => cases isHead
  | asking areTold sender awaits returning => exact .asking areTold sender awaits (.inl rfl)
  | answered awaits returning => exact .answered awaits (.inl rfl)
  | reading awaits => cases isHead
  | ending areTold => cases isHead

/-- The response to the first request that has not been answered. -/
theorem Phase.answer {active : Option κ} {commands : List κ} {waiting unanswered : List δ}
    {inFlight : List (Nat × Packet)} {request : δ} {packets : List Packet}
    (phase : Phase family dialogue active commands waiting inFlight head hand front)
    (isNext : waiting = request :: unanswered) (responds : dialogue.responds request packets) :
    Phase family dialogue active commands unanswered
      (inFlight ++ packets.map fun packet => (dialogue.sender request, packet)) head hand
      front := by
  have silent (told : dialogue.Told request) :
      packets.map (fun packet => (dialogue.sender request, packet)) = [] := by
    rw [told packets responds]
    rfl
  cases phase with
  | idle areTold =>
      subst isNext
      have ⟨first, others⟩ := List.forall_mem_cons.mp areTold
      rw [silent first]
      exact .idle others
  | starting known areTold =>
      subst isNext
      have ⟨first, others⟩ := List.forall_mem_cons.mp areTold
      rw [silent first]
      exact .starting known others
  | @asking command commands told asked head areTold sender awaits returning =>
      cases told with
      | nil =>
          cases isNext
          rw [List.nil_append, sender]
          exact .answered (awaits packets responds) returning
      | cons first told =>
          cases isNext
          have ⟨isTold, others⟩ := List.forall_mem_cons.mp areTold
          rw [silent isTold]
          exact .asking others sender awaits returning
  | answered awaits returning => cases isNext
  | reading awaits => cases isNext
  | ending areTold =>
      subst isNext
      have ⟨first, others⟩ := List.forall_mem_cons.mp areTold
      rw [silent first]
      exact .ending others

theorem Phase.enqueue {command : κ} {commands : List κ} {unanswered : List δ}
    {inFlight : List (Nat × Packet)}
    (phase : Phase family dialogue (some command) commands unanswered inFlight head hand front)
    (more : List κ) :
    Phase family dialogue (some command) more unanswered inFlight head hand front := by
  cases phase with
  | starting known areTold => exact .starting known areTold
  | asking areTold sender awaits returning => exact .asking areTold sender awaits returning
  | answered awaits returning => exact .answered awaits returning
  | reading awaits => exact .reading awaits
  | ending areTold => exact .ending areTold

section Aside

variable {config : Config} {behaviour : ω} {command : κ} {rest : List (Task κ)}

/-- Without the first task of those beside the current command. -/
theorem Turn.popped {task : Task κ}
    (turn : Turn family dialogue outputs state (task :: rest) head after hand front)
    (adds : ∀ closed, pending closed [task] = ([] : List κ)) :
    Turn family dialogue outputs
      { state with conn := { state.conn with todo := rest ++ (head ++ after) } }
      rest head after hand front :=
  { turn with
    todo := rfl
    asideBefore := fun task member => turn.asideBefore task (List.mem_cons_of_mem _ member)
    sound := by
      have whole := turn.sound
      rw [List.cons_append, pending_cons, adds, List.nil_append] at whole
      exact whole }

/-- A command that is refused calls its callback. -/
theorem Turn.refuse
    (turn : Turn family dialogue outputs state (.call (.addCommand command) :: rest) head after
      hand front) (conducts : dialogue.Conducts family) (allowed : dialogue.allowed behaviour)
    (known : dialogue.known command) (closed : state.conn.closedState = true) :
    Follows family dialogue outputs state
      ({ state.conn with todo := rest ++ (head ++ after) }.addCommandClosedState family config
        behaviour command) := by
  have asideRest : Aside dialogue rest := fun task member =>
    turn.asideBefore task (List.mem_cons_of_mem _ member)
  have sound : dialogue.sound state.conn.store (front ++ state.conn.commands ++ []) := by
    have whole := turn.sound
    rwa [closed] at whole
  let effect := family.onResult behaviour state.conn.store state.conn.wire command closedStateError
  rw [addCommandClosedState]
  split
  · obtain ⟨soundAfter, add, silent⟩ := conducts.onResult known allowed sound state.conn.wire
      closedStateError
    refine follows_of_mute (mute_command silent)
      ⟨effect.calls.map .call ++ rest, head, after, hand, front, ?_⟩
    exact { turn with
      todo := (List.append_assoc _ _ _).symm
      asideBefore := aside_append.mpr
        ⟨aside_calls fun call member => (add call member).imp conducts.known, asideRest⟩
      sound := by
        change dialogue.sound _ (_ ++ pending state.conn.closedState _)
        rw [closed]
        exact soundAfter }
  · refine follows_of_mute ?_ ⟨rest, head, after, hand, front, ?_⟩
    · split
      · exact mute_error _
      · exact mute_nil
    · exact { turn with
        todo := rfl
        asideBefore := asideRest
        sound := by
          change dialogue.sound _ (_ ++ pending state.conn.closedState _)
          rw [closed]
          exact sound }

/-- A command is added. -/
theorem Turn.addCommand
    (turn : Turn family dialogue outputs state (.call (.addCommand command) :: rest) head after
      hand front) (conducts : dialogue.Conducts family) (allowed : dialogue.allowed behaviour)
    (known : dialogue.known command) :
    Follows family dialogue outputs state
      ({ state.conn with todo := rest ++ (head ++ after) }.addCommand family config behaviour
        command) := by
  have asideRest : Aside dialogue rest := fun task member =>
    turn.asideBefore task (List.mem_cons_of_mem _ member)
  rw [BaseConnection.addCommand]
  split
  · rename_i closed
    exact turn.refuse conducts allowed known closed
  · rename_i unclosed
    have isOpen : state.conn.closedState = false := Bool.eq_false_iff.mpr unclosed
    have sound := turn.sound
    rw [List.cons_append, pending_cons] at sound
    have addsCommand : pending state.conn.closedState [Task.call (.addCommand command)] =
        [command] := by
      rw [isOpen]
      rfl
    rw [addsCommand] at sound
    have phase := turn.phase
    split
    · rename_i idle
      change state.conn.command = none at idle
      rw [idle] at phase
      have nothing := phase.idle_of_none
      have account := turn.account
      obtain rfl := nothing.head
      obtain rfl := nothing.hand
      obtain rfl := nothing.front
      refine follows_of_mute mute_nil
        ⟨[], [.handlePacket none], rest ++ after, [], [command], ?_⟩
      exact { turn with
        todo := rfl
        asideBefore := nofun
        asideAfter := aside_append.mpr ⟨asideRest, turn.asideAfter⟩
        phase := by
          change Phase family dialogue (some command) state.conn.commands state.unanswered
            state.inFlight _ _ _
          rw [nothing.inFlight]
          exact .starting known nothing.told
        account := account
        sound := by
          change dialogue.sound _ ([command] ++ state.conn.commands ++ _)
          rw [nothing.commands] at sound ⊢
          exact sound }
    · rename_i active busy
      refine follows_of_mute mute_nil ⟨rest, head, after, hand, front, ?_⟩
      change state.conn.command = some active at busy
      exact { turn with
        known := by
          intro other member
          rcases List.mem_append.mp member with isOld | isNew
          · exact turn.known other isOld
          · rw [List.mem_singleton.mp isNew]
            exact known
        todo := rfl
        asideBefore := asideRest
        phase := by
          rw [busy] at phase
          change Phase family dialogue state.conn.command _ _ _ _ _ _
          rw [busy]
          exact phase.enqueue _
        sound := by
          change dialogue.sound _ (front ++ (state.conn.commands ++ [command]) ++ _)
          rw [← List.append_assoc front, List.append_assoc _ [command]]
          exact sound }

theorem Turn.performAside {task : Task κ}
    (turn : Turn family dialogue outputs state (task :: rest) head after hand front)
    (conducts : dialogue.Conducts family) (allowed : dialogue.allowed behaviour) :
    Follows family dialogue outputs state
      ({ state.conn with todo := rest ++ (head ++ after) }.performTask family config behaviour
        task) := by
  rcases turn.asideBefore task List.mem_cons_self with rfl | ⟨call, rfl, adds⟩
  · have resumed : ({ state.conn with todo := rest ++ (head ++ after) }.resume :
        BaseConnection σ κ) = { state.conn with todo := rest ++ (head ++ after) } := by
      simp only [resume, turn.unpaused, turn.unparked]
      rfl
    rw [performTask, resumed]
    exact follows_of_mute mute_nil
      ⟨_, _, _, _, _, turn.popped fun closed => by cases closed <;> rfl⟩
  · cases call with
    | pause => exact adds.elim
    | resume =>
        refine follows_of_mute mute_nil ⟨.resume :: rest, head, after, hand, front, ?_⟩
        have popped := turn.popped fun closed => by cases closed <;> rfl
        exact { popped with
          unpaused := rfl
          todo := rfl
          asideBefore := List.forall_mem_cons.mpr ⟨.inl rfl, popped.asideBefore⟩
          sound := by
            rw [List.cons_append, pending_cons, show pending _ [Task.resume] = ([] : List κ) by
              unfold pending
              split <;> rfl]
            exact popped.sound }
    | addCommand command => exact turn.addCommand conducts allowed adds
    | close =>
        refine follows_of_mute mute_nil ⟨rest, head, after, hand, front, ?_⟩
        have popped := turn.popped fun closed => by cases closed <;> rfl
        exact { popped with
          sound := by
            change dialogue.sound state.conn.store (front ++ state.conn.commands ++ [])
            rw [List.append_nil]
            exact conducts.take popped.sound }

end Aside

section Head

variable {config : Config} {behaviour : ω} {command : κ}

/-- A packet is handed to the current command, or the command is started. -/
theorem handlePacket_executed (family : CommandFamily ω ι σ κ ο)
    (dialogue : Dialogue ω ι σ κ ο δ) (config : Config) (behaviour : ω)
    (conn : BaseConnection σ κ) (packet : Option Packet)
    (unpaused : conn.paused = false) (active : conn.command = some command)
    (unfailed : conn.fatalError = none) :
    ∃ wire warnings, handled dialogue warnings = [] ∧ shown warnings = [] ∧
      conn.handlePacket family config behaviour packet =
        ({ conn with wire := wire }.executed
            (family.execute behaviour (conn.view config) conn.store wire command packet),
          .processed packet :: (warnings ++ .executed command packet ::
            (family.execute behaviour (conn.view config) conn.store wire command
              packet).outputs.map .command)) := by
  obtain ⟨wire, countedEq⟩ := receiveSequenceId_eq (ο := ο) conn packet
  refine ⟨wire, (conn.receiveSequenceId packet).2, ?_, ?_, ?_⟩
  · cases packet with
    | none => rfl
    | some packet =>
        rw [receiveSequenceId]
        dsimp only
        split <;> rfl
  · cases packet with
    | none => rfl
    | some packet =>
        rw [receiveSequenceId]
        dsimp only
        split <;> rfl
  · unfold handlePacket
    rw [if_neg (ne_true_of_eq_false unpaused), active]
    dsimp only
    rw [countedEq, if_neg, executeCommand_eq]
    · rfl
    · rw [unfailed]
      exact Bool.false_ne_true

/-- A call of `execute` that leads to another phase. -/
theorem Turn.execute {packet : Option Packet}
    (turn : Turn family dialogue outputs state [] [.handlePacket packet] after hand front)
    (conducts : dialogue.Conducts family) (active : state.conn.command = some command)
    (isHand : (packet.map fun packet => (dialogue.name command, packet)).toList = hand)
    (leads : ∀ wire, ∃ outcome done front', family.execute behaviour (state.conn.view config)
        state.conn.store wire command packet = outcome ∧
      dialogue.Keeps command outcome ∧ outcome.result = .ok done ∧
      Phase family dialogue (some outcome.command) state.conn.commands
        (state.unanswered ++ dialogue.requests outcome.outputs) state.inFlight [.finish done] []
        front' ∧
      dialogue.sound outcome.store
        (front' ++ state.conn.commands ++ pending state.conn.closedState after)) :
    Follows family dialogue outputs state
      ({ state.conn with todo := after }.handlePacket family config behaviour packet) := by
  obtain ⟨wire, warnings, noneHandled, noneShown, executedEq⟩ :=
    handlePacket_executed family dialogue config behaviour { state.conn with todo := after }
      packet turn.unpaused active turn.unfailed
  obtain ⟨outcome, done, front', outcomeEq, keeps, result, phase, sound⟩ := leads wire
  have calledEq : family.execute behaviour
      (BaseConnection.view config { state.conn with todo := after }) state.conn.store wire command
        packet = outcome := outcomeEq
  rw [executedEq, calledEq]
  have handledEq : handled dialogue (Output.processed packet :: (warnings ++
      .executed command packet :: outcome.outputs.map .command)) = hand := by
    change handled dialogue ([_] ++ (warnings ++ ([_] ++ _))) = hand
    rw [handled_append, handled_append, handled_append, noneHandled, handled_command, ← isHand]
    cases packet <;> rfl
  have shownEq : shown (Output.processed packet :: (warnings ++
      .executed command packet :: outcome.outputs.map .command)) = outcome.outputs := by
    change shown ([_] ++ (warnings ++ ([_] ++ _))) = _
    rw [shown_append, shown_append, shown_append, noneShown, shown_command]
    rfl
  refine ⟨outcome.calls.map .call, [.finish done], after, [], front', ?_⟩
  rw [follow, shownEq]
  exact { turn with
    todo := by
      change outcome.calls.map .call ++ (outcome.handshakeError.toList.map .handshakeError ++
        (afterExecute outcome.result :: after)) = _
      rw [keeps.handshakeError, result]
      rfl
    asideBefore := aside_calls fun call member => (keeps.calls call member).imp conducts.known
    phase := phase
    account := by
      rw [handled_append, handledEq, List.append_assoc]
      exact turn.account
    sound := sound_insert_calls conducts keeps.calls sound }

/-- The start of a command. -/
theorem Turn.start
    (turn : Turn family dialogue outputs state [] [.handlePacket none] after hand front)
    (conducts : dialogue.Conducts family) (allowed : dialogue.allowed behaviour)
    (listens : config.errorListener = true) (active : state.conn.command = some command)
    (known : dialogue.known command) (isHand : hand = []) (isFront : front = [command])
    (areTold : ∀ request ∈ state.unanswered, dialogue.Told request)
    (noneSent : state.inFlight = []) :
    Follows family dialogue outputs state
      ({ state.conn with todo := after }.handlePacket family config behaviour none) := by
  subst isHand isFront
  refine turn.execute conducts active rfl fun wire => ?_
  have sound := turn.sound
  rw [List.nil_append, List.append_assoc] at sound
  have viewListens : (state.conn.view config).errorListener = true := listens
  obtain ⟨keeps, starts⟩ := conducts.starts known allowed viewListens sound wire
  rw [noneSent]
  generalize family.execute behaviour (state.conn.view config) state.conn.store wire command none =
    outcome at keeps starts ⊢
  cases starts with
  | ends told result soundAfter =>
      refine ⟨outcome, true, [], rfl, keeps, result, .ending ?_, soundAfter⟩
      intro request member
      rcases List.mem_append.mp member with isOld | isNew
      · exact areTold request isOld
      · exact told request isNew
  | asks asked sender awaits result soundAfter =>
      refine ⟨outcome, false, [outcome.command], rfl, keeps, result, ?_, ?_⟩
      · rw [asked]
        exact .asking areTold sender awaits (.inr rfl)
      · rw [List.append_assoc]
        exact soundAfter

/-- A packet of the response to the request of the command. -/
theorem Turn.read {packet : Packet} {packets : List Packet}
    (turn : Turn family dialogue outputs state [] [.handlePacket (some packet)] after hand front)
    (conducts : dialogue.Conducts family) (allowed : dialogue.allowed behaviour)
    (listens : config.errorListener = true) (active : state.conn.command = some command)
    (awaits : dialogue.Awaits family command (packet :: packets))
    (isHand : hand = [(dialogue.name command, packet)]) (isFront : front = [command])
    (allAnswered : state.unanswered = [])
    (areRest : state.inFlight = packets.map fun packet => (dialogue.name command, packet)) :
    Follows family dialogue outputs state
      ({ state.conn with todo := after }.handlePacket family config behaviour (some packet)) := by
  subst isHand isFront
  refine turn.execute conducts active rfl fun wire => ?_
  have sound := turn.sound
  rw [List.nil_append, List.append_assoc] at sound
  rw [allAnswered, areRest]
  cases packets with
  | nil =>
      obtain ⟨outcome, outcomeEq, keeps, silent, result, soundAfter⟩ :=
        awaits behaviour (state.conn.view config) state.conn.store wire _ allowed listens sound
      refine ⟨outcome, true, [], outcomeEq, keeps, result, ?_, soundAfter⟩
      rw [silent, List.append_nil]
      exact Phase.ending nofun
  | cons next packets =>
      obtain ⟨outcome, outcomeEq, keeps, silent, result, soundAfter, later⟩ :=
        awaits behaviour (state.conn.view config) state.conn.store wire _ allowed listens sound
      refine ⟨outcome, false, [outcome.command], outcomeEq, keeps, result, ?_, ?_⟩
      · rw [silent, List.append_nil, ← keeps.name]
        exact .answered later (.inr rfl)
      · rw [List.append_assoc]
        exact soundAfter

/-- Behind a command that has ended: the next one is started. -/
theorem Turn.finish (turn : Turn family dialogue outputs state [] [.finish true] after hand front)
    (isHand : hand = []) (isFront : front = [])
    (areTold : ∀ request ∈ state.unanswered, dialogue.Told request)
    (noneSent : state.inFlight = []) :
    Follows family dialogue outputs state
      ({ state.conn with todo := after }.finish true) := by
  subst isHand isFront
  have sound := turn.sound
  rw [List.nil_append, List.nil_append] at sound
  rw [BaseConnection.finish, if_pos rfl]
  split
  · rename_i last
    change state.conn.commands = [] at last
    refine follows_of_mute ⟨rfl, rfl⟩ ⟨[], [], after, [], [], ?_⟩
    exact { turn with
      todo := rfl
      phase := by
        change Phase family dialogue none state.conn.commands state.unanswered state.inFlight
          _ _ _
        rw [last, noneSent]
        exact .idle areTold
      sound := sound }
  · rename_i next commands queue
    change state.conn.commands = next :: commands at queue
    have known := turn.known
    rw [queue] at known sound
    refine follows_of_mute ⟨rfl, rfl⟩ ⟨[], [.handlePacket none], after, [], [next], ?_⟩
    exact { turn with
      known := fun command member => known command (List.mem_cons_of_mem _ member)
      todo := rfl
      phase := by
        change Phase family dialogue (some next) commands state.unanswered state.inFlight _ _ _
        rw [noneSent]
        exact .starting (known next List.mem_cons_self) areTold
      sound := sound }

/-- The task of the current command. -/
theorem Turn.performHead {task : Task κ}
    (turn : Turn family dialogue outputs state [] [task] after hand front)
    (conducts : dialogue.Conducts family) (allowed : dialogue.allowed behaviour)
    (listens : config.errorListener = true) :
    Follows family dialogue outputs state
      ({ state.conn with todo := after }.performTask family config behaviour task) := by
  have phase := turn.phase
  generalize isHead : [task] = head at phase
  generalize isCommand : state.conn.command = command at phase
  generalize isQueue : state.conn.commands = commands at phase
  generalize isUnanswered : state.unanswered = unanswered at phase
  generalize isInFlight : state.inFlight = inFlight at phase
  have returned (isFinish : task = .finish false) :
      Follows family dialogue outputs state
        ({ state.conn with todo := after }.performTask family config behaviour task) := by
    subst isFinish
    refine follows_of_mute mute_nil ⟨[], [], after, hand, front, ?_⟩
    exact { turn with
      todo := rfl
      phase := turn.phase.returned }
  cases phase with
  | idle areTold => cases isHead
  | starting known areTold =>
      cases isHead
      refine turn.start conducts allowed listens isCommand known rfl rfl ?_ isInFlight
      rw [isUnanswered]
      exact areTold
  | asking areTold sender awaits returning =>
      rcases returning with rfl | rfl
      · cases isHead
      · cases isHead
        exact returned rfl
  | answered awaits returning =>
      rcases returning with rfl | rfl
      · cases isHead
      · cases isHead
        exact returned rfl
  | reading awaits =>
      cases isHead
      exact turn.read conducts allowed listens isCommand awaits rfl rfl isUnanswered isInFlight
  | ending areTold =>
      cases isHead
      refine turn.finish rfl rfl ?_ isInFlight
      rw [isUnanswered]
      exact areTold

end Head

/-! ## Runs -/

section Runs

variable {config : Config}

theorem Phase.head_cases {active : Option κ} {commands : List κ} {unanswered : List δ}
    {inFlight : List (Nat × Packet)}
    (phase : Phase family dialogue active commands unanswered inFlight head hand front) :
    head = [] ∨ ∃ task, head = [task] := by
  cases phase with
  | idle areTold => exact .inl rfl
  | starting known areTold => exact .inr ⟨_, rfl⟩
  | asking areTold sender awaits returning => exact returning.imp id fun isHead => ⟨_, isHead⟩
  | answered awaits returning => exact returning.imp id fun isHead => ⟨_, isHead⟩
  | reading awaits => exact .inr ⟨_, rfl⟩
  | ending areTold => exact .inr ⟨_, rfl⟩

/-- Between two inputs the current command has not ended. -/
theorem Phase.front_eq {active : Option κ} {commands : List κ} {unanswered : List δ}
    {inFlight : List (Nat × Packet)}
    (phase : Phase family dialogue active commands unanswered inFlight [] hand front) :
    front = active.toList ∧ hand = [] := by
  generalize isHead : ([] : List (Task κ)) = head at phase
  cases phase with
  | idle areTold => exact ⟨rfl, rfl⟩
  | starting known areTold => cases isHead
  | asking areTold sender awaits returning => exact ⟨rfl, rfl⟩
  | answered awaits returning => exact ⟨rfl, rfl⟩
  | reading awaits => cases isHead
  | ending areTold => cases isHead

theorem InTurn.still (inTurn : InTurn family dialogue outputs state) :
    Follows family dialogue outputs state (state.conn, []) :=
  follows_of_mute mute_nil inTurn

/-- The next task is performed. -/
theorem InTurn.proceed (inTurn : InTurn family dialogue outputs state)
    (conducts : dialogue.Conducts family) (listens : config.errorListener = true) {behaviour : ω}
    (allowed : dialogue.allowed behaviour) :
    Follows family dialogue outputs state (state.conn.step family config (.proceed behaviour)) := by
  cases crashed : state.conn.crashed with
  | true =>
      rw [step_crashed crashed]
      exact inTurn.still
  | false =>
      obtain ⟨before, head, after, hand, front, turn⟩ := inTurn
      have todo := turn.todo
      cases before with
      | cons task rest =>
          rw [step_proceed crashed todo]
          exact turn.performAside conducts allowed
      | nil =>
          rcases turn.phase.head_cases with rfl | ⟨task, rfl⟩
          · have joined := turn.joined
            cases after with
            | nil =>
                rw [step_proceed_idle todo]
                exact InTurn.still ⟨_, _, _, _, _, turn⟩
            | cons task rest =>
                rw [step_proceed crashed (joined.todo.trans (List.append_nil _))]
                have performed : Follows family dialogue outputs state
                    ({ state.conn with todo := rest ++ ([] ++ []) }.performTask family config
                      behaviour task) := joined.performAside conducts allowed
                rwa [List.append_nil, List.append_nil] at performed
          · rw [step_proceed crashed todo]
            exact turn.performHead conducts allowed listens

/-- With nothing on the stack, all three parts of it are empty. -/
theorem InTurn.accepting (inTurn : InTurn family dialogue outputs state)
    (idle : state.conn.todo = []) : ∃ hand front,
      Turn family dialogue outputs state [] [] [] hand front := by
  obtain ⟨before, head, after, hand, front, turn⟩ := inTurn
  have todo := turn.todo
  rw [idle] at todo
  obtain ⟨rfl, rest⟩ := List.append_eq_nil_iff.mp todo.symm
  obtain ⟨rfl, rfl⟩ := List.append_eq_nil_iff.mp rest
  exact ⟨hand, front, turn⟩

/-- The program calls the connection. -/
theorem InTurn.call (inTurn : InTurn family dialogue outputs state)
    (conducts : dialogue.Conducts family) (idle : state.conn.todo = []) {call : Call κ}
    (adds : call.Adds dialogue.welcome) :
    Follows family dialogue outputs state (state.conn.push [.call call], []) := by
  obtain ⟨hand, front, turn⟩ := inTurn.accepting idle
  have aside : ∀ other ∈ [call], other.Adds dialogue.welcome := by
    intro other member
    rw [List.mem_singleton.mp member]
    exact adds
  refine follows_of_mute mute_nil ⟨[.call call], [], [], hand, front, ?_⟩
  exact { turn with
    todo := by
      rw [push_todo, idle]
      rfl
    asideBefore := aside_calls fun other member => (aside other member).imp conducts.known
    sound := sound_insert_calls conducts aside turn.sound }

/-- `resume()` of a connection that is not paused. -/
theorem InTurn.resume (inTurn : InTurn family dialogue outputs state)
    (idle : state.conn.todo = []) :
    Follows family dialogue outputs state
      ({ state.conn with paused := false }.push [.resume], []) := by
  obtain ⟨hand, front, turn⟩ := inTurn.accepting idle
  refine follows_of_mute mute_nil ⟨[.resume], [], [], hand, front, ?_⟩
  exact { turn with
    unpaused := rfl
    todo := by
      rw [push_todo, idle]
      rfl
    asideBefore := by
      intro task member
      exact .inl (List.mem_singleton.mp member)
    sound := by
      have added : pending state.conn.closedState [Task.resume] = ([] : List κ) := by
        cases state.conn.closedState <;> rfl
      change dialogue.sound _ (front ++ _ ++ pending state.conn.closedState [Task.resume])
      have whole := turn.sound
      rw [List.append_nil, pending_nil] at whole
      rw [added]
      exact whole }

/-- A function outside the commands. -/
theorem InTurn.interrupt (inTurn : InTurn family dialogue outputs state)
    (conducts : dialogue.Conducts family) (idle : state.conn.todo = []) {function : ι}
    (gentle : dialogue.gentle (line state.conn) function) :
    Follows family dialogue outputs state
      (state.conn.runInterrupt family config function) := by
  obtain ⟨hand, front, turn⟩ := inTurn.accepting idle
  obtain ⟨rfl, rfl⟩ := turn.phase.front_eq
  have sound : dialogue.sound state.conn.store (line state.conn) := conducts.take turn.sound
  obtain ⟨soundAfter, add, silent⟩ := conducts.interrupt gentle sound state.conn.wire
  have notClosed : ¬(state.conn.writeClosed = true ∧
      (family.interrupt function state.conn.store state.conn.wire).wire.written ≠
        state.conn.wire.written) := by
    rw [turn.writeOpen]
    exact fun closed => Bool.false_ne_true closed.1
  rw [runInterrupt]
  dsimp only
  rw [if_neg notClosed]
  refine follows_of_mute (mute_command silent)
    ⟨(family.interrupt function state.conn.store state.conn.wire).calls.map .call, [], [], [],
      state.conn.command.toList, ?_⟩
  exact { turn with
    todo := by
      change _ ++ state.conn.todo = _
      rw [idle]
      rfl
    asideBefore := aside_calls add
    sound := by
      change dialogue.sound _ (line state.conn ++ pending state.conn.closedState (_ ++ []))
      rw [List.append_nil]
      cases state.conn.closedState with
      | true =>
          change dialogue.sound _ (line state.conn ++ [])
          rw [List.append_nil]
          exact conducts.take soundAfter
      | false =>
          rw [pending_calls]
          exact soundAfter }

/-- A packet is on its way only to the current command. -/
theorem Phase.answered_of_inFlight {active : Option κ} {commands : List κ} {unanswered : List δ}
    {sent inFlight : List (Nat × Packet)} {tag : Nat} {packet : Packet}
    (phase : Phase family dialogue active commands unanswered sent [] hand front)
    (isNext : sent = (tag, packet) :: inFlight) :
    ∃ command packets, active = some command ∧ unanswered = [] ∧ tag = dialogue.name command ∧
      inFlight = packets.map (fun packet => (dialogue.name command, packet)) ∧
      dialogue.Awaits family command (packet :: packets) ∧ front = [command] := by
  generalize isHead : ([] : List (Task κ)) = head at phase
  cases phase with
  | idle areTold => cases isNext
  | starting known areTold => cases isHead
  | asking areTold sender awaits returning => cases isNext
  | reading awaits => cases isHead
  | ending areTold => cases isHead
  | @answered command commands packets head awaits returning =>
      cases packets with
      | nil => cases isNext
      | cons next packets =>
          cases isNext
          exact ⟨command, packets, rfl, rfl, rfl, rfl, awaits, rfl⟩

/-- A packet arrives. -/
theorem InTurn.arrive (inTurn : InTurn family dialogue outputs state)
    (idle : state.conn.todo = []) {tag : Nat} {packet : Packet} {inFlight : List (Nat × Packet)}
    (isNext : state.inFlight = (tag, packet) :: inFlight) :
    Follows family dialogue outputs { state with inFlight := inFlight }
      (state.conn.push [.handlePacket (some packet)], [.received packet]) := by
  obtain ⟨hand, front, turn⟩ := inTurn.accepting idle
  obtain ⟨_, rfl⟩ := turn.phase.front_eq
  obtain ⟨command, packets, active, allAnswered, rfl, rfl, awaits, rfl⟩ :=
    turn.phase.answered_of_inFlight isNext
  have account := turn.account
  rw [isNext] at account
  refine ⟨[], [.handlePacket (some packet)], [], [(dialogue.name command, packet)], [command], ?_⟩
  exact { turn with
    todo := by
      change [Task.handlePacket (some packet)] ++ state.conn.todo = _
      rw [idle]
      rfl
    phase := by
      change Phase family dialogue state.conn.command _ (state.unanswered ++ []) _ _ _ _
      rw [active, allAnswered]
      exact .reading awaits
    account := by
      rw [handled_append]
      change handled dialogue outputs ++ [] ++ _ = _
      rw [List.append_nil]
      exact account }

/-- The server answers. -/
theorem InTurn.answer (inTurn : InTurn family dialogue outputs state) {packets : List Packet}
    {request : δ} {unanswered : List δ} (isNext : state.unanswered = request :: unanswered)
    (responds : dialogue.responds request packets) :
    InTurn family dialogue outputs
      { state with
        unanswered := unanswered
        inFlight := state.inFlight ++ packets.map fun packet => (dialogue.sender request, packet)
        sent := state.sent ++ packets.map fun packet => (dialogue.sender request, packet) } := by
  obtain ⟨before, head, after, hand, front, turn⟩ := inTurn
  refine ⟨before, head, after, hand, front, ?_⟩
  exact { turn with
    phase := turn.phase.answer isNext responds
    account := by
      rw [← turn.account, List.append_assoc, List.append_assoc] }

/-- One step keeps commands and responses in turn. -/
theorem InTurn.step (inTurn : InTurn family dialogue outputs state)
    (conducts : dialogue.Conducts family) (listens : config.errorListener = true)
    {event : ExchangeEvent ω ι κ} (permitted : Permitted dialogue state event) :
    InTurn family dialogue (outputs ++ (step family dialogue config state event).2)
      (step family dialogue config state event).1 := by
  have unchanged : InTurn family dialogue (outputs ++ []) state := by
    rwa [List.append_nil]
  cases event with
  | client event =>
      cases event with
      | proceed behaviour => exact inTurn.proceed conducts listens permitted
      | input input =>
          by_cases accepts : state.conn.crashed = false ∧ state.conn.todo = []
          · have accepted : state.conn.step family config (.input input) =
                state.conn.accept family config input := if_pos accepts
            change Follows family dialogue outputs state (state.conn.step family config _)
            rw [accepted]
            cases input with
            | call call => exact inTurn.call conducts accepts.2 permitted
            | resume => exact inTurn.resume accepts.2
            | interrupt function => exact inTurn.interrupt conducts accepts.2 permitted
            | packet packet => exact permitted.elim
            | networkError err => exact permitted.elim
            | streamClose => exact permitted.elim
          · have refused : state.conn.step family config (.input input) = (state.conn, []) :=
              if_neg accepts
            change Follows family dialogue outputs state (state.conn.step family config _)
            rw [refused]
            exact inTurn.still
  | answer packets =>
      rw [Exchange.step]
      split
      · exact unchanged
      · rename_i request unanswered isNext
        rw [List.append_nil]
        exact inTurn.answer isNext (permitted request (by rw [isNext]; rfl))
  | deliver =>
      rw [Exchange.step]
      split
      · exact unchanged
      · rename_i tag packet inFlight isNext
        split
        · rename_i accepts
          have accepted : state.conn.step family config (.input (.packet packet)) =
              (state.conn.push [.handlePacket (some packet)], [.received packet]) :=
            if_pos accepts
          change Follows family dialogue outputs { state with inFlight := inFlight }
            (state.conn.step family config _)
          rw [accepted]
          exact inTurn.arrive accepts.2 isNext
        · exact unchanged

/-- Each packet has been handed to the command whose request it answers, in the order
in which the server has sent them; with no handler running, only packets on their way
have not.  When the server has answered all requests and all packets have arrived, no
command is waiting. -/
structure Paired (dialogue : Dialogue ω ι σ κ ο δ) (outputs : List (Output κ ο))
    (state : Exchange σ κ δ) : Prop where
  handled : handled dialogue outputs <+: state.sent
  unfailed : state.conn.fatalError = none
  account : state.conn.todo = [] → Exchange.handled dialogue outputs ++ state.inFlight = state.sent
  finished : state.conn.todo = [] → state.unanswered = [] → state.inFlight = [] →
    line state.conn = []

theorem Phase.line_eq_nil {active : Option κ} {commands : List κ}
    (phase : Phase family dialogue active commands [] [] [] hand front) :
    active.toList ++ commands = [] := by
  generalize isUnanswered : ([] : List δ) = unanswered at phase
  generalize isInFlight : ([] : List (Nat × Packet)) = inFlight at phase
  generalize isHead : ([] : List (Task κ)) = head at phase
  cases phase with
  | idle areTold => rfl
  | starting known areTold => cases isHead
  | @asking _ _ told => cases told <;> cases isUnanswered
  | reading awaits => cases isHead
  | ending areTold => cases isHead
  | @answered _ _ packets _ awaits returning =>
      cases packets with
      | nil => exact awaits.elim
      | cons packet packets => cases isInFlight

theorem InTurn.paired (inTurn : InTurn family dialogue outputs state) :
    Paired dialogue outputs state := by
  obtain ⟨before, head, after, hand, front, turn⟩ := inTurn
  refine ⟨⟨_, turn.account⟩, turn.unfailed, ?_, ?_⟩
  · intro idle
    obtain ⟨hand, front, turn⟩ := InTurn.accepting ⟨_, _, _, _, _, turn⟩ idle
    have account := turn.account
    rwa [turn.phase.front_eq.2] at account
  · intro idle allAnswered noneSent
    obtain ⟨hand, front, turn⟩ := InTurn.accepting ⟨_, _, _, _, _, turn⟩ idle
    have phase := turn.phase
    rw [allAnswered, noneSent] at phase
    exact phase.line_eq_nil

/-- In every run in which the program keeps to the dialogue and the server sends whole
responses, each packet is handed to the command whose request it answers. -/
theorem run_paired (conducts : dialogue.Conducts family) (listens : config.errorListener = true)
    {store : σ} (sound : dialogue.sound store []) {events : List (ExchangeEvent ω ι κ)}
    (permitted : Meets (step family dialogue config) (Permitted dialogue) (new store) events) :
    Paired dialogue (run (step family dialogue config) (new store) events).2
      (run (step family dialogue config) (new store) events).1 :=
  (permitted.invariant (InTurn family dialogue)
    (fun _ _ _ inTurn permitted => inTurn.step conducts listens permitted)
    (inTurn_new store sound)).paired

end Runs

end Exchange

end Mysql2.Connection

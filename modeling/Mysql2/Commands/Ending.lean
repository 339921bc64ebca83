import Mysql2.Commands.Callbacks
import Mysql2.Commands.Defaults
import Mysql2.Transition.Mealy

/-!
# How commands end

A command is run by calling `execute` for each packet until it returns `true`,
while timers and other functions outside it can run in between.  When it returns
`true`, a command with a callback has called it or scheduled the call, as long as
it never leaves on a packet that it does not expect.
-/

namespace Mysql2.Commands

open Mysql2.Connection
open Mysql2.Packets
open Mysql2.Transition

variable {V ρ γ : Type}

/-- Whether `execute` expects more packets, has returned `true`, or has thrown. -/
inductive Status
  | running
  | returned
  | threw
  deriving DecidableEq, Repr

/-- The status behind a call of `execute`. -/
def Status.of : Except JsError Bool → Status
  | .ok false => .running
  | .ok true => .returned
  | .error _ => .threw

/-- A command that a connection runs. -/
structure Running (V ρ γ : Type) where
  command : Command V ρ
  store : Store γ
  wire : Wire
  status : Status

/-- What happens to a command: `execute` is called, or something outside it
runs. -/
inductive CommandInput (V ρ : Type)
  | execute (behaviour : Behaviour V ρ) (view : View) (packet : Option Packet)
  | interrupt (function : Interrupt V ρ)

namespace Running

/-- One step of a command, up to its end. -/
def step (config : CommandConfig V γ) :
    Step (Running V ρ γ) (CommandInput V ρ) (CommandOutput ρ)
  | state, .execute behaviour view packet =>
      if state.status = .running then
        let outcome := state.command.execute config behaviour view state.store state.wire packet
        ({ command := outcome.command
           store := outcome.store
           wire := outcome.wire
           status := .of outcome.result },
          outcome.outputs)
      else
        (state, [])
  | state, .interrupt function =>
      if state.status = .running then
        let effect := runInterrupt config.cache function state.store state.wire
        ({ state with
          store := effect.store
          wire := effect.wire }, effect.outputs)
      else
        (state, [])

end Running

namespace Command

/-- The command leaves on the packet without a word. -/
def leaves (read : ReadConfig) (behaviour : Behaviour V ρ) (view : View)
    (command : Command V ρ) (packet : Packet) : Bool :=
  match command with
  | .resultSet command => !packet.isError && command.leaves read behaviour view packet
  | .prepare command => !packet.isError && command.leaves view packet
  | _ => false

/-- The timer of the command has fired. -/
def timedOut (command : Command V ρ) (store : Store γ) : Bool :=
  match command with
  | .resultSet command =>
      !command.atStart && command.timeout ≠ 0 && store.queryTimeout command.id = none
  | _ => false

/-- The callback of a query, execute or prepare command has been called or
scheduled.  The callback of the prepare command of `connection.execute` sets the
link of the execute command. -/
def Reported (command : Command V ρ) (store : Store γ) (outputs : List (CommandOutput ρ)) :
    Prop :=
  match command with
  | .resultSet command => 0 < replies command.id outputs
  | .prepare command =>
      match command.onResult with
      | .execute execute _ _ => store.links execute ≠ .unset
      | _ => 0 < replies command.id outputs
  | _ => True

end Command

namespace ResultSetCommand

/-- The command has a callback that is not called yet, unless its timer has fired
or its start has been replaced. -/
structure Waits (command : ResultSetCommand V ρ) (store : Store γ)
    (outputs : List (CommandOutput ρ)) : Prop where
  callback : command.onResult = true
  timedOut : command.atStart = false → command.timeout ≠ 0 →
    store.queryTimeout command.id = none → 0 < replies command.id outputs
  armed : command.atStart = false → command.timeout ≠ 0 →
    ∀ timer, store.queryTimeout command.id = some timer → timer.onResult = true
  skipped : command.atStart = true → command.statement = .linked →
    store.links command.id = .skip → 0 < replies command.id outputs

end ResultSetCommand

namespace Running

/-- The step does not hand a command a packet on which it leaves, unless its
timer has fired. -/
def Stays (read : ReadConfig) (state : Running V ρ γ) : CommandInput V ρ → Prop
  | .execute behaviour view packet =>
      packet.any (state.command.leaves read behaviour view) = true →
        state.command.timedOut state.store = true
  | .interrupt _ => True

instance (read : ReadConfig) (state : Running V ρ γ) :
    ∀ input : CommandInput V ρ, Decidable (Stays read state input)
  | .execute behaviour view packet =>
      inferInstanceAs (Decidable (packet.any (state.command.leaves read behaviour view) = true →
        state.command.timedOut state.store = true))
  | .interrupt _ => isTrue trivial

/-- The invariant of a run: a running command waits with its callback, and one
that has returned `true` has called it. -/
def Waits (earlier outputs : List (CommandOutput ρ)) (state : Running V ρ γ) : Prop :=
  match state.status with
  | .threw => True
  | .returned => state.command.Reported state.store (earlier ++ outputs)
  | .running =>
      match state.command with
      | .resultSet command => command.Waits state.store (earlier ++ outputs)
      | .prepare command => command.onResult ≠ .none
      | _ => True

end Running

namespace ResultSetCommand

theorem replies_pos_append {id : Nat} {outputs more : List (CommandOutput ρ)}
    (called : 0 < replies id outputs) : 0 < replies id (outputs ++ more) := by
  rw [replies_append]
  exact Nat.add_pos_left called _

/-- A call of `execute` that does not leave keeps a command waiting, or ends it
with a call of its callback. -/
theorem Waits.execute {command : ResultSetCommand V ρ} {store : Store γ}
    {outputs : List (CommandOutput ρ)} (waits : Waits command store outputs)
    {world : World (ResultSetCommand V ρ) V ρ γ} {failing leaving : Prop}
    (isNew : replies command.id world.outputs = 0) (isCommand : world.command = command)
    (isStore : world.store = store) (stays : leaving → command.atStart = false ∧ TimedOut world)
    {executed : World (ResultSetCommand V ρ) V ρ γ × Except JsError Bool}
    (executes : Executes world failing leaving executed)
    (kept : KeepsSettings command executed.1.command) :
    (executed.2 = .ok false → Waits executed.1.command executed.1.store
      (outputs ++ executed.1.outputs)) ∧
    (executed.2 = .ok true → 0 < replies command.id (outputs ++ executed.1.outputs)) := by
  subst isCommand isStore
  cases executes with
  | continues started hears timer =>
      refine ⟨fun _ => ?_, fun ended => absurd ended (by simp)⟩
      refine ⟨kept.onResult.trans waits.callback, ?_, ?_, ?_⟩
      · intro _ hasTimeout unarmed
        rw [kept.timeout] at hasTimeout
        rw [kept.id] at unarmed ⊢
        rw [timer] at unarmed
        split at unarmed
        · rw [setTimeout_queryTimeout, if_pos hasTimeout, Function.update_self] at unarmed
          contradiction
        · rename_i notStart
          exact replies_pos_append
            (waits.timedOut (Bool.eq_false_iff.mpr notStart) hasTimeout unarmed)
      · intro _ hasTimeout armedTimer isArmed
        rw [kept.timeout] at hasTimeout
        rw [kept.id, timer] at isArmed
        split at isArmed
        · rw [setTimeout_queryTimeout, if_pos hasTimeout, Function.update_self] at isArmed
          cases isArmed
          exact waits.callback
        · rename_i notStart
          exact waits.armed (Bool.eq_false_iff.mpr notStart) hasTimeout armedTimer isArmed
      · intro atStart
        rw [started] at atStart
        contradiction
  | throws err hears timer => exact ⟨fun ended => absurd ended (by simp), fun ended => absurd ended (by simp)⟩
  | silent hears reason =>
      refine ⟨fun ended => absurd ended (by simp), fun _ => ?_⟩
      have timedOut : world.command.atStart = false ∧ TimedOut world →
          0 < replies world.command.id outputs :=
        fun ⟨notStart, hasTimeout, unarmed⟩ => waits.timedOut notStart hasTimeout unarmed
      rcases reason waits.callback with hasTimedOut | ⟨atStart, isLinked, isSkipped⟩ | isLeaving
      · exact replies_pos_append (timedOut hasTimedOut)
      · exact replies_pos_append (waits.skipped atStart isLinked isSkipped)
      · exact replies_pos_append (timedOut (stays isLeaving))
  | replied hears callback reason =>
      refine ⟨fun ended => absurd ended (by simp), fun _ => ?_⟩
      rw [replies_append, hears.own, isNew]
      exact Nat.succ_pos _

/-- Functions outside the command keep it waiting. -/
theorem Waits.interrupt {command : ResultSetCommand V ρ} {store : Store γ}
    {outputs : List (CommandOutput ρ)} (waits : Waits command store outputs)
    (cache : StatementCache γ) (function : Interrupt V ρ) (wire : Wire) :
    Waits command (runInterrupt cache function store wire).store
      (outputs ++ (runInterrupt cache function store wire).outputs) := by
  have interrupts := interrupts_runInterrupt cache function store wire
  revert interrupts
  generalize (runInterrupt cache function store wire).store = after
  generalize (runInterrupt cache function store wire).outputs = more
  intro interrupts
  cases interrupts with
  | quiet timer links silent =>
      refine ⟨waits.callback, ?_, ?_, ?_⟩
      · intro started hasTimeout unarmed
        rw [timer] at unarmed
        exact replies_pos_append (waits.timedOut started hasTimeout unarmed)
      · intro started hasTimeout
        rw [timer]
        exact waits.armed started hasTimeout
      · intro atStart isLinked isSkipped
        rcases links command.id with same | ⟨isUnset, _⟩
        · rw [same] at isSkipped
          exact replies_pos_append (waits.skipped atStart isLinked isSkipped)
        · rw [isUnset] at isSkipped
          contradiction
  | fired isTimeout armed disarmed links heard others =>
      rename_i id calls timer
      refine ⟨waits.callback, ?_, ?_, ?_⟩
      · intro started hasTimeout unarmed
        rw [disarmed] at unarmed
        by_cases isOwn : command.id = id
        · subst isOwn
          rw [replies_append, heard, waits.armed started hasTimeout timer armed]
          exact Nat.succ_pos _
        · rw [Function.update_of_ne isOwn] at unarmed
          exact replies_pos_append (waits.timedOut started hasTimeout unarmed)
      · intro started hasTimeout other isArmed
        rw [disarmed] at isArmed
        by_cases isOwn : command.id = id
        · rw [isOwn, Function.update_self] at isArmed
          contradiction
        · rw [Function.update_of_ne isOwn] at isArmed
          exact waits.armed started hasTimeout other isArmed
      · intro atStart isLinked isSkipped
        rw [links] at isSkipped
        exact replies_pos_append (waits.skipped atStart isLinked isSkipped)

/-- `execute` of a command that waits. -/
theorem Waits.resultSet {command : ResultSetCommand V ρ} {store : Store γ} {wire : Wire}
    {earlier outputs : List (CommandOutput ρ)} (waits : Waits command store (earlier ++ outputs))
    (config : CommandConfig V γ) {behaviour : Behaviour V ρ} {view : View} {packet : Option Packet}
    (stays : Running.Stays config.read ⟨.resultSet command, store, wire, .running⟩
      (.execute behaviour view packet)) :
    Running.Waits earlier
      (outputs ++ (Running.step config ⟨.resultSet command, store, wire, .running⟩
        (.execute behaviour view packet)).2)
      (Running.step config ⟨.resultSet command, store, wire, .running⟩
        (.execute behaviour view packet)).1 := by
  let world : World (ResultSetCommand V ρ) V ρ γ := .new command store wire
  have executes := executes_execute config behaviour view world packet
  have kept := keepsSettings_execute config behaviour view world packet
  have ends := waits.execute rfl rfl rfl ?_ executes kept
  · change Running.Waits earlier
      (outputs ++ ((handlers config behaviour view).execute config.read world packet).1.outputs)
      ⟨.resultSet ((handlers config behaviour view).execute config.read world packet).1.command,
        ((handlers config behaviour view).execute config.read world packet).1.store,
        ((handlers config behaviour view).execute config.read world packet).1.wire,
        .of ((handlers config behaviour view).execute config.read world packet).2⟩
    revert ends kept
    generalize (handlers config behaviour view).execute config.read world packet = executed
    rcases executed with ⟨after, result⟩
    intro kept ends
    rw [Running.Waits, ← List.append_assoc]
    cases result with
    | error err => trivial
    | ok done =>
        cases done with
        | false => exact ends.1 rfl
        | true =>
            change 0 < replies after.command.id _
            rw [kept.id]
            exact ends.2 rfl
  · intro isLeaving
    have hasTimedOut := stays isLeaving
    simp only [Command.timedOut, Bool.and_eq_true, Bool.not_eq_true', decide_eq_true_eq] at hasTimedOut
    exact ⟨hasTimedOut.1.1, hasTimedOut.1.2, hasTimedOut.2⟩

end ResultSetCommand

namespace Prepare

/-- A call of `execute` that does not leave keeps the callback of a prepare
command, or calls it. -/
theorem Reports.ends {before after : World Prepare V ρ γ} {leaving : Prop}
    {result : Except JsError Bool} (reports : Reports before leaving after result)
    (callback : before.command.onResult ≠ .none) (stays : ¬ leaving)
    (isNew : replies before.command.id before.outputs = 0) (ended : result = .ok true) :
    match before.command.onResult with
    | .execute execute _ _ => after.store.links execute ≠ .unset
    | _ => 0 < replies before.command.id after.outputs := by
  cases reports with
  | continues hears links => cases ended
  | throws err hears links => cases ended
  | silent hears links reason => exact absurd (reason callback) stays
  | called called =>
      cases called with
      | caller isCaller hears =>
          rw [isCaller]
          change 0 < replies before.command.id after.outputs
          rw [hears.own, isNew]
          exact Nat.succ_pos _
      | linked isExecute hears info link =>
          rw [isExecute]
          change after.store.links _ ≠ _
          rw [link]
          simp
      | skipped isExecute hears link =>
          rw [isExecute]
          change after.store.links _ ≠ _
          rw [link]
          simp

end Prepare

namespace Running

variable {earlier outputs : List (CommandOutput ρ)} {state : Running V ρ γ}

theorem waits_prepare (config : CommandConfig V γ) {command : Prepare} {store : Store γ} {wire : Wire}
    {behaviour : Behaviour V ρ} {view : View} {packet : Option Packet}
    (callback : command.onResult ≠ .none)
    (stays : Stays config.read ⟨.prepare command, store, wire, .running⟩
      (.execute behaviour view packet)) :
    Waits earlier
      (outputs ++ (Running.step config ⟨.prepare command, store, wire, .running⟩
        (.execute behaviour view packet)).2)
      (Running.step config ⟨.prepare command, store, wire, .running⟩
        (.execute behaviour view packet)).1 := by
  let world : World Prepare V ρ γ := .new command store wire
  have reports := Prepare.reports_execute config view world packet
  have kept := Prepare.keepsSettings_execute config view world packet
  change Waits earlier
    (outputs ++ ((Prepare.handlers config view).execute config.read world packet).1.outputs)
    ⟨.prepare ((Prepare.handlers config view).execute config.read world packet).1.command,
      ((Prepare.handlers config view).execute config.read world packet).1.store,
      ((Prepare.handlers config view).execute config.read world packet).1.wire,
      .of ((Prepare.handlers config view).execute config.read world packet).2⟩
  revert reports kept
  generalize (Prepare.handlers config view).execute config.read world packet = executed
  rcases executed with ⟨after, result⟩
  intro reports kept
  rw [Waits]
  cases result with
  | error err => trivial
  | ok done =>
      cases done with
      | false =>
          change after.command.onResult ≠ .none
          rw [kept.2]
          exact callback
      | true =>
          have ends := reports.ends callback (fun isLeaving => by cases stays isLeaving) rfl rfl
          change Command.Reported (.prepare after.command) after.store _
          rw [Command.Reported]
          dsimp only
          rw [kept.1, kept.2, replies_append, replies_append]
          revert ends
          cases world.command.onResult with
          | execute execute onResult errorListener => exact fun isSet => isSet
          | _ => exact fun called => Nat.add_pos_right _ (Nat.add_pos_right _ called)

theorem Waits.step (config : CommandConfig V γ) (waits : Waits earlier outputs state)
    (input : CommandInput V ρ) (stays : Stays config.read state input) :
    Waits earlier (outputs ++ (step config state input).2) (step config state input).1 := by
  rcases state with ⟨command, store, wire, status⟩
  cases input with
  | interrupt function =>
      rw [Running.step]
      dsimp only
      split
      · rename_i isRunning
        cases isRunning
        cases command with
        | resultSet command =>
            have later := ResultSetCommand.Waits.interrupt waits config.cache function wire
            rwa [List.append_assoc] at later
        | prepare command => exact waits
        | _ => trivial
      · rwa [List.append_nil]
  | execute behaviour view packet =>
      rw [Running.step]
      dsimp only
      split
      · rename_i isRunning
        cases isRunning
        cases command with
        | resultSet command => exact waits.resultSet config stays
        | prepare command => exact waits_prepare config waits stays
        | _ =>
            rw [Waits]
            dsimp only
            split <;> trivial
      · rwa [List.append_nil]

end Running

/-- A query, execute or prepare command with a callback that has not been
executed.  `connection.execute` replaces the start of its execute command only
after it has called the callback. -/
structure Command.Fresh (command : Command V ρ) (store : Store γ)
    (earlier : List (CommandOutput ρ)) : Prop where
  callback : command.hasCallback = true
  unstarted : command.started = false
  skipReported : ∀ skipped, command = .resultSet skipped → skipped.statement = .linked →
    store.links skipped.id = .skip → 0 < replies skipped.id earlier

/-- Behind the prepare command of `connection.execute` the start of the execute
command has been replaced only if the callback has been called. -/
theorem ExecuteCall.fresh {call : ExecuteCall V} (callback : call.onResult = true)
    {before after : World Prepare V ρ γ} {errorListener : Bool} (called : Prepare.Called before after)
    (isExecute : before.command.onResult = .execute call.id true errorListener) :
    (call.executeCommand : Command V ρ).Fresh after.store after.outputs := by
  refine ⟨callback, rfl, ?_⟩
  rintro skipped ⟨⟩ _ isSkipped
  cases called with
  | caller isCaller hears =>
      rw [isExecute] at isCaller
      contradiction
  | linked isLinked hears info link =>
      rw [isExecute] at isLinked
      cases isLinked
      change after.store.links call.id = .skip at isSkipped
      rw [link] at isSkipped
      contradiction
  | skipped isLinked hears link =>
      rw [isExecute] at isLinked
      cases isLinked
      change 0 < replies call.id after.outputs
      rw [hears.own]
      exact Nat.succ_pos _

namespace Running

theorem waits_fresh {command : Command V ρ} {store : Store γ} {earlier : List (CommandOutput ρ)}
    (fresh : command.Fresh store earlier) (wire : Wire) :
    Waits earlier [] ⟨command, store, wire, .running⟩ := by
  cases command with
  | resultSet command =>
      have isStart : command.atStart = true := by
        have unstarted : command.next.isSome = false := fresh.unstarted
        rw [ResultSetCommand.atStart,
          Option.isNone_iff_eq_none.mp (Option.isSome_eq_false_iff.mp unstarted)]
        rfl
      refine ⟨fresh.callback, ?_, ?_, ?_⟩
      · intro started
        rw [isStart] at started
        contradiction
      · intro started
        rw [isStart] at started
        contradiction
      · intro _ isLinked isSkipped
        rw [List.append_nil]
        exact fresh.skipReported command rfl isLinked isSkipped
  | prepare command =>
      have callback : decide (command.onResult ≠ .none) = true := fresh.callback
      have isSet : command.onResult ≠ .none := of_decide_eq_true callback
      exact isSet
  | _ => trivial

/-- In a run of a command in which it never leaves on a packet, its callback has
been called or scheduled when `execute` has returned `true`. -/
theorem run_reported (config : CommandConfig V γ) {command : Command V ρ} {store : Store γ}
    {earlier : List (CommandOutput ρ)} (fresh : command.Fresh store earlier) (wire : Wire)
    {inputs : List (CommandInput V ρ)}
    (stays : Meets (step config) (Stays config.read) ⟨command, store, wire, .running⟩ inputs)
    (returned : (run (step config) ⟨command, store, wire, .running⟩ inputs).1.status = .returned) :
    (run (step config) ⟨command, store, wire, .running⟩ inputs).1.command.Reported
      (run (step config) ⟨command, store, wire, .running⟩ inputs).1.store
      (earlier ++ (run (step config) ⟨command, store, wire, .running⟩ inputs).2) := by
  have waits := stays.invariant (Waits earlier)
    (fun _ _ input holds condition => holds.step config input condition) (waits_fresh fresh wire)
  rw [List.nil_append, Waits, returned] at waits
  exact waits

/-- A query without a timeout. -/
def selectOne : Command JsValue Unit :=
  .resultSet (.new 1 .query (some "SELECT 1") .linked [] [] true false 0 false)

/-- An open connection whose `error` event has a listener. -/
def openView : View :=
  ⟨false, false, true⟩

/-- A packet with the given payload. -/
def received (payload : Bytes) : Packet :=
  .new 1 ([0, 0, 0, 0] ++ payload) 0 (4 + payload.length)

/-- The query is answered by an OK packet. -/
def okRun : List (CommandInput JsValue Unit) :=
  [.execute quiet openView none, .execute quiet openView (some (received [0, 0, 0, 2, 0, 0, 0]))]

theorem run_reported_ok :
    (run (step (defaultConfig false)) ⟨selectOne, .empty [], ⟨0, 0, []⟩, .running⟩
      okRun).1.command.Reported
        (run (step (defaultConfig false)) ⟨selectOne, .empty [], ⟨0, 0, []⟩, .running⟩ okRun).1.store
        ([] ++ (run (step (defaultConfig false)) ⟨selectOne, .empty [], ⟨0, 0, []⟩, .running⟩
          okRun).2) := by
  refine run_reported (defaultConfig false) ⟨rfl, rfl, ?_⟩ ⟨0, 0, []⟩ ?_ rfl
  · intro skipped _ _ isSkipped
    contradiction
  · decide

/-- The query is answered by a column, and an OK packet in place of the EOF
packet behind it. -/
def missingEOFRun : List (CommandInput JsValue Unit) :=
  [.execute quiet openView none,
    .execute quiet openView (some (received [1])),
    .execute quiet openView (some (received
      [3, 100, 101, 102, 0, 0, 0, 1, 97, 0, 12, 63, 0, 1, 0, 0, 0, 3, 0, 0, 0, 0, 0])),
    .execute quiet openView (some (received [0, 0, 0, 2, 0, 0, 0]))]

theorem missingEOF_not_reported :
    (run (step (defaultConfig false)) ⟨selectOne, .empty [], ⟨0, 0, []⟩, .running⟩
        missingEOFRun).1.status = .returned ∧
      ¬ (run (step (defaultConfig false)) ⟨selectOne, .empty [], ⟨0, 0, []⟩, .running⟩
        missingEOFRun).1.command.Reported
          (run (step (defaultConfig false)) ⟨selectOne, .empty [], ⟨0, 0, []⟩, .running⟩
            missingEOFRun).1.store
          (run (step (defaultConfig false)) ⟨selectOne, .empty [], ⟨0, 0, []⟩, .running⟩
            missingEOFRun).2 := by
  constructor
  · rfl
  · change ¬ 0 < 0
    simp

end Running

end Mysql2.Commands

import Mysql2.Commands.Frame

/-!
# Who is heard

A handler is heard only under the identity of its command, and touches only what
is kept under it.  A handler of a command with a callback that returns a next
state, or throws, has not called the callback.  One that returns no next state
has called or scheduled it once, except when the timer of the command has fired
before, when its start has been replaced, or when it leaves on a packet that it
does not expect.
-/

namespace Mysql2.Commands

open Mysql2.Connection
open Mysql2.Packets

variable {V ρ γ : Type}

/-- The command whose callback is called or scheduled. -/
def CommandOutput.repliesTo : CommandOutput ρ → Option Nat
  | .callback id _ => some id
  | .scheduled id _ => some id
  | _ => none

/-- How often the callback of a command has been called or scheduled. -/
def replies (id : Nat) (outputs : List (CommandOutput ρ)) : Nat :=
  outputs.countP fun output => output.repliesTo = some id

theorem replies_append (id : Nat) (outputs more : List (CommandOutput ρ)) :
    replies id (outputs ++ more) = replies id outputs + replies id more :=
  List.countP_append

namespace World

variable {α : Type}

/-- From `before` to `after` nobody is heard but the command `id`, its callback
`count` times. -/
structure Hears (id count : Nat) (before after : World α V ρ γ) : Prop where
  own : replies id after.outputs = replies id before.outputs + count
  others : ∀ other, other ≠ id → replies other after.outputs = replies other before.outputs
  links : ∀ other, other ≠ id → after.store.links other = before.store.links other
  queryTimeout : ∀ other, other ≠ id →
    after.store.queryTimeout other = before.store.queryTimeout other
  localStreamError : ∀ other, other ≠ id →
    after.store.localStreamError other = before.store.localStreamError other
  added : ∀ command ∈ after.added,
    command ∈ before.added ∨ ∃ info : PreparedStatementInfo, command = info.closeStatement

theorem Hears.refl (id : Nat) (world : World α V ρ γ) : Hears id 0 world world :=
  ⟨rfl, fun _ _ => rfl, fun _ _ => rfl, fun _ _ => rfl, fun _ _ => rfl, fun _ => Or.inl⟩

theorem Hears.trans {id first second : Nat} {before between after : World α V ρ γ}
    (left : Hears id first before between) (right : Hears id second between after) :
    Hears id (first + second) before after where
  own := by rw [right.own, left.own, Nat.add_assoc]
  others := fun other notId => (right.others other notId).trans (left.others other notId)
  links := fun other notId => (right.links other notId).trans (left.links other notId)
  queryTimeout := fun other notId =>
    (right.queryTimeout other notId).trans (left.queryTimeout other notId)
  localStreamError := fun other notId =>
    (right.localStreamError other notId).trans (left.localStreamError other notId)
  added := by
    intro command commandMem
    rcases right.added command commandMem with isOld | isClose
    · exact left.added command isOld
    · exact Or.inr isClose

/-- Nothing is shared or emitted: only the command and the wire change. -/
theorem Hears.of_same {id : Nat} {before after : World α V ρ γ}
    (outputs : after.outputs = before.outputs) (store : after.store = before.store)
    (added : after.added = before.added) : Hears id 0 before after := by
  constructor
  · rw [outputs]
    rfl
  · intro _ _
    rw [outputs]
  · intro _ _
    rw [store]
  · intro _ _
    rw [store]
  · intro _ _
    rw [store]
  · intro command commandMem
    rw [added] at commandMem
    exact Or.inl commandMem

theorem Hears.write {id count : Nat} {before after : World α V ρ γ}
    (hears : Hears id count before after) (wire : Wire) :
    Hears id count before { after with wire := wire } :=
  ⟨hears.own, hears.others, hears.links, hears.queryTimeout, hears.localStreamError, hears.added⟩

theorem hears_emit {id : Nat} (world : World α V ρ γ) {output : CommandOutput ρ}
    (isReply : output.repliesTo = some id) : Hears id 1 world (world.emit output) := by
  refine ⟨?_, ?_, fun _ _ => rfl, fun _ _ => rfl, fun _ _ => rfl, fun _ => Or.inl⟩
  · rw [emit, replies_append]
    simp [replies, isReply]
  · intro other notId
    rw [emit, replies_append]
    simp [replies, isReply, notId.symm]

theorem hears_emit_silent (id : Nat) (world : World α V ρ γ) {output : CommandOutput ρ}
    (notReply : output.repliesTo = none) : Hears id 0 world (world.emit output) := by
  refine ⟨?_, ?_, fun _ _ => rfl, fun _ _ => rfl, fun _ _ => rfl, fun _ => Or.inl⟩
  · rw [emit, replies_append]
    simp [replies, notReply]
  · intro other _
    rw [emit, replies_append]
    simp [replies, notReply]

theorem hears_writeRequest (id : Nat) (world : World α V ρ γ) (sender : Nat) (request : Request)
    (packet : Packet) : Hears id 0 world (world.writeRequest sender request packet) := by
  refine ⟨?_, ?_, fun _ _ => rfl, fun _ _ => rfl, fun _ _ => rfl, fun _ => Or.inl⟩
  · rw [writeRequest, replies_append]
    rfl
  · intro other _
    rw [writeRequest, replies_append]
    rfl

theorem hears_emitError {τ : Type} (id : Nat) (world : World α V ρ γ) (sender : Nat)
    (errorListener : Bool) (err : JsError) (returns : τ) :
    Hears id 0 world (world.emitError sender errorListener err returns).1 := by
  rw [emitError]
  split
  · exact hears_emit_silent id world rfl
  · exact .refl id world

theorem hears_protocolError {τ : Type} (id : Nat) (world : World α V ρ γ) (view : View)
    (message : String) :
    Hears id 0 world
      (world.protocolError view message : World α V ρ γ × Except JsError (Option τ)).1 := by
  unfold protocolError
  dsimp only
  split
  · exact .refl id world
  · split
    · exact hears_emit_silent id world rfl
    · exact .refl id world

theorem protocolError_result {τ : Type} (world : World α V ρ γ) (view : View)
    (message : String) :
    (world.protocolError view message : World α V ρ γ × Except JsError (Option τ)).2 =
      if view.closing || view.errorListener then .ok none
      else .error (BaseConnection.protocolErrorOf message none) := by
  unfold protocolError
  cases view.closing <;> cases view.errorListener <;> rfl

theorem protocolError_store {τ : Type} (world : World α V ρ γ) (view : View)
    (message : String) :
    (world.protocolError view message : World α V ρ γ × Except JsError (Option τ)).1.store =
      world.store := by
  unfold protocolError
  cases view.closing <;> cases view.errorListener <;> rfl

theorem hears_closeEvicted (id : Nat) (world : World α V ρ γ) (view : View)
    (evicted : List PreparedStatementInfo) :
    Hears id 0 world (world.closeEvicted view evicted).1 := by
  rw [closeEvicted]
  split
  · exact .refl id world
  · refine ⟨rfl, fun _ _ => rfl, fun _ _ => rfl, fun _ _ => rfl, fun _ _ => rfl, ?_⟩
    intro command commandMem
    rcases List.mem_append.mp commandMem with isOld | isNew
    · exact Or.inl isOld
    · rcases List.mem_map.mp isNew with ⟨info, _, infoEq⟩
      exact Or.inr ⟨info, infoEq.symm⟩

theorem closeEvicted_store (world : World α V ρ γ) (view : View)
    (evicted : List PreparedStatementInfo) :
    (world.closeEvicted view evicted).1.store = world.store := by
  rw [closeEvicted]
  split <;> rfl

end World

open World

/-! ## Commands with result sets -/

namespace ResultSetCommand

/-- The timer of the command has fired. -/
def TimedOut (world : World (ResultSetCommand V ρ) V ρ γ) : Prop :=
  world.command.timeout ≠ 0 ∧ world.store.queryTimeout world.command.id = none

/-- The start of the command has been replaced by one that returns `null`. -/
def Skipped (world : World (ResultSetCommand V ρ) V ρ γ) : Prop :=
  world.command.statement = .linked ∧ world.store.links world.command.id = .skip

/-- The packet is a row that the row parser rejects. -/
def rowFails (behaviour : Behaviour V ρ) (command : ResultSetCommand V ρ) (packet : Packet) :
    Bool :=
  match command.next, parseRow behaviour command packet with
  | some .row, .error _ => !packet.isEOF
  | _, _ => false

/-- The handler leaves on the packet without a word: it expects an EOF packet, or
the packet is a LOCAL INFILE request to an execute command. -/
def leaves (read : ReadConfig) (behaviour : Behaviour V ρ) (view : View)
    (command : ResultSetCommand V ρ) (packet : Packet) : Bool :=
  match command.next, command.protocol with
  | some .fieldsEOF, _ => !packet.isEOF && (view.closing || view.errorListener)
  | some .resultsetHeader, .execute =>
      match ResultSetHeader.read read packet with
      | .ok (.infile path, _) => !command.streamFactory || (behaviour.openStream path).toBool
      | _ => false
  | _, _ => false

/-- What a handler returns, and how often it has called the callback. -/
inductive Reports (before : World (ResultSetCommand V ρ) V ρ γ) (failing leaving : Prop) :
    Handled V ρ γ → Prop
  | continues {after : World (ResultSetCommand V ρ) V ρ γ} (next : ResultSetState)
      (notStart : next ≠ .start) (hears : Hears before.command.id 0 before after)
      (timer : after.store.queryTimeout = before.store.queryTimeout) :
      Reports before failing leaving (after, .ok (some next))
  | throws {after : World (ResultSetCommand V ρ) V ρ γ} (err : JsError)
      (hears : Hears before.command.id 0 before after)
      (timer : before.command.onResult = true →
        after.store.queryTimeout = before.store.queryTimeout) :
      Reports before failing leaving (after, .error err)
  | silent {after : World (ResultSetCommand V ρ) V ρ γ}
      (hears : Hears before.command.id 0 before after)
      (reason : before.command.onResult = true → TimedOut before ∨ leaving) :
      Reports before failing leaving (after, .ok none)
  | replied {after : World (ResultSetCommand V ρ) V ρ γ}
      (hears : Hears before.command.id 1 before after)
      (callback : before.command.onResult = true) (reason : TimedOut before → failing) :
      Reports before failing leaving (after, .ok none)

variable {before between : World (ResultSetCommand V ρ) V ρ γ} {failing leaving : Prop}
  {handled : Handled V ρ γ}

/-- A handler that hands on to another one. -/
theorem Reports.handOn (reports : Reports between failing leaving handled)
    (id : between.command.id = before.command.id)
    (onResult : between.command.onResult = before.command.onResult)
    (timeout : between.command.timeout = before.command.timeout)
    (hears : Hears before.command.id 0 before between)
    (timer : between.store.queryTimeout = before.store.queryTimeout) :
    Reports before failing leaving handled := by
  have timedOut : TimedOut between ↔ TimedOut before := by
    rw [TimedOut, TimedOut, timeout, id, timer]
  cases reports with
  | continues next notStart later laterTimer =>
      rw [id] at later
      exact .continues next notStart (hears.trans later) (laterTimer.trans timer)
  | throws err later laterTimer =>
      rw [id] at later
      rw [onResult] at laterTimer
      exact .throws err (hears.trans later) fun callback => (laterTimer callback).trans timer
  | silent later reason =>
      rw [id] at later
      rw [onResult, timedOut] at reason
      exact .silent (hears.trans later) reason
  | replied later callback reason =>
      rw [id] at later
      rw [onResult] at callback
      rw [timedOut] at reason
      have both := hears.trans later
      rw [Nat.zero_add] at both
      exact .replied both callback reason

theorem hears_clearTimeout (world : World (ResultSetCommand V ρ) V ρ γ) :
    Hears world.command.id 0 world (clearTimeout world) := by
  refine ⟨rfl, fun _ _ => rfl, fun _ _ => rfl, ?_, fun _ _ => rfl, fun _ => Or.inl⟩
  intro other notId
  exact Function.update_of_ne notId none world.store.queryTimeout

theorem setTimeout_queryTimeout (world : World (ResultSetCommand V ρ) V ρ γ) :
    (setTimeout world).store.queryTimeout =
      if world.command.timeout ≠ 0 then
        Function.update world.store.queryTimeout world.command.id
          (some ⟨world.command.onResult, world.command.errorListener⟩)
      else
        world.store.queryTimeout := by
  unfold setTimeout
  dsimp only
  split <;> rfl

theorem hears_setTimeout (world : World (ResultSetCommand V ρ) V ρ γ) :
    Hears world.command.id 0 world (setTimeout world) := by
  unfold setTimeout
  dsimp only
  split
  · refine ⟨rfl, fun _ _ => rfl, fun _ _ => rfl, ?_, fun _ _ => rfl, fun _ => Or.inl⟩
    intro other notId
    exact Function.update_of_ne notId _ world.store.queryTimeout
  · exact .refl _ world

theorem hears_setLocalStreamError (world : World (ResultSetCommand V ρ) V ρ γ) (err : JsError) :
    Hears world.command.id 0 world (setLocalStreamError world err) := by
  refine ⟨rfl, fun _ _ => rfl, fun _ _ => rfl, fun _ _ => rfl, ?_, fun _ => Or.inl⟩
  intro other notId
  exact Function.update_of_ne notId _ world.store.localStreamError

/-- Reporting an error calls a callback once. -/
theorem hears_reportError {τ : Type} (world : World (ResultSetCommand V ρ) V ρ γ) (err : JsError)
    (returns : τ) :
    Hears world.command.id (if world.command.onResult then 1 else 0) world
        (reportError world err returns).1 ∧
      ((reportError world err returns).2 = .ok returns ∨
        world.command.onResult = false ∧ (reportError world err returns).2 = .error err) := by
  unfold reportError
  dsimp only
  split
  · exact ⟨hears_emit world rfl, Or.inl rfl⟩
  · rename_i silent
    refine ⟨hears_emitError _ _ _ _ _ _, ?_⟩
    rw [emitError]
    split
    · exact Or.inl rfl
    · exact Or.inr ⟨Bool.eq_false_iff.mpr silent, rfl⟩

theorem reports_reportError (err : JsError) (same : between.command = before.command)
    (hears : Hears before.command.id 0 before between) (reason : TimedOut before → failing) :
    Reports before failing leaving (reportError between err none) := by
  rcases hears_reportError between err (none : Option ResultSetState) with ⟨reported, result⟩
  rw [same] at reported result
  have both := hears.trans reported
  rw [Nat.zero_add] at both
  cases reportedEq : reportError between err (none : Option ResultSetState) with
  | mk after returned =>
      rw [reportedEq] at both result
      by_cases callback : before.command.onResult = true
      · rw [if_pos callback] at both
        rcases result with returns | throws
        · cases returns
          exact .replied both callback reason
        · rw [callback] at throws
          exact absurd throws.1 (by simp)
      · rw [if_neg callback] at both
        rcases result with returns | throws
        · cases returns
          exact .silent both fun isSet => absurd isSet callback
        · cases throws.2
          exact .throws _ both fun isSet => absurd isSet callback

theorem reports_done (world : World (ResultSetCommand V ρ) V ρ γ) :
    Reports world failing leaving (done world) := by
  unfold done
  dsimp only
  split
  · rename_i timedOut
    exact .silent (.refl _ world) fun _ => Or.inl timedOut
  · rename_i notTimedOut
    have cleared := hears_clearTimeout world
    split
    · rename_i callback
      have both := cleared.trans (hears_emit (clearTimeout world)
        (show (CommandOutput.scheduled world.command.id (.results world.command.results) :
          CommandOutput ρ).repliesTo = some world.command.id from rfl))
      exact .replied both callback fun timedOut => absurd timedOut notTimedOut
    · rename_i silent
      exact .silent cleared fun callback => absurd callback silent

theorem reports_doneInsert (world : World (ResultSetCommand V ρ) V ρ γ)
    (rs : Option ResultSetHeader)
    (reason : world.store.localStreamError world.command.id ≠ none → failing) :
    Reports world failing leaving (doneInsert world rs) := by
  unfold doneInsert
  split
  · rename_i err localError
    refine reports_reportError err rfl (.refl _ world) fun _ => reason ?_
    rw [localError]
    simp
  · exact .throws _ (.refl _ world) fun _ => rfl
  · rename_i header _
    dsimp only
    have stored : Hears world.command.id 0 world
        ((({ world with
          command := { world.command with
            rows := world.command.rows ++ [ResultRows.header header]
            fields := world.command.fields ++ [none] } } : World _ V ρ γ).emit
              (.event world.command.id (.fields none))).emit
                (.event world.command.id (.header header))) := by
      refine Hears.trans (Hears.trans (.of_same ?_ ?_ ?_) (hears_emit_silent _ _ rfl))
        (hears_emit_silent _ _ rfl)
      · rfl
      · rfl
      · rfl
    split
    · refine .continues _ nofun (stored.trans (.of_same ?_ ?_ ?_)) rfl
      · rfl
      · rfl
      · rfl
    · exact (reports_done _).handOn rfl rfl rfl stored rfl

/-- An execute command has no handler for the answer to the contents of a
file. -/
theorem reports_streamLocalInfile (behaviour : Behaviour V ρ)
    (world : World (ResultSetCommand V ρ) V ρ γ) (path : String)
    (leave : world.command.protocol = .execute →
      (!world.command.streamFactory || (behaviour.openStream path).toBool) = true → leaving) :
    Reports world failing leaving (streamLocalInfile behaviour world path) := by
  unfold streamLocalInfile
  dsimp only
  split
  · cases openedEq : behaviour.openStream path with
    | error err => exact .throws _ (.of_same rfl rfl rfl) fun _ => rfl
    | ok _ =>
        cases protocolEq : world.command.protocol with
        | query => exact .continues _ nofun (.of_same rfl rfl rfl) rfl
        | execute =>
            refine .silent (.of_same rfl rfl rfl) fun _ => Or.inr (leave protocolEq ?_)
            rw [openedEq]
            exact Bool.or_true _
  · rename_i noFactory
    have wrote := (hears_setLocalStreamError world (noStreamFactoryError path)).write
      (writePacket world.wire createEmptyPacket)
    cases protocolEq : world.command.protocol with
    | query => exact .continues _ nofun wrote rfl
    | execute =>
        refine .silent wrote fun _ => Or.inr (leave protocolEq ?_)
        rw [Bool.eq_false_iff.mpr noFactory]
        rfl

theorem reports_resultsetHeader (config : CommandConfig V γ) (behaviour : Behaviour V ρ)
    (view : View) (world : World (ResultSetCommand V ρ) V ρ γ) (packet : Packet)
    (state : world.command.next = some .resultsetHeader) :
    Reports world (world.store.localStreamError world.command.id ≠ none)
      (leaves config.read behaviour view world.command packet = true)
      (resultsetHeader config behaviour world packet) := by
  unfold resultsetHeader
  split
  · exact .throws _ (.refl _ world) fun _ => rfl
  · rename_i path rest headerEq
    refine (reports_streamLocalInfile behaviour _ path ?_).handOn rfl rfl rfl
       (.of_same rfl rfl rfl) rfl
    intro isExecute opens
    rw [leaves, state, show world.command.protocol = .execute from isExecute, headerEq]
    exact opens
  · refine (reports_doneInsert _ _ ?_).handOn rfl rfl rfl
      (.of_same rfl rfl rfl) rfl
    exact fun failed => failed
  · dsimp only
    split
    · refine (reports_doneInsert _ _ ?_).handOn rfl rfl rfl
        (.of_same rfl rfl rfl) rfl
      exact fun failed => failed
    · exact .continues _ nofun (.of_same rfl rfl rfl) rfl

theorem reports_buildParser (behaviour : Behaviour V ρ)
    (world : World (ResultSetCommand V ρ) V ρ γ) (fields : List ColumnDefinition)
    (next : ResultSetState) (notStart : next ≠ .start) :
    Reports world failing leaving (buildParser behaviour world fields next) := by
  unfold buildParser
  split
  · exact .throws _ (.refl _ world) fun _ => rfl
  · exact .continues next notStart (.of_same rfl rfl rfl) rfl

theorem reports_queryReadField (config : CommandConfig V γ) (behaviour : Behaviour V ρ)
    (world : World (ResultSetCommand V ρ) V ρ γ) (packet : Packet) :
    Reports world failing leaving (queryReadField config behaviour world packet) := by
  unfold queryReadField
  dsimp only
  split
  · exact .throws _ (.of_same rfl rfl rfl) fun _ => rfl
  · split
    · exact .throws _ (.of_same rfl rfl rfl) fun _ => rfl
    · split
      · refine (reports_buildParser behaviour _ _ .fieldsEOF nofun).handOn rfl rfl rfl
           ?_ rfl
        refine Hears.trans (Hears.of_same ?_ ?_ ?_) (hears_emit_silent _ _ rfl)
        · rfl
        · rfl
        · rfl
      · exact .continues _ nofun (.of_same rfl rfl rfl) rfl

theorem reports_executeReadField (config : CommandConfig V γ)
    (world : World (ResultSetCommand V ρ) V ρ γ) (packet : Packet) :
    Reports world failing leaving (executeReadField config world packet) := by
  unfold executeReadField
  split
  · exact .throws _ (.refl _ world) fun _ => rfl
  · dsimp only
    split
    · exact .throws _ (.of_same rfl rfl rfl) fun _ => rfl
    · split
      · refine .continues _ nofun (Hears.trans (Hears.of_same ?_ ?_ ?_) (hears_emit_silent _ _ rfl)) rfl
        · rfl
        · rfl
        · rfl
      · exact .continues _ nofun (.of_same rfl rfl rfl) rfl

theorem reports_protocolError (view : View) (world : World (ResultSetCommand V ρ) V ρ γ)
    (message : String) (leave : (view.closing || view.errorListener) = true → leaving) :
    Reports world failing leaving (world.protocolError view message) := by
  have hears := hears_protocolError (τ := ResultSetState) world.command.id world view message
  have result := protocolError_result (τ := ResultSetState) world view message
  have same := protocolError_store (τ := ResultSetState) world view message
  cases errorEq : (world.protocolError view message :
      World _ V ρ γ × Except JsError (Option ResultSetState)) with
  | mk after returned =>
      rw [errorEq] at hears result same
      split at result
      · rename_i listened
        cases result
        exact .silent hears fun _ => Or.inr (leave listened)
      · cases result
        exact .throws _ hears fun _ => congrArg Store.queryTimeout same

theorem reports_fieldsEOF (read : ReadConfig) (behaviour : Behaviour V ρ) (view : View)
    (world : World (ResultSetCommand V ρ) V ρ γ) (packet : Packet)
    (state : world.command.next = some .fieldsEOF) (notEOF : packet.isEOF = false) :
    Reports world failing (leaves read behaviour view world.command packet = true)
      (world.protocolError view "Expected EOF packet") := by
  apply reports_protocolError
  intro listened
  rw [leaves, state, notEOF]
  exact listened

theorem reports_row (behaviour : Behaviour V ρ) (world : World (ResultSetCommand V ρ) V ρ γ)
    (packet : Packet) (state : world.command.next = some .row) :
    Reports world (rowFails behaviour world.command packet = true) leaving
      (row behaviour world packet) := by
  unfold row
  dsimp only
  split
  · split
    · exact .throws _ (.refl _ world) fun _ => rfl
    · split
      · exact .continues _ nofun (.of_same rfl rfl rfl) rfl
      · exact reports_done world
  · rename_i notEOF
    have ran : Hears world.command.id 0 world
        ({ world with userCode := true } : World _ V ρ γ) :=
      .of_same rfl rfl rfl
    split
    · rename_i err parseEq
      have fails : rowFails behaviour world.command packet = true := by
        rw [rowFails, state, parseEq, Bool.eq_false_iff.mpr notEOF]
        rfl
      have failed := ran.trans (hears_setLocalStreamError { world with userCode := true } err)
      exact (reports_doneInsert _ _ fun _ => fails).handOn rfl rfl rfl
        failed rfl
    · split
      · split
        · exact .throws _ ran fun _ => rfl
        · exact .continues _ nofun (.of_same rfl rfl rfl) rfl
      · exact .continues _ nofun (ran.trans (hears_emit_silent _ _ rfl)) rfl

theorem reports_infileOk (config : CommandConfig V γ)
    (world : World (ResultSetCommand V ρ) V ρ γ) (packet : Packet) :
    Reports world (world.store.localStreamError world.command.id ≠ none) leaving
      (infileOk config world packet) := by
  unfold infileOk
  split
  · exact .throws _ (.refl _ world) fun _ => rfl
  · exact reports_doneInsert world _ fun failed => failed

theorem Reports.mono {failing' leaving' : Prop} (reports : Reports before failing leaving handled)
    (fails : failing → failing') (leaves : leaving → leaving') :
    Reports before failing' leaving' handled := by
  cases reports with
  | continues next notStart hears timer => exact .continues next notStart hears timer
  | throws err hears timer => exact .throws err hears timer
  | silent hears reason => exact .silent hears fun callback => (reason callback).imp_right leaves
  | replied hears callback reason => exact .replied hears callback (fails ∘ reason)

/-- The handler reports an error of a local file or of the row parser. -/
def Failing (behaviour : Behaviour V ρ) (world : World (ResultSetCommand V ρ) V ρ γ)
    (packet : Option Packet) : Prop :=
  world.store.localStreamError world.command.id ≠ none ∨
    packet.any (rowFails behaviour world.command) = true

/-- A handler other than the start. -/
theorem reports_handle (config : CommandConfig V γ) (behaviour : Behaviour V ρ) (view : View)
    (world : World (ResultSetCommand V ρ) V ρ γ) (packet : Option Packet)
    {state : ResultSetState} (current : world.command.next = some state)
    (notStart : state ≠ .start) :
    Reports world (Failing behaviour world packet)
      (packet.any (leaves config.read behaviour view world.command) = true)
      (handle config behaviour view world packet) := by
  unfold handle
  rw [current, Option.getD_some]
  cases packet with
  | none =>
      cases state with
      | start => exact absurd rfl notStart
      | _ => exact .throws _ (.refl _ world) fun _ => rfl
  | some packet =>
      cases state with
      | start => exact absurd rfl notStart
      | resultsetHeader =>
          exact (reports_resultsetHeader config behaviour view world packet current).mono
            Or.inl fun isLeaving => isLeaving
      | readField =>
          cases world.command.protocol with
          | query => exact reports_queryReadField config behaviour world packet
          | execute => exact reports_executeReadField config world packet
      | fieldsEOF =>
          cases protocolEq : world.command.protocol with
          | query =>
              dsimp only
              unfold queryFieldsEOF
              split
              · exact .continues _ nofun (.refl _ world) rfl
              · rename_i notEOF
                exact reports_fieldsEOF config.read behaviour view world packet current
                  (Bool.eq_false_iff.mpr notEOF)
          | execute =>
              dsimp only
              unfold executeFieldsEOF
              split
              · split
                · exact .throws _ (.refl _ world) fun _ => rfl
                · exact reports_buildParser behaviour world _ .row nofun
              · rename_i notEOF
                exact reports_fieldsEOF config.read behaviour view world packet current
                  (Bool.eq_false_iff.mpr notEOF)
      | row => exact (reports_row behaviour world packet current).mono Or.inr fun failed => failed
      | infileOk =>
          exact (reports_infileOk config world packet).mono Or.inl fun failed => failed

theorem not_timedOut_setTimeout (world : World (ResultSetCommand V ρ) V ρ γ) :
    ¬ TimedOut (setTimeout world) := by
  rintro ⟨hasTimeout, unarmed⟩
  rw [setTimeout_command] at hasTimeout unarmed
  rw [setTimeout_queryTimeout, if_pos hasTimeout, Function.update_self] at unarmed
  contradiction

theorem handle_skipped (config : CommandConfig V γ) (behaviour : Behaviour V ρ) (view : View)
    (world : World (ResultSetCommand V ρ) V ρ γ) (packet : Option Packet)
    (isStart : world.command.next.getD .start = .start)
    (isExecute : world.command.protocol = .execute) (skipped : Skipped world) :
    handle config behaviour view world packet = (world, .ok none) := by
  unfold handle
  rw [isStart, isExecute]
  exact if_pos skipped

/-- The start, unless `connection.execute` has replaced it. -/
theorem reports_start (config : CommandConfig V γ) (behaviour : Behaviour V ρ) (view : View)
    (world : World (ResultSetCommand V ρ) V ρ γ) (packet : Option Packet)
    (atStart : world.command.next.getD .start = .start)
    (notSkipped : world.command.protocol = .execute → ¬ Skipped world) :
    Reports (setTimeout world) False False (handle config behaviour view world packet) := by
  have armed := not_timedOut_setTimeout world
  unfold handle
  rw [atStart]
  cases protocolEq : world.command.protocol with
  | query =>
      dsimp only
      unfold queryStart
      dsimp only
      split
      · exact .throws _ (.refl _ _) fun _ => rfl
      · exact .continues _ nofun (hears_writeRequest _ _ _ _ _) rfl
  | execute =>
      dsimp only
      unfold executeStart
      rw [if_neg (show ¬ (_ ∧ _) from notSkipped protocolEq)]
      dsimp only
      split
      · exact .throws _ (.refl _ _) fun _ => rfl
      · split
        · exact reports_reportError _ rfl (hears_clearTimeout _) armed
        · exact .continues _ nofun (hears_writeRequest _ _ _ _ _) rfl

/-- The next handler is the start. -/
def atStart (command : ResultSetCommand V ρ) : Bool :=
  command.next.getD .start = .start

/-- What `execute` returns, and how often it has called the callback. -/
inductive Executes (before : World (ResultSetCommand V ρ) V ρ γ) (failing leaving : Prop) :
    World (ResultSetCommand V ρ) V ρ γ × Except JsError Bool → Prop
  | continues {after : World (ResultSetCommand V ρ) V ρ γ}
      (started : after.command.atStart = false) (hears : Hears before.command.id 0 before after)
      (timer : after.store.queryTimeout =
        (if before.command.atStart then setTimeout before else before).store.queryTimeout) :
      Executes before failing leaving (after, .ok false)
  | throws {after : World (ResultSetCommand V ρ) V ρ γ} (err : JsError)
      (hears : Hears before.command.id 0 before after)
      (timer : before.command.onResult = true → before.command.atStart = false →
        after.store.queryTimeout = before.store.queryTimeout) :
      Executes before failing leaving (after, .error err)
  | silent {after : World (ResultSetCommand V ρ) V ρ γ}
      (hears : Hears before.command.id 0 before after)
      (reason : before.command.onResult = true →
        before.command.atStart = false ∧ TimedOut before ∨
          before.command.atStart = true ∧ Skipped before ∨ leaving) :
      Executes before failing leaving (after, .ok true)
  | replied {after : World (ResultSetCommand V ρ) V ρ γ}
      (hears : Hears before.command.id 1 before after)
      (callback : before.command.onResult = true)
      (reason : before.command.atStart = false → TimedOut before → failing) :
      Executes before failing leaving (after, .ok true)

/-- `this.next` is set, and `end` is emitted. -/
theorem hears_advance {id count : Nat} {after : World (ResultSetCommand V ρ) V ρ γ}
    (hears : Hears id count before after) (next : Option ResultSetState) :
    Hears id count before (advance (after, .ok next)).1 := by
  have set : Hears id 0 after { after with command := { after.command with next := next } } :=
    .of_same rfl rfl rfl
  rw [advance]
  dsimp only
  split
  · exact hears.trans set
  · exact hears.trans (set.trans (hears_emit_silent id _ rfl))

/-- A handler other than the start is executed. -/
theorem Reports.executes (reports : Reports before failing leaving handled)
    (notStart : before.command.atStart = false) :
    Executes before failing leaving
      ((advance handled).1, (advance handled).2.map fun continues => !continues) := by
  cases reports with
  | continues next nextNotStart hears timer =>
      refine .continues (decide_eq_false nextNotStart) (hears_advance hears (some next)) ?_
      rw [notStart]
      exact timer
  | throws err hears timer => exact .throws err hears fun callback _ => timer callback
  | silent hears reason =>
      refine .silent (hears_advance hears none) fun callback => ?_
      rcases reason callback with timedOut | isLeaving
      · exact Or.inl ⟨notStart, timedOut⟩
      · exact Or.inr (Or.inr isLeaving)
  | replied hears callback reason =>
      exact .replied (hears_advance hears none) callback fun _ => reason

/-- The start is executed. -/
theorem Reports.executes_start (reports : Reports (setTimeout before) False False handled)
    (isStart : before.command.atStart = true) :
    Executes before failing leaving
      ((advance handled).1, (advance handled).2.map fun continues => !continues) := by
  have set := hears_setTimeout before
  have armed := not_timedOut_setTimeout before
  cases reports with
  | continues next nextNotStart hears timer =>
      rw [setTimeout_command] at hears
      refine .continues (decide_eq_false nextNotStart) (hears_advance (set.trans hears) (some next)) ?_
      rw [isStart, if_pos rfl]
      exact timer
  | throws err hears timer =>
      rw [setTimeout_command] at hears
      refine .throws err (set.trans hears) fun _ notStart => ?_
      rw [isStart] at notStart
      contradiction
  | silent hears reason =>
      rw [setTimeout_command] at hears reason
      refine .silent (hears_advance (set.trans hears) none) fun callback => ?_
      rcases reason callback with timedOut | isLeaving
      · exact absurd timedOut armed
      · exact isLeaving.elim
  | replied hears callback reason =>
      rw [setTimeout_command] at hears callback
      have both := set.trans hears
      rw [Nat.zero_add] at both
      refine .replied (hears_advance both none) callback fun notStart _ => ?_
      rw [isStart] at notStart
      contradiction

/-- An ERR packet is reported. -/
theorem executes_fail (world : World (ResultSetCommand V ρ) V ρ γ) (err : JsError)
    (reason : failing) :
    Executes world failing leaving ((fail world err).1, (fail world err).2.map fun _ => true) := by
  rcases hears_reportError (clearTimeout world) err () with ⟨reported, result⟩
  rw [clearTimeout_command] at reported result
  have both := (hears_clearTimeout world).trans reported
  rw [Nat.zero_add] at both
  rw [fail]
  cases reportedEq : reportError (clearTimeout world) err () with
  | mk after returned =>
      rw [reportedEq] at both result
      rcases result with returns | throws
      · cases returns
        have ended := both.trans (hears_emit_silent _ after
          (show (CommandOutput.event after.command.id .finished :
            CommandOutput ρ).repliesTo = none from rfl))
        by_cases callback : world.command.onResult = true
        · rw [if_pos callback] at ended
          exact .replied ended callback fun _ _ => reason
        · rw [if_neg callback] at ended
          exact .silent ended fun isSet => absurd isSet callback
      · rw [throws.1] at both
        cases throws.2
        refine .throws _ both fun isSet => ?_
        rw [throws.1] at isSet
        contradiction

/-- What `begin` sets does not matter to the callback. -/
theorem Executes.of_begin {view : View} {config : CommandConfig V γ} {behaviour : Behaviour V ρ}
    {executed : World (ResultSetCommand V ρ) V ρ γ × Except JsError Bool}
    (executes : Executes ((handlers config behaviour view).begin before) failing leaving executed) :
    Executes before failing leaving executed := by
  revert executes
  rw [Handlers.begin]
  split
  · exact fun executes => executes
  · rename_i unstarted
    have isStart : before.command.atStart = true := by
      rw [atStart, Option.not_isSome_iff_eq_none.mp unstarted]
      rfl
    intro executes
    have begun : Hears before.command.id 0 before
        { before with
          command := { before.command with next := some .start }
          wire := before.wire.resetSequenceId } := .of_same rfl rfl rfl
    cases executes with
    | continues started hears timer =>
        refine .continues started (begun.trans hears) (timer.trans ?_)
        rw [isStart, if_pos rfl, show atStart _ = true from rfl, if_pos rfl]
        rw [setTimeout_queryTimeout, setTimeout_queryTimeout]
        rfl
    | throws err hears timer =>
        refine .throws err (begun.trans hears) fun _ notStart => ?_
        rw [isStart] at notStart
        contradiction
    | silent hears reason =>
        refine .silent (begun.trans hears) fun callback => ?_
        rcases reason callback with ⟨notStart, _⟩ | ⟨_, skipped⟩ | isLeaving
        · contradiction
        · exact Or.inr (Or.inl ⟨isStart, skipped⟩)
        · exact Or.inr (Or.inr isLeaving)
    | replied hears callback reason =>
        have both := begun.trans hears
        rw [Nat.zero_add] at both
        refine .replied both callback fun notStart _ => ?_
        rw [isStart] at notStart
        contradiction

theorem begin_of_notStart {view : View} {config : CommandConfig V γ} {behaviour : Behaviour V ρ}
    {world : World (ResultSetCommand V ρ) V ρ γ} (notStart : world.command.atStart = false) :
    (handlers config behaviour view).begin world = world := by
  rw [Handlers.begin]
  split
  · rfl
  · rename_i unstarted
    rw [atStart, Option.not_isSome_iff_eq_none.mp unstarted] at notStart
    contradiction

/-- `execute` of a command with result sets. -/
theorem executes_execute (config : CommandConfig V γ) (behaviour : Behaviour V ρ) (view : View)
    (world : World (ResultSetCommand V ρ) V ρ γ) (packet : Option Packet) :
    Executes world (packet.any Packet.isError = true ∨ Failing behaviour world packet)
      (packet.any (fun packet => !packet.isError &&
        leaves config.read behaviour view world.command packet) = true)
      ((handlers config behaviour view).execute config.read world packet) := by
  cases filterEq : packet.filter Packet.isError with
  | some errorPacket =>
      rcases Option.filter_eq_some_iff.mp filterEq with ⟨rfl, isError⟩
      apply Executes.of_begin
      cases asErrorEq : Packet.asError config.read.toDecoding config.read.clientEncoding errorPacket with
      | error err =>
          rw [(handlers config behaviour view).execute_of_asError_throws world isError asErrorEq]
          exact .throws err (.refl _ _) fun _ _ => rfl
      | ok decoded =>
          rw [(handlers config behaviour view).execute_of_asError world isError asErrorEq]
          exact executes_fail _ _ (Or.inl isError)
  | none =>
      rw [(handlers config behaviour view).execute_of_not_isError config.read world filterEq]
      change Executes world _ _
        ((advance (handle config behaviour view
            ((handlers config behaviour view).begin world) packet)).1,
          (advance (handle config behaviour view
            ((handlers config behaviour view).begin world) packet)).2.map _)
      cases startEq : world.command.atStart with
      | true =>
          apply Executes.of_begin
          have begunStart : ((handlers config behaviour view).begin world).command.next.getD .start =
              .start := by
            rw [Handlers.begin]
            split
            · exact of_decide_eq_true startEq
            · rfl
          by_cases skipped : ((handlers config behaviour view).begin world).command.protocol =
              .execute ∧ Skipped ((handlers config behaviour view).begin world)
          · rw [handle_skipped config behaviour view _ packet begunStart skipped.1 skipped.2]
            refine .silent (hears_advance (.refl _ _) none) fun _ => Or.inr (Or.inl ⟨?_, skipped.2⟩)
            exact decide_eq_true begunStart
          · refine (reports_start config behaviour view _ packet begunStart ?_).executes_start ?_
            · exact fun isExecute isSkipped => skipped ⟨isExecute, isSkipped⟩
            · exact decide_eq_true begunStart
      | false =>
          have begun : (handlers config behaviour view).begin world = world :=
            begin_of_notStart startEq
          rw [begun]
          cases nextEq : world.command.next with
          | none =>
              rw [atStart, nextEq] at startEq
              contradiction
          | some state =>
              have notStart : state ≠ .start := by
                rintro rfl
                rw [atStart, nextEq] at startEq
                contradiction
              refine ((reports_handle config behaviour view world packet nextEq notStart).mono
                Or.inr ?_).executes startEq
              intro isLeaving
              cases packet with
              | none => contradiction
              | some received =>
                  have notError := Option.filter_eq_none_iff.mp filterEq received rfl
                  rw [Option.any_some] at isLeaving ⊢
                  rw [isLeaving, Bool.eq_false_iff.mpr notError]
                  rfl

/-- The settings of a command, which its callback and its timer depend on. -/
structure KeepsSettings (before after : ResultSetCommand V ρ) : Prop where
  id : after.id = before.id
  protocol : after.protocol = before.protocol
  statement : after.statement = before.statement
  onResult : after.onResult = before.onResult
  errorListener : after.errorListener = before.errorListener
  timeout : after.timeout = before.timeout

theorem Keeps.settings {before after : ResultSetCommand V ρ} (kept : Keeps before after) :
    KeepsSettings before after :=
  ⟨kept.id, kept.protocol, kept.statement, kept.onResult, kept.errorListener, kept.timeout⟩

theorem KeepsSettings.trans {first second third : ResultSetCommand V ρ}
    (left : KeepsSettings first second) (right : KeepsSettings second third) :
    KeepsSettings first third :=
  ⟨right.id.trans left.id, right.protocol.trans left.protocol,
    right.statement.trans left.statement, right.onResult.trans left.onResult,
    right.errorListener.trans left.errorListener, right.timeout.trans left.timeout⟩

theorem keepsSettings_advance (handled : Handled V ρ γ) :
    KeepsSettings handled.1.command (advance handled).1.command := by
  rcases handled with ⟨after, result⟩
  cases result with
  | error err => exact (Keeps.refl _).settings
  | ok next => cases next <;> exact ⟨rfl, rfl, rfl, rfl, rfl, rfl⟩

theorem keepsSettings_execute (config : CommandConfig V γ) (behaviour : Behaviour V ρ) (view : View)
    (world : World (ResultSetCommand V ρ) V ρ γ) (packet : Option Packet) :
    KeepsSettings world.command
      ((handlers config behaviour view).execute config.read world packet).1.command := by
  have begun : KeepsSettings world.command
      ((handlers config behaviour view).begin world).command := by
    rw [Handlers.begin]
    split <;> exact ⟨rfl, rfl, rfl, rfl, rfl, rfl⟩
  refine begun.trans ?_
  cases filterEq : packet.filter Packet.isError with
  | some errorPacket =>
      rcases Option.filter_eq_some_iff.mp filterEq with ⟨rfl, isError⟩
      cases asErrorEq : Packet.asError config.read.toDecoding config.read.clientEncoding errorPacket with
      | error err =>
          rw [(handlers config behaviour view).execute_of_asError_throws world isError asErrorEq]
          exact (Keeps.refl _).settings
      | ok decoded =>
          rw [(handlers config behaviour view).execute_of_asError world isError asErrorEq]
          change KeepsSettings _ (fail ((handlers config behaviour view).begin world) _).1.command
          rw [fail_command]
          exact (Keeps.refl _).settings
  | none =>
      rw [(handlers config behaviour view).execute_of_not_isError config.read world filterEq]
      exact (keeps_handle config behaviour view _ packet).settings.trans (keepsSettings_advance _)

end ResultSetCommand

/-! ## Preparing statements -/

namespace Prepare

/-- The identity under which a prepare command is heard: that of the execute
command behind it, if `connection.execute` has queued it. -/
def replyId (command : Prepare) : Nat :=
  match command.onResult with
  | .execute execute _ _ => execute
  | _ => command.id

/-- The handler leaves on the packet without a word: it expects an EOF packet. -/
def leaves (view : View) (command : Prepare) (packet : Packet) : Bool :=
  (command.next = some .parametersEOF || command.next = some .fieldsEOF) &&
    !packet.isEOF && (view.closing || view.errorListener)

/-- The callback of a prepare command is called with a statement or an error.
The callback of `connection.execute` leaves the execute command a statement, or
makes its start return `null` and reports the error. -/
inductive Called (before after : World Prepare V ρ γ) : Prop
  | caller (isCaller : before.command.onResult = .caller) (hears : Hears before.command.id 1 before after)
  | linked {execute : Nat} {onResult errorListener : Bool}
      (isExecute : before.command.onResult = .execute execute onResult errorListener)
      (hears : Hears execute 0 before after) (info : PreparedStatementInfo)
      (link : after.store.links execute = .statement info)
  | skipped {execute : Nat} {onResult errorListener : Bool}
      (isExecute : before.command.onResult = .execute execute onResult errorListener)
      (hears : Hears execute (if onResult then 1 else 0) before after)
      (link : after.store.links execute = .skip)

/-- What a handler or `execute` returns, and whether it has called the
callback. -/
inductive Reports (before : World Prepare V ρ γ) (leaving : Prop) :
    World Prepare V ρ γ → Except JsError Bool → Prop
  | continues {after : World Prepare V ρ γ} (hears : Hears before.command.replyId 0 before after)
      (links : after.store.links = before.store.links) :
      Reports before leaving after (.ok false)
  | throws {after : World Prepare V ρ γ} (err : JsError)
      (hears : Hears before.command.replyId 0 before after)
      (links : ∀ execute errorListener, before.command.onResult = .execute execute true errorListener →
        after.store.links = before.store.links) :
      Reports before leaving after (.error err)
  | silent {after : World Prepare V ρ γ} (hears : Hears before.command.replyId 0 before after)
      (links : after.store.links = before.store.links)
      (reason : before.command.onResult ≠ .none → leaving) :
      Reports before leaving after (.ok true)
  | called {after : World Prepare V ρ γ} (called : Called before after) :
      Reports before leaving after (.ok true)

variable {before between after : World Prepare V ρ γ} {leaving : Prop} {result : Except JsError Bool}

theorem replyId_eq {command other : Prepare} (id : other.id = command.id)
    (onResult : other.onResult = command.onResult) : other.replyId = command.replyId := by
  rw [replyId, replyId, id, onResult]

theorem Called.handOn (called : Called between after) (id : between.command.id = before.command.id)
    (onResult : between.command.onResult = before.command.onResult)
    (hears : ∀ other, Hears other 0 before between) : Called before after := by
  cases called with
  | caller isCaller later =>
      rw [onResult] at isCaller
      rw [id] at later
      have both := (hears before.command.id).trans later
      rw [Nat.zero_add] at both
      exact .caller isCaller both
  | linked isExecute later info link =>
      rw [onResult] at isExecute
      exact .linked isExecute ((hears _).trans later) info link
  | skipped isExecute later link =>
      rw [onResult] at isExecute
      have both := (hears _).trans later
      rw [Nat.zero_add] at both
      exact .skipped isExecute both link

/-- A handler that hands on to another one. -/
theorem Reports.handOn (reports : Reports between leaving after result)
    (id : between.command.id = before.command.id)
    (onResult : between.command.onResult = before.command.onResult)
    (hears : ∀ other, Hears other 0 before between)
    (links : between.store.links = before.store.links) : Reports before leaving after result := by
  have same := replyId_eq id onResult
  cases reports with
  | continues later laterLinks =>
      rw [same] at later
      exact .continues ((hears _).trans later) (laterLinks.trans links)
  | throws err later laterLinks =>
      rw [same] at later
      rw [onResult] at laterLinks
      exact .throws err ((hears _).trans later) fun execute errorListener isExecute =>
        (laterLinks execute errorListener isExecute).trans links
  | silent later laterLinks reason =>
      rw [same] at later
      rw [onResult] at reason
      exact .silent ((hears _).trans later) (laterLinks.trans links) reason
  | called called => exact .called (called.handOn id onResult hears)

theorem Reports.mono {leaving' : Prop} (reports : Reports before leaving after result)
    (leaves : leaving → leaving') : Reports before leaving' after result := by
  cases reports with
  | continues hears links => exact .continues hears links
  | throws err hears links => exact .throws err hears links
  | silent hears links reason => exact .silent hears links (leaves ∘ reason)
  | called called => exact .called called

/-- More that nobody hears. -/
theorem Reports.followed {later : World Prepare V ρ γ} (reports : Reports before leaving after result)
    (hears : ∀ other, Hears other 0 after later) (links : later.store.links = after.store.links) :
    Reports before leaving later result := by
  cases reports with
  | continues first firstLinks =>
      exact .continues (first.trans (hears _)) (links.trans firstLinks)
  | throws err first firstLinks =>
      exact .throws err (first.trans (hears _)) fun execute errorListener isExecute =>
        links.trans (firstLinks execute errorListener isExecute)
  | silent first firstLinks reason =>
      exact .silent (first.trans (hears _)) (links.trans firstLinks) reason
  | called called =>
      cases called with
      | caller isCaller first => exact .called (.caller isCaller (first.trans (hears _)))
      | linked isExecute first info link =>
          exact .called (.linked isExecute (first.trans (hears _)) info ((congrFun links _).trans link))
      | skipped isExecute first link =>
          exact .called (.skipped isExecute (first.trans (hears _)) ((congrFun links _).trans link))

theorem hears_setLink (world : World Prepare V ρ γ) (execute : Nat) (link : Link) :
    Hears execute 0 world (setLink world execute link) := by
  refine ⟨rfl, fun _ _ => rfl, ?_, fun _ _ => rfl, fun _ _ => rfl, fun _ => Or.inl⟩
  intro other notExecute
  exact Function.update_of_ne notExecute link world.store.links

theorem setLink_self (world : World Prepare V ρ γ) (execute : Nat) (link : Link) :
    (setLink world execute link).store.links execute = link := by
  simp [setLink]

/-- Calling the callback with a statement. -/
theorem reports_callWithStatement (world : World Prepare V ρ γ) (info : PreparedStatementInfo) :
    Reports world leaving (callWithStatement world info) (.ok true) := by
  unfold callWithStatement
  dsimp only
  split
  · rename_i noCallback
    exact .silent (.refl _ world) rfl fun callback => absurd noCallback callback
  · rename_i isCaller
    exact .called (.caller isCaller (hears_emit world rfl))
  · rename_i execute onResult errorListener isExecute
    exact .called (.linked isExecute (hears_setLink world execute (.statement info)) info
      (setLink_self world execute (.statement info)))

/-- Calling the callback with an error. -/
theorem reports_callWithError (world : World Prepare V ρ γ) (err : JsError) :
    Reports world leaving (callWithError world err).1
      ((callWithError world err).2.map fun _ => true) := by
  unfold callWithError
  dsimp only
  split
  · rename_i noCallback
    rw [World.emitError]
    cases world.command.errorListener with
    | false => exact .throws err (.refl _ world) fun _ _ _ => rfl
    | true =>
        exact .silent (hears_emit_silent _ world rfl) rfl fun callback => absurd noCallback callback
  · rename_i isCaller
    exact .called (.caller isCaller (hears_emit world rfl))
  · rename_i execute onResult errorListener isExecute
    have linked := hears_setLink world execute .skip
    split
    · rename_i hasCallback
      refine .called (.skipped isExecute ?_ (setLink_self world execute .skip))
      rw [if_pos hasCallback]
      exact (linked.trans (hears_emit _ rfl)).trans (hears_emit_silent execute _ rfl)
    · rename_i noCallback
      rw [World.emitError]
      cases errorListener with
      | false =>
          refine .throws err ?_ ?_
          · rw [replyId, isExecute]
            exact linked
          · intro _ _ isCallback
            rw [isExecute] at isCallback
            cases isCallback
            exact absurd rfl noCallback
      | true =>
          refine .called (.skipped isExecute ?_ (setLink_self world execute .skip))
          rw [if_neg noCallback]
          exact (linked.trans (hears_emit_silent execute _ rfl)).trans
            (hears_emit_silent execute _ rfl)

/-- What a handler returns: `execute` ends the command if there is no next
state. -/
def HandledReports (before : World Prepare V ρ γ) (leaving : Prop) (handled : Handled V ρ γ) :
    Prop :=
  Reports before leaving handled.1 (handled.2.map Option.isNone)

/-- Another world whose handler differs in the command's own fields. -/
theorem HandledReports.handOn {handled : Handled V ρ γ}
    (reports : HandledReports between leaving handled)
    (id : between.command.id = before.command.id)
    (onResult : between.command.onResult = before.command.onResult)
    (hears : ∀ other, Hears other 0 before between)
    (links : between.store.links = before.store.links) : HandledReports before leaving handled :=
  Reports.handOn reports id onResult hears links

theorem reports_start (config : CommandConfig V γ) (world : World Prepare V ρ γ) :
    HandledReports world leaving (start config world) := by
  have got : ∀ other, Hears other 0 world
      { world with store := { world.store with
        statements := (config.cache.get world.store.statements world.command.key).2 } } :=
    fun other => ⟨rfl, fun _ _ => rfl, fun _ _ => rfl, fun _ _ => rfl, fun _ _ => rfl, fun _ => Or.inl⟩
  unfold start
  dsimp only
  split
  · rename_i info _
    exact (reports_callWithStatement _ info).handOn rfl rfl got rfl
  · split
    · exact .throws _ (got _) fun _ _ _ => rfl
    · exact .continues ((got _).trans (hears_writeRequest _ _ _ _ _)) rfl

theorem reports_prepareDone (config : CommandConfig V γ) (view : View)
    (world : World Prepare V ρ γ) :
    HandledReports world leaving (prepareDone config view world) := by
  unfold prepareDone
  dsimp only
  generalize config.cache.set world.store.statements world.command.key _ = cached
  have stored : ∀ other, Hears other 0 world
      { world with store := { world.store with statements := cached.1 } } :=
    fun other => ⟨rfl, fun _ _ => rfl, fun _ _ => rfl, fun _ _ => rfl, fun _ _ => rfl, fun _ => Or.inl⟩
  have closed : ∀ other, Hears other 0
      { world with store := { world.store with statements := cached.1 } }
      (World.closeEvicted { world with store := { world.store with statements := cached.1 } } view
        cached.2).1 := fun other => hears_closeEvicted other _ view cached.2
  have sameStore := closeEvicted_store
    { world with store := { world.store with statements := cached.1 } } view cached.2
  have command := closeEvicted_command
    { world with store := { world.store with statements := cached.1 } } view cached.2
  cases closeEq : World.closeEvicted
      { world with store := { world.store with statements := cached.1 } } view cached.2 with
  | mk after result =>
      rw [closeEq] at closed sameStore command
      have links : after.store.links = world.store.links :=
        (congrArg Store.links sameStore).trans rfl
      have both : ∀ other, Hears other 0 world after :=
        fun other => (stored other).trans (closed other)
      cases result with
      | error err => exact .throws err (both _) fun _ _ _ => links
      | ok _ =>
          exact (reports_callWithStatement after _).handOn (congrArg Prepare.id command)
            (congrArg Prepare.onResult command) both links

theorem reports_fieldsOrDone (config : CommandConfig V γ) (view : View)
    (world : World Prepare V ρ γ) :
    HandledReports world leaving (fieldsOrDone config view world) := by
  unfold fieldsOrDone
  split
  · exact .continues (.refl _ world) rfl
  · exact reports_prepareDone config view world

theorem reports_protocolError (view : View) (world : World Prepare V ρ γ) (message : String)
    (leave : (view.closing || view.errorListener) = true → leaving) :
    HandledReports world leaving (world.protocolError view message) := by
  have hears := hears_protocolError (τ := PrepareState) world.command.replyId world view message
  have result := protocolError_result (τ := PrepareState) world view message
  have same := protocolError_store (τ := PrepareState) world view message
  rw [HandledReports, result]
  split
  · rename_i listened
    exact .silent hears (congrArg Store.links same) fun _ => leave listened
  · exact .throws _ hears fun _ _ _ => congrArg Store.links same

/-- A packet that should be an EOF packet and is none. -/
theorem leaves_of_next {view : View} {command : Prepare} {packet : Packet} {state : PrepareState}
    (current : command.next.getD .start = state)
    (expectsEOF : state = .parametersEOF ∨ state = .fieldsEOF) (notEOF : ¬ packet.isEOF = true)
    (listened : (view.closing || view.errorListener) = true) :
    leaves view command packet = true := by
  have isNext : command.next = some state := by
    cases nextEq : command.next with
    | none =>
        rw [nextEq] at current
        rw [← current] at expectsEOF
        rcases expectsEOF with isStart | isStart <;> cases isStart
    | some next =>
        rw [nextEq] at current
        rw [← current]
        rfl
  rw [leaves, isNext, listened, Bool.eq_false_iff.mpr notEOF]
  rcases expectsEOF with rfl | rfl <;> rfl

/-- A handler other than the start. -/
theorem reports_handle (config : CommandConfig V γ) (view : View) (world : World Prepare V ρ γ)
    (packet : Option Packet) :
    HandledReports world (packet.any (leaves view world.command) = true)
      (handle config view world packet) := by
  have changed : ∀ command : Prepare, ∀ other, Hears other 0 world
      { world with command := command } := fun _ _ => .of_same rfl rfl rfl
  unfold handle
  split
  · exact reports_start config world
  · exact .throws _ (.refl _ world) fun _ _ _ => rfl
  · unfold prepareHeader
    split
    · exact .throws _ (.refl _ world) fun _ _ _ => rfl
    · dsimp only
      split
      · exact .continues (.of_same rfl rfl rfl) rfl
      · exact (reports_fieldsOrDone config view _).handOn rfl rfl (changed _) rfl
  · unfold readParameter
    split
    · exact reports_fieldsOrDone config view world
    · split
      · exact .throws _ (.refl _ world) fun _ _ _ => rfl
      · exact .continues (.of_same rfl rfl rfl) rfl
  · unfold readField
    split
    · exact reports_prepareDone config view world
    · split
      · exact .throws _ (.refl _ world) fun _ _ _ => rfl
      · exact .continues (.of_same rfl rfl rfl) rfl
  · rename_i current
    unfold parametersEOF
    split
    · exact reports_fieldsOrDone config view world
    · rename_i notEOF
      exact reports_protocolError view world _ (leaves_of_next current (Or.inl rfl) notEOF)
  · rename_i current
    unfold fieldsEOF
    split
    · exact reports_prepareDone config view world
    · rename_i notEOF
      exact reports_protocolError view world _ (leaves_of_next current (Or.inr rfl) notEOF)

theorem hears_emitEnd (id : Nat) (world : World Prepare V ρ γ) :
    Hears id 0 world (emitEnd world) ∧ (emitEnd world).store = world.store := by
  unfold emitEnd
  split
  · exact ⟨.refl id world, rfl⟩
  · exact ⟨hears_emit_silent id world rfl, rfl⟩

/-- `this.next` is set, and `end` is emitted. -/
theorem HandledReports.advance {handled : Handled V ρ γ}
    (reports : HandledReports before leaving handled) :
    Reports before leaving (Prepare.advance handled).1
      ((Prepare.advance handled).2.map fun continues => !continues) := by
  rcases handled with ⟨after, result⟩
  cases result with
  | error err => exact reports
  | ok next =>
      have set : ∀ other, Hears other 0 after { after with command := { after.command with next := next } } :=
        fun _ => .of_same rfl rfl rfl
      cases next with
      | none =>
          refine Reports.followed reports (fun other => (set other).trans (hears_emitEnd other _).1) ?_
          exact (congrArg Store.links (hears_emitEnd 0 _).2).trans rfl
      | some state => exact Reports.followed reports set rfl

/-- An ERR packet is reported. -/
theorem reports_fail (world : World Prepare V ρ γ) (err : JsError) :
    Reports world leaving (fail world err).1 ((fail world err).2.map fun _ => true) := by
  have reported : Reports world leaving _ _ := reports_callWithError world err
  rw [fail]
  cases reportedEq : callWithError world err with
  | mk after result =>
      rw [reportedEq] at reported
      cases result with
      | error thrown => exact reported
      | ok _ =>
          exact reported.followed (fun other => (hears_emitEnd other after).1)
            (congrArg Store.links (hears_emitEnd 0 after).2)

/-- What `begin` sets does not matter to the callback. -/
theorem Reports.of_begin (config : CommandConfig V γ) (view : View)
    (reports : Reports ((handlers config view).begin before) leaving after result) :
    Reports before leaving after result := by
  revert reports
  rw [Handlers.begin]
  split
  · exact fun reports => reports
  · exact fun reports => reports.handOn rfl rfl (fun _ => .of_same rfl rfl rfl) rfl

/-- `execute` of a prepare command. -/
theorem reports_execute (config : CommandConfig V γ) (view : View) (world : World Prepare V ρ γ)
    (packet : Option Packet) :
    Reports world
      (packet.any (fun packet => !packet.isError && leaves view world.command packet) = true)
      ((handlers config view).execute config.read world packet).1
      ((handlers config view).execute config.read world packet).2 := by
  cases filterEq : packet.filter Packet.isError with
  | some errorPacket =>
      rcases Option.filter_eq_some_iff.mp filterEq with ⟨rfl, isError⟩
      apply Reports.of_begin config view
      cases asErrorEq : Packet.asError config.read.toDecoding config.read.clientEncoding errorPacket with
      | error err =>
          rw [(handlers config view).execute_of_asError_throws world isError asErrorEq]
          exact .throws err (.refl _ _) fun _ _ _ => rfl
      | ok decoded =>
          rw [(handlers config view).execute_of_asError world isError asErrorEq]
          exact reports_fail _ _
  | none =>
      rw [(handlers config view).execute_of_not_isError config.read world filterEq]
      apply Reports.of_begin config view
      refine (reports_handle config view _ packet).advance.mono fun isLeaving => ?_
      cases packet with
      | none => contradiction
      | some received =>
          have notError := Option.filter_eq_none_iff.mp filterEq received rfl
          rw [Option.any_some] at isLeaving ⊢
          rw [Bool.eq_false_iff.mpr notError]
          revert isLeaving
          rw [Handlers.begin]
          split
          · exact fun isLeaving => isLeaving
          · intro isLeaving
            rw [leaves] at isLeaving
            contradiction

/-- No handler changes the identity or the callback of its command. -/
theorem keepsSettings_execute (config : CommandConfig V γ) (view : View)
    (world : World Prepare V ρ γ) (packet : Option Packet) :
    ((handlers config view).execute config.read world packet).1.command.id = world.command.id ∧
      ((handlers config view).execute config.read world packet).1.command.onResult =
        world.command.onResult := by
  have begun : ((handlers config view).begin world).command.id = world.command.id ∧
      ((handlers config view).begin world).command.onResult = world.command.onResult := by
    rw [Handlers.begin]
    split <;> exact ⟨rfl, rfl⟩
  have advanced : ∀ handled : Handled V ρ γ,
      (Prepare.advance handled).1.command.id = handled.1.command.id ∧
        (Prepare.advance handled).1.command.onResult = handled.1.command.onResult := by
    rintro ⟨after, result⟩
    cases result with
    | error err => exact ⟨rfl, rfl⟩
    | ok next =>
        cases next with
        | some state => exact ⟨rfl, rfl⟩
        | none =>
            change (emitEnd _).command.id = _ ∧ (emitEnd _).command.onResult = _
            rw [emitEnd_command]
            exact ⟨rfl, rfl⟩
  rw [← begun.1, ← begun.2]
  cases filterEq : packet.filter Packet.isError with
  | some errorPacket =>
      rcases Option.filter_eq_some_iff.mp filterEq with ⟨rfl, isError⟩
      cases asErrorEq : Packet.asError config.read.toDecoding config.read.clientEncoding errorPacket with
      | error err =>
          rw [(handlers config view).execute_of_asError_throws world isError asErrorEq]
          exact ⟨rfl, rfl⟩
      | ok decoded =>
          rw [(handlers config view).execute_of_asError world isError asErrorEq]
          change (fail ((handlers config view).begin world) _).1.command.id = _ ∧
            (fail ((handlers config view).begin world) _).1.command.onResult = _
          rw [fail_command]
          exact ⟨rfl, rfl⟩
  | none =>
      rw [(handlers config view).execute_of_not_isError config.read world filterEq]
      have handled := advanced (handle config view ((handlers config view).begin world) packet)
      have kept := keeps_handle config view ((handlers config view).begin world) packet
      exact ⟨handled.1.trans kept.id, handled.2.trans kept.onResult⟩

end Prepare

/-! ## Functions outside the commands -/

/-- What a function outside the commands does to what the commands share, and
who hears it: only a timer that fires is heard. -/
inductive Interrupts (function : Interrupt V ρ) (store : Store γ) :
    Store γ → List (CommandOutput ρ) → Prop
  | quiet {after : Store γ} {outputs : List (CommandOutput ρ)}
      (timer : after.queryTimeout = store.queryTimeout)
      (links : ∀ id, after.links id = store.links id ∨
        after.links id = .unset ∧ ∃ call, function = .execute call ∧ call.id = id)
      (silent : ∀ id, replies id outputs = 0) : Interrupts function store after outputs
  | fired {after : Store γ} {outputs : List (CommandOutput ρ)} {id : Nat}
      {calls : List (Call (Command V ρ))} {timer : QueryTimeout}
      (isTimeout : function = .timeout id calls) (armed : store.queryTimeout id = some timer)
      (disarmed : after.queryTimeout = Function.update store.queryTimeout id none)
      (links : after.links = store.links)
      (heard : replies id outputs = if timer.onResult then 1 else 0)
      (others : ∀ other, other ≠ id → replies other outputs = 0) :
      Interrupts function store after outputs

theorem interrupts_runInterrupt (cache : StatementCache γ) (function : Interrupt V ρ)
    (store : Store γ) (wire : Wire) :
    Interrupts function store (runInterrupt cache function store wire).store
      (runInterrupt cache function store wire).outputs := by
  cases function with
  | timeout id calls =>
      rw [runInterrupt, handleTimeoutError]
      cases armedEq : store.queryTimeout id with
      | none => exact .quiet rfl (fun _ => Or.inl rfl) fun _ => rfl
      | some timer =>
          rcases timer with ⟨onResult, errorListener⟩
          cases onResult with
          | true =>
              refine .fired rfl armedEq rfl rfl ?_ fun other notId => ?_
              · simp [replies, CommandOutput.repliesTo]
              · simp [replies, CommandOutput.repliesTo, notId.symm]
          | false =>
              cases errorListener <;> exact .fired rfl armedEq rfl rfl rfl fun _ _ => rfl
  | localStream id event =>
      cases event <;> exact .quiet rfl (fun _ => Or.inl rfl) fun _ => rfl
  | execute call =>
      refine .quiet rfl (fun id => ?_) fun _ => rfl
      by_cases isCall : id = call.id
      · subst isCall
        refine Or.inr ⟨?_, call, rfl, rfl⟩
        simp [runInterrupt, executeCall]
      · exact Or.inl (Function.update_of_ne isCall _ store.links)
  | unprepare key =>
      rw [runInterrupt, unprepare]
      dsimp only
      split <;> exact .quiet rfl (fun _ => Or.inl rfl) fun _ => rfl

end Mysql2.Commands

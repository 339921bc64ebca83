import Mysql2.Commands.Family

/-!
# What handlers leave unchanged

A handler changes what it has read of the response, but neither the identity
and the settings of its command nor `next`, which is set from what the handler
returns.  With it the command classes form a family that a connection can run.
-/

namespace Mysql2.Commands

open Mysql2.Connection
open Mysql2.Packets

variable {V ρ γ : Type}

namespace World

variable {α : Type}

@[simp]
theorem emit_command (world : World α V ρ γ) (output : CommandOutput ρ) :
    (world.emit output).command = world.command :=
  rfl

@[simp]
theorem writeRequest_command (world : World α V ρ γ) (id : Nat) (request : Request)
    (packet : Packet) : (world.writeRequest id request packet).command = world.command :=
  rfl

@[simp]
theorem emitError_command {τ : Type} (world : World α V ρ γ) (id : Nat) (errorListener : Bool)
    (err : JsError) (returns : τ) :
    (world.emitError id errorListener err returns).1.command = world.command := by
  rw [emitError]
  split <;> rfl

@[simp]
theorem protocolError_command {τ : Type} (world : World α V ρ γ) (view : View)
    (message : String) :
    (world.protocolError view message : World α V ρ γ × Except JsError (Option τ)).1.command =
      world.command := by
  unfold protocolError
  dsimp only
  split
  · rfl
  · split <;> rfl

@[simp]
theorem closeEvicted_command (world : World α V ρ γ) (view : View)
    (evicted : List PreparedStatementInfo) :
    (world.closeEvicted view evicted).1.command = world.command := by
  rw [closeEvicted]
  split <;> rfl

end World

/-! ## Commands with result sets -/

namespace ResultSetCommand

/-- The fields that no handler changes. -/
structure Keeps (before after : ResultSetCommand V ρ) : Prop where
  id : after.id = before.id
  protocol : after.protocol = before.protocol
  statement : after.statement = before.statement
  onResult : after.onResult = before.onResult
  errorListener : after.errorListener = before.errorListener
  timeout : after.timeout = before.timeout
  next : after.next = before.next

theorem Keeps.refl (command : ResultSetCommand V ρ) : Keeps command command :=
  ⟨rfl, rfl, rfl, rfl, rfl, rfl, rfl⟩

theorem Keeps.trans {first second third : ResultSetCommand V ρ} (left : Keeps first second)
    (right : Keeps second third) : Keeps first third :=
  ⟨right.id.trans left.id, right.protocol.trans left.protocol,
    right.statement.trans left.statement, right.onResult.trans left.onResult,
    right.errorListener.trans left.errorListener, right.timeout.trans left.timeout,
    right.next.trans left.next⟩

@[simp]
theorem setTimeout_command (world : World (ResultSetCommand V ρ) V ρ γ) :
    (setTimeout world).command = world.command := by
  unfold setTimeout
  dsimp only
  split <;> rfl

@[simp]
theorem clearTimeout_command (world : World (ResultSetCommand V ρ) V ρ γ) :
    (clearTimeout world).command = world.command :=
  rfl

@[simp]
theorem setLocalStreamError_command (world : World (ResultSetCommand V ρ) V ρ γ)
    (err : JsError) : (setLocalStreamError world err).command = world.command :=
  rfl

@[simp]
theorem reportError_command {τ : Type} (world : World (ResultSetCommand V ρ) V ρ γ)
    (err : JsError) (returns : τ) : (reportError world err returns).1.command = world.command := by
  unfold reportError
  dsimp only
  split
  · rfl
  · exact World.emitError_command _ _ _ _ _

@[simp]
theorem done_command (world : World (ResultSetCommand V ρ) V ρ γ) :
    (done world).1.command = world.command := by
  unfold done
  dsimp only
  split
  · rfl
  · split <;> rfl

theorem keeps_doneInsert (world : World (ResultSetCommand V ρ) V ρ γ)
    (rs : Option ResultSetHeader) : Keeps world.command (doneInsert world rs).1.command := by
  unfold doneInsert
  split
  · rw [reportError_command]
    exact .refl _
  · exact .refl _
  · dsimp only
    split
    · exact ⟨rfl, rfl, rfl, rfl, rfl, rfl, rfl⟩
    · rw [done_command]
      exact ⟨rfl, rfl, rfl, rfl, rfl, rfl, rfl⟩

theorem keeps_streamLocalInfile (behaviour : Behaviour V ρ)
    (world : World (ResultSetCommand V ρ) V ρ γ) (path : String) :
    Keeps world.command (streamLocalInfile behaviour world path).1.command := by
  unfold streamLocalInfile
  dsimp only
  split <;> exact ⟨rfl, rfl, rfl, rfl, rfl, rfl, rfl⟩

theorem keeps_buildParser (behaviour : Behaviour V ρ)
    (world : World (ResultSetCommand V ρ) V ρ γ) (fields : List ColumnDefinition)
    (next : ResultSetState) :
    Keeps world.command (buildParser behaviour world fields next).1.command := by
  unfold buildParser
  split <;> exact ⟨rfl, rfl, rfl, rfl, rfl, rfl, rfl⟩

theorem keeps_queryStart (config : CommandConfig V γ)
    (world : World (ResultSetCommand V ρ) V ρ γ) :
    Keeps world.command (queryStart config world).1.command := by
  unfold queryStart
  dsimp only
  split <;> simp only [World.writeRequest_command, setTimeout_command] <;> exact .refl _

theorem keeps_executeStart (config : CommandConfig V γ)
    (world : World (ResultSetCommand V ρ) V ρ γ) :
    Keeps world.command (executeStart config world).1.command := by
  unfold executeStart
  dsimp only
  split
  · exact .refl _
  · split
    · rw [setTimeout_command]
      exact .refl _
    · split
      · rw [reportError_command, clearTimeout_command, setTimeout_command]
        exact .refl _
      · rw [World.writeRequest_command, setTimeout_command]
        exact .refl _

theorem keeps_resultsetHeader (config : CommandConfig V γ) (behaviour : Behaviour V ρ)
    (world : World (ResultSetCommand V ρ) V ρ γ) (packet : Packet) :
    Keeps world.command (resultsetHeader config behaviour world packet).1.command := by
  unfold resultsetHeader
  split
  · exact .refl _
  · refine .trans ?_ (keeps_streamLocalInfile _ _ _)
    exact ⟨rfl, rfl, rfl, rfl, rfl, rfl, rfl⟩
  · refine .trans ?_ (keeps_doneInsert _ _)
    exact ⟨rfl, rfl, rfl, rfl, rfl, rfl, rfl⟩
  · dsimp only
    split
    · refine .trans ?_ (keeps_doneInsert _ _)
      exact ⟨rfl, rfl, rfl, rfl, rfl, rfl, rfl⟩
    · exact ⟨rfl, rfl, rfl, rfl, rfl, rfl, rfl⟩

theorem keeps_queryReadField (config : CommandConfig V γ) (behaviour : Behaviour V ρ)
    (world : World (ResultSetCommand V ρ) V ρ γ) (packet : Packet) :
    Keeps world.command (queryReadField config behaviour world packet).1.command := by
  unfold queryReadField
  dsimp only
  split
  · exact ⟨rfl, rfl, rfl, rfl, rfl, rfl, rfl⟩
  · split
    · exact ⟨rfl, rfl, rfl, rfl, rfl, rfl, rfl⟩
    · split
      · refine .trans ?_ (keeps_buildParser _ _ _ _)
        exact ⟨rfl, rfl, rfl, rfl, rfl, rfl, rfl⟩
      · exact ⟨rfl, rfl, rfl, rfl, rfl, rfl, rfl⟩

theorem keeps_executeReadField (config : CommandConfig V γ)
    (world : World (ResultSetCommand V ρ) V ρ γ) (packet : Packet) :
    Keeps world.command (executeReadField config world packet).1.command := by
  unfold executeReadField
  split
  · exact .refl _
  · dsimp only
    split
    · exact ⟨rfl, rfl, rfl, rfl, rfl, rfl, rfl⟩
    · split <;> exact ⟨rfl, rfl, rfl, rfl, rfl, rfl, rfl⟩

theorem keeps_queryFieldsEOF (view : View) (world : World (ResultSetCommand V ρ) V ρ γ)
    (packet : Packet) : Keeps world.command (queryFieldsEOF view world packet).1.command := by
  unfold queryFieldsEOF
  split
  · exact .refl _
  · rw [World.protocolError_command]
    exact .refl _

theorem keeps_executeFieldsEOF (behaviour : Behaviour V ρ) (view : View)
    (world : World (ResultSetCommand V ρ) V ρ γ) (packet : Packet) :
    Keeps world.command (executeFieldsEOF behaviour view world packet).1.command := by
  unfold executeFieldsEOF
  split
  · split
    · exact .refl _
    · exact keeps_buildParser _ _ _ _
  · rw [World.protocolError_command]
    exact .refl _

theorem keeps_row (behaviour : Behaviour V ρ) (world : World (ResultSetCommand V ρ) V ρ γ)
    (packet : Packet) : Keeps world.command (row behaviour world packet).1.command := by
  unfold row
  dsimp only
  split
  · split
    · exact .refl _
    · split
      · exact ⟨rfl, rfl, rfl, rfl, rfl, rfl, rfl⟩
      · rw [done_command]
        exact .refl _
  · split
    · refine .trans ?_ (keeps_doneInsert _ _)
      exact .refl _
    · split
      · split <;> exact ⟨rfl, rfl, rfl, rfl, rfl, rfl, rfl⟩
      · exact .refl _

theorem keeps_infileOk (config : CommandConfig V γ)
    (world : World (ResultSetCommand V ρ) V ρ γ) (packet : Packet) :
    Keeps world.command (infileOk config world packet).1.command := by
  unfold infileOk
  split
  · exact .refl _
  · exact keeps_doneInsert _ _

theorem keeps_handle (config : CommandConfig V γ) (behaviour : Behaviour V ρ) (view : View)
    (world : World (ResultSetCommand V ρ) V ρ γ) (packet : Option Packet) :
    Keeps world.command (handle config behaviour view world packet).1.command := by
  unfold handle
  split
  · exact keeps_queryStart config world
  · exact keeps_executeStart config world
  · exact .refl _
  · exact keeps_resultsetHeader config behaviour world _
  · exact keeps_queryReadField config behaviour world _
  · exact keeps_executeReadField config world _
  · exact keeps_queryFieldsEOF view world _
  · exact keeps_executeFieldsEOF behaviour view world _
  · exact keeps_row behaviour world _
  · exact keeps_infileOk config world _

@[simp]
theorem emitEnd_command (world : World (ResultSetCommand V ρ) V ρ γ) :
    (emitEnd world).command = world.command :=
  rfl

@[simp]
theorem fail_command (world : World (ResultSetCommand V ρ) V ρ γ) (err : JsError) :
    (fail world err).1.command = world.command := by
  have same := reportError_command (clearTimeout world) err ()
  rw [clearTimeout_command] at same
  rw [fail]
  cases reportedEq : reportError (clearTimeout world) err () with
  | mk after result =>
      rw [reportedEq] at same
      cases result with
      | error thrown => exact same
      | ok _ => exact same

theorem advance_next {before : ResultSetCommand V ρ} {handled : Handled V ρ γ}
    (started : before.next.isSome = true) (kept : Keeps before handled.1.command)
    (continues : (advance handled).2 ≠ .ok false) :
    (advance handled).1.command.next.isSome = true := by
  rcases handled with ⟨after, result⟩
  cases result with
  | error err =>
      change after.command.next.isSome = true
      rw [kept.next]
      exact started
  | ok next =>
      cases next with
      | none => exact absurd rfl continues
      | some state => rfl

theorem keepsNext_handlers (config : CommandConfig V γ) (behaviour : Behaviour V ρ)
    (view : View) : (handlers config behaviour view).KeepsNext where
  start _ := rfl
  fail := by
    intro world err thrown started failed
    change ((fail world err).1.command.next).isSome = true
    rw [fail_command]
    exact started
  next := by
    intro world packet started continues
    exact advance_next started (keeps_handle config behaviour view world packet) continues

end ResultSetCommand

/-! ## Preparing statements -/

namespace Prepare

/-- The fields that no handler changes. -/
structure Keeps (before after : Prepare) : Prop where
  id : after.id = before.id
  key : after.key = before.key
  onResult : after.onResult = before.onResult
  errorListener : after.errorListener = before.errorListener
  next : after.next = before.next

theorem Keeps.refl (command : Prepare) : Keeps command command :=
  ⟨rfl, rfl, rfl, rfl, rfl⟩

theorem Keeps.trans {first second third : Prepare} (left : Keeps first second)
    (right : Keeps second third) : Keeps first third :=
  ⟨right.id.trans left.id, right.key.trans left.key, right.onResult.trans left.onResult,
    right.errorListener.trans left.errorListener, right.next.trans left.next⟩

@[simp]
theorem setLink_command (world : World Prepare V ρ γ) (execute : Nat) (link : Link) :
    (setLink world execute link).command = world.command :=
  rfl

@[simp]
theorem callWithError_command (world : World Prepare V ρ γ) (err : JsError) :
    (callWithError world err).1.command = world.command := by
  unfold callWithError
  dsimp only
  split
  · exact World.emitError_command _ _ _ _ _
  · rfl
  · split
    · rfl
    · split
      · exact World.emitError_command _ _ _ _ _
      · exact World.emitError_command _ _ _ _ _

@[simp]
theorem callWithStatement_command (world : World Prepare V ρ γ) (info : PreparedStatementInfo) :
    (callWithStatement world info).command = world.command := by
  unfold callWithStatement
  dsimp only
  split <;> rfl

theorem keeps_start (config : CommandConfig V γ) (world : World Prepare V ρ γ) :
    Keeps world.command (start config world).1.command := by
  unfold start
  dsimp only
  split
  · rw [callWithStatement_command]
    exact .refl _
  · split <;> exact .refl _

theorem keeps_prepareDone (config : CommandConfig V γ) (view : View)
    (world : World Prepare V ρ γ) :
    Keeps world.command (prepareDone config view world).1.command := by
  unfold prepareDone
  dsimp only
  split
  · rename_i closed
    have same := congrArg (World.command ∘ Prod.fst) closed
    simp only [Function.comp, World.closeEvicted_command] at same
    rw [← same]
    exact .refl _
  · rename_i closed
    have same := congrArg (World.command ∘ Prod.fst) closed
    simp only [Function.comp, World.closeEvicted_command] at same
    rw [callWithStatement_command, ← same]
    exact .refl _

theorem keeps_fieldsOrDone (config : CommandConfig V γ) (view : View)
    (world : World Prepare V ρ γ) :
    Keeps world.command (fieldsOrDone config view world).1.command := by
  unfold fieldsOrDone
  split
  · exact .refl _
  · exact keeps_prepareDone config view world

theorem keeps_handle (config : CommandConfig V γ) (view : View) (world : World Prepare V ρ γ)
    (packet : Option Packet) :
    Keeps world.command (handle config view world packet).1.command := by
  unfold handle
  split
  · exact keeps_start config world
  · exact .refl _
  · unfold prepareHeader
    split
    · exact .refl _
    · dsimp only
      split
      · exact ⟨rfl, rfl, rfl, rfl, rfl⟩
      · refine .trans ?_ (keeps_fieldsOrDone _ _ _)
        exact ⟨rfl, rfl, rfl, rfl, rfl⟩
  · unfold readParameter
    split
    · exact keeps_fieldsOrDone config view world
    · split <;> exact ⟨rfl, rfl, rfl, rfl, rfl⟩
  · unfold readField
    split
    · exact keeps_prepareDone config view world
    · split <;> exact ⟨rfl, rfl, rfl, rfl, rfl⟩
  · unfold parametersEOF
    split
    · exact keeps_fieldsOrDone config view world
    · rw [World.protocolError_command]
      exact .refl _
  · unfold fieldsEOF
    split
    · exact keeps_prepareDone config view world
    · rw [World.protocolError_command]
      exact .refl _

@[simp]
theorem emitEnd_command (world : World Prepare V ρ γ) :
    (emitEnd world).command = world.command := by
  unfold emitEnd
  split <;> rfl

@[simp]
theorem fail_command (world : World Prepare V ρ γ) (err : JsError) :
    (fail world err).1.command = world.command := by
  have same := callWithError_command world err
  rw [fail]
  cases reportedEq : callWithError world err with
  | mk after result =>
      rw [reportedEq] at same
      cases result with
      | error thrown => exact same
      | ok _ => exact (emitEnd_command after).trans same

theorem advance_next {before : Prepare} {handled : Handled V ρ γ}
    (started : before.next.isSome = true) (kept : Keeps before handled.1.command)
    (continues : (advance handled).2 ≠ .ok false) :
    (advance handled).1.command.next.isSome = true := by
  rcases handled with ⟨after, result⟩
  cases result with
  | error err =>
      change after.command.next.isSome = true
      rw [kept.next]
      exact started
  | ok next =>
      cases next with
      | none => exact absurd rfl continues
      | some state => rfl

theorem keepsNext_handlers (config : CommandConfig V γ) (view : View) :
    (handlers config view : Handlers Prepare V ρ γ).KeepsNext where
  start _ := rfl
  fail := by
    intro world err thrown started failed
    change ((fail world err).1.command.next).isSome = true
    rw [fail_command]
    exact started
  next := by
    intro world packet started continues
    exact advance_next started (keeps_handle config view world packet) continues

end Prepare

/-! ## Commands without result sets -/

namespace SimpleCommand

@[simp]
theorem clearStatements_command (config : CommandConfig V γ) (view : View)
    (world : World SimpleCommand V ρ γ) :
    (clearStatements config view world).1.command = world.command := by
  rw [clearStatements, World.closeEvicted_command]

@[simp]
theorem send_command (world : World SimpleCommand V ρ γ) (request : Request)
    (packet : Except JsError Packet) (next : Option SimpleState) :
    (send world request packet next).1.command = world.command := by
  unfold send
  split <;> rfl

theorem resetConnectionResponse_command (config : CommandConfig V γ) (view : View)
    (world : World SimpleCommand V ρ γ) :
    (resetConnectionResponse config view world).1.command = world.command := by
  have same := clearStatements_command config view world
  rw [resetConnectionResponse]
  cases clearedEq : clearStatements config view world with
  | mk after result =>
      rw [clearedEq] at same
      cases result with
      | error err => exact same
      | ok _ =>
          dsimp only
          split <;> exact same

theorem changeUserStart_command (config : CommandConfig V γ) (view : View)
    (world : World SimpleCommand V ρ γ) :
    (changeUserStart config view world).1.command = world.command := by
  have same := clearStatements_command config view world
  rw [changeUserStart]
  cases clearedEq : clearStatements config view world with
  | mk after result =>
      rw [clearedEq] at same
      cases result with
      | error err => exact same
      | ok _ => exact (send_command _ _ _ _).trans same

@[simp]
theorem reportError_command (world : World SimpleCommand V ρ γ) (err : JsError) :
    (reportError world err).1.command = world.command := by
  unfold reportError
  dsimp only
  split
  · rfl
  · exact World.emitError_command _ _ _ _ _

@[simp]
theorem fail_command (world : World SimpleCommand V ρ γ) (err : JsError) :
    (fail world err).1.command = world.command := by
  have same := reportError_command world err
  rw [fail]
  cases reportedEq : reportError world err with
  | mk after result =>
      rw [reportedEq] at same
      cases result with
      | error thrown => exact same
      | ok _ => exact same

theorem advance_next {before : SimpleCommand} {handled : Handled V ρ γ}
    (started : before.next.isSome = true) (kept : handled.1.command = before)
    (continues : (advance handled).2 ≠ .ok false) :
    (advance handled).1.command.next.isSome = true := by
  rcases handled with ⟨after, result⟩
  cases result with
  | error err =>
      change after.command.next.isSome = true
      rw [show after.command = before from kept]
      exact started
  | ok next =>
      cases next with
      | none => exact absurd rfl continues
      | some state => rfl

/-- Handlers that leave their command alone keep `next` set. -/
theorem keepsNext_handlers {start response : World SimpleCommand V ρ γ → Handled V ρ γ}
    (start_command : ∀ world, (start world).1.command = world.command)
    (response_command : ∀ world, (response world).1.command = world.command) :
    (handlers start response).KeepsNext where
  start _ := rfl
  fail := by
    intro world err thrown started failed
    change ((fail world err).1.command.next).isSome = true
    rw [fail_command]
    exact started
  next := by
    intro world packet started continues
    revert continues
    dsimp only [handlers]
    split
    · exact advance_next started (start_command world)
    · intro _
      exact started
    · exact advance_next started (response_command world)

end SimpleCommand

/-! ## The family -/

namespace Command

theorem started_execute (config : CommandConfig V γ) (behaviour : Behaviour V ρ) (view : View)
    (store : Store γ) (wire : Wire) (command : Command V ρ) (packet : Option Packet)
    (continues : (execute config behaviour view store wire command packet).result ≠ .ok true) :
    started (execute config behaviour view store wire command packet).command = true := by
  cases command with
  | resultSet command =>
      exact (ResultSetCommand.keepsNext_handlers config behaviour view).execute continues
  | prepare command => exact (Prepare.keepsNext_handlers config view).execute continues
  | closeStatement command statementId =>
      exact (SimpleCommand.keepsNext_handlers (fun _ => SimpleCommand.send_command _ _ _ _)
        fun _ => rfl).execute continues
  | resetConnection command =>
      exact (SimpleCommand.keepsNext_handlers (fun _ => SimpleCommand.send_command _ _ _ _)
        (SimpleCommand.resetConnectionResponse_command config view)).execute continues
  | changeUser command =>
      exact (SimpleCommand.keepsNext_handlers (SimpleCommand.changeUserStart_command config view)
        fun _ => rfl).execute continues
  | other command isHandshake =>
      exact (SimpleCommand.keepsNext_handlers (fun _ => rfl) fun _ => rfl).execute continues

/-- The commands of a connection with the given settings. -/
def family (config : CommandConfig V γ) :
    CommandFamily (Behaviour V ρ) (Interrupt V ρ) (Store γ) (Command V ρ) (CommandOutput ρ) where
  execute := execute config
  hasCallback := hasCallback
  onResult := onResult
  isHandshake := isHandshake
  interrupt := runInterrupt config.cache
  started := started
  handshake_callback := by
    intro command handshake
    cases command with
    | other command isHandshake =>
        change isHandshake = true at handshake
        rw [hasCallback, handshake]
        exact Bool.and_false _
    | _ => contradiction
  handshakeError_execute := by
    intro behaviour view store wire command packet notHandshake
    cases command with
    | other command isHandshake =>
        change isHandshake = false at notHandshake
        rw [execute, notHandshake]
        rfl
    | _ => rfl
  started_execute := started_execute config

end Command

end Mysql2.Commands

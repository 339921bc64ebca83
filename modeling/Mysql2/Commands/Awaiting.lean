import Mysql2.Commands.Answers

/-!
# Commands take the response to their request

Behind its request, a command takes exactly the packets of the response, whatever
happens between them, and ends on the last one.
-/

namespace Mysql2.Commands

open Mysql2.Connection
open Mysql2.Packets
open Mysql2.Transition

variable {V ρ γ : Type}

variable {config : CommandConfig V γ} {format : RowFormat} {behaviour : Behaviour V ρ}

/-! ## Commands with result sets -/

namespace ResultSetCommand

variable {origin command after : ResultSetCommand V ρ} {done : Finished ρ}
  {columns : List ColumnDefinition} {rows : List ρ} {packet : Packet} {packets rest : List Packet}

theorem isClass (config : CommandConfig V γ) :
    IsClass config (Command.resultSet : _ → Command V ρ) (handlers config) :=
  fun _ _ _ _ _ _ => rfl

/-- A started command does not wait for a link. -/
theorem awaitsLink_of_started (started : command.next.isSome = true) :
    (Command.resultSet command).awaitsLink = none := by
  rw [Command.awaitsLink, if_neg]
  rintro ⟨_, _, unstarted⟩
  rw [unstarted] at started
  cases started

/-- A packet behind which the command waits for others. -/
theorem awaits_of_moves (started : command.next.isSome = true) (notError : packet.isError = false)
    (nonempty : rest ≠ [])
    (leads : ∀ behaviour : Behaviour V ρ, behaviour.Allowed config format → ∃ outputs after,
      Moves config behaviour command packet outputs after ∧
        outputs.filterMap CommandOutput.request? = [] ∧
        (dialogue config format).Awaits (Command.family config) (.resultSet after) rest) :
    (dialogue config format).Awaits (Command.family config) (.resultSet command)
      (packet :: rest) := by
  refine (isClass config).awaits_cons (fun _ _ => started) notError nonempty ?_
  intro behaviour view store wire line allowed listens sound
  obtain ⟨outputs, after, moves, silent, later⟩ := leads behaviour allowed
  obtain ⟨userCode, handled⟩ :=
    moves.handles behaviour view store wire rfl rfl (sound.stream command.id)
  have linked := sound.linked.continued (awaitsLink_of_started moves.continues)
    (rfl : (Command.resultSet after).preparesFor = (Command.resultSet command).preparesFor)
  exact ⟨_, handled, moves.settings.id, fun _ member => absurd member List.not_mem_nil, silent,
    ⟨sound.stream, linked⟩, later⟩

/-- The last packet of a response. -/
theorem awaits_of_ends (started : command.next.isSome = true) (notError : packet.isError = false)
    (leads : ∀ behaviour : Behaviour V ρ, behaviour.Allowed config format → ∃ outputs,
      Ends config behaviour command packet outputs) :
    (dialogue config format).Awaits (Command.family config) (.resultSet command) [packet] := by
  refine (isClass config).awaits_last (fun _ _ => started) notError ?_
  intro behaviour view store wire allowed listens stream
  obtain ⟨outputs, ends⟩ := leads behaviour allowed
  have returned := ends.returns behaviour view store wire rfl rfl (congrFun stream command.id)
  rcases advanceEq : advance (handle config behaviour view (.new command store wire)
    (some packet)) with ⟨after, result⟩
  rw [advanceEq] at returned
  obtain rfl : result = .ok false := returned.result
  refine ⟨after, advanceEq, returned.id, ?_, returned.silent, returned.stream, ?_, ?_⟩
  · rw [returned.added]
    exact fun _ member => absurd member List.not_mem_nil
  · rw [returned.links]
    exact fun _ isSet => isSet
  · intro id prepares
    cases prepares

/-- The rest of the columns. -/
theorem AtColumn.awaits {count : Nat} (atColumn : AtColumn origin done count columns command)
    {pending : List ColumnDefinition}
    (columnsRead : List.Forall₂ (ColumnPacket config.read) packets pending)
    (isRest : columns.length + pending.length = count) (unfinished : pending ≠ [])
    (builds : format.builds origin.protocol (columns ++ pending)) (nonempty : rest ≠ [])
    (later : ∀ after, AtFieldsEOF origin done (columns ++ pending) after →
      (dialogue config format).Awaits (Command.family config) (.resultSet after) rest) :
    (dialogue config format).Awaits (Command.family config) (.resultSet command)
      (packets ++ rest) := by
  induction columnsRead generalizing columns command with
  | nil => contradiction
  | @cons packet column packets pending isColumn columnsRead ih =>
      rw [List.length_cons] at isRest
      have restNonempty : packets ++ rest ≠ [] := List.append_ne_nil_of_right_ne_nil _ nonempty
      refine awaits_of_moves (by rw [atColumn.next]; rfl) isColumn.1 restNonempty
        fun behaviour allowed => ?_
      by_cases isLast : pending = []
      · subst isLast
        cases columnsRead
        obtain ⟨after, moves, atEOF⟩ :=
          atColumn.moves_lastColumn isColumn isRest (allowed.builds builds)
        exact ⟨_, after, moves, rfl, later after atEOF⟩
      · have notLast : columns.length + 1 < count := by
          have := List.length_pos_iff.mpr isLast
          omega
        obtain ⟨after, moves, atNext⟩ := atColumn.moves_column behaviour isColumn notLast
        have restEq : (columns ++ [column]).length + pending.length = count := by
          rw [List.length_append, List.length_singleton]
          omega
        refine ⟨_, after, moves, rfl, ih atNext restEq isLast ?_ fun between atEOF => ?_⟩
        · rw [List.append_assoc, List.singleton_append]
          exact builds
        · rw [List.append_assoc, List.singleton_append] at atEOF
          exact later between atEOF

/-- The rest of the rows. -/
theorem AtRow.awaits (atRow : AtRow origin done columns rows command) (hasColumns : columns ≠ [])
    (areRows : ∀ packet ∈ packets, RowPacket origin.protocol columns.length packet)
    (parses : ∀ packet ∈ packets, format.parses origin.protocol columns packet)
    (nonempty : rest ≠ [])
    (later : ∀ rows after, AtRow origin done columns rows after →
      (dialogue config format).Awaits (Command.family config) (.resultSet after) rest) :
    (dialogue config format).Awaits (Command.family config) (.resultSet command)
      (packets ++ rest) := by
  induction packets generalizing rows command with
  | nil => exact later rows command atRow
  | cons packet packets ih =>
      have ⟨isRow, others⟩ := List.forall_mem_cons.mp areRows
      have ⟨parsesRow, parsesOthers⟩ := List.forall_mem_cons.mp parses
      have restNonempty : packets ++ rest ≠ [] := List.append_ne_nil_of_right_ne_nil _ nonempty
      refine awaits_of_moves (by rw [atRow.next]; rfl)
        (isRow.not_special (List.length_pos_iff.mpr hasColumns)).2 restNonempty
        fun behaviour allowed => ?_
      obtain ⟨row, isParsed⟩ := allowed.parses parsesRow
      obtain ⟨after, moves, atNext⟩ := atRow.moves_row config
        (isRow.not_special (List.length_pos_iff.mpr hasColumns)) isParsed
      refine ⟨_, after, moves, ?_, ih atNext others parsesOthers⟩
      rw [rowEvents]
      split <;> rfl

/-- Columns and rows, up to the EOF packet behind the rows. -/
theorem AtHeader.awaits_rows (atHeader : AtHeader origin done command) {header eof left : Packet}
    {columnPackets rowPackets : List Packet} {status : Nat} (hasColumns : columns ≠ [])
    (notError : header.isError = false)
    (reads : ResultSetHeader.read config.read header =
      .ok (.columns (.number columns.length), left))
    (columnsRead : List.Forall₂ (ColumnPacket config.read) columnPackets columns)
    (isEOF : EOFPacket status eof)
    (areRows : ∀ packet ∈ rowPackets, RowPacket origin.protocol columns.length packet)
    (parsable : (ServerResult.rows columns rowPackets).Parsable format origin.protocol)
    (nonempty : rest ≠ [])
    (later : ∀ rows after, AtRow origin done columns rows after →
      (dialogue config format).Awaits (Command.family config) (.resultSet after) rest) :
    (dialogue config format).Awaits (Command.family config) (.resultSet command)
      (header :: (columnPackets ++ eof :: (rowPackets ++ rest))) := by
  have behindColumns : columnPackets ++ eof :: (rowPackets ++ rest) ≠ [] :=
    List.append_ne_nil_of_right_ne_nil _ (List.cons_ne_nil _ _)
  refine awaits_of_moves (by rw [atHeader.next]; rfl) notError behindColumns
    fun behaviour allowed => ?_
  obtain ⟨first, movesHeader, atColumn⟩ :=
    atHeader.moves_columns behaviour notError (List.length_pos_iff.mpr hasColumns) reads
  refine ⟨_, first, movesHeader, rfl, atColumn.awaits columnsRead (Nat.zero_add columns.length)
    hasColumns parsable.1 (List.cons_ne_nil _ _) fun second atEOF => ?_⟩
  have behindEOF : rowPackets ++ rest ≠ [] := List.append_ne_nil_of_right_ne_nil _ nonempty
  refine awaits_of_moves (by rw [atEOF.next]; rfl) isEOF.not_isError behindEOF
    fun behaviour allowed => ?_
  obtain ⟨third, movesEOF, atRow⟩ := atEOF.moves config isEOF (allowed.builds parsable.1)
  exact ⟨_, third, movesEOF, rfl, atRow.awaits hasColumns areRows parsable.2 nonempty later⟩

/-- The results of a response. -/
theorem AtHeader.awaits (atHeader : AtHeader origin done command) {last : Packet}
    {results : List ServerResult}
    (response : Response config.read origin.protocol packets last results)
    (parsable : ∀ result ∈ results, result.Parsable format origin.protocol) :
    (dialogue config format).Awaits (Command.family config) (.resultSet command)
      (packets ++ [last]) := by
  induction response generalizing command done with
  | last packetsOf =>
      cases packetsOf with
      | ok isOk reads flag =>
          exact awaits_of_ends (by rw [atHeader.next]; rfl) (not_isError_of_ok isOk)
            fun behaviour _ => ⟨_, atHeader.ends_ok isOk reads flag⟩
      | rows nonempty notError reads columnsRead isEOF rowPackets isLast flag =>
          rw [List.cons_append, List.append_assoc, List.cons_append]
          exact atHeader.awaits_rows nonempty notError reads columnsRead isEOF rowPackets
            (parsable _ (List.mem_singleton_self _)) (List.cons_ne_nil _ _) fun rows after atRow =>
              awaits_of_ends (by rw [atRow.next]; rfl) isLast.not_isError
                fun behaviour _ => ⟨_, atRow.ends isLast flag⟩
  | @more packets rest middle last result results packetsOf response ih =>
      have ⟨parsableResult, parsableOthers⟩ := List.forall_mem_cons.mp parsable
      have nonempty : rest ++ [last] ≠ [] :=
        List.append_ne_nil_of_right_ne_nil _ (List.cons_ne_nil _ _)
      rw [List.append_assoc, List.cons_append]
      cases packetsOf with
      | ok isOk reads flag =>
          refine awaits_of_moves (by rw [atHeader.next]; rfl) (not_isError_of_ok isOk) nonempty
            fun behaviour _ => ?_
          obtain ⟨after, moves, atNext⟩ := atHeader.moves_ok behaviour isOk reads flag
          exact ⟨_, after, moves, rfl, ih atNext parsableOthers⟩
      | rows hasColumns notError reads columnsRead isEOF rowPackets isLast flag =>
          rw [List.cons_append, List.append_assoc, List.cons_append]
          refine atHeader.awaits_rows hasColumns notError reads columnsRead isEOF rowPackets
            parsableResult (List.cons_ne_nil _ _) fun rows after atRow => ?_
          refine awaits_of_moves (by rw [atRow.next]; rfl) isLast.not_isError nonempty
            fun behaviour _ => ?_
          obtain ⟨next, moves, atNext⟩ := atRow.moves_more behaviour isLast flag
          exact ⟨_, next, moves, rfl, ih atNext parsableOthers⟩

/-- An error that the command reports. -/
theorem reportError_heard {τ : Type} (world : World (ResultSetCommand V ρ) V ρ γ) (err : JsError)
    (returns : τ) (heard : (Command.resultSet world.command).heard = true) :
    ∃ output : CommandOutput ρ, output.request? = none ∧
      reportError world err returns = (world.emit output, .ok returns) := by
  cases callback : world.command.onResult with
  | true => exact ⟨_, rfl, if_pos callback⟩
  | false =>
      have listens : world.command.errorListener = true := by
        rw [Command.heard, callback] at heard
        exact heard
      have noCallback : ¬world.command.onResult = true := by
        rw [callback]
        exact Bool.false_ne_true
      exact ⟨_, rfl, (if_neg noCallback).trans (if_pos listens)⟩

/-- An ERR packet that the command reports. -/
theorem fail_leaves (world : World (ResultSetCommand V ρ) V ρ γ) (err : JsError)
    (added : world.added = []) (silent : world.outputs = [])
    (heard : (Command.resultSet world.command).heard = true) :
    ∃ after, fail world err = (after, .ok ()) ∧ after.command = world.command ∧
      (Command.resultSet world.command).Leaves config world.store after := by
  obtain ⟨output, notRequest, reportEq⟩ := reportError_heard (clearTimeout world) err () heard
  refine ⟨emitEnd ((clearTimeout world).emit output), ?_, rfl, ?_⟩
  · rw [fail, reportEq]
  · constructor
    · change ∀ command ∈ world.added, _
      rw [added]
      exact fun _ member => absurd member List.not_mem_nil
    · change (world.outputs ++ [output] ++ [_]).filterMap CommandOutput.request? = []
      rw [silent, List.nil_append, List.singleton_append, List.filterMap_cons, notRequest]
      rfl
    · rfl
    · exact fun _ isSet => isSet
    · intro id prepares
      cases prepares

end ResultSetCommand

/-! ## Preparing statements -/

namespace Prepare

variable {command : Prepare} {packet eof : Packet} {packets rest : List Packet}

theorem isClass (config : CommandConfig V γ) :
    IsClass config (Command.prepare : _ → Command V ρ) fun _ view => handlers config view :=
  fun _ _ _ _ _ _ => rfl

/-- From `before` to `after` nothing is asked or added, and no link is forgotten. -/
structure Quietly (before after : World Prepare V ρ γ) : Prop where
  id : after.command.id = before.command.id
  onResult : after.command.onResult = before.command.onResult
  added : after.added = before.added
  silent : before.outputs.filterMap CommandOutput.request? = [] →
    after.outputs.filterMap CommandOutput.request? = []
  stream : after.store.localStreamError = before.store.localStreamError
  kept : ∀ id, before.store.links id ≠ .unset → after.store.links id ≠ .unset

theorem Quietly.refl (world : World Prepare V ρ γ) : Quietly world world :=
  ⟨rfl, rfl, rfl, fun silent => silent, rfl, fun _ isSet => isSet⟩

theorem Quietly.trans {first second third : World Prepare V ρ γ} (left : Quietly first second)
    (right : Quietly second third) : Quietly first third :=
  ⟨right.id.trans left.id, right.onResult.trans left.onResult, right.added.trans left.added,
    right.silent ∘ left.silent, right.stream.trans left.stream,
    fun id isSet => right.kept id (left.kept id isSet)⟩

theorem quietly_emit (world : World Prepare V ρ γ) {output : CommandOutput ρ}
    (notRequest : output.request? = none) : Quietly world (world.emit output) := by
  refine ⟨rfl, rfl, rfl, fun silent => ?_, rfl, fun _ isSet => isSet⟩
  change (world.outputs ++ [output]).filterMap CommandOutput.request? = []
  rw [List.filterMap_append, silent, List.filterMap_cons, notRequest]
  rfl

theorem quietly_setLink (world : World Prepare V ρ γ) (execute : Nat) {link : Link}
    (isSet : link ≠ .unset) : Quietly world (setLink world execute link) := by
  refine ⟨rfl, rfl, rfl, fun silent => silent, rfl, fun id wasSet => ?_⟩
  change Function.update world.store.links execute link id ≠ .unset
  by_cases same : id = execute
  · rw [same, Function.update_self]
    exact isSet
  · rw [Function.update_of_ne same]
    exact wasSet

theorem quietly_emitEnd (world : World Prepare V ρ γ) : Quietly world (emitEnd world) := by
  rw [emitEnd]
  split
  · exact .refl world
  · exact quietly_emit world rfl

/-- The callback of the command is called with a statement. -/
theorem callWithStatement_quietly (world : World Prepare V ρ γ) (info : PreparedStatementInfo) :
    Quietly world (callWithStatement world info) ∧
      ∀ id, (Command.prepare world.command : Command V ρ).preparesFor = some id →
        (callWithStatement world info).store.links id ≠ .unset := by
  cases callback : world.command.onResult with
  | none =>
      simp only [callWithStatement, callback, Command.preparesFor]
      exact ⟨.refl world, fun id prepares => by cases prepares⟩
  | caller =>
      simp only [callWithStatement, callback, Command.preparesFor]
      exact ⟨quietly_emit world rfl, fun id prepares => by cases prepares⟩
  | execute execute onResult errorListener =>
      simp only [callWithStatement, callback, Command.preparesFor]
      have sets : ∀ id, some execute = some id →
          Function.update world.store.links execute (Link.statement info) id ≠ .unset := by
        rintro id ⟨⟩
        rw [Function.update_self]
        exact Link.noConfusion
      exact ⟨quietly_setLink world execute Link.noConfusion, sets⟩

/-- The callback of the command is called with an error. -/
theorem callWithError_quietly (world : World Prepare V ρ γ) (err : JsError)
    (heard : (Command.prepare world.command : Command V ρ).heard = true) :
    ∃ after, callWithError world err = (after, .ok ()) ∧ Quietly world after ∧
      ∀ id, (Command.prepare world.command : Command V ρ).preparesFor = some id →
        after.store.links id ≠ .unset := by
  rw [Command.heard] at heard
  cases callback : world.command.onResult with
  | none =>
      rw [callback] at heard
      simp only [callWithError, callback, Command.preparesFor]
      exact ⟨_, if_pos heard, quietly_emit world rfl, fun id prepares => by cases prepares⟩
  | caller =>
      simp only [callWithError, callback, Command.preparesFor]
      exact ⟨_, rfl, quietly_emit world rfl, fun id prepares => by cases prepares⟩
  | execute execute onResult errorListener =>
      have skips := quietly_setLink world execute (Link.noConfusion : Link.skip ≠ .unset)
      have sets : ∀ id, some execute = some id →
          Function.update world.store.links execute Link.skip id ≠ .unset := by
        rintro id ⟨⟩
        rw [Function.update_self]
        exact Link.noConfusion
      rw [callback] at heard
      simp only [callWithError, callback, Command.preparesFor]
      cases onResult with
      | true =>
          exact ⟨_, rfl, (skips.trans (quietly_emit _ rfl)).trans (quietly_emit _ rfl), sets⟩
      | false =>
          have listens : errorListener = true := heard
          subst listens
          exact ⟨_, rfl, (skips.trans (quietly_emit _ rfl)).trans (quietly_emit _ rfl), sets⟩

/-- The command ends behind `before`. -/
theorem Quietly.leaves {before after : World Prepare V ρ γ} (quietly : Quietly before after)
    (added : ∀ command ∈ before.added, command.Welcome config)
    (silent : before.outputs.filterMap CommandOutput.request? = [])
    (sets : ∀ id, (Command.prepare before.command : Command V ρ).preparesFor = some id →
      after.store.links id ≠ .unset) :
    (Command.prepare before.command : Command V ρ).Leaves config before.store after := by
  refine ⟨?_, quietly.silent silent, quietly.stream, quietly.kept, sets⟩
  rw [quietly.added]
  exact added

/-- An ERR packet that the command reports. -/
theorem fail_leaves (world : World Prepare V ρ γ) (err : JsError) (added : world.added = [])
    (silent : world.outputs = [])
    (heard : (Command.prepare world.command : Command V ρ).heard = true) :
    ∃ after, fail world err = (after, .ok ()) ∧ after.command = world.command ∧
      (Command.prepare world.command : Command V ρ).Leaves config world.store after := by
  obtain ⟨called, calledEq, quietly, sets⟩ := callWithError_quietly world err heard
  have same : (callWithError world err).1.command = world.command := callWithError_command world err
  rw [calledEq] at same
  have whole := quietly.trans (quietly_emitEnd called)
  have sameStore : (emitEnd called).store = called.store := by
    rw [emitEnd]
    split <;> rfl
  refine ⟨emitEnd called, ?_, ?_, ?_⟩
  · rw [fail, calledEq]
  · rw [emitEnd_command]
    exact same
  · refine whole.leaves ?_ ?_ ?_
    · rw [added]
      exact fun _ member => absurd member List.not_mem_nil
    · rw [silent]
      rfl
    · rw [sameStore]
      exact sets

/-- The statement is handed over, and the command ends. -/
theorem advance_callWithStatement (config : CommandConfig V γ) (world : World Prepare V ρ γ)
    (info : PreparedStatementInfo) (added : ∀ command ∈ world.added, command.Welcome config)
    (silent : world.outputs.filterMap CommandOutput.request? = []) :
    ∃ after, advance (callWithStatement world info, .ok none) = (after, .ok false) ∧
      after.command.id = world.command.id ∧
      (Command.prepare world.command : Command V ρ).Leaves config world.store after := by
  obtain ⟨quietly, sets⟩ := callWithStatement_quietly world info
  let ended : World Prepare V ρ γ :=
    { callWithStatement world info with
      command := { (callWithStatement world info).command with next := none } }
  have stops : Quietly (callWithStatement world info) ended :=
    ⟨rfl, rfl, rfl, fun silent => silent, rfl, fun _ isSet => isSet⟩
  have whole := (quietly.trans stops).trans (quietly_emitEnd ended)
  have sameStore : (emitEnd ended).store = ended.store := by
    rw [emitEnd]
    split <;> rfl
  refine ⟨emitEnd ended, rfl, whole.id, whole.leaves added silent ?_⟩
  rw [sameStore]
  exact sets

/-- `prepareDone` ends the command. -/
theorem advance_prepareDone (config : CommandConfig V γ) (world : World Prepare V ρ γ) {view : View}
    (listens : view.errorListener = true) (added : world.added = [])
    (silent : world.outputs = []) :
    ∃ after, advance (prepareDone config view world) = (after, .ok false) ∧
      after.command.id = world.command.id ∧
      (Command.prepare world.command : Command V ρ).Leaves config world.store after := by
  let info : PreparedStatementInfo :=
    { query := world.command.query
      id := world.command.statementId
      columns := world.command.fields
      parameters := world.command.parameterDefinitions }
  let cached := config.cache.set world.store.statements world.command.key info
  let stored : World Prepare V ρ γ :=
    { world with
      store := { world.store with statements := cached.1 }
      added := world.added ++ cached.2.map PreparedStatementInfo.closeStatement }
  have doneEq : prepareDone config view world = (callWithStatement stored info, .ok none) := by
    rw [prepareDone]
    dsimp only
    rw [closeEvicted_listens _ listens]
  have areAdded : ∀ command ∈ stored.added, command.Welcome config := by
    change ∀ command ∈ world.added ++ _, command.Welcome config
    rw [added, List.nil_append]
    exact closeStatements_welcome config cached.2
  have stillSilent : stored.outputs.filterMap CommandOutput.request? = [] := by
    change world.outputs.filterMap CommandOutput.request? = []
    rw [silent]
    rfl
  obtain ⟨after, advanceEq, name, leaves⟩ := advance_callWithStatement config stored info areAdded
    stillSilent
  refine ⟨after, ?_, name, leaves.added, leaves.silent, leaves.stream, leaves.kept, leaves.sets⟩
  rw [doneEq]
  exact advanceEq

/-- A packet that the next handler of the command takes. -/
theorem handle_eq {view : View} {store : Store γ} {wire : Wire} {state : PrepareState}
    (atState : command.next = some state) (packet : Packet) :
    (handle config view (.new command store wire) (some packet) : Handled V ρ γ) =
      match state with
      | .start => start config (.new command store wire)
      | .prepareHeader => prepareHeader config view (.new command store wire) packet
      | .readParameter => readParameter config view (.new command store wire) packet
      | .readField => readField config view (.new command store wire) packet
      | .parametersEOF => parametersEOF config view (.new command store wire) packet
      | .fieldsEOF => fieldsEOF config view (.new command store wire) packet := by
  simp only [handle, World.new, atState, Option.getD_some]
  cases state <;> rfl

theorem preparesFor_eq {after : Prepare} (onResult : after.onResult = command.onResult) :
    (Command.prepare after : Command V ρ).preparesFor =
      (Command.prepare command : Command V ρ).preparesFor := by
  rw [Command.preparesFor, Command.preparesFor, onResult]

/-- The command goes on with another state. -/
theorem awaits_of_handle {state : PrepareState} (atState : command.next = some state)
    (after : Prepare) (next : PrepareState) (notError : packet.isError = false)
    (nonempty : rest ≠ []) (id : after.id = command.id)
    (onResult : after.onResult = command.onResult)
    (handles : ∀ view store wire,
      (handle config view (.new command store wire) (some packet) : Handled V ρ γ) =
        ({ World.new command store wire with command := after }, .ok (some next)))
    (later : (dialogue config format).Awaits (Command.family config)
      (.prepare { after with next := some next } : Command V ρ) rest) :
    (dialogue config format).Awaits (Command.family config) (.prepare command : Command V ρ)
      (packet :: rest) := by
  refine (isClass config).awaits_cons (fun _ _ => ?_) notError nonempty ?_
  · change command.next.isSome = true
    rw [atState]
    rfl
  · intro behaviour view store wire line allowed listens sound
    have handled := handles view store wire
    refine ⟨_, congrArg advance handled, id, fun _ member => absurd member List.not_mem_nil, rfl,
      ⟨sound.stream, ?_⟩, later⟩
    exact sound.linked.continued rfl (preparesFor_eq onResult)

/-- The command ends. -/
theorem awaits_of_prepareDone {state : PrepareState} (atState : command.next = some state)
    (after : Prepare) (notError : packet.isError = false) (id : after.id = command.id)
    (onResult : after.onResult = command.onResult)
    (handles : ∀ view store wire,
      (handle config view (.new command store wire) (some packet) : Handled V ρ γ) =
        prepareDone config view { World.new command store wire with command := after }) :
    (dialogue config format).Awaits (Command.family config) (.prepare command : Command V ρ)
      [packet] := by
  refine (isClass config).awaits_last (fun _ _ => ?_) notError ?_
  · change command.next.isSome = true
    rw [atState]
    rfl
  · intro behaviour view store wire allowed listens stream
    obtain ⟨ended, advanceEq, name, leaves⟩ := advance_prepareDone config
      ({ World.new command store wire with command := after } : World Prepare V ρ γ) listens rfl rfl
    refine ⟨ended, ?_, name.trans id, leaves.added, leaves.silent, leaves.stream, leaves.kept, ?_⟩
    · exact (congrArg advance (handles view store wire)).trans advanceEq
    · intro other prepares
      refine leaves.sets other ?_
      rw [← prepares]
      exact preparesFor_eq onResult

/-- Columns, and the EOF packet behind them. -/
theorem awaits_fields {status : Nat}
    (atFields : command.next = some .readField ∨ command.next = some .fieldsEOF ∧ packets = [])
    (definitions : ∀ packet ∈ packets, DefinitionPacket config.read packet)
    (room : command.fields.length + packets.length ≤ command.fieldCount)
    (isEOF : EOFPacket status eof) :
    (dialogue config format).Awaits (Command.family config) (.prepare command : Command V ρ)
      (packets ++ [eof]) := by
  induction packets generalizing command with
  | nil =>
      have ends {state : PrepareState} (atState : command.next = some state)
          (isEnd : state = .readField ∨ state = .fieldsEOF) :
          (dialogue config format).Awaits (Command.family config) (.prepare command : Command V ρ)
            [eof] := by
        refine awaits_of_prepareDone atState command isEOF.not_isError rfl rfl
          fun view store wire => ?_
        rw [handle_eq atState]
        rcases isEnd with rfl | rfl
        · exact if_pos isEOF.isEOF
        · exact if_pos isEOF.isEOF
      rcases atFields with atField | ⟨atEnd, _⟩
      · exact ends atField (.inl rfl)
      · exact ends atEnd (.inr rfl)
  | cons packet packets ih =>
      have atField : command.next = some .readField :=
        atFields.resolve_right fun ⟨_, isEmpty⟩ => List.cons_ne_nil _ _ isEmpty
      have ⟨⟨notEOF, definition, notError, left, reads⟩, others⟩ :=
        List.forall_mem_cons.mp definitions
      rw [List.length_cons] at room
      let after : Prepare := { command with fields := command.fields ++ [definition] }
      let next : PrepareState :=
        if after.fields.length = after.fieldCount then .fieldsEOF else .readField
      have handles (view : View) (store : Store γ) (wire : Wire) :
          (handle config view (.new command store wire) (some packet) : Handled V ρ γ) =
            ({ World.new command store wire with command := after }, .ok (some next)) := by
        rw [handle_eq atField]
        dsimp only
        rw [readField, notEOF, if_neg Bool.false_ne_true, reads]
        rfl
      have nonempty : packets ++ [eof] ≠ [] :=
        List.append_ne_nil_of_right_ne_nil _ (List.cons_ne_nil _ _)
      have length : after.fields.length = command.fields.length + 1 := List.length_append
      refine awaits_of_handle atField after next notError nonempty rfl rfl handles
        (ih ?_ others ?_)
      · change some next = _ ∨ some next = _ ∧ _
        by_cases isLast : after.fields.length = after.fieldCount
        · have full : command.fields.length + 1 = command.fieldCount := length.symm.trans isLast
          exact .inr ⟨congrArg some (if_pos isLast), List.length_eq_zero_iff.mp (by omega)⟩
        · exact .inl (congrArg some (if_neg isLast))
      · change after.fields.length + packets.length ≤ command.fieldCount
        omega

/-- Behind the parameters: the columns, if there are any. -/
theorem awaits_fieldsOrDone {state : PrepareState} {fields : List Packet}
    (atState : command.next = some state) (after : Prepare) (notError : packet.isError = false)
    (id : after.id = command.id) (onResult : after.onResult = command.onResult)
    (handles : ∀ view store wire,
      (handle config view (.new command store wire) (some packet) : Handled V ρ γ) =
        fieldsOrDone config view { World.new command store wire with command := after })
    (noneRead : after.fields = []) (areFields : Definitions config.read after.fieldCount fields) :
    (dialogue config format).Awaits (Command.family config) (.prepare command : Command V ρ)
      (packet :: fields) := by
  generalize isCount : after.fieldCount = count at areFields
  cases areFields with
  | none =>
      refine awaits_of_prepareDone atState after notError id onResult fun view store wire => ?_
      refine (handles view store wire).trans (if_neg ?_)
      change ¬0 < after.fieldCount
      rw [isCount]
      exact Nat.lt_irrefl 0
  | some positive definitions atMost isEOF =>
      refine awaits_of_handle atState after .readField notError
        (List.append_ne_nil_of_right_ne_nil _ (List.cons_ne_nil _ _)) id onResult
        (fun view store wire => (handles view store wire).trans (if_pos ?_))
        (awaits_fields (.inl rfl) definitions ?_ isEOF)
      · change 0 < after.fieldCount
        rw [isCount]
        exact positive
      · change after.fields.length + _ ≤ after.fieldCount
        rw [noneRead, isCount, List.length_nil, Nat.zero_add]
        exact atMost

/-- Parameters, the EOF packet behind them, and the columns. -/
theorem awaits_parameters {status : Nat} {fields : List Packet}
    (atParameters : command.next = some .readParameter ∨
      command.next = some .parametersEOF ∧ packets = [])
    (definitions : ∀ packet ∈ packets, DefinitionPacket config.read packet)
    (room : command.parameterDefinitions.length + packets.length ≤ command.parameterCount)
    (isEOF : EOFPacket status eof) (noneRead : command.fields = [])
    (areFields : Definitions config.read command.fieldCount fields) :
    (dialogue config format).Awaits (Command.family config) (.prepare command : Command V ρ)
      (packets ++ eof :: fields) := by
  induction packets generalizing command with
  | nil =>
      have goesOn {state : PrepareState} (atState : command.next = some state)
          (isEnd : state = .readParameter ∨ state = .parametersEOF) :
          (dialogue config format).Awaits (Command.family config) (.prepare command : Command V ρ)
            (eof :: fields) := by
        refine awaits_fieldsOrDone atState command isEOF.not_isError rfl rfl
          (fun view store wire => ?_) noneRead areFields
        rw [handle_eq atState]
        rcases isEnd with rfl | rfl
        · exact if_pos isEOF.isEOF
        · exact if_pos isEOF.isEOF
      rcases atParameters with atParameter | ⟨atEnd, _⟩
      · exact goesOn atParameter (.inl rfl)
      · exact goesOn atEnd (.inr rfl)
  | cons packet packets ih =>
      have atParameter : command.next = some .readParameter :=
        atParameters.resolve_right fun ⟨_, isEmpty⟩ => List.cons_ne_nil _ _ isEmpty
      have ⟨⟨notEOF, definition, notError, left, reads⟩, others⟩ :=
        List.forall_mem_cons.mp definitions
      rw [List.length_cons] at room
      let after : Prepare :=
        { command with parameterDefinitions := command.parameterDefinitions ++ [definition] }
      let next : PrepareState :=
        if after.parameterDefinitions.length = after.parameterCount then .parametersEOF
        else .readParameter
      have handles (view : View) (store : Store γ) (wire : Wire) :
          (handle config view (.new command store wire) (some packet) : Handled V ρ γ) =
            ({ World.new command store wire with command := after }, .ok (some next)) := by
        rw [handle_eq atParameter]
        dsimp only
        rw [readParameter, notEOF, if_neg Bool.false_ne_true, reads]
        rfl
      have nonempty : packets ++ eof :: fields ≠ [] :=
        List.append_ne_nil_of_right_ne_nil _ (List.cons_ne_nil _ _)
      have length : after.parameterDefinitions.length = command.parameterDefinitions.length + 1 :=
        List.length_append
      refine awaits_of_handle atParameter after next notError nonempty rfl rfl handles
        (ih ?_ others ?_ noneRead areFields)
      · change some next = _ ∨ some next = _ ∧ _
        by_cases isLast : after.parameterDefinitions.length = after.parameterCount
        · have full : command.parameterDefinitions.length + 1 = command.parameterCount :=
            length.symm.trans isLast
          exact .inr ⟨congrArg some (if_pos isLast), List.length_eq_zero_iff.mp (by omega)⟩
        · exact .inl (congrArg some (if_neg isLast))
      · change after.parameterDefinitions.length + packets.length ≤ command.parameterCount
        omega

/-- The response to a prepare command. -/
theorem awaits_response (atHeader : command.next = some .prepareHeader)
    (noFields : command.fields = []) (noParameters : command.parameterDefinitions = [])
    (response : PrepareResponse config.read packets) :
    (dialogue config format).Awaits (Command.family config) (.prepare command : Command V ρ)
      packets := by
  obtain ⟨notError, reads, areParameters, areFields⟩ := response
  rename_i header info left parameters fields
  let after : Prepare :=
    { command with
      statementId := info.id
      fieldCount := info.fieldCount
      parameterCount := info.parameterCount }
  have handled (view : View) (store : Store γ) (wire : Wire) :
      (handle config view (.new command store wire) (some header) : Handled V ρ γ) =
        if 0 < info.parameterCount then
          ({ World.new command store wire with command := after }, .ok (some .readParameter))
        else
          fieldsOrDone config view { World.new command store wire with command := after } := by
    rw [handle_eq atHeader]
    dsimp only
    rw [prepareHeader, reads]
    rfl
  generalize isCount : info.parameterCount = count at areParameters
  cases areParameters with
  | none =>
      refine awaits_fieldsOrDone atHeader after notError rfl rfl (fun view store wire => ?_)
        noFields areFields
      rw [handled, if_neg]
      rw [isCount]
      exact Nat.lt_irrefl 0
  | some positive definitions atMost isEOF =>
      rw [List.append_assoc, List.singleton_append]
      refine awaits_of_handle atHeader after .readParameter notError
        (List.append_ne_nil_of_right_ne_nil _ (List.cons_ne_nil _ _)) rfl rfl
        (fun view store wire => ?_)
        (awaits_parameters (.inl rfl) definitions ?_ isEOF noFields areFields)
      · rw [handled, if_pos]
        rw [isCount]
        exact positive
      · change command.parameterDefinitions.length + _ ≤ info.parameterCount
        rw [noParameters, isCount, List.length_nil, Nat.zero_add]
        exact atMost

end Prepare

/-! ## Commands without result sets -/

namespace SimpleCommand

variable {command : SimpleCommand} {packet : Packet}

theorem isClass_closeStatement (config : CommandConfig V γ) (statementId : Nat) :
    IsClass config (Command.closeStatement · statementId : _ → Command V ρ) fun behaviour _ =>
      handlers (closeStatementStart config statementId) (unmodelled behaviour) :=
  fun _ _ _ _ _ _ => rfl

theorem isClass_resetConnection (config : CommandConfig V γ) :
    IsClass config (Command.resetConnection : _ → Command V ρ) fun _ view =>
      handlers (resetConnectionStart config) (resetConnectionResponse config view) :=
  fun _ _ _ _ _ _ => rfl

theorem isClass_changeUser (config : CommandConfig V γ) :
    IsClass config (Command.changeUser : _ → Command V ρ) fun behaviour view =>
      handlers (changeUserStart config view) (unmodelled behaviour) :=
  fun _ _ _ _ _ _ => rfl

/-- An ERR packet that the command reports. -/
theorem fail_leaves (wrap : SimpleCommand → Command V ρ) (world : World SimpleCommand V ρ γ)
    (err : JsError) (added : world.added = []) (silent : world.outputs = [])
    (heard : (world.command.onResult || world.command.errorListener) = true)
    (preparesNone : (wrap world.command).preparesFor = none) :
    ∃ after, fail world err = (after, .ok ()) ∧ after.command = world.command ∧
      (wrap world.command).Leaves config world.store after := by
  have reported : ∃ output : CommandOutput ρ, output.request? = none ∧
      reportError world err = (world.emit output, .ok ()) := by
    cases callback : world.command.onResult with
    | true => exact ⟨_, rfl, if_pos callback⟩
    | false =>
        have listens : world.command.errorListener = true := by
          rw [callback] at heard
          exact heard
        have noCallback : ¬world.command.onResult = true := by
          rw [callback]
          exact Bool.false_ne_true
        exact ⟨_, rfl, (if_neg noCallback).trans (if_pos listens)⟩
  obtain ⟨output, notRequest, reportEq⟩ := reported
  refine ⟨emitEnd (world.emit output), ?_, rfl, ?_, ?_, rfl, fun _ isSet => isSet, ?_⟩
  · rw [fail, reportEq]
  · change ∀ command ∈ world.added, _
    rw [added]
    exact fun _ member => absurd member List.not_mem_nil
  · change (world.outputs ++ [output] ++ [_]).filterMap CommandOutput.request? = []
    rw [silent, List.nil_append, List.singleton_append, List.filterMap_cons, notRequest]
    rfl
  · intro id prepares
    rw [preparesNone] at prepares
    cases prepares

/-- The cached statements are closed, and the command ends. -/
theorem advance_resetConnectionResponse (config : CommandConfig V γ)
    (world : World SimpleCommand V ρ γ) {view : View} (listens : view.errorListener = true)
    (added : world.added = []) (silent : world.outputs = []) :
    ∃ after, advance (resetConnectionResponse config view world) = (after, .ok false) ∧
      after.command.id = world.command.id ∧
      (Command.resetConnection world.command : Command V ρ).Leaves config world.store after := by
  let cleared := config.cache.clear world.store.statements
  let stored : World SimpleCommand V ρ γ :=
    { world with
      store := { world.store with statements := cleared.1 }
      added := world.added ++ cleared.2.map PreparedStatementInfo.closeStatement }
  have clearedEq : clearStatements config view world = (stored, .ok ()) := by
    rw [clearStatements]
    exact closeEvicted_listens _ listens cleared.2
  have areAdded : ∀ command ∈ stored.added, command.Welcome config := by
    change ∀ command ∈ world.added ++ _, command.Welcome config
    rw [added, List.nil_append]
    exact closeStatements_welcome config cleared.2
  have handled : resetConnectionResponse config view world =
      if world.command.onResult then
        (stored.emit (.scheduled world.command.id .ok), .ok none)
      else
        (stored, .ok none) := by
    rw [resetConnectionResponse, clearedEq]
  have response : ∃ (outputs : List (CommandOutput ρ)) (userCode : Bool),
      resetConnectionResponse config view world =
        ({ stored with outputs := outputs, userCode := userCode }, .ok none) ∧
      outputs.filterMap CommandOutput.request? = [] := by
    by_cases callback : world.command.onResult = true
    · refine ⟨_, _, handled.trans (if_pos callback), ?_⟩
      change (world.outputs ++ [_]).filterMap CommandOutput.request? = []
      rw [silent]
      rfl
    · refine ⟨_, _, handled.trans (if_neg callback), ?_⟩
      rw [silent]
      rfl
  obtain ⟨outputs, userCode, responseEq, stillSilent⟩ := response
  refine ⟨_, congrArg advance responseEq, rfl, areAdded, ?_, rfl, fun _ isSet => isSet,
    fun _ prepares => by cases prepares⟩
  change (outputs ++ [_]).filterMap CommandOutput.request? = []
  rw [List.filterMap_append, stillSilent]
  rfl

/-- The response to a reset of the connection. -/
theorem awaits_resetConnection (atResponse : command.next = some .response)
    (notError : packet.isError = false) :
    (dialogue config format).Awaits (Command.family config) (.resetConnection command : Command V ρ)
      [packet] := by
  refine (isClass_resetConnection config).awaits_last (fun _ _ => ?_) notError ?_
  · change command.next.isSome = true
    rw [atResponse]
    rfl
  · intro behaviour view store wire allowed listens stream
    obtain ⟨after, advanceEq, name, leaves⟩ := advance_resetConnectionResponse config
      (.new command store wire : World SimpleCommand V ρ γ) listens rfl rfl
    refine ⟨after, ?_, name, leaves⟩
    rw [← advanceEq]
    simp only [handlers, World.new, atResponse, Option.getD_some]

end SimpleCommand

/-! ## Errors in place of a response -/

/-- What the handlers of a class keep of its commands, `execute` keeps. -/
theorem Handlers.execute_keeps {α β : Type} (handlers : Handlers α V ρ γ) (part : α → β)
    (start : ∀ command, part (handlers.start command) = part command)
    (fail : ∀ world err, part (handlers.fail world err).1.command = part world.command)
    (next : ∀ world packet, part (handlers.next world packet).1.command = part world.command)
    (read : ReadConfig) (world : World α V ρ γ) (packet : Option Packet) :
    part (handlers.execute read world packet).1.command = part world.command := by
  have begun : part (handlers.begin world).command = part world.command := by
    rw [Handlers.begin]
    split
    · rfl
    · exact start world.command
  rw [← begun]
  cases filterEq : packet.filter Packet.isError with
  | none =>
      rw [handlers.execute_of_not_isError read world filterEq]
      exact next (handlers.begin world) packet
  | some errorPacket =>
      rcases Option.filter_eq_some_iff.mp filterEq with ⟨rfl, isError⟩
      cases asErrorEq : Packet.asError read.toDecoding read.clientEncoding errorPacket with
      | error err => rw [handlers.execute_of_asError_throws world isError asErrorEq]
      | ok decoded =>
          rw [handlers.execute_of_asError world isError asErrorEq]
          exact fail (handlers.begin world) _

namespace ResultSetCommand

/-- The command reports an ERR packet and ends. -/
theorem awaits_error {command : ResultSetCommand V ρ} {packet : Packet}
    (started : command.next.isSome = true) (heard : (Command.resultSet command).heard = true)
    (isError : ErrorPacket config.read packet) :
    (dialogue config format).Awaits (Command.family config) (.resultSet command) [packet] :=
  (isClass config).awaits_error (fun _ _ => started) isError fun _ _ store wire err =>
    fail_leaves (.new command store wire) err rfl rfl heard

end ResultSetCommand

namespace Prepare

/-- The command reports an ERR packet and ends. -/
theorem awaits_error {command : Prepare} {packet : Packet} (started : command.next.isSome = true)
    (heard : (Command.prepare command : Command V ρ).heard = true)
    (isError : ErrorPacket config.read packet) :
    (dialogue config format).Awaits (Command.family config) (.prepare command : Command V ρ)
      [packet] :=
  (isClass config).awaits_error (fun _ _ => started) isError fun _ _ store wire err =>
    fail_leaves (.new command store wire) err rfl rfl heard

end Prepare

namespace Command

/-- A command that has been started, and whose errors are heard. -/
def Steady (command : Command V ρ) : Prop :=
  command.started = true ∧ command.heard = true

/-- An ERR packet ends a command. -/
theorem Steady.awaits_error {command : Command V ρ} (steady : command.Steady) {packet : Packet}
    (isError : ErrorPacket config.read packet) :
    (dialogue config format).Awaits (family config) command [packet] := by
  obtain ⟨started, heard⟩ := steady
  cases command with
  | resultSet command => exact command.awaits_error started heard isError
  | prepare command => exact command.awaits_error started heard isError
  | closeStatement command statementId =>
      exact (SimpleCommand.isClass_closeStatement config statementId).awaits_error
        (fun _ _ => started) isError fun _ _ store wire err =>
          SimpleCommand.fail_leaves (.closeStatement · statementId) (.new command store wire) err
            rfl rfl heard rfl
  | resetConnection command =>
      exact (SimpleCommand.isClass_resetConnection config).awaits_error
        (fun _ _ => started) isError fun _ _ store wire err =>
          SimpleCommand.fail_leaves _ (.new command store wire) err rfl rfl heard rfl
  | changeUser command =>
      exact (SimpleCommand.isClass_changeUser config).awaits_error
        (fun _ _ => started) isError fun _ _ store wire err =>
          SimpleCommand.fail_leaves _ (.new command store wire) err rfl rfl heard rfl
  | other command isHandshake => cases heard

end Command

theorem Prepare.heard_execute (config : CommandConfig V γ) (view : View)
    (world : World Prepare V ρ γ) (packet : Option Packet) :
    (Command.prepare ((Prepare.handlers config view).execute config.read world packet).1.command :
        Command V ρ).heard =
      (Command.prepare world.command : Command V ρ).heard := by
  let part (command : Prepare) : Bool := (Command.prepare command : Command V ρ).heard
  have same {before after : Prepare} (onResult : after.onResult = before.onResult)
      (errorListener : after.errorListener = before.errorListener) : part after = part before := by
    change Command.heard _ = Command.heard _
    rw [Command.heard, Command.heard, onResult, errorListener]
  have advanced (handled : Prepare.Handled V ρ γ) :
      part (Prepare.advance handled).1.command = part handled.1.command := by
    rcases handled with ⟨after, result⟩
    cases result with
    | error err => rfl
    | ok next =>
        cases next with
        | some state => rfl
        | none =>
            let ended : World Prepare V ρ γ :=
              { after with command := { after.command with next := none } }
            change part (Prepare.emitEnd ended).command = part ended.command
            rw [Prepare.emitEnd_command]
  refine (Prepare.handlers config view).execute_keeps part (fun _ => rfl)
    (fun world err => congrArg part (Prepare.fail_command world err))
    (fun world packet => ?_) config.read world packet
  have kept := Prepare.keeps_handle config view world packet
  exact (advanced _).trans (same kept.onResult kept.errorListener)

theorem SimpleCommand.heard_execute
    {start response : World SimpleCommand V ρ γ → SimpleCommand.Handled V ρ γ}
    (start_command : ∀ world, (start world).1.command = world.command)
    (response_command : ∀ world, (response world).1.command = world.command) (read : ReadConfig)
    (world : World SimpleCommand V ρ γ) (packet : Option Packet) :
    let after := ((SimpleCommand.handlers start response).execute read world packet).1.command
    (after.onResult || after.errorListener) =
      (world.command.onResult || world.command.errorListener) := by
  let part (command : SimpleCommand) : Bool := command.onResult || command.errorListener
  have advanced (handled : SimpleCommand.Handled V ρ γ) :
      part (SimpleCommand.advance handled).1.command = part handled.1.command := by
    rcases handled with ⟨after, result⟩
    cases result with
    | error err => rfl
    | ok next => cases next <;> rfl
  refine (SimpleCommand.handlers start response).execute_keeps part (fun _ => rfl)
    (fun world err => congrArg part (SimpleCommand.fail_command world err))
    (fun world packet => ?_) read world packet
  dsimp only [SimpleCommand.handlers]
  split
  · rw [advanced, start_command]
  · rfl
  · rw [advanced, response_command]

namespace Command

/-- No handler changes who hears the errors of a command. -/
theorem heard_execute (config : CommandConfig V γ) (behaviour : Behaviour V ρ) (view : View)
    (store : Store γ) (wire : Wire) (command : Command V ρ) (packet : Option Packet) :
    (execute config behaviour view store wire command packet).command.heard = command.heard := by
  cases command with
  | resultSet command =>
      have kept := ResultSetCommand.keepsSettings_execute config behaviour view
        (.new command store wire) packet
      change (_ || _) = (_ || _)
      rw [kept.onResult, kept.errorListener]
      rfl
  | prepare command => exact Prepare.heard_execute config view (.new command store wire) packet
  | closeStatement command statementId =>
      exact SimpleCommand.heard_execute (fun _ => SimpleCommand.send_command _ _ _ _)
        (fun _ => rfl) config.read (.new command store wire) packet
  | resetConnection command =>
      exact SimpleCommand.heard_execute (fun _ => SimpleCommand.send_command _ _ _ _)
        (SimpleCommand.resetConnectionResponse_command config view) config.read
        (.new command store wire) packet
  | changeUser command =>
      exact SimpleCommand.heard_execute (SimpleCommand.changeUserStart_command config view)
        (fun _ => rfl) config.read (.new command store wire) packet
  | other command isHandshake => rfl

/-- A part of a response, and an ERR packet. -/
theorem Steady.awaits_failing {command : Command V ρ} (steady : command.Steady)
    {packets sent : List Packet} {errorPacket : Packet}
    (awaits : (dialogue config format).Awaits (family config) command packets)
    (isPrefix : sent <+: packets) (notWhole : sent ≠ packets)
    (isError : ErrorPacket config.read errorPacket) :
    (dialogue config format).Awaits (family config) command (sent ++ [errorPacket]) := by
  refine Dialogue.Awaits.failing (fun _ steady => steady.awaits_error isError) ?_ steady awaits
    isPrefix notWhole
  intro command behaviour view store wire packet isSteady result
  refine ⟨started_execute config behaviour view store wire command (some packet) ?_, ?_⟩
  · rw [show (execute config behaviour view store wire command (some packet)).result = _ from
      result]
    exact nofun
  · exact (heard_execute config behaviour view store wire command (some packet)).trans isSteady.2

/-- A command in front of the response to its request. -/
theorem Steady.awaits_responds {command : Command V ρ} (steady : command.Steady)
    {request : Request}
    (awaits : ∀ packets, Answers config.read format request packets →
      (dialogue config format).Awaits (family config) command packets)
    {packets : List Packet} (responds : Responds config.read format request packets) :
    (dialogue config format).Awaits (family config) command packets := by
  cases responds with
  | whole answers => exact awaits packets answers
  | failing answers isPrefix notWhole isError =>
      exact steady.awaits_failing (awaits _ answers) isPrefix notWhole isError

end Command

end Mysql2.Commands

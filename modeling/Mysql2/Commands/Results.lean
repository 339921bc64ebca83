import Mysql2.Commands.Ending
import Mysql2.Commands.Response

/-!
# Results of a response

A query or execute command collects the results of a response in lists that its
handlers index by the number of the result.  Between two packets the lists are
aligned: the entries of the finished results, and the entry of the result that
is being received.
-/

namespace Mysql2.Commands

open Mysql2.Connection
open Mysql2.Packets
open Mysql2.Transition

variable {V ρ γ : Type}

/-! ## What an observer sees of a response -/

/-- The command that an output is about. -/
def CommandOutput.command : CommandOutput ρ → Option Nat
  | .callback id _ => some id
  | .scheduled id _ => some id
  | .event id _ => some id
  | .request id _ => some id
  | .connectionError _ => none

/-- The request that an output stands for, with its command. -/
def CommandOutput.request? : CommandOutput ρ → Option (Nat × Request)
  | .request id sent => some (id, sent)
  | _ => none

/-- The outputs about one command. -/
def ofCommand (id : Nat) (outputs : List (CommandOutput ρ)) : List (CommandOutput ρ) :=
  outputs.filter fun output => output.command = some id

@[simp]
theorem ofCommand_nil (id : Nat) : ofCommand id ([] : List (CommandOutput ρ)) = [] :=
  rfl

theorem ofCommand_append (id : Nat) (outputs more : List (CommandOutput ρ)) :
    ofCommand id (outputs ++ more) = ofCommand id outputs ++ ofCommand id more :=
  List.filter_append _ _

theorem ofCommand_of_forall {id : Nat} {outputs : List (CommandOutput ρ)}
    (own : ∀ output ∈ outputs, output.command = some id) : ofCommand id outputs = outputs :=
  List.filter_eq_self.mpr fun output member => decide_eq_true (own output member)

theorem ofCommand_of_ne {id : Nat} {output : CommandOutput ρ}
    (isOther : output.command ≠ some id) : ofCommand id [output] = [] :=
  List.filter_cons_of_neg fun own => isOther (of_decide_eq_true own)

/-- The fields of a result, which an OK packet does not have. -/
def ServerResult.fields : ServerResult → Option (List ColumnDefinition)
  | .ok _ => none
  | .rows columns _ => some columns

/-- The rows of a result, each parsed with the columns of that result, or the
header of an OK packet. -/
inductive Parses (behaviour : Behaviour V ρ) (protocol : Protocol) :
    ServerResult → ResultRows ρ → Prop
  | ok (header : OkPacket) : Parses behaviour protocol (.ok header) (.header (.ok header))
  | rows {columns : List ColumnDefinition} {packets : List Packet} {rows : List ρ}
      (builds : behaviour.buildParser protocol columns = .ok ())
      (parses : List.Forall₂
        (fun packet row => behaviour.parseRow protocol columns columns packet = .ok row)
        packets rows) :
      Parses behaviour protocol (.rows columns packets) (.rows rows)

/-- The events of rows, which a command with a callback collects instead. -/
def rowEvents (id : Nat) (onResult : Bool) (index : Nat) (rows : List ρ) : List (CommandOutput ρ) :=
  if onResult then [] else rows.map fun row => .event id (.row row index)

/-- The events of one result. -/
def resultEvents (id : Nat) (onResult : Bool) (index : Nat)
    (fields : Option (List ColumnDefinition)) : ResultRows ρ → List (CommandOutput ρ)
  | .header header => [.event id (.fields none), .event id (.header header)]
  | .rows rows => .event id (.fields fields) :: rowEvents id onResult index rows

/-- The events of the results of a response, the first of which has the given
index. -/
def responseEvents (id : Nat) (onResult : Bool) :
    Nat → List (ResultRows ρ × Option (List ColumnDefinition)) → List (CommandOutput ρ)
  | _, [] => []
  | index, (rows, fields) :: results =>
      resultEvents id onResult index fields rows ++ responseEvents id onResult (index + 1) results

namespace ResultSetCommand

/-! ## The lists of a command -/

/-- The entries of finished results. -/
abbrev Finished (ρ : Type) :=
  List (ResultRows ρ × Option (List ColumnDefinition))

/-- What a command keeps of a result: without a callback the rows are events. -/
def collected (onResult : Bool) : ResultRows ρ → ResultRows ρ
  | .header header => .header header
  | .rows rows => .rows (if onResult then rows else [])

/-- The lists hold the finished results. -/
structure Aligned (done : Finished ρ) (command : ResultSetCommand V ρ) : Prop where
  rows : command.rows = done.map Prod.fst
  fields : command.fields = done.map Prod.snd
  resultIndex : command.resultIndex = done.length

/-- The lists hold the finished results, and the columns and rows received so far
of another one. -/
structure Amid (done : Finished ρ) (columns : List ColumnDefinition) (rows : List ρ)
    (command : ResultSetCommand V ρ) : Prop where
  rows : command.rows = done.map Prod.fst ++ [.rows rows]
  fields : command.fields = done.map Prod.snd ++ [some columns]
  resultIndex : command.resultIndex = done.length
  currentRows : command.currentRows = some done.length
  currentFields : command.currentFields = some done.length

/-- The command waits for the first packet of a result. -/
structure AtHeader (origin : ResultSetCommand V ρ) (done : Finished ρ)
    (command : ResultSetCommand V ρ) : Prop where
  settings : KeepsSettings origin command
  next : command.next = some .resultsetHeader
  aligned : Aligned done command

/-- The command waits for a column definition. -/
structure AtColumn (origin : ResultSetCommand V ρ) (done : Finished ρ) (count : Nat)
    (columns : List ColumnDefinition) (command : ResultSetCommand V ρ) : Prop where
  settings : KeepsSettings origin command
  next : command.next = some .readField
  amid : Amid done columns [] command
  fieldCount : command.fieldCount = .number count
  received : command.receivedFieldsCount = columns.length

/-- The command waits for the end of the columns.  A query has its parser already. -/
structure AtFieldsEOF (origin : ResultSetCommand V ρ) (done : Finished ρ)
    (columns : List ColumnDefinition) (command : ResultSetCommand V ρ) : Prop where
  settings : KeepsSettings origin command
  next : command.next = some .fieldsEOF
  amid : Amid done columns [] command
  rowParser : origin.protocol = .query → command.rowParser = some columns

/-- The command waits for a row. -/
structure AtRow (origin : ResultSetCommand V ρ) (done : Finished ρ)
    (columns : List ColumnDefinition) (rows : List ρ) (command : ResultSetCommand V ρ) : Prop where
  settings : KeepsSettings origin command
  next : command.next = some .row
  amid : Amid done columns rows command
  rowParser : command.rowParser = some columns

variable {origin command after : ResultSetCommand V ρ} {done : Finished ρ}
  {columns : List ColumnDefinition} {rows : List ρ}

theorem Amid.getElem?_fields (amid : Amid done columns rows command) :
    command.fields[command.resultIndex]? = some (some columns) := by
  rw [amid.fields, amid.resultIndex]
  simp

theorem Amid.set_fields (amid : Amid done columns rows command)
    (columns' : List ColumnDefinition) :
    command.fields.set command.resultIndex (some columns') =
      done.map Prod.snd ++ [some columns'] := by
  rw [amid.fields, amid.resultIndex]
  have length : (done.map Prod.snd).length = done.length := List.length_map _
  rw [← length, List.set_append_right _ _ (Nat.le_refl _), Nat.sub_self]
  rfl

theorem Amid.aligned (amid : Amid done columns rows command) :
    Aligned (done ++ [(.rows rows, some columns)])
      { command with resultIndex := command.resultIndex + 1 } where
  rows := by
    rw [List.map_append]
    exact amid.rows
  fields := by
    rw [List.map_append]
    exact amid.fields
  resultIndex := by
    rw [List.length_append]
    exact congrArg (· + 1) amid.resultIndex

/-! ## Packets that lead to another state -/

/-- A command that waits for it handles the packet, which is no ERR packet, in
any step alike, as long as no local stream of the command has failed. -/
structure Moves (config : CommandConfig V γ) (behaviour : Behaviour V ρ)
    (command : ResultSetCommand V ρ) (packet : Packet) (outputs : List (CommandOutput ρ))
    (after : ResultSetCommand V ρ) : Prop where
  started : command.next.isSome = true
  notError : packet.isError = false
  continues : after.next.isSome = true
  settings : KeepsSettings command after
  sql : after.sql = command.sql
  handles : ∀ other view store wire, other.buildParser = behaviour.buildParser →
    other.parseRow = behaviour.parseRow → store.localStreamError command.id = none → ∃ userCode,
      advance (handle config other view (.new command store wire) (some packet)) =
        (⟨after, store, wire, outputs, [], userCode⟩, .ok true)

/-- Packets that lead to the state `after`, one after the other. -/
inductive Reaches (config : CommandConfig V γ) (behaviour : Behaviour V ρ) :
    ResultSetCommand V ρ → List Packet → List (CommandOutput ρ) → ResultSetCommand V ρ → Prop
  | refl (command : ResultSetCommand V ρ) : Reaches config behaviour command [] [] command
  | packet {command between after : ResultSetCommand V ρ} {packet : Packet}
      {packets : List Packet} {outputs more : List (CommandOutput ρ)}
      (moves : Moves config behaviour command packet outputs between)
      (later : Reaches config behaviour between packets more after) :
      Reaches config behaviour command (packet :: packets) (outputs ++ more) after

variable {config : CommandConfig V γ} {behaviour : Behaviour V ρ}

theorem Moves.reaches {packet : Packet} {outputs : List (CommandOutput ρ)}
    (moves : Moves config behaviour command packet outputs after) :
    Reaches config behaviour command [packet] outputs after := by
  have reaches := Reaches.packet moves (.refl after)
  rwa [List.append_nil] at reaches

theorem Reaches.trans {between : ResultSetCommand V ρ} {packets morePackets : List Packet}
    {outputs more : List (CommandOutput ρ)}
    (first : Reaches config behaviour command packets outputs between)
    (second : Reaches config behaviour between morePackets more after) :
    Reaches config behaviour command (packets ++ morePackets) (outputs ++ more) after := by
  induction first with
  | refl command => exact second
  | packet moves later ih =>
      rw [List.cons_append, List.append_assoc]
      exact .packet moves (ih second)

/-- A part of the packets leads somewhere on the way. -/
theorem Reaches.of_append {packets morePackets : List Packet} {outputs : List (CommandOutput ρ)}
    (reaches : Reaches config behaviour command (packets ++ morePackets) outputs after) :
    ∃ first between, Reaches config behaviour command packets first between ∧
      first <+: outputs := by
  induction packets generalizing command outputs with
  | nil => exact ⟨[], command, .refl command, List.nil_prefix⟩
  | cons packet packets ih =>
      cases reaches with
      | packet moves later =>
          rename_i middle own rest
          rcases ih later with ⟨first, between, reaches, isPrefix⟩
          exact ⟨own ++ first, between, .packet moves reaches,
            (List.prefix_append_right_inj own).mpr isPrefix⟩

theorem Reaches.started {packets : List Packet} {outputs : List (CommandOutput ρ)}
    (reaches : Reaches config behaviour command packets outputs after)
    (started : command.next.isSome = true) : after.next.isSome = true := by
  induction reaches with
  | refl command => exact started
  | packet moves later ih => exact ih moves.continues

theorem Reaches.settings {packets : List Packet} {outputs : List (CommandOutput ρ)}
    (reaches : Reaches config behaviour command packets outputs after) :
    KeepsSettings command after := by
  induction reaches with
  | refl command => exact (Keeps.refl command).settings
  | packet moves later ih => exact moves.settings.trans ih

theorem Reaches.sql {packets : List Packet} {outputs : List (CommandOutput ρ)}
    (reaches : Reaches config behaviour command packets outputs after) :
    after.sql = command.sql := by
  induction reaches with
  | refl command => rfl
  | packet moves later ih => exact ih.trans moves.sql

/-! ## The packets of a result -/

section Moves

variable {packet rest : Packet} {count : Nat}

theorem not_isError_of_ok (isOk : packet.peekByte = some 0) : packet.isError = false := by
  rw [Packet.isError, isOk]
  rfl

/-- An OK packet that announces another result. -/
theorem AtHeader.moves_ok (atHeader : AtHeader origin done command)
    (behaviour : Behaviour V ρ) {header : OkPacket}
    (isOk : packet.peekByte = some 0)
    (reads : ResultSetHeader.read config.read packet = .ok (.ok header, rest))
    (more : header.moreResults = true) :
    ∃ after, Moves config behaviour command packet
        (resultEvents origin.id origin.onResult done.length none (.header (.ok header))) after ∧
      AtHeader origin (done ++ [(.header (.ok header), none)]) after := by
  have aligned := atHeader.aligned
  have notError := not_isError_of_ok isOk
  refine ⟨{ command with
      fieldCount := .number 0
      rows := command.rows ++ [.header (.ok header)]
      fields := command.fields ++ [none]
      resultIndex := command.resultIndex + 1
      next := some .resultsetHeader }, ⟨by rw [atHeader.next]; rfl, notError, rfl,
        ⟨rfl, rfl, rfl, rfl, rfl, rfl⟩, rfl, ?_⟩, ?_, rfl, ?_⟩
  · intro other view store wire sameBuild sameParse stream
    refine ⟨true, ?_⟩
    simp only [handle, atHeader.next, Option.getD_some, resultsetHeader, reads, doneInsert,
      World.new, stream, World.emit, moreResults, more, if_true]
    rw [resultEvents, atHeader.settings.id]
    rfl
  · exact atHeader.settings.trans ⟨rfl, rfl, rfl, rfl, rfl, rfl⟩
  · constructor
    · rw [List.map_append, ← aligned.rows]
      rfl
    · rw [List.map_append, ← aligned.fields]
      rfl
    · rw [List.length_append, ← aligned.resultIndex]
      rfl

/-- The number of columns of a result. -/
theorem AtHeader.moves_columns (atHeader : AtHeader origin done command)
    (behaviour : Behaviour V ρ)
    (notError : packet.isError = false) (positive : 0 < count)
    (reads : ResultSetHeader.read config.read packet = .ok (.columns (.number count), rest)) :
    ∃ after, Moves config behaviour command packet [] after ∧
      AtColumn origin done count [] after := by
  have aligned := atHeader.aligned
  have notZero : Packet.LengthCoded.number count ≠ .number 0 := by
    rw [Ne, Packet.LengthCoded.number.injEq]
    omega
  refine ⟨{ command with
      fieldCount := .number count
      receivedFieldsCount := 0
      currentRows := some command.rows.length
      currentFields := some command.fields.length
      rows := command.rows ++ [.rows []]
      fields := command.fields ++ [some []]
      next := some .readField }, ⟨by rw [atHeader.next]; rfl, notError, rfl,
        ⟨rfl, rfl, rfl, rfl, rfl, rfl⟩, rfl, ?_⟩, ?_, rfl, ?_, rfl, rfl⟩
  · intro other view store wire sameBuild sameParse stream
    refine ⟨false, ?_⟩
    simp only [handle, atHeader.next, Option.getD_some, resultsetHeader, reads, World.new,
      if_neg notZero]
    rfl
  · exact atHeader.settings.trans ⟨rfl, rfl, rfl, rfl, rfl, rfl⟩
  · constructor
    · exact congrArg (· ++ [.rows []]) aligned.rows
    · exact congrArg (· ++ [some []]) aligned.fields
    · exact aligned.resultIndex
    · show some command.rows.length = _
      rw [aligned.rows, List.length_map]
    · show some command.fields.length = _
      rw [aligned.fields, List.length_map]

/-- A column behind which another one follows. -/
theorem AtColumn.moves_column (atColumn : AtColumn origin done count columns command)
    (behaviour : Behaviour V ρ)
    {column : ColumnDefinition} (isColumn : ColumnPacket config.read packet column)
    (notLast : columns.length + 1 < count) :
    ∃ after, Moves config behaviour command packet [] after ∧
      AtColumn origin done count (columns ++ [column]) after := by
  obtain ⟨notError, rest, reads⟩ := isColumn
  have amid := atColumn.amid
  have unread : Packet.LengthCoded.number columns.length ≠ .number count := by
    rw [Ne, Packet.LengthCoded.number.injEq]
    omega
  have notReceived : Packet.LengthCoded.number (columns.length + 1 : Nat) ≠ .number count := by
    rw [Ne, Packet.LengthCoded.number.injEq]
    omega
  refine ⟨{ command with
      receivedFieldsCount := command.receivedFieldsCount + 1
      fields := command.fields.set command.resultIndex (some (columns ++ [column]))
      next := some .readField }, ⟨by rw [atColumn.next]; rfl, notError, rfl,
        ⟨rfl, rfl, rfl, rfl, rfl, rfl⟩, rfl, ?_⟩, ?_, rfl, ?_, atColumn.fieldCount, ?_⟩
  · intro other view store wire sameBuild sameParse stream
    refine ⟨false, ?_⟩
    have current := amid.getElem?_fields
    cases protocol : command.protocol with
    | query =>
        simp only [handle, atColumn.next, Option.getD_some, protocol, queryReadField, World.new,
          resultFields, current, atColumn.fieldCount, if_pos unread, reads, Except.map,
          atColumn.received, if_neg notReceived]
        rfl
    | execute =>
        simp only [handle, atColumn.next, Option.getD_some, protocol, executeReadField, World.new,
          resultFields, current, pushField, atColumn.fieldCount, reads, atColumn.received,
          if_neg notReceived]
        rfl
  · exact atColumn.settings.trans ⟨rfl, rfl, rfl, rfl, rfl, rfl⟩
  · exact ⟨amid.rows, amid.set_fields _, amid.resultIndex, amid.currentRows, amid.currentFields⟩
  · show command.receivedFieldsCount + 1 = _
    rw [atColumn.received, List.length_append]
    rfl

/-- The row parser behind the last column: a query makes it then, an execute command later. -/
def parserAfter (protocol : Protocol) (columns : List ColumnDefinition)
    (rowParser : Option (List ColumnDefinition)) : Option (List ColumnDefinition) :=
  match protocol with
  | .query => some columns
  | .execute => rowParser

/-- The last column. -/
theorem AtColumn.moves_lastColumn (atColumn : AtColumn origin done count columns command)
    {column : ColumnDefinition} (isColumn : ColumnPacket config.read packet column)
    (isLast : columns.length + 1 = count)
    (builds : behaviour.buildParser origin.protocol (columns ++ [column]) = .ok ()) :
    ∃ after, Moves config behaviour command packet
        [.event origin.id (.fields (some (columns ++ [column])))] after ∧
      AtFieldsEOF origin done (columns ++ [column]) after := by
  obtain ⟨notError, rest, reads⟩ := isColumn
  have amid := atColumn.amid
  have unread : Packet.LengthCoded.number columns.length ≠ .number count := by
    rw [Ne, Packet.LengthCoded.number.injEq]
    omega
  have received : Packet.LengthCoded.number (columns.length + 1 : Nat) = .number count := by
    rw [isLast]
  rw [← atColumn.settings.protocol] at builds
  refine ⟨{ command with
      receivedFieldsCount := command.receivedFieldsCount + 1
      fields := command.fields.set command.resultIndex (some (columns ++ [column]))
      rowParser := parserAfter command.protocol (columns ++ [column]) command.rowParser
      next := some .fieldsEOF }, ⟨by rw [atColumn.next]; rfl, notError, rfl,
        ⟨rfl, rfl, rfl, rfl, rfl, rfl⟩, rfl, ?_⟩, ?_, rfl, ?_, ?_⟩
  · intro other view store wire sameBuild sameParse stream
    have current := amid.getElem?_fields
    refine ⟨true, ?_⟩
    cases protocol : command.protocol with
    | query =>
        rw [protocol] at builds
        simp only [handle, atColumn.next, Option.getD_some, protocol, queryReadField, World.new,
          resultFields, current, atColumn.fieldCount, if_pos unread, reads, Except.map,
          atColumn.received, if_pos received, buildParser, World.emit, sameBuild, builds]
        rw [atColumn.settings.id]
        rfl
    | execute =>
        simp only [handle, atColumn.next, Option.getD_some, protocol, executeReadField, World.new,
          resultFields, current, pushField, atColumn.fieldCount, reads, atColumn.received,
          if_pos received, World.emit]
        rw [atColumn.settings.id]
        rfl
  · exact atColumn.settings.trans ⟨rfl, rfl, rfl, rfl, rfl, rfl⟩
  · exact ⟨amid.rows, amid.set_fields _, amid.resultIndex, amid.currentRows, amid.currentFields⟩
  · intro isQuery
    rw [← atColumn.settings.protocol] at isQuery
    simp only [isQuery, parserAfter]

/-- The EOF packet behind the columns. -/
theorem AtFieldsEOF.moves (atFieldsEOF : AtFieldsEOF origin done columns command)
    (config : CommandConfig V γ) {status : Nat}
    (isEOF : EOFPacket status packet)
    (builds : behaviour.buildParser origin.protocol columns = .ok ()) :
    ∃ after, Moves config behaviour command packet [] after ∧
      AtRow origin done columns [] after := by
  have amid := atFieldsEOF.amid
  have eof := isEOF.isEOF
  rw [← atFieldsEOF.settings.protocol] at builds
  refine ⟨{ command with
      rowParser := some columns
      next := some .row }, ⟨by rw [atFieldsEOF.next]; rfl, isEOF.not_isError, rfl,
        ⟨rfl, rfl, rfl, rfl, rfl, rfl⟩, rfl, ?_⟩, ?_, rfl, ?_, rfl⟩
  · intro other view store wire sameBuild sameParse stream
    refine ⟨false, ?_⟩
    cases protocol : command.protocol with
    | query =>
        have parserEq : command.rowParser = some columns :=
          atFieldsEOF.rowParser (atFieldsEOF.settings.protocol.symm.trans protocol)
        simp only [handle, atFieldsEOF.next, Option.getD_some, protocol, queryFieldsEOF, World.new,
          eof, if_true, advance, ← parserEq]
        rfl
    | execute =>
        rw [protocol] at builds
        simp only [handle, atFieldsEOF.next, Option.getD_some, protocol, executeFieldsEOF,
          World.new, eof, if_true, resultFields, amid.getElem?_fields, buildParser, sameBuild,
          builds]
        rfl
  · exact atFieldsEOF.settings.trans ⟨rfl, rfl, rfl, rfl, rfl, rfl⟩
  · exact ⟨amid.rows, amid.fields, amid.resultIndex, amid.currentRows, amid.currentFields⟩

theorem AtRow.parseRow_eq (atRow : AtRow origin done columns rows command)
    (other : Behaviour V ρ) (packet : Packet) :
    parseRow other command packet = other.parseRow origin.protocol columns columns packet := by
  have amid := atRow.amid
  have current : command.fields[done.length]? = some (some columns) := by
    rw [← amid.resultIndex]
    exact amid.getElem?_fields
  simp only [parseRow, atRow.rowParser, amid.currentFields, Option.bind_some, current,
    Option.getD_some, atRow.settings.protocol]

/-- The last entry of a list is changed at the length of those before it. -/
theorem modify_concat {α : Type} (list : List α) (last : α) (change : α → α) :
    (list ++ [last]).modify list.length change = list ++ [change last] := by
  induction list with
  | nil => rfl
  | cons first list ih => exact congrArg (first :: ·) ih

theorem Amid.modify_rows (amid : Amid done columns rows command) (row : ρ) :
    (command.pushRow done.length row).rows = done.map Prod.fst ++ [.rows (rows ++ [row])] := by
  have length : (done.map Prod.fst).length = done.length := List.length_map _
  rw [pushRow]
  dsimp only
  rw [amid.rows, ← length, modify_concat]

/-- Without a callback a row is an event. -/
theorem row_of_silent {other : Behaviour V ρ} {world : World (ResultSetCommand V ρ) V ρ γ}
    {parsed : ρ} (notEOF : packet.isEOF = false)
    (parses : parseRow other world.command packet = .ok parsed)
    (silent : world.command.onResult = false) :
    row other world packet =
      ({ world with userCode := true }.emit
        (.event world.command.id (.row parsed world.command.resultIndex)), .ok (some .row)) := by
  rw [row, notEOF, if_neg Bool.false_ne_true]
  dsimp only
  rw [parses]
  dsimp only
  rw [silent, if_neg Bool.false_ne_true]

/-- A row: it is collected for the callback, or becomes an event. -/
theorem AtRow.moves_row (atRow : AtRow origin done columns rows command)
    (config : CommandConfig V γ)
    (isRow : packet.isEOF = false ∧ packet.isError = false) {row : ρ}
    (parses : behaviour.parseRow origin.protocol columns columns packet = .ok row) :
    ∃ after, Moves config behaviour command packet
        (rowEvents origin.id origin.onResult done.length [row]) after ∧
      AtRow origin done columns (if origin.onResult then rows ++ [row] else rows) after := by
  have amid := atRow.amid
  obtain ⟨notEOF, notError⟩ := isRow
  rcases callback : origin.onResult with _ | _
  · have silent := atRow.settings.onResult.trans callback
    have eventEq : rowEvents origin.id false done.length [row] =
        [.event command.id (.row row command.resultIndex)] := by
      rw [atRow.settings.id, amid.resultIndex]
      rfl
    rw [eventEq]
    refine ⟨{ command with next := some .row }, ⟨by rw [atRow.next]; rfl, notError, rfl,
      ⟨rfl, rfl, rfl, rfl, rfl, rfl⟩, rfl, ?_⟩, ?_, rfl, ?_, atRow.rowParser⟩
    · intro other view store wire sameBuild sameParse stream
      refine ⟨true, ?_⟩
      have parsed := atRow.parseRow_eq other packet
      rw [sameParse, parses] at parsed
      have handled : handle config other view (.new command store wire) (some packet) =
          ResultSetCommand.row other (.new command store wire) packet := by
        simp only [handle, World.new, atRow.next, Option.getD_some]
      rw [handled, row_of_silent notEOF parsed silent]
      rfl
    · exact atRow.settings.trans ⟨rfl, rfl, rfl, rfl, rfl, rfl⟩
    · exact ⟨amid.rows, amid.fields, amid.resultIndex, amid.currentRows, amid.currentFields⟩
  · have hears := atRow.settings.onResult.trans callback
    refine ⟨{ command.pushRow done.length row with next := some .row },
      ⟨by rw [atRow.next]; rfl, notError, rfl, ⟨rfl, rfl, rfl, rfl, rfl, rfl⟩, rfl, ?_⟩, ?_,
      rfl, ?_,
        atRow.rowParser⟩
    · intro other view store wire sameBuild sameParse stream
      refine ⟨true, ?_⟩
      have parsed := atRow.parseRow_eq other packet
      rw [sameParse, parses] at parsed
      simp only [handle, atRow.next, Option.getD_some, ResultSetCommand.row, World.new, notEOF,
        Bool.false_eq_true, if_false, parsed, hears, if_true, amid.currentRows]
      rfl
    · exact atRow.settings.trans ⟨rfl, rfl, rfl, rfl, rfl, rfl⟩
    · exact ⟨amid.modify_rows row, amid.fields, amid.resultIndex, amid.currentRows,
        amid.currentFields⟩

/-- The EOF packet behind the rows, when it announces another result. -/
theorem AtRow.moves_more (atRow : AtRow origin done columns rows command)
    (behaviour : Behaviour V ρ) {status : Nat}
    (isEOF : EOFPacket status packet) (more : hasFlag status SERVER_MORE_RESULTS_EXISTS = true) :
    ∃ after, Moves config behaviour command packet [] after ∧
      AtHeader origin (done ++ [(.rows rows, some columns)]) after := by
  have aligned := atRow.amid.aligned
  have eof := isEOF.isEOF
  have flags := isEOF.eofStatusFlags
  refine ⟨{ command with
      resultIndex := command.resultIndex + 1
      next := some .resultsetHeader }, ⟨by rw [atRow.next]; rfl, isEOF.not_isError, rfl,
        ⟨rfl, rfl, rfl, rfl, rfl, rfl⟩, rfl, ?_⟩, ?_, rfl, aligned.rows, aligned.fields,
          aligned.resultIndex⟩
  · intro other view store wire sameBuild sameParse stream
    refine ⟨false, ?_⟩
    simp only [handle, atRow.next, Option.getD_some, ResultSetCommand.row, World.new, eof, if_true,
      flags, more]
    rfl
  · exact atRow.settings.trans ⟨rfl, rfl, rfl, rfl, rfl, rfl⟩

/-! ## Whole results -/

/-- The rest of the columns. -/
theorem AtColumn.reaches (atColumn : AtColumn origin done count columns command)
    {packets : List Packet} {pending : List ColumnDefinition}
    (columnsRead : List.Forall₂ (ColumnPacket config.read) packets pending)
    (isRest : columns.length + pending.length = count) (unfinished : pending ≠ [])
    (builds : behaviour.buildParser origin.protocol (columns ++ pending) = .ok ()) :
    ∃ after, Reaches config behaviour command packets
        [.event origin.id (.fields (some (columns ++ pending)))] after ∧
      AtFieldsEOF origin done (columns ++ pending) after := by
  induction columnsRead generalizing columns command with
  | nil => contradiction
  | @cons packet column packets pending isColumn columnsRead ih =>
      rw [List.length_cons] at isRest
      by_cases isLast : pending = []
      · subst isLast
        cases columnsRead
        obtain ⟨after, moves, atEOF⟩ := atColumn.moves_lastColumn isColumn isRest builds
        exact ⟨after, moves.reaches, atEOF⟩
      · have notLast : columns.length + 1 < count := by
          have := List.length_pos_iff.mpr isLast
          omega
        obtain ⟨between, moves, atNext⟩ := atColumn.moves_column behaviour isColumn notLast
        have restEq : (columns ++ [column]).length + pending.length = count := by
          rw [List.length_append, List.length_singleton]
          omega
        have joined : columns ++ column :: pending = columns ++ [column] ++ pending := by
          rw [List.append_assoc, List.singleton_append]
        rw [joined] at builds ⊢
        obtain ⟨after, reaches, atEOF⟩ := ih atNext restEq isLast builds
        exact ⟨after, .packet moves reaches, atEOF⟩

theorem rowEvents_append (id : Nat) (onResult : Bool) (index : Nat) (rows more : List ρ) :
    rowEvents id onResult index rows ++ rowEvents id onResult index more =
      rowEvents id onResult index (rows ++ more) := by
  cases onResult with
  | true => rfl
  | false => exact List.map_append.symm

/-- The rest of the rows. -/
theorem AtRow.reaches (atRow : AtRow origin done columns rows command)
    (config : CommandConfig V γ) {packets : List Packet} {parsed : List ρ}
    (rowPackets : ∀ packet ∈ packets, packet.isEOF = false ∧ packet.isError = false)
    (parses : List.Forall₂
      (fun packet row => behaviour.parseRow origin.protocol columns columns packet = .ok row)
      packets parsed) :
    ∃ after, Reaches config behaviour command packets
        (rowEvents origin.id origin.onResult done.length parsed) after ∧
      AtRow origin done columns (if origin.onResult then rows ++ parsed else rows) after := by
  induction parses generalizing rows command with
  | nil =>
      refine ⟨command, ?_, ?_⟩
      · have silent : rowEvents origin.id origin.onResult done.length ([] : List ρ) = [] := by
          rw [rowEvents, List.map_nil, ite_self]
        rw [silent]
        exact .refl command
      · rwa [List.append_nil, ite_self]
  | @cons packet row packets parsed parsesRow parses ih =>
      have ⟨isRow, rowPackets⟩ := List.forall_mem_cons.mp rowPackets
      obtain ⟨between, moves, atNext⟩ := atRow.moves_row config isRow parsesRow
      obtain ⟨after, reaches, atEnd⟩ := ih atNext rowPackets
      refine ⟨after, ?_, ?_⟩
      · have events := rowEvents_append origin.id origin.onResult done.length [row] parsed
        rw [List.singleton_append] at events
        rw [← events]
        exact .packet moves reaches
      · cases callback : origin.onResult with
        | false =>
            rw [callback, if_neg Bool.false_ne_true] at atEnd
            exact atEnd
        | true =>
            rw [callback, if_pos rfl, if_pos rfl, List.append_assoc] at atEnd
            exact atEnd

/-- The packets of columns and rows, up to the EOF packet behind the rows. -/
theorem AtHeader.reaches_rows (atHeader : AtHeader origin done command) {header eof : Packet}
    {columnPackets rowPackets : List Packet} {status : Nat} {parsed : List ρ}
    (nonempty : columns ≠ []) (notError : header.isError = false)
    (reads : ResultSetHeader.read config.read header =
      .ok (.columns (.number columns.length), rest))
    (columnsRead : List.Forall₂ (ColumnPacket config.read) columnPackets columns)
    (isEOF : EOFPacket status eof)
    (areRows : ∀ packet ∈ rowPackets, packet.isEOF = false ∧ packet.isError = false)
    (builds : behaviour.buildParser origin.protocol columns = .ok ())
    (parses : List.Forall₂
      (fun packet row => behaviour.parseRow origin.protocol columns columns packet = .ok row)
      rowPackets parsed) :
    ∃ after, Reaches config behaviour command (header :: (columnPackets ++ eof :: rowPackets))
        (resultEvents origin.id origin.onResult done.length (some columns) (.rows parsed)) after ∧
      AtRow origin done columns (if origin.onResult then parsed else []) after := by
  obtain ⟨first, movesHeader, atColumn⟩ :=
    atHeader.moves_columns behaviour notError (List.length_pos_iff.mpr nonempty) reads
  obtain ⟨second, reachesEOF, atEOF⟩ := atColumn.reaches columnsRead
    (Nat.zero_add columns.length) nonempty builds
  obtain ⟨third, movesEOF, atRow⟩ := atEOF.moves config isEOF builds
  obtain ⟨after, reachesEnd, atEnd⟩ := atRow.reaches config areRows parses
  rw [List.nil_append] at atEnd
  exact ⟨after, .packet movesHeader (reachesEOF.trans (.packet movesEOF reachesEnd)), atEnd⟩

/-- A result behind which another one follows. -/
theorem AtHeader.reaches_result (atHeader : AtHeader origin done command) {packets : List Packet}
    {last : Packet} {result : ServerResult} {parsed : ResultRows ρ}
    (packetsOf : ResultPackets config.read origin.protocol true packets last result)
    (parses : Parses behaviour origin.protocol result parsed) :
    ∃ after, Reaches config behaviour command (packets ++ [last])
        (resultEvents origin.id origin.onResult done.length result.fields parsed) after ∧
      AtHeader origin (done ++ [(collected origin.onResult parsed, result.fields)]) after := by
  cases packetsOf with
  | ok isOk reads flag =>
      cases parses with
      | ok header =>
          obtain ⟨after, moves, atNext⟩ := atHeader.moves_ok behaviour isOk reads flag
          exact ⟨after, moves.reaches, atNext⟩
  | rows nonempty notError reads columnsRead isEOF rowPackets isLast flag =>
      cases parses with
      | rows builds parsesRows =>
          obtain ⟨between, reaches, atRow⟩ := atHeader.reaches_rows nonempty notError reads
            columnsRead isEOF (fun row member =>
              (rowPackets row member).not_special (List.length_pos_iff.mpr nonempty))
            builds parsesRows
          obtain ⟨after, moves, atNext⟩ := atRow.moves_more behaviour isLast flag
          have joined := reaches.trans moves.reaches
          rw [List.append_nil] at joined
          exact ⟨after, joined, atNext⟩

end Moves

end ResultSetCommand

end Mysql2.Commands

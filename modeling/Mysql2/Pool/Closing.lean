import Mathlib.Data.List.Induction
import Mysql2.Connection.Connection
import Mysql2.Pool.Capacity

/-!
# Ending a pool

`end(cb)` gives every connection of the pool a `Quit` command, which is started at
once if the connection is idle, and waits behind its commands otherwise.  The
commands are counted, and the count is compared with the number of connections that
the pool still has.

Behind `end` a pool loses connections only by resets that fail.  The `Quit` command
of such a connection is counted although the connection is not, so a failed reset
stands for a command that has not been started.
-/

namespace Mysql2.Pool

open Mysql2.Packets
open Mysql2.Transition

variable {κ : Type}

/-- A pool after `end(cb)`: the connections whose `Quit` command waits, those whose
command has been started, and the variables of `end`. -/
structure Closing (κ : Type) where
  pool : BasePool κ
  waiting : List Nat
  processed : List Nat
  closedConnections : Nat
  calledBack : Bool

/-- What happens to a pool after `end(cb)`: something that can happen to any pool, a
connection comes to its `Quit` command, or fails with the command in its queue. -/
inductive ClosingEvent (κ : Type)
  | pool (event : Event κ)
  | quit (connection : Nat)
  | quitFailed (connection : Nat) (err : JsError)

/-- The event is a reset of one of the pool's connections that fails. -/
def BasePool.FailsReset (pool : BasePool κ) : Event κ → Prop
  | .resetError connection => pool.hung = false ∧
      (pool.connections connection).resets ≠ 0 ∧ connection ∈ pool.allConnections
  | _ => False

instance (pool : BasePool κ) : ∀ event, Decidable (pool.FailsReset event)
  | .resetError connection => inferInstanceAs (Decidable (pool.hung = false ∧
      (pool.connections connection).resets ≠ 0 ∧ connection ∈ pool.allConnections))
  | .getConnection _ _ | .release _ _ _ | .destroy _ _ | .endConnection _ _ _ | .connected _
  | .failed _ _ | .ended _ | .closeState _ | .resetReply _ | .tick _ | .idleSweep _
  | .endPool => isFalse id

namespace Closing

/-- `endCB(err)`, with the call of `cb` as output. -/
def endCB (closing : Closing κ) (err : Option JsError) : Closing κ × List (Option JsError) :=
  if closing.calledBack then
    (closing, [])
  else
    match err with
    | some err => ({ closing with calledBack := true }, [some err])
    | none =>
        let closedConnections := closing.closedConnections + 1
        if closing.pool.allConnections.length ≤ closedConnections then
          ({ closing with closedConnections := closedConnections, calledBack := true }, [none])
        else
          ({ closing with closedConnections := closedConnections }, [])

/-- The `Quit` command of a connection is started. -/
def startQuit (closing : Closing κ) (connection : Nat) : Closing κ × List (Option JsError) :=
  endCB { closing with processed := closing.processed ++ [connection] } none

/-- `connection._realEnd(endCB)`, for a connection that is in the closed state or
not, and is idle or not. -/
def realEnd (closing : Closing κ) (closedState idle : Bool) (connection : Nat) :
    Closing κ × List (Option JsError) :=
  if closedState then closing.endCB (some Connection.BaseConnection.closedStateError)
  else if idle then closing.startQuit connection
  else ({ closing with waiting := closing.waiting ++ [connection] }, [])

/-- The loop of `end` over connections. -/
def realEndAll (closedState idle : Nat → Bool) :
    Closing κ → List Nat → Closing κ × List (Option JsError)
  | closing, [] => (closing, [])
  | closing, connection :: connections =>
      let ended := closing.realEnd (closedState connection) (idle connection) connection
      let rest := realEndAll closedState idle ended.1 connections
      (rest.1, ended.2 ++ rest.2)

/-- `end(cb)`. -/
def start (pool : BasePool κ) (idle : Nat → Bool) : Closing κ × List (Option JsError) :=
  let closing : Closing κ :=
    { pool := pool.endPool
      waiting := []
      processed := []
      closedConnections := 0
      calledBack := false }
  if pool.allConnections.length = 0 then
    closing.endCB none
  else
    closing.realEndAll (fun connection => (pool.connections connection).closedState) idle
      pool.allConnections

/-- A connection comes to its `Quit` command, which waits behind its resets. -/
def Starts (closing : Closing κ) (connection : Nat) : Prop :=
  connection ∈ closing.waiting ∧ (closing.pool.connections connection).resets = 0

instance (closing : Closing κ) (connection : Nat) : Decidable (closing.Starts connection) :=
  inferInstanceAs (Decidable (_ ∧ _))

/-- One event after `end(cb)`. -/
def step (config : PoolConfig) : Step (Closing κ) (ClosingEvent κ) (Option JsError)
  | closing, .pool event =>
      ({ closing with pool := (BasePool.step config closing.pool event).1 }, [])
  | closing, .quit connection =>
      if closing.Starts connection then
        { closing with waiting := closing.waiting.erase connection }.startQuit connection
      else
        (closing, [])
  | closing, .quitFailed connection err =>
      if connection ∈ closing.waiting then
        { closing with waiting := closing.waiting.erase connection }.endCB (some err)
      else
        (closing, [])

/-- What has happened behind `end`: how many `Quit` commands have been started, how
many resets of the pool's connections have failed, and whether a `Quit` command has
failed. -/
structure Tally where
  quits : Nat
  failedResets : Nat
  failed : Bool

namespace Tally

/-- What happens in the call of `end`: the `Quit` commands of idle connections are
started, those of connections in the closed state fail. -/
def start (pool : BasePool κ) (idle : Nat → Bool) (connections : List Nat) : Tally :=
  { quits := connections.countP idle
    failedResets := 0
    failed := connections.any fun connection => (pool.connections connection).closedState }

/-- A `Quit` command is started or fails, or a reset fails. -/
def count (tally : Tally) (closing : Closing κ) : ClosingEvent κ → Tally
  | .quit connection =>
      if closing.Starts connection then { tally with quits := tally.quits + 1 } else tally
  | .quitFailed connection _ =>
      if connection ∈ closing.waiting then { tally with failed := true } else tally
  | .pool event =>
      if closing.pool.FailsReset event then
        { tally with failedResets := tally.failedResets + 1 }
      else
        tally

end Tally

/-- A step, and the tally behind it. -/
def tallying (config : PoolConfig) : Step (Closing κ × Tally) (ClosingEvent κ) (Option JsError)
  | (closing, tally), event =>
      (((step config closing event).1, tally.count closing event), (step config closing event).2)

/-- As long as no `Quit` command has failed, a command that is not the last of `total`
is started while the commands that have been started, this one included, and the
resets that have failed are fewer than `total`. -/
def QuitsInTime (total : Nat) : Closing κ × Tally → ClosingEvent κ → Prop
  | (closing, tally), .quit connection => closing.Starts connection → tally.failed = false →
      tally.quits + 1 < total → tally.quits + 1 + tally.failedResets < total
  | _, _ => True

instance (total : Nat) : ∀ (state : Closing κ × Tally) (event : ClosingEvent κ),
    Decidable (QuitsInTime total state event)
  | (closing, tally), .quit connection => inferInstanceAs (Decidable
      (closing.Starts connection → tally.failed = false → tally.quits + 1 < total →
        tally.quits + 1 + tally.failedResets < total))
  | _, .pool _ => isTrue trivial
  | _, .quitFailed _ _ => isTrue trivial

/-- `cb` is called at most once, and without an error only when all connections have
started their `Quit` command. -/
structure EndsInOrder (connections : List Nat) (outputs : List (Option JsError))
    (closing : Closing κ) : Prop where
  once : outputs.length ≤ 1
  all : none ∈ outputs → ∀ connection ∈ connections, connection ∈ closing.processed

/-! ## The invariant -/

/-- The count, the commands that wait and the callback, while the loop of `end` has
come to `ended`. -/
structure Counted (ended connections : List Nat) (outputs : List (Option JsError))
    (closing : Closing κ) : Prop where
  notCalled : closing.calledBack = false → outputs = [] ∧
    closing.closedConnections = closing.processed.length ∧
    (closing.processed ++ closing.waiting).Perm ended
  called : closing.calledBack = true → outputs.length = 1 ∧
    (none ∈ outputs → ∀ connection ∈ connections, connection ∈ closing.processed)

namespace Counted

variable {ended ended' connections : List Nat} {outputs : List (Option JsError)}
  {closing : Closing κ}

/-- A call of `endCB` behind that of `cb` does nothing. -/
theorem endCB_of_called {closing : Closing κ} (called : closing.calledBack = true)
    (err : Option JsError) : closing.endCB err = (closing, []) := by
  unfold Closing.endCB
  rw [if_pos called]

theorem startQuit (before : Counted ended connections outputs closing) (waiting : List Nat)
    (connection : Nat)
    (moved : closing.calledBack = false →
      (closing.processed ++ connection :: waiting).Perm ended')
    (enough : closing.calledBack = false →
      closing.pool.allConnections.length ≤ closing.processed.length + 1 →
        ∀ other ∈ connections, other ∈ closing.processed ++ [connection]) :
    Counted ended' connections
      (outputs ++ ({ closing with waiting := waiting }.startQuit connection).2)
      ({ closing with waiting := waiting }.startQuit connection).1 := by
  let started : Closing κ :=
    { closing with waiting := waiting, processed := closing.processed ++ [connection] }
  show Counted ended' connections (outputs ++ (started.endCB none).2) (started.endCB none).1
  by_cases called : closing.calledBack = true
  · obtain ⟨once, all⟩ := before.called called
    rw [endCB_of_called (show started.calledBack = true from called), List.append_nil]
    constructor
    · intro notCalled
      exact Bool.noConfusion (called.symm.trans notCalled)
    · intro _
      exact ⟨once, fun isNone other member => List.mem_append_left _ (all isNone other member)⟩
  · have notCalled := Bool.eq_false_iff.mpr called
    obtain ⟨noOutput, count, _⟩ := before.notCalled notCalled
    subst noOutput
    unfold Closing.endCB
    rw [if_neg (show ¬started.calledBack = true from called)]
    show Counted ended' connections
      ([] ++ (if closing.pool.allConnections.length ≤ closing.closedConnections + 1 then _ else _ :
        Closing κ × List (Option JsError)).2) _
    rw [count]
    by_cases reached : closing.pool.allConnections.length ≤ closing.processed.length + 1
    · rw [if_pos reached]
      constructor
      · rintro ⟨⟩
      · intro _
        exact ⟨rfl, fun _ => enough notCalled reached⟩
    · rw [if_neg reached]
      constructor
      · intro _
        refine ⟨rfl, ?_, ?_⟩
        · show closing.processed.length + 1 = (closing.processed ++ [connection]).length
          rw [List.length_append]
          rfl
        · show ((closing.processed ++ [connection]) ++ waiting).Perm ended'
          rw [List.append_assoc]
          exact moved notCalled
      · intro isCalled
        exact absurd isCalled called

theorem failQuit (before : Counted ended connections outputs closing) (waiting : List Nat)
    (err : JsError) :
    Counted ended' connections
      (outputs ++ ({ closing with waiting := waiting }.endCB (some err)).2)
      ({ closing with waiting := waiting }.endCB (some err)).1 := by
  let failed : Closing κ := { closing with waiting := waiting }
  show Counted ended' connections (outputs ++ (failed.endCB (some err)).2)
    (failed.endCB (some err)).1
  by_cases called : closing.calledBack = true
  · rw [endCB_of_called (show failed.calledBack = true from called), List.append_nil]
    constructor
    · intro notCalled
      exact Bool.noConfusion (called.symm.trans notCalled)
    · exact before.called
  · obtain ⟨noOutput, _⟩ := before.notCalled (Bool.eq_false_iff.mpr called)
    subst noOutput
    unfold Closing.endCB
    rw [if_neg (show ¬failed.calledBack = true from called)]
    constructor
    · rintro ⟨⟩
    · intro _
      exact ⟨rfl, by simp⟩

theorem endsInOrder (counted : Counted ended connections outputs closing) :
    EndsInOrder connections outputs closing := by
  cases called : closing.calledBack with
  | true =>
      obtain ⟨once, all⟩ := counted.called called
      exact ⟨Nat.le_of_eq once, all⟩
  | false =>
      obtain ⟨noOutput, _⟩ := counted.notCalled called
      subst noOutput
      exact ⟨Nat.zero_le _, by simp⟩

end Counted

/-! ## The call of `end` -/

@[simp]
theorem pool_endCB (closing : Closing κ) (err : Option JsError) :
    (closing.endCB err).1.pool = closing.pool := by
  unfold endCB
  split
  · rfl
  · split
    · rfl
    · dsimp only
      split <;> rfl

@[simp]
theorem pool_startQuit (closing : Closing κ) (connection : Nat) :
    (closing.startQuit connection).1.pool = closing.pool :=
  pool_endCB _ none

@[simp]
theorem pool_realEnd (closing : Closing κ) (closedState idle : Bool) (connection : Nat) :
    (closing.realEnd closedState idle connection).1.pool = closing.pool := by
  unfold realEnd
  split
  · exact pool_endCB closing _
  · split
    · exact pool_startQuit closing connection
    · rfl

/-- By induction on the connections to come, while the pool has them all. -/
theorem Counted.realEndAll {closedState idle : Nat → Bool} {ended rest connections : List Nat}
    {outputs : List (Option JsError)} {closing : Closing κ}
    (before : Counted ended connections outputs closing) (all : ended ++ rest = connections)
    (here : closing.pool.allConnections.length = connections.length) :
    Counted connections connections (outputs ++ (closing.realEndAll closedState idle rest).2)
      (closing.realEndAll closedState idle rest).1 := by
  induction rest generalizing ended outputs closing with
  | nil =>
      rw [List.append_nil] at all
      subst all
      rw [Closing.realEndAll, List.append_nil]
      exact before
  | cons connection rest ih =>
      have ended' : Counted (ended ++ [connection]) connections
          (outputs ++ (closing.realEnd (closedState connection) (idle connection) connection).2)
          (closing.realEnd (closedState connection) (idle connection) connection).1 := by
        unfold realEnd
        split
        · exact before.failQuit closing.waiting _
        · split
          · apply before.startQuit closing.waiting connection
            · intro notCalled
              obtain ⟨_, _, perm⟩ := before.notCalled notCalled
              exact List.perm_middle.trans ((perm.cons connection).trans
                (List.perm_append_singleton connection ended).symm)
            · -- the count has come up to all connections: none waits, none is to come
              intro notCalled reached other member
              obtain ⟨_, _, perm⟩ := before.notCalled notCalled
              have sizes := perm.length_eq
              have total := congrArg List.length all
              rw [List.length_append] at sizes
              rw [List.length_append, List.length_cons, ← here] at total
              have noneWaits : closing.waiting = [] :=
                List.length_eq_zero_iff.mp (by omega)
              have noneToCome : rest = [] := List.length_eq_zero_iff.mp (by omega)
              rw [noneWaits, List.append_nil] at perm
              rw [← all, noneToCome] at member
              rcases List.mem_append.mp member with old | new
              · exact List.mem_append_left _ (perm.mem_iff.mpr old)
              · exact List.mem_append_right _ new
          · constructor
            · intro notCalled
              obtain ⟨noOutput, count, perm⟩ := before.notCalled notCalled
              refine ⟨by simp [noOutput], count, ?_⟩
              rw [← List.append_assoc]
              exact perm.append_right [connection]
            · intro called
              rw [List.append_nil]
              exact before.called called
      have stillHere : (closing.realEnd (closedState connection) (idle connection)
          connection).1.pool.allConnections.length = connections.length := by
        rw [pool_realEnd]
        exact here
      rw [Closing.realEndAll, ← List.append_assoc]
      exact ih ended' (by rw [List.append_assoc]; exact all) stillHere

theorem counted_start (pool : BasePool κ) (idle : Nat → Bool) :
    Counted pool.allConnections pool.allConnections (start pool idle).2 (start pool idle).1 := by
  rw [start]
  by_cases empty : pool.allConnections.length = 0
  · have noConnections := List.length_eq_zero_iff.mp empty
    rw [if_pos empty, endCB, if_neg (by simp)]
    dsimp only
    rw [if_pos (show pool.endPool.allConnections.length ≤ 0 + 1 from
      Nat.le_trans (Nat.le_of_eq empty) (Nat.zero_le _))]
    constructor
    · rintro ⟨⟩
    · intro _
      exact ⟨rfl, by simp [noConnections]⟩
  · rw [if_neg empty]
    have new : Counted [] pool.allConnections []
        { pool := pool.endPool
          waiting := []
          processed := []
          closedConnections := 0
          calledBack := false : Closing κ } := by
      constructor
      · intro _
        exact ⟨rfl, rfl, .nil⟩
      · rintro ⟨⟩
    exact new.realEndAll rfl rfl

/-! ## The tally -/

end Closing

/-- Behind `end` a pool stays closed, and only a failing reset takes a connection
away. -/
theorem BasePool.step_of_closed (config : PoolConfig) {pool : BasePool κ}
    (closed : pool.closed = true) (event : Event κ) :
    (step config pool event).1.closed = true ∧
      (step config pool event).1.allConnections.length +
        (if pool.FailsReset event then 1 else 0) = pool.allConnections.length := by
  have stays : ∀ connection, (removeFromPool config pool connection).1 = pool := by
    intro connection
    rw [removeFromPool, if_pos (Or.inr closed)]
  have keeps : ∀ connection now, (release config now pool connection).1 = pool := by
    intro connection now
    unfold release
    split
    · rfl
    · rw [if_pos (Or.inr closed)]
  have refuses : ∀ now callback, ∀ other : BasePool κ, other.closed = true →
      (getConnection config now other callback).1.closed = true ∧
        (getConnection config now other callback).1.allConnections = other.allConnections := by
    intro now callback other otherClosed
    rw [getConnection, if_pos otherClosed]
    exact ⟨otherClosed, rfl⟩
  have stepEq : step config pool event =
      if pool.hung then (pool, []) else handle config pool event :=
    rfl
  rw [stepEq]
  by_cases hung : pool.hung = true
  · rw [if_pos hung]
    refine ⟨closed, ?_⟩
    rw [if_neg]
    · rfl
    · cases event with
      | resetError connection => simp [FailsReset, hung]
      | _ => exact id
  · rw [if_neg hung]
    cases event with
    | getConnection client now =>
        obtain ⟨isClosed, same⟩ := refuses now ⟨client, pool.calls⟩
          { pool with calls := pool.calls + 1 } closed
        exact ⟨isClosed, congrArg List.length same⟩
    | release client connection now =>
        rw [handle, keeps]
        exact ⟨closed, rfl⟩
    | destroy client connection =>
        simp only [handle, destroy, stays]
        exact ⟨closed, rfl⟩
    | endConnection client connection now =>
        rw [handle, endConnection]
        split
        · simp only [stays]
          exact ⟨closed, rfl⟩
        · rw [keeps]
          exact ⟨closed, rfl⟩
    | connected connection =>
        rw [handle, connected]
        split <;> exact ⟨closed, rfl⟩
    | failed connection err =>
        simp only [handle, failed, stays]
        split
        · rw [stays]
          exact ⟨closed, rfl⟩
        · exact ⟨closed, rfl⟩
    | ended connection =>
        rw [handle, stays]
        exact ⟨closed, rfl⟩
    | closeState connection => exact ⟨closed, rfl⟩
    | resetReply connection =>
        rw [handle, resetReply]
        split <;> exact ⟨closed, rfl⟩
    | resetError connection =>
        rw [handle, resetError]
        by_cases noReset : (pool.connections connection).resets = 0
        · rw [if_pos noReset, if_neg (by simp [FailsReset, noReset])]
          exact ⟨closed, rfl⟩
        · rw [if_neg noReset]
          constructor
          · rw [resetFailed, redispatch_closed]
            exact closed
          · rw [resetFailed, redispatch_allConnections]
            change (pool.allConnections.erase connection).length + _ = _
            by_cases member : connection ∈ pool.allConnections
            · rw [if_pos ⟨Bool.eq_false_iff.mpr hung, noReset, member⟩]
              exact List.length_erase_add_one member
            · rw [if_neg fun fails => member fails.2.2, List.erase_of_not_mem member]
              rfl
    | tick now =>
        rw [handle, tick]
        split
        · exact ⟨closed, rfl⟩
        · exact ⟨closed, rfl⟩
        · exact ⟨closed, rfl⟩
        · next callback ticks _ =>
            obtain ⟨isClosed, same⟩ := refuses now callback { pool with ticks := ticks } closed
            exact ⟨isClosed, congrArg List.length same⟩
        · next connection ticks _ =>
            have same := handleSuccessfulRelease_allConnections { pool with ticks := ticks }
              connection
            refine ⟨?_, congrArg List.length same⟩
            unfold handleSuccessfulRelease
            split <;> exact closed
    | idleSweep clock =>
        rw [handle, idleSweep, if_neg]
        · exact ⟨closed, rfl⟩
        · rintro ⟨_, isOpen⟩
          exact Bool.noConfusion (closed.symm.trans isOpen)
    | endPool => exact ⟨rfl, rfl⟩

namespace Closing

/-- The tally tells how many connections the pool still has, how far the count has
come, and whether `cb` has been called. -/
structure Tallied (total : Nat) (closing : Closing κ) (tally : Tally) : Prop where
  closed : closing.pool.closed = true
  remaining : closing.pool.allConnections.length + tally.failedResets = total
  notCalled : closing.calledBack = false →
    tally.failed = false ∧ closing.closedConnections = tally.quits
  called : closing.calledBack = true → tally.failed = true ∨ total ≤ tally.quits

namespace Tallied

variable {total : Nat} {closing : Closing κ} {tally : Tally}

/-- A `Quit` command is started. -/
theorem startQuit (before : Tallied total closing tally) (waiting : List Nat) (connection : Nat)
    (inTime : tally.failed = false → tally.quits + 1 < total →
      tally.quits + 1 + tally.failedResets < total) :
    Tallied total ({ closing with waiting := waiting }.startQuit connection).1
      { tally with quits := tally.quits + 1 } := by
  let started : Closing κ :=
    { closing with waiting := waiting, processed := closing.processed ++ [connection] }
  change Tallied total (started.endCB none).1 _
  have samePool := pool_endCB started none
  by_cases called : closing.calledBack = true
  · rw [Counted.endCB_of_called (show started.calledBack = true from called)]
    refine ⟨before.closed, before.remaining, fun notCalled => ?_, fun _ => ?_⟩
    · exact Bool.noConfusion (called.symm.trans notCalled)
    · exact (before.called called).imp id Nat.le_succ_of_le
  · obtain ⟨notFailed, count⟩ := before.notCalled (Bool.eq_false_iff.mpr called)
    have remaining := before.remaining
    refine ⟨by rw [samePool]; exact before.closed, by rw [samePool]; exact remaining, ?_, ?_⟩
    · intro notCalled
      refine ⟨notFailed, ?_⟩
      unfold Closing.endCB at notCalled ⊢
      rw [if_neg (show ¬started.calledBack = true from called)] at notCalled ⊢
      dsimp only at notCalled ⊢
      split at notCalled
      · cases notCalled
      · next more =>
          rw [if_neg more]
          exact congrArg (· + 1) count
    · intro isCalled
      right
      unfold Closing.endCB at isCalled
      rw [if_neg (show ¬started.calledBack = true from called)] at isCalled
      dsimp only at isCalled
      split at isCalled
      · next reached =>
          change closing.pool.allConnections.length ≤ closing.closedConnections + 1 at reached
          change total ≤ tally.quits + 1
          by_contra early
          have inTime := inTime notFailed (Nat.lt_of_not_le early)
          omega
      · exact absurd isCalled called

/-- A `Quit` command fails. -/
theorem failQuit (before : Tallied total closing tally) (waiting : List Nat) (err : JsError)
    {after : Tally} (failedResets : after.failedResets = tally.failedResets)
    (failed : after.failed = true) :
    Tallied total ({ closing with waiting := waiting }.endCB (some err)).1 after := by
  have samePool := pool_endCB { closing with waiting := waiting } (some err)
  refine ⟨?_, ?_, fun notCalled => ?_, fun _ => Or.inl failed⟩
  · rw [samePool]
    exact before.closed
  · rw [samePool, failedResets]
    exact before.remaining
  · unfold Closing.endCB at notCalled
    split at notCalled
    · next called => exact Bool.noConfusion (called.symm.trans notCalled)
    · cases notCalled

/-- By induction on the connections to come. -/
theorem realEndAll {pool : BasePool κ} {idle : Nat → Bool} {ended : List Nat}
    (rest : List Nat) (before : Tallied total closing (Tally.start pool idle ended)) :
    Tallied total
      (closing.realEndAll (fun connection => (pool.connections connection).closedState) idle rest).1
      (Tally.start pool idle (ended ++ rest)) := by
  induction rest generalizing ended closing with
  | nil =>
      rw [List.append_nil]
      exact before
  | cons connection rest ih =>
      rw [List.append_cons]
      apply ih
      unfold realEnd
      split
      · next isClosed =>
          apply before.failQuit closing.waiting
          · rfl
          · simp [Tally.start, isClosed]
      · next isOpen =>
          have sameFailed : (Tally.start pool idle (ended ++ [connection])).failed =
              (Tally.start pool idle ended).failed := by
            simp [Tally.start, isOpen]
          split
          · next isIdle =>
              have quit := before.startQuit closing.waiting connection fun _ more => more
              have sameQuits : (Tally.start pool idle (ended ++ [connection])).quits =
                  (Tally.start pool idle ended).quits + 1 := by
                simp [Tally.start, isIdle]
              refine ⟨quit.closed, quit.remaining, ?_, ?_⟩
              · rw [sameFailed, sameQuits]
                exact quit.notCalled
              · rw [sameFailed, sameQuits]
                exact quit.called
          · next isBusy =>
              have sameQuits : (Tally.start pool idle (ended ++ [connection])).quits =
                  (Tally.start pool idle ended).quits := by
                simp [Tally.start, isBusy]
              refine ⟨before.closed, before.remaining, ?_, ?_⟩
              · rw [sameFailed, sameQuits]
                exact before.notCalled
              · rw [sameFailed, sameQuits]
                exact before.called

theorem step (before : Tallied total closing tally) (config : PoolConfig)
    {event : ClosingEvent κ} (inTime : QuitsInTime total (closing, tally) event) :
    Tallied total (Closing.step config closing event).1 (tally.count closing event) := by
  cases event with
  | pool event =>
      obtain ⟨closed, length⟩ := BasePool.step_of_closed config before.closed event
      have remaining := before.remaining
      rw [Closing.step, Tally.count]
      by_cases fails : closing.pool.FailsReset event
      · rw [if_pos fails] at length ⊢
        refine ⟨closed, ?_, before.notCalled, before.called⟩
        dsimp only
        omega
      · rw [if_neg fails] at length ⊢
        refine ⟨closed, ?_, before.notCalled, before.called⟩
        dsimp only
        omega
  | quit connection =>
      rw [Closing.step, Tally.count]
      by_cases starts : closing.Starts connection
      · rw [if_pos starts, if_pos starts]
        exact before.startQuit _ connection (inTime starts)
      · rw [if_neg starts, if_neg starts]
        exact before
  | quitFailed connection err =>
      rw [Closing.step, Tally.count]
      by_cases waits : connection ∈ closing.waiting
      · rw [if_pos waits, if_pos waits]
        exact before.failQuit _ err rfl rfl
      · rw [if_neg waits, if_neg waits]
        exact before

end Tallied

theorem tallied_start (pool : BasePool κ) (idle : Nat → Bool) :
    Tallied pool.allConnections.length (start pool idle).1
      (Tally.start pool idle pool.allConnections) := by
  rw [start]
  by_cases empty : pool.allConnections.length = 0
  · rw [if_pos empty, endCB, if_neg (by simp)]
    dsimp only
    rw [if_pos (show pool.endPool.allConnections.length ≤ 0 + 1 from
      Nat.le_trans (Nat.le_of_eq empty) (Nat.zero_le _))]
    refine ⟨rfl, rfl, ?_, fun _ => Or.inr ?_⟩
    · rintro ⟨⟩
    · rw [empty]
      exact Nat.zero_le _
  · rw [if_neg empty]
    have new : Tallied pool.allConnections.length
        { pool := pool.endPool
          waiting := []
          processed := []
          closedConnections := 0
          calledBack := false : Closing κ } (Tally.start pool idle []) := by
      refine ⟨rfl, rfl, fun _ => ⟨rfl, rfl⟩, ?_⟩
      rintro ⟨⟩
    exact new.realEndAll pool.allConnections

/-! ## Runs -/

theorem Counted.step {connections : List Nat} {outputs : List (Option JsError)}
    {closing : Closing κ} {tally : Tally}
    (before : Counted connections connections outputs closing)
    (tallied : Tallied connections.length closing tally) (config : PoolConfig)
    {event : ClosingEvent κ} (inTime : QuitsInTime connections.length (closing, tally) event) :
    Counted connections connections (outputs ++ (step config closing event).2)
      (step config closing event).1 := by
  cases event with
  | pool event =>
      rw [Closing.step, List.append_nil]
      exact ⟨before.notCalled, before.called⟩
  | quit connection =>
      by_cases starts : closing.Starts connection
      · have stepEq : Closing.step config closing (.quit connection) =
            { closing with waiting := closing.waiting.erase connection }.startQuit connection :=
          if_pos starts
        rw [stepEq]
        apply before.startQuit (closing.waiting.erase connection) connection
        · intro notCalled
          obtain ⟨_, _, perm⟩ := before.notCalled notCalled
          exact ((List.perm_cons_erase starts.1).symm.append_left _).trans perm
        · intro notCalled reached other member
          obtain ⟨_, count, perm⟩ := before.notCalled notCalled
          obtain ⟨notFailed, quits⟩ := tallied.notCalled notCalled
          have remaining := tallied.remaining
          have sizes := perm.length_eq
          rw [List.length_append] at sizes
          have oneWaits : 0 < closing.waiting.length := List.length_pos_of_mem starts.1
          have last : ¬closing.processed.length + 1 < connections.length := by
            intro more
            have enough := inTime starts notFailed (by omega)
            omega
          -- the command started is the one that waits
          have waitingEq : closing.waiting = [connection] := by
            obtain ⟨only, isOnly⟩ := List.length_eq_one_iff.mp
              (show closing.waiting.length = 1 by omega)
            have first := starts.1
            rw [isOnly, List.mem_singleton] at first
            rw [isOnly, first]
          rw [waitingEq] at perm
          exact perm.mem_iff.mpr member
      · have stepEq : Closing.step config closing (.quit connection) = (closing, []) :=
          if_neg starts
        rw [stepEq, List.append_nil]
        exact before
  | quitFailed connection err =>
      by_cases waits : connection ∈ closing.waiting
      · have stepEq : Closing.step config closing (.quitFailed connection err) =
            { closing with waiting := closing.waiting.erase connection }.endCB (some err) :=
          if_pos waits
        rw [stepEq]
        exact before.failQuit _ err
      · have stepEq : Closing.step config closing (.quitFailed connection err) = (closing, []) :=
          if_neg waits
        rw [stepEq, List.append_nil]
        exact before

theorem run_tallying (config : PoolConfig) (closing : Closing κ) (tally : Tally)
    (events : List (ClosingEvent κ)) :
    (run (tallying config) (closing, tally) events).1.1 = (run (step config) closing events).1 ∧
      (run (tallying config) (closing, tally) events).2 =
        (run (step config) closing events).2 := by
  induction events generalizing closing tally with
  | nil => exact ⟨rfl, rfl⟩
  | cons event events ih =>
      obtain ⟨sameState, sameOutputs⟩ :=
        ih (step config closing event).1 (tally.count closing event)
      exact ⟨sameState, congrArg ((step config closing event).2 ++ ·) sameOutputs⟩

/-- A command that is started too late calls `cb`, although it is not the last. -/
theorem not_endsInOrder_of_late {connections : List Nat} {outputs : List (Option JsError)}
    {closing : Closing κ} {tally : Tally} (nodup : connections.Nodup)
    (counted : Counted connections connections outputs closing)
    (tallied : Tallied connections.length closing tally) (config : PoolConfig)
    {connection : Nat} (starts : closing.Starts connection) (notFailed : tally.failed = false)
    (more : tally.quits + 1 < connections.length)
    (late : ¬tally.quits + 1 + tally.failedResets < connections.length) :
    ¬EndsInOrder connections (outputs ++ (step config closing (.quit connection)).2)
      (step config closing (.quit connection)).1 := by
  have notCalled : closing.calledBack = false := by
    rw [← Bool.not_eq_true]
    intro called
    rcases tallied.called called with failed | reached
    · exact Bool.noConfusion (notFailed.symm.trans failed)
    · omega
  obtain ⟨_, count, _⟩ := counted.notCalled notCalled
  obtain ⟨_, quits⟩ := tallied.notCalled notCalled
  have remaining := tallied.remaining
  have stepEq : step config closing (.quit connection) =
      ({ closing with
          waiting := closing.waiting.erase connection
          processed := closing.processed ++ [connection]
          closedConnections := closing.closedConnections + 1
          calledBack := true }, [none]) := by
    rw [step, if_pos starts, startQuit, endCB, if_neg (by simp [notCalled])]
    exact if_pos (show closing.pool.allConnections.length ≤ closing.closedConnections + 1 by omega)
  rw [stepEq]
  intro inOrder
  have allStarted := inOrder.all (List.mem_append_right _ List.mem_cons_self)
  have enough := List.Nodup.length_le_of_subset nodup fun other member => allStarted other member
  rw [List.length_append, List.length_singleton] at enough
  omega

/-- The outputs so far and the state are counted and tallied behind a run whose
commands are started in time. -/
theorem counted_run {config : PoolConfig} {pool : BasePool κ} {idle : Nat → Bool}
    {events : List (ClosingEvent κ)}
    (inTime : Meets (tallying config) (QuitsInTime pool.allConnections.length)
      ((start pool idle).1, Tally.start pool idle pool.allConnections) events) :
    let closing := (run (step config) (start pool idle).1 events).1
    Counted pool.allConnections pool.allConnections
        ((start pool idle).2 ++ (run (step config) (start pool idle).1 events).2) closing ∧
      Tallied pool.allConnections.length closing
        (run (tallying config) ((start pool idle).1, Tally.start pool idle pool.allConnections)
          events).1.2 := by
  have both := inTime.invariant
    (fun outputs state => Counted pool.allConnections pool.allConnections outputs state.1 ∧
      Tallied pool.allConnections.length state.1 state.2)
    (fun _ _ _ before inTime =>
      ⟨before.1.step before.2 config inTime, before.2.step config inTime⟩)
    ⟨counted_start pool idle, tallied_start pool idle⟩
  obtain ⟨sameState, sameOutputs⟩ := run_tallying config (start pool idle).1
    (Tally.start pool idle pool.allConnections) events
  rw [sameState, sameOutputs] at both
  exact both

/-- Wherever `end` is called and whatever happens behind it: `cb` is called at most
once, and without an error only when all connections have started their `Quit`
command, as long as and only as long as the commands are started in time for the
resets that fail. -/
theorem run_endsInOrder_iff (config : PoolConfig) (calls : List (Event κ)) (idle : Nat → Bool)
    (events : List (ClosingEvent κ)) :
    let pool := (run (BasePool.step config) BasePool.init calls).1
    (∀ past, past <+: events →
        EndsInOrder pool.allConnections
          ((start pool idle).2 ++ (run (step config) (start pool idle).1 past).2)
          (run (step config) (start pool idle).1 past).1) ↔
      Meets (tallying config) (QuitsInTime pool.allConnections.length)
        ((start pool idle).1, Tally.start pool idle pool.allConnections) events := by
  intro pool
  have nodup : pool.allConnections.Nodup :=
    ((BasePool.placed_invariant config).always BasePool.Placed.init calls).nodup
  constructor
  · intro inOrder
    induction events using List.reverseRecOn with
    | nil => trivial
    | append_singleton events event ih =>
        have before := ih fun past isPast => inOrder past (isPast.trans (List.prefix_append _ _))
        refine before.append ⟨?_, trivial⟩
        have last := inOrder (events ++ [event]) List.prefix_rfl
        obtain ⟨counted, tallied⟩ := counted_run before
        obtain ⟨sameState, _⟩ := run_tallying config (start pool idle).1
          (Tally.start pool idle pool.allConnections) events
        rw [run_append] at last
        generalize run (tallying config) ((start pool idle).1,
          Tally.start pool idle pool.allConnections) events = tallyRun at sameState tallied ⊢
        obtain ⟨⟨closing, tally⟩, _⟩ := tallyRun
        cases event with
        | pool event => trivial
        | quitFailed connection err => trivial
        | quit connection =>
            intro starts notFailed more
            rw [← sameState] at counted tallied last
            dsimp only at counted tallied last
            by_contra late
            apply not_endsInOrder_of_late nodup counted tallied config starts notFailed more late
            rw [run_cons, run_nil, List.append_nil, ← List.append_assoc] at last
            exact last
  · rintro inTime past ⟨rest, rfl⟩
    exact (counted_run inTime.of_append).1.endsInOrder

/-- Three connections, which are reset on release. -/
def threeConnections : PoolConfig :=
  { onlyOne with connectionLimit := 3, resetOnRelease := true }

/-- The first connection is being reset, the others are busy. -/
def oneResetting : BasePool Unit :=
  (run (BasePool.step threeConnections) BasePool.init
    [.getConnection () 0, .connected 0, .getConnection () 1, .connected 1, .getConnection () 2,
      .connected 2, .release () 0 3]).1

/-- The reset fails, and its connection, which has left the pool, counts for one of
the others: `cb` is called before the last one has come to its `Quit` command. -/
theorem failedReset_not_endsInOrder :
    ¬EndsInOrder oneResetting.allConnections
      ((start oneResetting fun _ => false).2 ++
        (run (step threeConnections) (start oneResetting fun _ => false).1
          [.pool (.resetError 0), .quit 0, .quit 1]).2)
      (run (step threeConnections) (start oneResetting fun _ => false).1
        [.pool (.resetError 0), .quit 0, .quit 1]).1 := by
  intro inOrder
  have called : none ∈ (start oneResetting fun _ => false).2 ++
      (run (step threeConnections) (start oneResetting fun _ => false).1
        [.pool (.resetError 0), .quit 0, .quit 1]).2 := by
    decide
  exact absurd (inOrder.all called 2 (by decide)) (by decide)

/-- Behind the commands of the others the same reset may fail. -/
example :
    Meets (tallying threeConnections) (QuitsInTime oneResetting.allConnections.length)
      ((start oneResetting fun _ => false).1,
        Tally.start oneResetting (fun _ => false) oneResetting.allConnections)
      [.quit 1, .quit 2, .pool (.resetError 0), .quit 0] := by
  decide

end Closing

end Mysql2.Pool

import Mysql2.Pool.Placement

/-!
# Capacity

The pool never holds more connections than its limit, and while callbacks wait in
the queue no capacity is idle: whatever takes a connection out of the pool wakes a
callback, which is then counted until it has been through `getConnection` again.
-/

namespace Mysql2.Pool

open Mysql2.Transition

/-- A callback taken off the queue, to be sent through `getConnection` again. -/
def Tick.isGetConnection {κ : Type} : Tick κ → Bool
  | .getConnection _ => true
  | _ => false

namespace BasePool

variable {κ : Type}

/-- The callbacks taken off the queue that have not been through `getConnection`
again. -/
def redispatched (pool : BasePool κ) : Nat :=
  pool.ticks.countP Tick.isGetConnection

@[simp]
theorem redispatched_nextTick (pool : BasePool κ) (tick : Tick κ) :
    (pool.nextTick tick).redispatched = pool.redispatched + tick.isGetConnection.toNat := by
  simp only [redispatched, nextTick, List.countP_append, List.countP_singleton]
  cases tick.isGetConnection <;> rfl

/-! ## The limit -/

/-- `_allConnections` is within the limit; 0 stands for no limit. -/
def WithinLimit (config : PoolConfig) (pool : BasePool κ) : Prop :=
  config.connectionLimit ≠ 0 → pool.allConnections.length ≤ config.connectionLimit

theorem WithinLimit.mono {config : PoolConfig} {pool after : BasePool κ}
    (before : WithinLimit config pool)
    (fewer : after.allConnections.length ≤ pool.allConnections.length) :
    WithinLimit config after :=
  fun limited => Nat.le_trans fewer (before limited)

theorem withinLimit_getConnection {config : PoolConfig} {pool : BasePool κ} (now : Int)
    (callback : Callback κ) (before : WithinLimit config pool) :
    WithinLimit config (getConnection config now pool callback).1 := by
  unfold getConnection
  split
  · exact before
  · split
    · exact before
    · split
      · rename_i room
        intro limited
        rcases room with unlimited | room
        · exact absurd unlimited limited
        · simpa [create] using Nat.succ_le_of_lt room
      · split
        · exact before
        · split
          · exact before
          · exact before

theorem handleSuccessfulRelease_allConnections (pool : BasePool κ) (connection : Nat) :
    (handleSuccessfulRelease pool connection).1.allConnections = pool.allConnections := by
  unfold handleSuccessfulRelease
  split <;> rfl

theorem withinLimit_resetFailed {config : PoolConfig} {pool : BasePool κ} (connection : Nat)
    (before : WithinLimit config pool) : WithinLimit config (pool.resetFailed connection) := by
  apply before.mono
  rw [resetFailed, redispatch_allConnections]
  exact List.length_erase_le

theorem withinLimit_invariant (config : PoolConfig) :
    Invariant config (fun _ : BasePool κ => True) (WithinLimit config) where
  getConnection _ client now before := withinLimit_getConnection now _ before
  remove _ _ before _ _ := by
    apply before.mono
    rw [redispatch_allConnections]
    exact List.length_erase_le
  release pool now connection before _ _ _ := by
    unfold releaseConnection
    split
    · apply before.mono
      rw [redispatch_allConnections]
      exact Nat.le_refl _
    · split
      · split
        · exact withinLimit_resetFailed connection before
        · exact before
      · apply before.mono
        rw [handleSuccessfulRelease_allConnections]
        exact Nat.le_refl _
  closeState _ _ before := before
  stopListening _ _ before := before
  resetReply pool connection before := by
    unfold resetReply
    split
    · exact before
    · exact before
  resetError pool connection before := by
    unfold resetError
    split
    · exact before
    · exact withinLimit_resetFailed connection before
  tick pool now before _ := by
    unfold tick
    split
    · exact before
    · exact before
    · exact before
    · exact withinLimit_getConnection now _ before
    · apply before.mono
      exact Nat.le_of_eq (by rw [handleSuccessfulRelease_allConnections])
  endPool _ before := before
  hung _ before := before

/-! ## No idle capacity -/

/-- In an open pool callbacks wait only when there is no free connection, and when
the connections, with the callbacks on their way to `getConnection`, fill the
limit; `spare` more may be missing. -/
structure Backed (config : PoolConfig) (spare : Nat) (pool : BasePool κ) : Prop where
  free : pool.closed = false → pool.connectionQueue ≠ [] → pool.freeConnections = []
  capacity : pool.closed = false → pool.connectionQueue ≠ [] →
    config.connectionLimit ≤ pool.allConnections.length + pool.redispatched + spare

/-- A callback that goes through `getConnection` makes up for one that is missing:
it takes a connection, or finds the pool full. -/
theorem backed_getConnection {config : PoolConfig} {pool : BasePool κ} (now : Int)
    (callback : Callback κ) {spare : Nat} (few : spare ≤ 1)
    (before : Backed config spare pool) :
    Backed config 0 (getConnection config now pool callback).1 := by
  unfold getConnection
  split
  · rename_i closed
    constructor
    · intro isOpen
      exact absurd (closed.symm.trans isOpen) Bool.noConfusion
    · intro isOpen
      exact absurd (closed.symm.trans isOpen) Bool.noConfusion
  · rename_i isOpen
    have isOpen : pool.closed = false := by simpa using isOpen
    split
    · rename_i connection last
      have noQueue : pool.connectionQueue = [] := by
        by_contra waiting
        rw [before.free isOpen waiting] at last
        exact absurd last (by simp)
      exact ⟨fun _ waiting => absurd noQueue waiting, fun _ waiting => absurd noQueue waiting⟩
    · rename_i noFree
      have noFree := List.getLast?_eq_none_iff.mp noFree
      split
      · refine ⟨fun _ _ => noFree, ?_⟩
        intro _ waiting
        have capacity := before.capacity isOpen waiting
        simp [create, redispatched] at capacity ⊢
        omega
      · rename_i full
        have full : config.connectionLimit ≤ pool.allConnections.length := by omega
        split
        · refine ⟨fun _ _ => noFree, fun _ _ => ?_⟩
          simp only [nextTick]
          omega
        · split
          · refine ⟨fun _ _ => noFree, fun _ _ => ?_⟩
            show config.connectionLimit ≤ pool.allConnections.length + pool.redispatched + 0
            omega
          · refine ⟨fun _ _ => noFree, fun _ _ => ?_⟩
            show config.connectionLimit ≤ pool.allConnections.length + pool.redispatched + 0
            omega

/-- A callback taken off the queue is counted. -/
theorem backed_redispatch {config : PoolConfig} {pool : BasePool κ}
    (before : Backed config 1 pool) : Backed config 0 pool.redispatch := by
  unfold redispatch
  split
  · rename_i callback queue waiting
    have waits : pool.connectionQueue ≠ [] := by
      rw [waiting]
      exact List.cons_ne_nil _ _
    constructor
    · intro isOpen _
      exact before.free isOpen waits
    · intro isOpen _
      have capacity := before.capacity isOpen waits
      rw [redispatched_nextTick]
      simpa [Tick.isGetConnection, redispatched, nextTick, Nat.add_assoc] using capacity
  · rename_i empty
    exact ⟨fun _ waiting => absurd empty waiting, fun _ waiting => absurd empty waiting⟩

/-- A released connection is not kept while callbacks wait. -/
theorem backed_handleSuccessfulRelease {config : PoolConfig} {pool : BasePool κ}
    (connection : Nat) (before : Backed config 0 pool) :
    Backed config 0 (handleSuccessfulRelease pool connection).1 := by
  unfold handleSuccessfulRelease
  split
  · rename_i callback queue waiting
    have waits : pool.connectionQueue ≠ [] := by
      rw [waiting]
      exact List.cons_ne_nil _ _
    constructor
    · intro isOpen _
      exact before.free isOpen waits
    · intro isOpen _
      have capacity := before.capacity isOpen waits
      rw [redispatched_nextTick]
      simpa [Tick.isGetConnection, redispatched, nextTick] using capacity
  · rename_i empty
    exact ⟨fun _ waiting => absurd empty waiting, fun _ waiting => absurd empty waiting⟩

/-- One connection fewer. -/
theorem Backed.erase {config : PoolConfig} {pool after : BasePool κ}
    (before : Backed config 0 pool) (connection : Nat)
    (queue : after.connectionQueue = pool.connectionQueue)
    (closed : after.closed = pool.closed) (ticks : after.ticks = pool.ticks)
    (free : after.freeConnections.Sublist pool.freeConnections)
    (all : after.allConnections = pool.allConnections.erase connection) :
    Backed config 1 after := by
  constructor
  · intro isOpen waiting
    rw [closed] at isOpen
    rw [queue] at waiting
    rw [before.free isOpen waiting] at free
    exact List.sublist_nil.mp free
  · intro isOpen waiting
    rw [closed] at isOpen
    rw [queue] at waiting
    have capacity := before.capacity isOpen waiting
    have fewer := List.le_length_erase (a := connection) (l := pool.allConnections)
    simp only [redispatched, all, ticks] at capacity ⊢
    omega

theorem backed_resetFailed {config : PoolConfig} {pool : BasePool κ} (connection : Nat)
    (before : Backed config 0 pool) : Backed config 0 (pool.resetFailed connection) := by
  apply backed_redispatch
  exact before.erase connection rfl rfl rfl (List.Sublist.refl _) rfl

theorem backed_invariant (config : PoolConfig) :
    Invariant config (fun _ : BasePool κ => True) (Backed config 0) where
  getConnection pool client now before := by
    have counted : Backed config 0 { pool with calls := pool.calls + 1 } :=
      ⟨before.free, before.capacity⟩
    exact backed_getConnection now _ (Nat.zero_le 1) counted
  remove pool connection before _ _ := by
    apply backed_redispatch
    exact before.erase connection rfl rfl rfl List.erase_sublist rfl
  release pool now connection before _ _ isOpen := by
    have givenBack : Backed config 0 (pool.giveBack now connection) :=
      ⟨before.free, before.capacity⟩
    unfold releaseConnection
    split
    · rename_i unset
      apply backed_redispatch
      exact ⟨givenBack.free, fun isOpen waiting =>
        Nat.le_succ_of_le (givenBack.capacity isOpen waiting)⟩
    · split
      · split
        · exact backed_resetFailed connection givenBack
        · exact ⟨givenBack.free, givenBack.capacity⟩
      · exact backed_handleSuccessfulRelease connection givenBack
  closeState _ _ before := ⟨before.free, before.capacity⟩
  stopListening _ _ before := ⟨before.free, before.capacity⟩
  resetReply pool connection before := by
    unfold resetReply
    split
    · exact before
    · refine ⟨before.free, ?_⟩
      intro isOpen waiting
      rw [redispatched_nextTick]
      exact before.capacity isOpen waiting
  resetError pool connection before := by
    unfold resetError
    split
    · exact before
    · exact backed_resetFailed connection ⟨before.free, before.capacity⟩
  tick pool now before _ := by
    have taken : ∀ tick ticks, pool.ticks = tick :: ticks →
        Backed config tick.isGetConnection.toNat { pool with ticks := ticks } := by
      intro tick ticks next
      refine ⟨before.free, ?_⟩
      intro isOpen waiting
      have capacity := before.capacity isOpen waiting
      simp only [redispatched, next, List.countP_cons] at capacity ⊢
      cases counted : tick.isGetConnection
      · simpa [counted] using capacity
      · simp [counted] at capacity ⊢
        omega
    unfold tick
    split
    · exact before
    · rename_i callback connection ticks next
      exact ⟨(taken _ _ next).free, (taken _ _ next).capacity⟩
    · rename_i next
      exact taken _ _ next
    · rename_i next
      exact backed_getConnection now _ (Nat.le_refl 1) (taken _ _ next)
    · rename_i next
      exact backed_handleSuccessfulRelease _ (taken _ _ next)
  endPool _ _ := ⟨fun isClosed => Bool.noConfusion isClosed, fun isClosed => Bool.noConfusion isClosed⟩
  hung _ before := ⟨before.free, before.capacity⟩

end BasePool

/-- A pool of one connection. -/
def onlyOne : PoolConfig :=
  { waitForConnections := true
    connectionLimit := 1
    maxIdle := 1
    idleTimeout := 60000
    queueLimit := 0
    resetOnRelease := false
    gracefulEnd := false }

end Mysql2.Pool

import Mathlib.Data.List.Basic
import Mysql2.Pool.Pool

/-!
# Where a connection is

A released connection is in one place: it is being reset, or waits in the list of
free connections, or is on its way from one to the other or to a client.  What
the operations of a pool do is said here once, and an invariant of the pool is
reduced to a few of them.
-/

namespace Mysql2.Pool

open Mysql2.Packets
open Mysql2.Transition

namespace BasePool

variable {κ : Type}

/-! ## What the operations do -/

@[simp]
theorem modify_connections (pool : BasePool κ) (connection : Nat)
    (change : PoolConnection κ → PoolConnection κ) (other : Nat) :
    (pool.modify connection change).connections other =
      if other = connection then change (pool.connections connection)
      else pool.connections other := by
  simp [modify, Function.update_apply]

@[simp]
theorem modify_allConnections (pool : BasePool κ) (connection : Nat)
    (change : PoolConnection κ → PoolConnection κ) :
    (pool.modify connection change).allConnections = pool.allConnections :=
  rfl

@[simp]
theorem modify_freeConnections (pool : BasePool κ) (connection : Nat)
    (change : PoolConnection κ → PoolConnection κ) :
    (pool.modify connection change).freeConnections = pool.freeConnections :=
  rfl

@[simp]
theorem modify_connectionQueue (pool : BasePool κ) (connection : Nat)
    (change : PoolConnection κ → PoolConnection κ) :
    (pool.modify connection change).connectionQueue = pool.connectionQueue :=
  rfl

@[simp]
theorem modify_closed (pool : BasePool κ) (connection : Nat)
    (change : PoolConnection κ → PoolConnection κ) :
    (pool.modify connection change).closed = pool.closed :=
  rfl

@[simp]
theorem modify_created (pool : BasePool κ) (connection : Nat)
    (change : PoolConnection κ → PoolConnection κ) :
    (pool.modify connection change).created = pool.created :=
  rfl

@[simp]
theorem modify_ticks (pool : BasePool κ) (connection : Nat)
    (change : PoolConnection κ → PoolConnection κ) :
    (pool.modify connection change).ticks = pool.ticks :=
  rfl

/-- A connection with `_pool` still set leaves the pool. -/
def remove (pool : BasePool κ) (connection : Nat) : BasePool κ :=
  { pool.modify connection fun fields => { fields with pool := false } with
    allConnections := pool.allConnections.erase connection
    freeConnections := pool.freeConnections.erase connection }

/-- Removing a connection, once `_pool` has been unset, wakes one queued
callback. -/
theorem removeFromPool_eq (config : PoolConfig) (pool : BasePool κ) (connection : Nat) :
    removeFromPool config pool connection =
      (if (pool.connections connection).pool = false ∨ pool.closed then pool
        else (pool.remove connection).redispatch, []) := by
  unfold removeFromPool
  split
  · rfl
  · simp [removeConnection, releaseConnection, remove]

theorem redispatch_connections (pool : BasePool κ) :
    pool.redispatch.connections = pool.connections := by
  unfold redispatch
  split <;> rfl

theorem redispatch_allConnections (pool : BasePool κ) :
    pool.redispatch.allConnections = pool.allConnections := by
  unfold redispatch
  split <;> rfl

theorem redispatch_freeConnections (pool : BasePool κ) :
    pool.redispatch.freeConnections = pool.freeConnections := by
  unfold redispatch
  split <;> rfl

theorem redispatch_closed (pool : BasePool κ) : pool.redispatch.closed = pool.closed := by
  unfold redispatch
  split <;> rfl

theorem redispatch_created (pool : BasePool κ) : pool.redispatch.created = pool.created := by
  unfold redispatch
  split <;> rfl

/-- A connection that its client gives back. -/
def giveBack (pool : BasePool κ) (now : Int) (connection : Nat) : BasePool κ :=
  pool.modify connection fun fields => { fields with released := true, lastActiveTime := now }

/-- What `release` does: nothing, or give the connection back. -/
theorem release_cases (config : PoolConfig) (now : Int) (pool : BasePool κ)
    (connection : Nat) :
    release config now pool connection = (pool, []) ∨
      (pool.connections connection).released = false ∧
        (pool.connections connection).pool = true ∧ pool.closed = false ∧
        release config now pool connection =
          releaseConnection config (pool.giveBack now connection) connection := by
  unfold release
  split
  · exact Or.inl rfl
  · split
    · exact Or.inl rfl
    · rename_i notReleased open_
      refine Or.inr ⟨by simpa using notReleased, ?_, ?_, rfl⟩ <;> simp_all

/-! ## Invariants

An invariant is reduced to the operations below.  The ticks of the steps may be
restricted. -/

/-- A property that no operation breaks, as long as callbacks put off are run only
in pools that `admits` admits. -/
structure Invariant (config : PoolConfig) (admits : BasePool κ → Prop)
    (holds : BasePool κ → Prop) : Prop where
  getConnection : ∀ pool client now, holds pool →
    holds (getConnection config now { pool with calls := pool.calls + 1 }
      ⟨client, pool.calls⟩).1
  remove : ∀ pool connection, holds pool → pool.closed = false →
    (pool.connections connection).pool = true → holds (pool.remove connection).redispatch
  release : ∀ pool now connection, holds pool →
    (pool.connections connection).released = false →
    (pool.connections connection).pool = true → pool.closed = false →
    holds (releaseConnection config (pool.giveBack now connection) connection).1
  closeState : ∀ pool connection, holds pool → holds (pool.closeState connection)
  stopListening : ∀ pool connection, holds pool → holds (pool.stopListening connection)
  resetReply : ∀ pool connection, holds pool → holds (pool.resetReply connection)
  resetError : ∀ pool connection, holds pool → holds (pool.resetError connection)
  tick : ∀ pool now, holds pool → admits pool → holds (tick config now pool).1
  endPool : ∀ pool, holds pool → holds pool.endPool
  hung : ∀ pool, holds pool → holds { pool with hung := true }

namespace Invariant

variable {config : PoolConfig} {admits : BasePool κ → Prop} {holds : BasePool κ → Prop}

theorem removeFromPool (invariant : Invariant config admits holds) {pool : BasePool κ}
    (connection : Nat) (before : holds pool) :
    holds (removeFromPool config pool connection).1 := by
  rw [removeFromPool_eq]
  split
  · exact before
  · rename_i present
    apply invariant.remove pool connection before <;> simp_all

theorem releaseByClient (invariant : Invariant config admits holds) {pool : BasePool κ}
    (now : Int) (connection : Nat) (before : holds pool) :
    holds (BasePool.release config now pool connection).1 := by
  rcases release_cases config now pool connection with
    unchanged | ⟨notReleased, present, isOpen, same⟩
  · rw [unchanged]
    exact before
  · rw [same]
    exact invariant.release pool now connection before notReleased present isOpen

theorem failed (invariant : Invariant config admits holds) {pool : BasePool κ}
    (connection : Nat) (err : JsError) (before : holds pool) :
    holds (failed config pool connection err).1 := by
  have removed := invariant.removeFromPool connection before
  unfold BasePool.failed
  dsimp only
  split
  · exact removed
  · exact invariant.stopListening _ connection removed

/-- By induction on the iterations that are left. -/
theorem sweepLoop (invariant : Invariant config admits holds) (clock : Nat → Int)
    (left : Nat) (pool : BasePool κ) (before : holds pool) :
    holds (sweepLoop config clock left pool).1 := by
  induction left generalizing pool with
  | zero => exact before
  | succ left ih =>
      unfold BasePool.sweepLoop
      split
      · exact before
      · split
        · split
          · apply ih
            apply invariant.closeState
            exact invariant.removeFromPool _ before
          · exact invariant.hung pool before
        · exact before

/-- What the operations keep, every step keeps. -/
theorem step (invariant : Invariant config admits holds) {pool : BasePool κ}
    (event : Event κ) (before : holds pool)
    (admitted : ∀ now, event = .tick now → admits pool) :
    holds (BasePool.step config pool event).1 := by
  show holds (if pool.hung then (pool, []) else handle config pool event).1
  split
  · exact before
  · cases event with
    | getConnection client now => exact invariant.getConnection pool client now before
    | release client connection now => exact invariant.releaseByClient now connection before
    | destroy client connection =>
        exact invariant.closeState _ connection (invariant.removeFromPool connection before)
    | endConnection client connection now =>
        simp only [handle, endConnection]
        split
        · exact invariant.closeState _ connection (invariant.removeFromPool connection before)
        · exact invariant.releaseByClient now connection before
    | connected connection =>
        simp only [handle, connected]
        split
        · exact before
        · exact invariant.stopListening pool connection before
    | failed connection err => exact invariant.failed connection err before
    | ended connection => exact invariant.removeFromPool connection before
    | closeState connection => exact invariant.closeState pool connection before
    | resetReply connection => exact invariant.resetReply pool connection before
    | resetError connection => exact invariant.resetError pool connection before
    | tick now => exact invariant.tick pool now before (admitted now rfl)
    | idleSweep clock =>
        simp only [handle, idleSweep]
        split
        · exact invariant.sweepLoop clock _ pool before
        · exact before
    | endPool => exact invariant.endPool pool before

/-- What the operations keep, every run keeps. -/
theorem run (invariant : Invariant config admits holds) {pool : BasePool κ}
    {events : List (Event κ)} (before : holds pool)
    (admitted : Meets (BasePool.step config)
      (fun pool event => ∀ now, event = .tick now → admits pool) pool events) :
    holds (Transition.run (BasePool.step config) pool events).1 := by
  apply admitted.preserves holds _ before
  intro pool event before admitted
  exact invariant.step event before admitted

/-- What the operations keep without a restriction, every run from a new pool
keeps. -/
theorem always (invariant : Invariant config (fun _ => True) holds) (new : holds init)
    (events : List (Event κ)) : holds (Transition.run (BasePool.step config) init events).1 := by
  apply run_preserves holds _ events new
  intro pool event before
  exact invariant.step event before fun _ _ => trivial

end Invariant

end BasePool

/-- The callback hands on this connection. -/
def Tick.carries {κ : Type} (connection : Nat) : Tick κ → Bool
  | .deliver _ other => other == connection
  | .resetDone other => other == connection
  | _ => false

namespace BasePool

variable {κ : Type}

/-! ## Places -/

/-- The number of places in which a connection waits between two clients: in the
list of free connections, in a callback put off, or being reset. -/
def places (pool : BasePool κ) (connection : Nat) : Nat :=
  pool.freeConnections.count connection + pool.ticks.countP (Tick.carries connection) +
    (pool.connections connection).resets

theorem places_nextTick (pool : BasePool κ) (tick : Tick κ) (connection : Nat) :
    (pool.nextTick tick).places connection =
      pool.places connection + (tick.carries connection).toNat := by
  simp only [places, nextTick, List.countP_append, List.countP_singleton]
  cases tick.carries connection
  · simp
  · simp
    omega

theorem places_redispatch (pool : BasePool κ) (connection : Nat) :
    pool.redispatch.places connection = pool.places connection := by
  unfold redispatch
  split
  · rw [places_nextTick]
    simp [places, Tick.carries]
  · rfl

theorem places_of_resets (pool : BasePool κ) (connection : Nat)
    (change : PoolConnection κ → PoolConnection κ)
    (resets : (change (pool.connections connection)).resets =
      (pool.connections connection).resets) (other : Nat) :
    (pool.modify connection change).places other = pool.places other := by
  by_cases same : other = connection
  · subst same
    simp [places, resets]
  · simp [places, same]

theorem places_remove_le (pool : BasePool κ) (connection other : Nat) :
    (pool.remove connection).places other ≤ pool.places other := by
  have fewer := (List.erase_sublist (a := connection) (l := pool.freeConnections)).count_le other
  by_cases same : other = connection
  · subst same
    simp only [places, remove, modify_connections, modify_ticks, if_pos]
    omega
  · simp only [places, remove, modify_connections, modify_ticks, if_neg same]
    omega

theorem places_handleSuccessfulRelease (pool : BasePool κ) (connection other : Nat) :
    (handleSuccessfulRelease pool connection).1.places other =
      pool.places other + if other = connection then 1 else 0 := by
  unfold handleSuccessfulRelease
  split
  · rw [places_nextTick]
    by_cases same : other = connection
    · simp [places, Tick.carries, same]
    · simp [places, Tick.carries, same, Ne.symm same]
  · by_cases same : other = connection
    · simp [places, same]
      omega
    · simp [places, same, Ne.symm same]

/-- A connection is in at most one place, and only when it has been released.  It
is at most once in `_allConnections`. -/
structure Placed (pool : BasePool κ) : Prop where
  places_le : ∀ connection,
    pool.places connection ≤ (pool.connections connection).released.toNat
  fresh : ∀ connection, pool.created ≤ connection →
    (pool.connections connection).released = false ∧
      (pool.connections connection).pool = false ∧
      (pool.connections connection).connecting = none
  nodup : pool.allConnections.Nodup
  created : ∀ connection ∈ pool.allConnections, connection < pool.created

namespace Placed

theorem init : Placed (init : BasePool κ) := by
  constructor
  · intro connection
    exact Nat.le_refl _
  · intro connection _
    exact ⟨rfl, rfl, rfl⟩
  · exact List.nodup_nil
  · intro connection member
    exact absurd member List.not_mem_nil

/-- No new places, and fewer connections. -/
theorem mono {pool after : BasePool κ} (before : Placed pool)
    (places : ∀ connection, after.places connection ≤ pool.places connection)
    (released : ∀ connection,
      (after.connections connection).released = (pool.connections connection).released)
    (fresh : ∀ connection, pool.created ≤ connection →
      (after.connections connection).pool = false ∧
        (after.connections connection).connecting = none)
    (all : after.allConnections.Sublist pool.allConnections)
    (created : after.created = pool.created) : Placed after := by
  constructor
  · intro connection
    rw [released connection]
    exact Nat.le_trans (places connection) (before.places_le connection)
  · intro connection new
    rw [created] at new
    rw [released connection]
    exact ⟨(before.fresh connection new).1, fresh connection new⟩
  · exact before.nodup.sublist all
  · intro connection member
    rw [created]
    exact before.created connection (all.subset member)

/-- A connection that has not been released is nowhere. -/
theorem places_eq_zero {pool : BasePool κ} (before : Placed pool) {connection : Nat}
    (notReleased : (pool.connections connection).released = false) :
    pool.places connection = 0 := by
  have bound := before.places_le connection
  rw [notReleased] at bound
  exact Nat.le_zero.mp bound

theorem released {pool : BasePool κ} (before : Placed pool) {connection : Nat}
    (somewhere : 0 < pool.places connection) :
    (pool.connections connection).released = true := by
  by_contra notReleased
  have nowhere := before.places_eq_zero (Bool.eq_false_iff.mpr notReleased)
  omega

/-- A released connection that was nowhere is handed on. -/
theorem handleSuccessfulRelease {pool : BasePool κ} (before : Placed pool)
    {connection : Nat} (nowhere : pool.places connection = 0)
    (released : (pool.connections connection).released = true) :
    Placed (BasePool.handleSuccessfulRelease pool connection).1 := by
  have connections :
      (BasePool.handleSuccessfulRelease pool connection).1.connections = pool.connections := by
    unfold BasePool.handleSuccessfulRelease
    split <;> rfl
  have all :
      (BasePool.handleSuccessfulRelease pool connection).1.allConnections =
        pool.allConnections := by
    unfold BasePool.handleSuccessfulRelease
    split <;> rfl
  have createdEq :
      (BasePool.handleSuccessfulRelease pool connection).1.created = pool.created := by
    unfold BasePool.handleSuccessfulRelease
    split <;> rfl
  constructor
  · intro other
    rw [places_handleSuccessfulRelease, connections]
    by_cases same : other = connection
    · subst same
      simp [nowhere, released]
    · simpa [same] using before.places_le other
  · rw [createdEq, connections]
    exact before.fresh
  · rw [all]
    exact before.nodup
  · rw [all, createdEq]
    exact before.created

theorem redispatch {pool : BasePool κ} (before : Placed pool) : Placed pool.redispatch := by
  apply before.mono
  · intro connection
    exact Nat.le_of_eq (places_redispatch pool connection)
  · intro connection
    rw [redispatch_connections]
  · intro connection new
    rw [redispatch_connections]
    exact (before.fresh connection new).2
  · rw [redispatch_allConnections]
  · exact redispatch_created pool

theorem remove {pool : BasePool κ} (before : Placed pool) (connection : Nat) :
    Placed (pool.remove connection) := by
  apply before.mono
  · exact places_remove_le pool connection
  · intro other
    by_cases same : other = connection <;> simp [BasePool.remove, same]
  · intro other new
    have fresh := before.fresh other new
    by_cases same : other = connection
    · simp [BasePool.remove, same, ← fresh.2.2]
    · simpa [BasePool.remove, same] using fresh.2
  · exact List.erase_sublist
  · rfl

/-- A change of the other fields of a connection, which does not put one that does
not exist into the pool. -/
theorem modify {pool : BasePool κ} (before : Placed pool) (connection : Nat)
    (change : PoolConnection κ → PoolConnection κ)
    (resets : ∀ fields, (change fields).resets = fields.resets)
    (released : ∀ fields, (change fields).released = fields.released)
    (present : ∀ fields, fields.pool = false → (change fields).pool = false)
    (connecting : ∀ fields, fields.connecting = none → (change fields).connecting = none) :
    Placed (pool.modify connection change) := by
  apply before.mono
  · intro other
    exact Nat.le_of_eq (places_of_resets pool connection change (resets _) other)
  · intro other
    by_cases same : other = connection
    · simp [same, released]
    · simp [same]
  · intro other new
    have fresh := before.fresh other new
    by_cases same : other = connection
    · subst same
      simpa using ⟨present _ fresh.2.1, connecting _ fresh.2.2⟩
    · simpa [same] using fresh.2
  · exact List.Sublist.refl _
  · rfl

/-- A connection leaves the pool behind a reset that failed. -/
theorem leave {pool : BasePool κ} (before : Placed pool) (connection : Nat) :
    Placed
      { pool.modify connection fun fields => { fields with pool := false, closedState := true } with
        allConnections := pool.allConnections.erase connection } := by
  have unset : Placed (pool.modify connection fun fields =>
      { fields with pool := false, closedState := true }) :=
    before.modify connection _ (fun _ => rfl) (fun _ => rfl) (fun _ _ => rfl)
      (fun _ none => none)
  apply unset.mono
  · intro other
    exact Nat.le_refl _
  · intro other
    rfl
  · intro other new
    exact (unset.fresh other new).2
  · exact List.erase_sublist
  · rfl

theorem resetFailed {pool : BasePool κ} (before : Placed pool) (connection : Nat) :
    Placed (pool.resetFailed connection) :=
  (before.leave connection).redispatch

theorem nextTick {pool : BasePool κ} (before : Placed pool) {tick : Tick κ}
    (carries : ∀ connection, tick.carries connection = false) :
    Placed (pool.nextTick tick) := by
  apply before.mono
  · intro connection
    rw [places_nextTick, carries]
    exact Nat.le_refl _
  · intro connection
    rfl
  · intro connection new
    exact (before.fresh connection new).2
  · exact List.Sublist.refl _
  · rfl

theorem create {pool : BasePool κ} (before : Placed pool) (now : Int)
    (callback : Callback κ) : Placed (pool.create now callback) := by
  constructor
  · intro connection
    by_cases same : connection = pool.created
    · have nowhere := before.places_eq_zero (before.fresh pool.created (Nat.le_refl _)).1
      subst same
      simp only [BasePool.places] at nowhere
      simp only [BasePool.create, BasePool.places, Function.update_self]
      omega
    · simpa [BasePool.create, BasePool.places, same] using before.places_le connection
  · intro connection new
    have other : connection ≠ pool.created := Nat.ne_of_gt new
    simpa [BasePool.create, other] using before.fresh connection (Nat.le_of_succ_le new)
  · have new : pool.created ∉ pool.allConnections :=
      fun member => Nat.lt_irrefl _ (before.created _ member)
    simpa [BasePool.create, List.nodup_append, before.nodup] using
      fun connection member => ne_of_mem_of_not_mem member new
  · intro connection member
    rcases List.mem_append.mp member with old | new
    · exact Nat.lt_succ_of_lt (before.created connection old)
    · rw [List.mem_singleton.mp new]
      exact Nat.lt_succ_self _

/-- The last free connection goes from the list into a callback put off. -/
theorem places_pop {pool : BasePool κ} {callback : Callback κ} {connection : Nat}
    (last : pool.freeConnections.getLast? = some connection) (other : Nat) :
    (({ pool with freeConnections := pool.freeConnections.dropLast }).nextTick
      (.deliver callback connection)).places other = pool.places other := by
  have split := List.dropLast_append_getLast? connection last
  have counted := congrArg (List.count other) split
  rw [List.count_append] at counted
  rw [places_nextTick]
  simp only [BasePool.places, Tick.carries]
  by_cases same : connection = other
  · simp [same] at counted ⊢
    omega
  · rw [beq_eq_false_iff_ne.mpr same]
    simp [same] at counted ⊢
    omega

theorem getConnection {pool : BasePool κ} (before : Placed pool) (config : PoolConfig)
    (now : Int) (callback : Callback κ) :
    Placed (BasePool.getConnection config now pool callback).1 := by
  unfold BasePool.getConnection
  split
  · exact before.nextTick fun _ => rfl
  · split
    · rename_i connection last
      apply before.mono
      · intro other
        exact Nat.le_of_eq (places_pop last other)
      · intro other
        rfl
      · intro other new
        exact (before.fresh other new).2
      · exact List.Sublist.refl _
      · rfl
    · split
      · exact before.create now callback
      · split
        · exact before.nextTick fun _ => rfl
        · split
          · exact before
          · exact ⟨before.places_le, before.fresh, before.nodup, before.created⟩

theorem giveBack {pool : BasePool κ} (before : Placed pool) (now : Int) (connection : Nat)
    (notReleased : (pool.connections connection).released = false)
    (present : (pool.connections connection).pool = true) :
    Placed (pool.giveBack now connection) ∧
      (pool.giveBack now connection).places connection = 0 := by
  have same := places_of_resets pool connection
    (fun fields => { fields with released := true, lastActiveTime := now }) rfl
  have nowhere := before.places_eq_zero notReleased
  refine ⟨?_, (same connection).trans nowhere⟩
  constructor
  · intro other
    by_cases eq : other = connection
    · subst eq
      rw [BasePool.giveBack, same, nowhere]
      exact Nat.zero_le _
    · rw [BasePool.giveBack, same]
      simpa [eq] using before.places_le other
  · intro other new
    have fresh := before.fresh other new
    by_cases eq : other = connection
    · rw [eq, present] at fresh
      exact absurd fresh.2.1 Bool.noConfusion
    · simpa [BasePool.giveBack, eq] using fresh
  · exact before.nodup
  · exact before.created

/-- A connection is given back once more than it has been handed out. -/
theorem resets {pool : BasePool κ} (before : Placed pool) {connection : Nat}
    (nowhere : pool.places connection = 0)
    (released : (pool.connections connection).released = true) :
    Placed (pool.modify connection fun fields =>
      { fields with resets := fields.resets + 1 }) := by
  constructor
  · intro other
    by_cases same : other = connection
    · subst same
      simp only [BasePool.places] at nowhere
      simp only [BasePool.places, modify_freeConnections, modify_ticks, modify_connections,
        if_pos, released, Bool.toNat_true]
      omega
    · simpa [BasePool.places, same] using before.places_le other
  · intro other new
    have fresh := before.fresh other new
    by_cases same : other = connection
    · subst same
      simpa using fresh
    · simpa [same] using fresh
  · exact before.nodup
  · exact before.created

theorem release {pool : BasePool κ} (before : Placed pool) (config : PoolConfig) (now : Int)
    (connection : Nat) (notReleased : (pool.connections connection).released = false)
    (present : (pool.connections connection).pool = true) :
    Placed (releaseConnection config (pool.giveBack now connection) connection).1 := by
  have givenBack := before.giveBack now connection notReleased present
  have released : ((pool.giveBack now connection).connections connection).released = true := by
    simp [BasePool.giveBack]
  unfold releaseConnection
  split
  · exact givenBack.1.redispatch
  · split
    · split
      · exact givenBack.1.resetFailed connection
      · exact givenBack.1.resets givenBack.2 released
    · exact givenBack.1.handleSuccessfulRelease givenBack.2 released

/-- A reset is over. -/
theorem resetEnds {pool : BasePool κ} (before : Placed pool) {connection : Nat}
    (waiting : (pool.connections connection).resets ≠ 0) :
    Placed (pool.modify connection fun fields =>
        { fields with resets := fields.resets - 1 }) ∧
      (pool.modify connection fun fields =>
        { fields with resets := fields.resets - 1 }).places connection + 1 ≤
          (pool.connections connection).released.toNat := by
  have bound := before.places_le connection
  have fewer : (pool.modify connection fun fields =>
      { fields with resets := fields.resets - 1 }).places connection + 1 =
        pool.places connection := by
    simp only [BasePool.places, modify_freeConnections, modify_ticks, modify_connections,
      if_pos]
    omega
  refine ⟨?_, by omega⟩
  apply before.mono
  · intro other
    by_cases same : other = connection
    · subst same
      omega
    · exact Nat.le_of_eq (by simp [BasePool.places, same])
  · intro other
    by_cases same : other = connection <;> simp [same]
  · intro other new
    have fresh := (before.fresh other new).2
    by_cases same : other = connection
    · subst same
      simpa using fresh
    · simpa [same] using fresh
  · exact List.Sublist.refl _
  · rfl

/-- A connection that was nowhere is in a callback put off. -/
theorem nextTick_resetDone {pool : BasePool κ} (before : Placed pool) {connection : Nat}
    (room : pool.places connection + 1 ≤ (pool.connections connection).released.toNat) :
    Placed (pool.nextTick (.resetDone connection)) := by
  constructor
  · intro other
    rw [places_nextTick]
    by_cases same : connection = other
    · subst same
      simpa [Tick.carries, BasePool.nextTick] using room
    · simpa [Tick.carries, beq_eq_false_iff_ne.mpr same, BasePool.nextTick] using
        before.places_le other
  · exact before.fresh
  · exact before.nodup
  · exact before.created

/-- The oldest callback put off is taken off the list. -/
theorem takeTick {pool : BasePool κ} (before : Placed pool) {tick : Tick κ}
    {ticks : List (Tick κ)} (next : pool.ticks = tick :: ticks) :
    Placed { pool with ticks := ticks } ∧
      ∀ connection, ({ pool with ticks := ticks } : BasePool κ).places connection +
        (tick.carries connection).toNat = pool.places connection := by
  have fewer : ∀ connection, ({ pool with ticks := ticks } : BasePool κ).places connection +
      (tick.carries connection).toNat = pool.places connection := by
    intro connection
    simp only [BasePool.places, next, List.countP_cons]
    cases tick.carries connection
    · simp
    · simp
      omega
  refine ⟨?_, fewer⟩
  apply before.mono
  · intro connection
    have count := fewer connection
    omega
  · intro connection
    rfl
  · intro connection new
    exact (before.fresh connection new).2
  · exact List.Sublist.refl _
  · rfl

theorem tick {pool : BasePool κ} (before : Placed pool) (config : PoolConfig) (now : Int) :
    Placed (tick config now pool).1 := by
  unfold BasePool.tick
  split
  · exact before
  · rename_i callback connection ticks next
    rcases before.takeTick next with ⟨taken, fewer⟩
    have bound := before.places_le connection
    have nowhere : ({ pool with ticks := ticks } : BasePool κ).places connection = 0 := by
      have count := fewer connection
      have atMost := Bool.toNat_le (pool.connections connection).released
      simp [Tick.carries] at count
      omega
    have same := places_of_resets ({ pool with ticks := ticks } : BasePool κ) connection
      (fun fields => { fields with released := false }) rfl
    constructor
    · intro other
      by_cases eq : other = connection
      · subst eq
        rw [same, nowhere]
        exact Nat.zero_le _
      · rw [same]
        simpa [eq] using taken.places_le other
    · intro other new
      have fresh := taken.fresh other new
      by_cases eq : other = connection
      · subst eq
        simpa using fresh.2
      · simpa [eq] using fresh
    · exact taken.nodup
    · exact taken.created
  · rename_i next
    exact (before.takeTick next).1
  · rename_i next
    exact (before.takeTick next).1.getConnection config now _
  · rename_i connection ticks next
    rcases before.takeTick next with ⟨taken, fewer⟩
    have bound := before.places_le connection
    have count := fewer connection
    have atMost := Bool.toNat_le (pool.connections connection).released
    simp [Tick.carries] at count
    apply taken.handleSuccessfulRelease
    · omega
    · exact before.released (by omega)

theorem endPool {pool : BasePool κ} (before : Placed pool) : Placed pool.endPool := by
  have rejects : ∀ connection,
      (pool.connectionQueue.map fun callback => Tick.reject callback .closed).countP
        (Tick.carries connection) = 0 := by
    intro connection
    rw [List.countP_eq_zero]
    intro tick member
    rcases List.mem_map.mp member with ⟨callback, _, rfl⟩
    exact Bool.false_ne_true
  have resetsEq : ∀ connection,
      (pool.endPool.connections connection).resets = (pool.connections connection).resets := by
    intro connection
    simp only [BasePool.endPool]
    split <;> rfl
  apply before.mono
  · intro connection
    simp only [BasePool.places, resetsEq]
    simp [BasePool.endPool, List.countP_append, rejects]
  · intro connection
    simp only [BasePool.endPool]
    split <;> rfl
  · intro connection new
    simp only [BasePool.endPool]
    split
    · exact (before.fresh connection new).2
    · exact (before.fresh connection new).2
  · exact List.Sublist.refl _
  · rfl

end Placed

theorem placed_invariant (config : PoolConfig) :
    Invariant config (fun _ : BasePool κ => True) Placed where
  getConnection pool client now before := by
    have counted : Placed { pool with calls := pool.calls + 1 } :=
      ⟨before.places_le, before.fresh, before.nodup, before.created⟩
    exact counted.getConnection config now _
  remove _ connection before _ _ := (before.remove connection).redispatch
  release _ now connection before notReleased present _ :=
    before.release config now connection notReleased present
  closeState _ connection before :=
    before.modify connection _ (fun _ => rfl) (fun _ => rfl) (fun _ unset => unset)
      (fun _ none => none)
  stopListening _ connection before :=
    before.modify connection _ (fun _ => rfl) (fun _ => rfl) (fun _ unset => unset)
      (fun _ _ => rfl)
  resetReply pool connection before := by
    unfold resetReply
    split
    · exact before
    · rename_i waiting
      rcases before.resetEnds waiting with ⟨ended, room⟩
      apply ended.nextTick_resetDone
      simpa using room
  resetError pool connection before := by
    unfold resetError
    split
    · exact before
    · rename_i waiting
      exact (before.resetEnds waiting).1.resetFailed connection
  tick _ now before _ := before.tick config now
  endPool _ before := before.endPool
  hung _ before := ⟨before.places_le, before.fresh, before.nodup, before.created⟩

end BasePool

end Mysql2.Pool

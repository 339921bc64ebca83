import Mysql2.Pool.Usable

/-!
# The idle sweep

The loop of the idle sweep removes nothing itself: the connection that it ends or
destroys leaves the pool by its `_pool`.  As long as free connections are usable,
every iteration removes the first one, and the loop terminates.
-/

namespace Mysql2.Pool

open Mysql2.Packets
open Mysql2.Transition

namespace BasePool

variable {κ : Type}

/-! ## The loop, iteration by iteration -/

/-- The body of the loop: `end()` or `destroy()` of the first free connection. -/
def sweepIteration (config : PoolConfig) (now : Int) (pool : BasePool κ) : BasePool κ :=
  match pool.freeConnections with
  | [] => pool
  | connection :: _ =>
      if config.gracefulEnd then (endConnection config now pool connection).1
      else (destroy config pool connection).1

/-- The pool after a number of iterations. -/
def sweepAfter (config : PoolConfig) (clock : Nat → Int) (pool : BasePool κ) : Nat → BasePool κ
  | 0 => pool
  | count + 1 => sweepIteration config (clock count) (sweepAfter config clock pool count)

/-- Whatever `Date.now()` returns, the condition of the loop fails after some
iterations, each of which has removed the first free connection. -/
def Sweeps (config : PoolConfig) (pool : BasePool κ) : Prop :=
  ∀ clock, ∃ count ≤ pool.freeConnections.length,
    overIdle config (clock count) (sweepAfter config clock pool count) = false ∧
      ∀ earlier ≤ count,
        (sweepAfter config clock pool earlier).freeConnections = pool.freeConnections.drop earlier

/-! ## One iteration -/

/-- Both ways to end a connection take it off the pool. -/
theorem sweepIteration_cons (config : PoolConfig) (now : Int) {pool : BasePool κ}
    {connection : Nat} {rest : List Nat} (first : pool.freeConnections = connection :: rest) :
    sweepIteration config now pool =
      (removeFromPool config pool connection).1.closeState connection := by
  rw [sweepIteration, first]
  dsimp only
  by_cases graceful : config.gracefulEnd = true
  · rw [if_pos graceful, endConnection, if_pos graceful]
  · rw [if_neg graceful]
    rfl

/-- A connection that still has its `_pool` is removed. -/
theorem sweepIteration_removes (config : PoolConfig) (now : Int) {pool : BasePool κ}
    {connection : Nat} {rest : List Nat} (first : pool.freeConnections = connection :: rest)
    (present : (pool.connections connection).pool = true) (isOpen : pool.closed = false) :
    (sweepIteration config now pool).freeConnections = rest ∧
      (sweepIteration config now pool).closed = false := by
  have stays : ¬((pool.connections connection).pool = false ∨ pool.closed = true) := by
    simp [present, isOpen]
  rw [sweepIteration_cons config now first, removeFromPool_eq, if_neg stays]
  constructor
  · show ((pool.remove connection).redispatch).freeConnections = rest
    rw [redispatch_freeConnections]
    show pool.freeConnections.erase connection = rest
    rw [first, List.erase_cons_head]
  · show ((pool.remove connection).redispatch).closed = false
    rw [redispatch_closed]
    exact isOpen

/-- A connection that has lost its `_pool` stays. -/
theorem sweepIteration_stays (config : PoolConfig) (now : Int) {pool : BasePool κ}
    {connection : Nat} {rest : List Nat} (first : pool.freeConnections = connection :: rest)
    (absent : (pool.connections connection).pool = false) :
    (sweepIteration config now pool).freeConnections = pool.freeConnections ∧
      ((sweepIteration config now pool).connections connection).pool = false := by
  rw [sweepIteration_cons config now first, removeFromPool_eq, if_pos (.inl absent)]
  constructor
  · rfl
  · simp [closeState, absent]

/-- If it is first among too many free connections, the loop never ends. -/
theorem sweepAfter_endless (config : PoolConfig) (clock : Nat → Int) {pool : BasePool κ}
    {connection : Nat} {rest : List Nat} (first : pool.freeConnections = connection :: rest)
    (absent : (pool.connections connection).pool = false)
    (tooMany : config.maxIdle < pool.freeConnections.length) (count : Nat) :
    overIdle config (clock count) (sweepAfter config clock pool count) = true := by
  have kept : (sweepAfter config clock pool count).freeConnections = pool.freeConnections ∧
      ((sweepAfter config clock pool count).connections connection).pool = false := by
    induction count with
    | zero => exact ⟨rfl, absent⟩
    | succ count ih =>
        obtain ⟨same, stillAbsent⟩ := ih
        obtain ⟨stays, absentAfter⟩ :=
          sweepIteration_stays config (clock count) (same.trans first) stillAbsent
        exact ⟨stays.trans same, absentAfter⟩
  rw [overIdle, kept.1]
  simp [tooMany]

/-! ## Open pools whose free connections are usable -/

/-- What the iterations keep. -/
structure Sweepable (pool : BasePool κ) : Prop where
  placed : Placed pool
  sound : Sound pool
  isOpen : pool.closed = false

theorem Sweepable.iteration {pool : BasePool κ} (sweepable : Sweepable pool) (config : PoolConfig)
    (now : Int) :
    Sweepable (sweepIteration config now pool) ∧
      (sweepIteration config now pool).freeConnections = pool.freeConnections.tail := by
  cases first : pool.freeConnections with
  | nil =>
      have same : sweepIteration config now pool = pool := by rw [sweepIteration, first]
      rw [same]
      exact ⟨sweepable, first⟩
  | cons connection rest =>
      have present := sweepable.sound.free sweepable.isOpen connection (by simp [first])
      obtain ⟨removed, isOpen⟩ :=
        sweepIteration_removes config now first present sweepable.isOpen
      have after := (sound_invariant config).closeState _ connection
        ((sound_invariant config).removeFromPool connection ⟨sweepable.placed, sweepable.sound⟩)
      rw [← sweepIteration_cons config now first] at after
      exact ⟨⟨after.1, after.2, isOpen⟩, removed⟩

/-- By induction on the iterations. -/
theorem Sweepable.sweepAfter {pool : BasePool κ} (sweepable : Sweepable pool) (config : PoolConfig)
    (clock : Nat → Int) (count : Nat) :
    Sweepable (sweepAfter config clock pool count) ∧
      (BasePool.sweepAfter config clock pool count).freeConnections =
        pool.freeConnections.drop count := by
  induction count with
  | zero => exact ⟨sweepable, rfl⟩
  | succ count ih =>
      obtain ⟨before, dropped⟩ := ih
      obtain ⟨after, removed⟩ := before.iteration config (clock count)
      refine ⟨after, ?_⟩
      rw [BasePool.sweepAfter, removed, dropped, List.tail_drop]

theorem overIdle_nil (config : PoolConfig) (now : Int) {pool : BasePool κ}
    (none : pool.freeConnections = []) : overIdle config now pool = false := by
  simp [overIdle, none]

theorem Sweepable.sweeps {pool : BasePool κ} (sweepable : Sweepable pool) (config : PoolConfig) :
    Sweeps config pool := by
  intro clock
  obtain ⟨_, none⟩ := sweepable.sweepAfter config clock pool.freeConnections.length
  rw [List.drop_length] at none
  exact ⟨_, Nat.le_refl _, overIdle_nil config _ none,
    fun earlier _ => (sweepable.sweepAfter config clock earlier).2⟩

/-- The loop of a step then ends, and the pool does not hang. -/
theorem Sweepable.sweepLoop_hung {pool : BasePool κ} (sweepable : Sweepable pool)
    (config : PoolConfig) (clock : Nat → Int) (left : Nat) :
    (sweepLoop config clock left pool).1.hung = pool.hung := by
  induction left generalizing pool with
  | zero => rfl
  | succ left ih =>
      rw [sweepLoop]
      cases first : pool.freeConnections with
      | nil => rfl
      | cons connection rest =>
          dsimp only
          by_cases overdue : overIdle config (clock left) pool = true
          · have present := sweepable.sound.free sweepable.isOpen connection (by simp [first])
            have hungEq : (sweepIteration config 0 pool).hung = pool.hung := by
              rw [sweepIteration_cons config 0 first, removeFromPool_eq]
              show (if _ then pool else (pool.remove connection).redispatch).hung = pool.hung
              split
              · rfl
              · unfold redispatch
                split <;> rfl
            rw [if_pos overdue, if_pos present, ← sweepIteration_cons config 0 first,
              ih (sweepable.iteration config 0).1, hungEq]
          · rw [if_neg overdue]

/-! ## Runs -/

/-- In every run in which no connection leaves the pool between a reset and its
callback, the idle sweep terminates in the state reached. -/
theorem run_sweeps (config : PoolConfig) (events : List (Event κ))
    (kept : Meets (step config) ResetKept init events) :
    (run (step config) init events).1.closed = false →
      Sweeps config (run (step config) init events).1 ∧
        ∀ clock left, (sweepLoop config clock left (run (step config) init events).1).1.hung =
          (run (step config) init events).1.hung := by
  intro isOpen
  have holds := kept.preserves (fun pool => Placed pool ∧ Sound pool)
    (by
      intro pool event before kept
      apply (sound_invariant config).step event before
      intro now isTick other
      rw [isTick] at kept
      exact kept)
    ⟨Placed.init, Sound.init⟩
  have sweepable : Sweepable (run (step config) init events).1 := ⟨holds.1, holds.2, isOpen⟩
  exact ⟨sweepable.sweeps config, sweepable.sweepLoop_hung config⟩

/-- No connection may stay idle. -/
def noIdle : PoolConfig :=
  { resetting with maxIdle := 0 }

/-- A connection is reset, and swept. -/
theorem run_sweeps_reset :
    Sweeps noIdle
      (run (step noIdle) (init : BasePool Unit)
        [.getConnection () 0, .connected 0, .release () 0 1, .resetReply 0, .tick 2]).1 :=
  (run_sweeps noIdle _ (by decide) rfl).1

/-- The connection that was destroyed while it was being reset is a free connection
without `_pool`, which the sweep destroys again and again. -/
theorem destroyedReset_not_sweeps :
    ¬Sweeps noIdle
      (run (step noIdle) (init : BasePool Unit)
        [.getConnection () 0, .connected 0, .release () 0 1, .destroy () 0, .resetReply 0,
          .tick 2]).1 := by
  intro sweeps
  obtain ⟨count, _, ended, _⟩ := sweeps fun _ => 0
  have endless := sweepAfter_endless noIdle (fun _ => 0)
    (show (run (step noIdle) (init : BasePool Unit)
      [.getConnection () 0, .connected 0, .release () 0 1, .destroy () 0, .resetReply 0,
        .tick 2]).1.freeConnections = [0] from rfl) (by decide) (by decide) count
  exact absurd (endless.symm.trans ended) (by decide)

end BasePool

end Mysql2.Pool

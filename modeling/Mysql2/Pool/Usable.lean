import Mysql2.Pool.Capacity

/-!
# Usable connections

The free connections of an open pool, and the connections that queued callbacks
are given, belong to the pool: they are in `_allConnections` and have their `_pool`.
The one way to lose this is a reset that succeeds after its connection has left the
pool.
-/

namespace Mysql2.Pool

open Mysql2.Packets
open Mysql2.Transition

/-- Queued callbacks were given usable connections only. -/
def AssignsUsable {κ : Type} (outputs : List (Output κ)) : Prop :=
  ∀ callback connection usable,
    Output.assign callback connection usable ∈ outputs → usable = true

namespace BasePool

variable {κ : Type}

/-- The connection is in `_allConnections` and has not been removed. -/
def Usable (pool : BasePool κ) (connection : Nat) : Prop :=
  connection ∈ pool.allConnections ∧ (pool.connections connection).pool = true

instance (pool : BasePool κ) (connection : Nat) : Decidable (Usable pool connection) :=
  inferInstanceAs (Decidable (_ ∧ _))

/-- Free connections are usable, and those given to queued callbacks were. -/
structure AllUsable (pool : BasePool κ) (outputs : List (Output κ)) : Prop where
  free : pool.closed = false → ∀ connection ∈ pool.freeConnections, Usable pool connection
  assigned : AssignsUsable outputs

/-- When the callback of a successful reset is run, its connection has not left the
pool meanwhile. -/
def ResetKept (pool : BasePool κ) : Event κ → Prop
  | .tick _ =>
      match pool.ticks with
      | .resetDone connection :: _ =>
          pool.closed = true ∨ (pool.connections connection).pool = true
      | _ => True
  | _ => True

/-- Whether the front of the queue is a successful reset of such a connection. -/
def decidableReset (pool : BasePool κ) (ticks : List (Tick κ)) :
    Decidable (match ticks with
      | .resetDone connection :: _ =>
          pool.closed = true ∨ (pool.connections connection).pool = true
      | _ => True) :=
  match ticks with
  | .resetDone connection :: _ =>
      inferInstanceAs (Decidable (pool.closed = true ∨ (pool.connections connection).pool = true))
  | [] | .deliver _ _ :: _ | .reject _ _ :: _ | .getConnection _ :: _ => .isTrue trivial

instance (pool : BasePool κ) (event : Event κ) : Decidable (ResetKept pool event) :=
  match event with
  | .tick _ => decidableReset pool pool.ticks
  | .getConnection _ _ | .release _ _ _ | .destroy _ _ | .endConnection _ _ _ | .connected _
  | .failed _ _ | .ended _ | .closeState _ | .resetReply _ | .resetError _ | .idleSweep _
  | .endPool => .isTrue trivial

/-! ## The invariant -/

/-- Connections with a `_pool` are in `_allConnections`, and free connections have
one. -/
structure Sound (pool : BasePool κ) : Prop where
  present : pool.closed = false → ∀ connection,
    (pool.connections connection).pool = true → connection ∈ pool.allConnections
  free : pool.closed = false → ∀ connection ∈ pool.freeConnections,
    (pool.connections connection).pool = true
  queue : pool.closed = true → pool.connectionQueue = []

namespace Sound

theorem init : Sound (init : BasePool κ) := by
  constructor
  · intro _ connection present
    exact absurd present Bool.noConfusion
  · intro _ connection free
    exact absurd free List.not_mem_nil
  · intro _
    rfl

theorem usable {pool : BasePool κ} (sound : Sound pool) (isOpen : pool.closed = false)
    {connection : Nat} (free : connection ∈ pool.freeConnections) : Usable pool connection :=
  ⟨sound.present isOpen connection (sound.free isOpen connection free),
    sound.free isOpen connection free⟩

/-- Changes of the callbacks put off, and fewer free connections and callbacks. -/
theorem mono {pool after : BasePool κ} (before : Sound pool)
    (all : after.allConnections = pool.allConnections)
    (present : ∀ connection,
      (after.connections connection).pool = (pool.connections connection).pool)
    (closed : after.closed = pool.closed)
    (free : ∀ connection ∈ after.freeConnections, connection ∈ pool.freeConnections)
    (queue : pool.connectionQueue = [] → after.connectionQueue = []) : Sound after := by
  constructor
  · intro isOpen connection set
    rw [all]
    rw [present] at set
    exact before.present (closed ▸ isOpen) connection set
  · intro isOpen connection member
    rw [present]
    exact before.free (closed ▸ isOpen) connection (free connection member)
  · intro isClosed
    exact queue (before.queue (closed ▸ isClosed))

/-- A connection that leaves the pool is not free. -/
theorem leave {pool after : BasePool κ} (before : Sound pool) (connection : Nat)
    (all : after.allConnections = pool.allConnections.erase connection)
    (unset : (after.connections connection).pool = false)
    (others : ∀ other, other ≠ connection →
      (after.connections other).pool = (pool.connections other).pool)
    (closed : after.closed = pool.closed)
    (free : ∀ other ∈ after.freeConnections, other ≠ connection ∧ other ∈ pool.freeConnections)
    (queue : after.connectionQueue = pool.connectionQueue) : Sound after := by
  constructor
  · intro isOpen other set
    have different : other ≠ connection := by
      intro same
      rw [same, unset] at set
      exact Bool.noConfusion set
    rw [others other different] at set
    rw [all, List.mem_erase_of_ne different]
    exact before.present (closed ▸ isOpen) other set
  · intro isOpen other member
    rcases free other member with ⟨different, earlier⟩
    rw [others other different]
    exact before.free (closed ▸ isOpen) other earlier
  · intro isClosed
    rw [queue]
    exact before.queue (closed ▸ isClosed)

theorem redispatch {pool : BasePool κ} (before : Sound pool) : Sound pool.redispatch := by
  apply before.mono
  · exact redispatch_allConnections pool
  · intro connection
    rw [redispatch_connections]
  · exact redispatch_closed pool
  · intro connection member
    rwa [redispatch_freeConnections] at member
  · intro empty
    unfold BasePool.redispatch
    rw [empty]
    exact empty

/-- A change of a connection's other fields. -/
theorem modify {pool : BasePool κ} (before : Sound pool) (connection : Nat)
    (change : PoolConnection κ → PoolConnection κ)
    (present : ∀ fields, (change fields).pool = fields.pool) :
    Sound (pool.modify connection change) := by
  apply before.mono
  · rfl
  · intro other
    by_cases same : other = connection <;> simp [same, present]
  · rfl
  · intro other member
    exact member
  · exact id

theorem remove {pool : BasePool κ} (placed : Placed pool) (before : Sound pool)
    (connection : Nat) : Sound (pool.remove connection) := by
  apply before.leave connection rfl
  · simp [BasePool.remove]
  · intro other different
    simp [BasePool.remove, different]
  · rfl
  · intro other member
    refine ⟨?_, List.mem_of_mem_erase member⟩
    intro same
    have bound := placed.places_le connection
    have atMost := Bool.toNat_le (pool.connections connection).released
    have counted := List.count_pos_iff.mpr member
    rw [same, BasePool.remove, List.count_erase_self] at counted
    simp only [BasePool.places] at bound
    omega
  · rfl

theorem resetFailed {pool : BasePool κ} (before : Sound pool) {connection : Nat}
    (notFree : connection ∉ pool.freeConnections) : Sound (pool.resetFailed connection) := by
  unfold BasePool.resetFailed
  apply redispatch
  apply before.leave connection rfl
  · simp
  · intro other different
    simp [different]
  · rfl
  · intro other member
    exact ⟨ne_of_mem_of_not_mem member notFree, member⟩
  · rfl

/-- A connection that still has its `_pool` is handed on. -/
theorem handleSuccessfulRelease {pool : BasePool κ} (before : Sound pool) {connection : Nat}
    (present : pool.closed = false → (pool.connections connection).pool = true) :
    Sound (handleSuccessfulRelease pool connection).1 := by
  unfold BasePool.handleSuccessfulRelease
  split
  · rename_i callback queue waiting
    apply before.mono
    · rfl
    · intro other
      rfl
    · rfl
    · intro other member
      exact member
    · intro empty
      exact absurd (waiting.symm.trans empty) (List.cons_ne_nil _ _)
  · refine ⟨before.present, ?_, before.queue⟩
    intro isOpen other member
    rcases List.mem_append.mp member with earlier | new
    · exact before.free isOpen other earlier
    · rw [List.mem_singleton.mp new]
      exact present isOpen

theorem getConnection {pool : BasePool κ} (before : Sound pool) (config : PoolConfig)
    (now : Int) (callback : Callback κ) :
    Sound (getConnection config now pool callback).1 := by
  unfold BasePool.getConnection
  split
  · exact before.mono rfl (fun _ => rfl) rfl (fun _ member => member) id
  · rename_i isOpen
    split
    · exact before.mono rfl (fun _ => rfl) rfl
        (fun _ member => (List.dropLast_sublist _).subset member) id
    · rename_i noFree
      have noFree := List.getLast?_eq_none_iff.mp noFree
      split
      · refine ⟨?_, ?_, before.queue⟩
        · intro isOpen connection set
          by_cases same : connection = pool.created
          · exact List.mem_append.mpr (Or.inr (List.mem_singleton.mpr same))
          · apply List.mem_append.mpr
            exact Or.inl (before.present isOpen connection (by simpa [create, same] using set))
        · intro isOpen connection member
          exact absurd (noFree ▸ member) List.not_mem_nil
      · split
        · exact before.mono rfl (fun _ => rfl) rfl (fun _ member => member) id
        · split
          · exact before
          · refine ⟨before.present, before.free, ?_⟩
            intro isClosed
            exact absurd isClosed isOpen

theorem release {pool : BasePool κ} (placed : Placed pool) (before : Sound pool)
    (config : PoolConfig) (now : Int) (connection : Nat)
    (notReleased : (pool.connections connection).released = false)
    (present : (pool.connections connection).pool = true) :
    Sound (releaseConnection config (pool.giveBack now connection) connection).1 := by
  have sound : Sound (pool.giveBack now connection) := before.modify connection _ fun _ => rfl
  have set : ((pool.giveBack now connection).connections connection).pool = true := by
    simpa [BasePool.giveBack] using present
  unfold releaseConnection
  rw [if_neg (by simp [set])]
  split
  · split
    · apply sound.resetFailed
      have nowhere := placed.places_eq_zero notReleased
      simp only [BasePool.places] at nowhere
      apply List.count_eq_zero.mp
      show pool.freeConnections.count connection = 0
      omega
    · dsimp only
      apply sound.modify
      intro fields
      rfl
  · exact sound.handleSuccessfulRelease fun _ => set

theorem resetError {pool : BasePool κ} (placed : Placed pool) (before : Sound pool)
    (connection : Nat) : Sound (pool.resetError connection) := by
  unfold BasePool.resetError
  split
  · exact before
  · have bound := placed.places_le connection
    have atMost := Bool.toNat_le (pool.connections connection).released
    have sound : Sound (pool.modify connection fun fields =>
        { fields with resets := fields.resets - 1 }) := before.modify connection _ fun _ => rfl
    apply sound.resetFailed
    simp only [BasePool.places] at bound
    apply List.count_eq_zero.mp
    show pool.freeConnections.count connection = 0
    omega

theorem takeTick {pool : BasePool κ} (before : Sound pool) (ticks : List (Tick κ)) :
    Sound { pool with ticks := ticks } :=
  before.mono rfl (fun _ => rfl) rfl (fun _ member => member) id

theorem tick {pool : BasePool κ} (before : Sound pool) (config : PoolConfig) (now : Int)
    (kept : ResetKept pool (.tick now)) : Sound (tick config now pool).1 := by
  unfold BasePool.tick
  unfold ResetKept at kept
  split
  · exact before
  · dsimp only
    apply (before.takeTick _).modify
    intro fields
    rfl
  · exact before.takeTick _
  · exact (before.takeTick _).getConnection config now _
  · rename_i next
    rw [next] at kept
    apply (before.takeTick _).handleSuccessfulRelease
    intro isOpen
    rcases kept with isClosed | present
    · exact absurd (isClosed.symm.trans isOpen) Bool.noConfusion
    · exact present

theorem endPool (pool : BasePool κ) : Sound pool.endPool := by
  constructor
  · intro isOpen
    exact Bool.noConfusion isOpen
  · intro isOpen
    exact Bool.noConfusion isOpen
  · intro _
    rfl

end Sound

theorem sound_invariant (config : PoolConfig) :
    Invariant config (fun pool : BasePool κ => ∀ now, ResetKept pool (.tick now))
      (fun pool => Placed pool ∧ Sound pool) where
  getConnection pool client now before := by
    have counted : Sound { pool with calls := pool.calls + 1 } :=
      ⟨before.2.present, before.2.free, before.2.queue⟩
    exact ⟨(placed_invariant config).getConnection pool client now before.1,
      counted.getConnection config now _⟩
  remove pool connection before isOpen present :=
    ⟨(placed_invariant config).remove pool connection before.1 isOpen present,
      (before.2.remove before.1 connection).redispatch⟩
  release pool now connection before notReleased present isOpen :=
    ⟨(placed_invariant config).release pool now connection before.1 notReleased present isOpen,
      before.2.release before.1 config now connection notReleased present⟩
  closeState pool connection before :=
    ⟨(placed_invariant config).closeState pool connection before.1,
      before.2.modify connection _ fun _ => rfl⟩
  stopListening pool connection before :=
    ⟨(placed_invariant config).stopListening pool connection before.1,
      before.2.modify connection _ fun _ => rfl⟩
  resetReply pool connection before := by
    refine ⟨(placed_invariant config).resetReply pool connection before.1, ?_⟩
    unfold resetReply
    split
    · exact before.2
    · exact (before.2.modify connection (fun fields => { fields with resets := fields.resets - 1 })
        fun _ => rfl).mono rfl (fun _ => rfl) rfl (fun _ member => member) id
  resetError pool connection before :=
    ⟨(placed_invariant config).resetError pool connection before.1,
      before.2.resetError before.1 connection⟩
  tick pool now before kept :=
    ⟨(placed_invariant config).tick pool now before.1 trivial,
      before.2.tick config now (kept now)⟩
  endPool pool before := ⟨before.1.endPool, .endPool pool⟩
  hung pool before :=
    ⟨(placed_invariant config).hung pool before.1,
      before.2.present, before.2.free, before.2.queue⟩

/-! ## What queued callbacks are given -/

theorem assignsUsable_nil : AssignsUsable ([] : List (Output κ)) :=
  fun _ _ _ member => absurd member List.not_mem_nil

theorem assignsUsable_append {first second : List (Output κ)}
    (early : AssignsUsable first) (late : AssignsUsable second) :
    AssignsUsable (first ++ second) := by
  intro callback connection usable member
  rcases List.mem_append.mp member with member | member
  · exact early callback connection usable member
  · exact late callback connection usable member

theorem assignsUsable_getConnection (config : PoolConfig) (now : Int) (pool : BasePool κ)
    (callback : Callback κ) :
    AssignsUsable (getConnection config now pool callback).2 := by
  unfold getConnection
  split
  · exact assignsUsable_nil
  · split
    · simp [AssignsUsable]
    · split
      · exact assignsUsable_nil
      · split
        · exact assignsUsable_nil
        · split
          · simp [AssignsUsable]
          · simp [AssignsUsable]

/-- Callbacks wait in open pools only, so the connection is usable. -/
theorem assignsUsable_handleSuccessfulRelease {pool : BasePool κ} (sound : Sound pool)
    {connection : Nat}
    (present : pool.closed = false → (pool.connections connection).pool = true) :
    AssignsUsable (handleSuccessfulRelease pool connection).2 := by
  unfold handleSuccessfulRelease
  split
  · rename_i callback queue waiting
    have isOpen : pool.closed = false := by
      by_contra isClosed
      have empty := sound.queue (by simpa using isClosed)
      exact absurd (waiting.symm.trans empty) (List.cons_ne_nil _ _)
    have set := present isOpen
    have member := sound.present isOpen connection set
    simp [AssignsUsable, member, set]
  · simp [AssignsUsable]

theorem assignsUsable_release {pool : BasePool κ} (sound : Sound pool) (config : PoolConfig)
    (now : Int) (connection : Nat) :
    AssignsUsable (release config now pool connection).2 := by
  rcases release_cases config now pool connection with
    unchanged | ⟨notReleased, present, isOpen, same⟩
  · rw [unchanged]
    exact assignsUsable_nil
  · rw [same]
    unfold releaseConnection
    split
    · exact assignsUsable_nil
    · split
      · split
        · exact assignsUsable_nil
        · exact assignsUsable_nil
      · have givenBack : Sound (pool.giveBack now connection) :=
          sound.modify connection _ fun _ => rfl
        apply assignsUsable_handleSuccessfulRelease givenBack
        intro _
        simpa [giveBack] using present

theorem assignsUsable_failed (config : PoolConfig) (pool : BasePool κ) (connection : Nat)
    (err : JsError) : AssignsUsable (failed config pool connection err).2 := by
  unfold failed
  rw [removeFromPool_eq]
  dsimp only
  split
  · exact assignsUsable_nil
  · simp [AssignsUsable]

/-- By induction on the iterations that are left: removing a connection puts nothing
out. -/
theorem assignsUsable_sweepLoop (config : PoolConfig) (clock : Nat → Int) (left : Nat)
    (pool : BasePool κ) : AssignsUsable (sweepLoop config clock left pool).2 := by
  induction left generalizing pool with
  | zero => exact assignsUsable_nil
  | succ left ih =>
      unfold sweepLoop
      split
      · exact assignsUsable_nil
      · split
        · split
          · apply assignsUsable_append
            · rw [removeFromPool_eq]
              exact assignsUsable_nil
            · exact ih _
          · exact assignsUsable_nil
        · exact assignsUsable_nil

theorem assignsUsable_step {config : PoolConfig} {pool : BasePool κ} (sound : Sound pool)
    {event : Event κ} (kept : ResetKept pool event) :
    AssignsUsable (step config pool event).2 := by
  show AssignsUsable (if pool.hung then (pool, []) else handle config pool event).2
  split
  · exact assignsUsable_nil
  · cases event with
    | getConnection client now => exact assignsUsable_getConnection config now _ _
    | release client connection now => exact assignsUsable_release sound config now connection
    | endConnection client connection now =>
        simp only [handle, endConnection]
        split
        · rw [removeFromPool_eq]
          exact assignsUsable_nil
        · exact assignsUsable_release sound config now connection
    | connected connection =>
        simp only [handle, connected]
        split
        · exact assignsUsable_nil
        · split <;> simp [AssignsUsable]
    | failed connection err => exact assignsUsable_failed config pool connection err
    | tick now =>
        simp only [handle, tick]
        unfold ResetKept at kept
        split
        · exact assignsUsable_nil
        · simp [AssignsUsable]
        · simp [AssignsUsable]
        · exact assignsUsable_getConnection config now _ _
        · rename_i next
          rw [next] at kept
          apply assignsUsable_handleSuccessfulRelease (sound.takeTick _)
          intro isOpen
          rcases kept with isClosed | present
          · exact absurd (isClosed.symm.trans isOpen) Bool.noConfusion
          · exact present
    | idleSweep clock =>
        simp only [handle, idleSweep]
        split
        · exact assignsUsable_sweepLoop config clock _ pool
        · exact assignsUsable_nil
    | destroy client connection =>
        simp only [handle, destroy, removeFromPool_eq]
        exact assignsUsable_nil
    | ended connection =>
        simp only [handle, removeFromPool_eq]
        exact assignsUsable_nil
    | closeState connection => exact assignsUsable_nil
    | resetReply connection => exact assignsUsable_nil
    | resetError connection => exact assignsUsable_nil
    | endPool => exact assignsUsable_nil

/-- In every run in which no connection leaves the pool between a reset and its
callback, free and assigned connections are usable. -/
theorem run_allUsable (config : PoolConfig) (events : List (Event κ))
    (kept : Meets (step config) ResetKept init events) :
    AllUsable (run (step config) init events).1 (run (step config) init events).2 := by
  have holds := kept.invariant
    (fun (outputs : List (Output κ)) pool => (Placed pool ∧ Sound pool) ∧ AssignsUsable outputs)
    (by
      intro outputs pool event before kept
      refine ⟨(sound_invariant config).step event before.1 ?_,
        assignsUsable_append before.2 (assignsUsable_step before.1.2 kept)⟩
      intro now isTick other
      rw [isTick] at kept
      exact kept)
    (⟨⟨Placed.init, Sound.init⟩, assignsUsable_nil⟩)
  rcases holds with ⟨⟨_, sound⟩, assigned⟩
  exact ⟨fun isOpen connection free => sound.usable isOpen free, assigned⟩

/-- Connections are reset on release. -/
def resetting : PoolConfig :=
  { onlyOne with resetOnRelease := true }

/-- A connection is reset, and given to the callback that waits for it. -/
theorem run_allUsable_reset :
    AllUsable
      (run (step resetting) (init : BasePool Unit)
        [.getConnection () 0, .connected 0, .getConnection () 1, .release () 0 2,
          .resetReply 0, .tick 3]).1
      (run (step resetting) (init : BasePool Unit)
        [.getConnection () 0, .connected 0, .getConnection () 1, .release () 0 2,
          .resetReply 0, .tick 3]).2 :=
  run_allUsable resetting _ (by decide)

/-- A client releases a connection and destroys it while it is being reset: the
reset succeeds, and the connection becomes a free connection of the pool that it has
left. -/
theorem destroyedReset_not_allUsable :
    ¬ AllUsable
      (run (step resetting) (init : BasePool Unit)
        [.getConnection () 0, .connected 0, .release () 0 1, .destroy () 0, .resetReply 0,
          .tick 2]).1
      (run (step resetting) (init : BasePool Unit)
        [.getConnection () 0, .connected 0, .release () 0 1, .destroy () 0, .resetReply 0,
          .tick 2]).2 := by
  intro allUsable
  have usable := allUsable.free (by decide) 0 (by decide)
  exact absurd usable (by decide)

end BasePool

end Mysql2.Pool

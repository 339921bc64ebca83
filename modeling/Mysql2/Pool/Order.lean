import Mathlib.Data.List.Sort
import Mysql2.Pool.Capacity

/-!
# Order

Callbacks accepted into the queue are served in the order in which they were
accepted, and are not turned away later, as long as callbacks that a removal takes
off the queue keep their place on the way through `getConnection`: nothing younger
may get ahead of them there, and there must be room when they arrive.
-/

namespace Mysql2.Pool

open Mysql2.Packets
open Mysql2.Transition

variable {κ : Type}

/-- What became of the callbacks accepted into the queue: all of them, those given
a connection or the error of one created for them, and those turned away with
`Queue limit reached.`, each in order. -/
structure Service (κ : Type) where
  accepted : List (Callback κ)
  served : List (Callback κ)
  turnedAway : List (Callback κ)

namespace Service

/-- Nothing has been accepted. -/
def init : Service κ :=
  { accepted := []
    served := []
    turnedAway := [] }

variable [DecidableEq κ]

/-- What an output says about the accepted callbacks. -/
def receive (service : Service κ) : Output κ → Service κ
  | .enqueue callback =>
      if callback ∈ service.accepted then service
      else { service with accepted := service.accepted ++ [callback] }
  | .callback callback (.ok _) | .callback callback (.error (.connect _)) =>
      if callback ∈ service.accepted then
        { service with served := service.served ++ [callback] }
      else service
  | .callback callback (.error .queueLimit) =>
      if callback ∈ service.accepted then
        { service with turnedAway := service.turnedAway ++ [callback] }
      else service
  | _ => service

/-- What the outputs of a step say. -/
def observe (service : Service κ) (_ : Event κ) (outputs : List (Output κ)) : Service κ :=
  outputs.foldl receive service

end Service

/-- Accepted callbacks are served in the order in which they were accepted, and none
is turned away. -/
structure InOrder (service : Service κ) : Prop where
  order : service.served.Sublist service.accepted
  kept : service.turnedAway = []

/-- The callback that is handed a connection or sent through `getConnection`. -/
def Tick.callback? : Tick κ → Option (Callback κ)
  | .deliver callback _ => some callback
  | .getConnection callback => some callback
  | _ => none

/-- The callback that is handed a connection. -/
def Tick.delivered? : Tick κ → Option (Callback κ)
  | .deliver callback _ => some callback
  | _ => none

/-- The callback that is sent through `getConnection`. -/
def Tick.rerouted? : Tick κ → Option (Callback κ)
  | .getConnection callback => some callback
  | _ => none

namespace BasePool

/-! ## Keeping one's place -/

/-- The callbacks that have been assigned a connection. -/
def delivering (pool : BasePool κ) : List (Callback κ) :=
  pool.ticks.filterMap Tick.delivered?

/-- The callbacks taken off the queue, on their way to `getConnection`. -/
def rerouted (pool : BasePool κ) : List (Callback κ) :=
  pool.ticks.filterMap Tick.rerouted?

/-- The callbacks whose connection is being established. -/
def connectingCallbacks (pool : BasePool κ) : List (Callback κ) :=
  (List.range pool.created).filterMap fun connection =>
    (pool.connections connection).connecting

section Conditions

variable [DecidableEq κ]

/-- The accepted callbacks that a removal took off the queue and that have not been
served: they are on their way to `getConnection`, or wait for their new connection. -/
def onTheirWay (pool : BasePool κ) (service : Service κ) : List (Callback κ) :=
  pool.rerouted ++ pool.connectingCallbacks.filter (· ∈ service.accepted)

/-- No older callback is on its way. -/
def Precedes (pool : BasePool κ) (service : Service κ) (callback : Callback κ) : Prop :=
  ∀ other ∈ pool.onTheirWay service, other ≠ callback → callback.call < other.call

instance (pool : BasePool κ) (service : Service κ) (callback : Callback κ) :
    Decidable (Precedes pool service callback) :=
  inferInstanceAs (Decidable (∀ other ∈ pool.onTheirWay service, _))

/-- If a connection were handed to the head of the queue now, that would not get
ahead of an older callback on its way. -/
def HeadPrecedes (pool : BasePool κ) (service : Service κ) : Prop :=
  ∀ callback ∈ pool.connectionQueue.head?, Precedes pool service callback

instance (pool : BasePool κ) (service : Service κ) : Decidable (HeadPrecedes pool service) :=
  inferInstanceAs (Decidable (∀ callback ∈ pool.connectionQueue.head?, _))

/-- `release` hands the connection on at once. -/
def HandsOn (config : PoolConfig) (pool : BasePool κ) (connection : Nat) : Prop :=
  (pool.connections connection).released = false ∧
    (pool.connections connection).pool = true ∧ pool.closed = false ∧
    config.resetOnRelease = false

instance (config : PoolConfig) (pool : BasePool κ) (connection : Nat) :
    Decidable (HandsOn config pool connection) :=
  inferInstanceAs (Decidable (_ ∧ _))

/-- A callback on its way that arrives at `getConnection` finds a free connection,
and no older callback is on its way; or it finds room for a new connection; or the
queue has room for it, behind older callbacks only. -/
def FindsPlace (config : PoolConfig) (pool : BasePool κ) (service : Service κ)
    (callback : Callback κ) : Prop :=
  pool.closed = true ∨
    if pool.freeConnections ≠ [] then
      Precedes pool service callback
    else
      config.connectionLimit = 0 ∨ pool.allConnections.length < config.connectionLimit ∨
        (config.queueLimit = 0 ∨ pool.connectionQueue.length < config.queueLimit) ∧
          ∀ other ∈ pool.connectionQueue, other.call < callback.call

instance (config : PoolConfig) (pool : BasePool κ) (service : Service κ)
    (callback : Callback κ) : Decidable (FindsPlace config pool service callback) :=
  inferInstanceAs (Decidable (_ ∨ _))

/-- The new connection of a callback that was on its way is established, or fails,
when every other accepted callback that has not been served is younger. -/
def CompletesFirst (pool : BasePool κ) (service : Service κ) (connection : Nat) : Prop :=
  ∀ callback ∈ (pool.connections connection).connecting, callback ∈ service.accepted →
    Precedes pool service callback ∧
      ∀ other ∈ pool.delivering.filter (· ∈ service.accepted) ++ pool.connectionQueue,
        callback.call < other.call

instance (pool : BasePool κ) (service : Service κ) (connection : Nat) :
    Decidable (CompletesFirst pool service connection) :=
  inferInstanceAs (Decidable (∀ callback ∈ (pool.connections connection).connecting, _))

/-- Callbacks on their way keep their place when the oldest callback put off is
run. -/
def TickKeepsPlace (config : PoolConfig) (pool : BasePool κ) (service : Service κ) : Prop :=
  match pool.ticks with
  | .resetDone _ :: _ => HeadPrecedes pool service
  | .getConnection callback :: _ => FindsPlace config pool service callback
  | _ => True

instance (config : PoolConfig) (pool : BasePool κ) (service : Service κ) :
    Decidable (TickKeepsPlace config pool service) := by
  unfold TickKeepsPlace
  split <;> infer_instance

/-- Callbacks on their way through `getConnection` again keep their place in this
step. -/
def KeepsPlace (config : PoolConfig) (state : BasePool κ × Service κ) : Event κ → Prop
  | .release _ connection _ =>
      HandsOn config state.1 connection → HeadPrecedes state.1 state.2
  | .endConnection _ connection _ =>
      config.gracefulEnd = false → HandsOn config state.1 connection →
        HeadPrecedes state.1 state.2
  | .connected connection => CompletesFirst state.1 state.2 connection
  | .failed connection _ => CompletesFirst state.1 state.2 connection
  | .tick _ => TickKeepsPlace config state.1 state.2
  | _ => True

instance (config : PoolConfig) (state : BasePool κ × Service κ) (event : Event κ) :
    Decidable (KeepsPlace config state event) := by
  cases event <;> unfold KeepsPlace <;> infer_instance

end Conditions

/-! ## The invariant -/

/-- A callback that waits in the queue, or in a callback put off, or for a
connection. -/
def Involved (pool : BasePool κ) (callback : Callback κ) : Prop :=
  callback ∈ pool.connectionQueue ++ pool.ticks.filterMap Tick.callback? ∨
    ∃ connection, (pool.connections connection).connecting = some callback

/-- A callback on its way, or waiting for the connection created on the way. -/
def Rerouted (pool : BasePool κ) (service : Service κ) (callback : Callback κ) : Prop :=
  callback ∈ pool.rerouted ∨
    callback ∈ service.accepted ∧
      ∃ connection, (pool.connections connection).connecting = some callback

variable [DecidableEq κ]

/-- The accepted callbacks that have been served, those that have been assigned a
connection and the queue form one line, oldest first, and callbacks on their way are
younger than those assigned.  Every callback is in one place. -/
structure Orderly (pool : BasePool κ) (service : Service κ) : Prop where
  known : ∀ callback, Involved pool callback → callback.call < pool.calls
  accepted_known : ∀ callback ∈ service.accepted, callback.call < pool.calls
  accepted_sorted : service.accepted.Pairwise fun earlier later => earlier.call < later.call
  served_accepted : ∀ callback ∈ service.served, callback ∈ service.accepted
  queue_accepted : ∀ callback ∈ pool.connectionQueue, callback ∈ service.accepted
  rerouted_accepted : ∀ callback ∈ pool.rerouted, callback ∈ service.accepted
  unique : (pool.connectionQueue ++ pool.ticks.filterMap Tick.callback?).Nodup
  connecting_once : ∀ first second callback,
    (pool.connections first).connecting = some callback →
    (pool.connections second).connecting = some callback → first = second
  connecting_only : ∀ connection callback,
    (pool.connections connection).connecting = some callback →
    callback ∉ pool.connectionQueue ++ pool.ticks.filterMap Tick.callback?
  line : (service.served ++ pool.delivering.filter (· ∈ service.accepted) ++
    pool.connectionQueue).Pairwise fun earlier later => earlier.call < later.call
  ahead : ∀ early ∈ service.served ++ pool.delivering.filter (· ∈ service.accepted),
    ∀ late, Rerouted pool service late → early.call < late.call
  kept : service.turnedAway = []

namespace Orderly

theorem init : Orderly (init : BasePool κ) Service.init := by
  constructor <;> simp [BasePool.init, Service.init, Involved, Rerouted, rerouted, delivering,
    noConnection]

/-- What has been served is in the order in which it was accepted: both lists are
sorted. -/
theorem inOrder {pool : BasePool κ} {service : Service κ} (orderly : Orderly pool service) :
    InOrder service := by
  refine ⟨?_, orderly.kept⟩
  have antisymm : Std.Antisymm fun earlier later : Callback κ => earlier.call < later.call :=
    ⟨fun first second before after => absurd before (Nat.lt_asymm after)⟩
  have irrefl : Std.Irrefl fun earlier later : Callback κ => earlier.call < later.call :=
    ⟨fun callback => Nat.lt_irrefl callback.call⟩
  have sorted : service.served.Pairwise fun earlier later => earlier.call < later.call := by
    have line := orderly.line
    rw [List.append_assoc] at line
    exact (List.pairwise_append.mp line).1
  have subset : service.served ⊆ service.accepted :=
    fun callback member => orderly.served_accepted callback member
  exact List.sublist_of_subperm_of_pairwise (List.subperm_of_subset sorted.nodup subset) sorted
    orderly.accepted_sorted

/-- Callbacks disappear. -/
theorem shrink {pool after : BasePool κ} {service : Service κ}
    (before : Orderly pool service)
    (queue : after.connectionQueue.Sublist pool.connectionQueue)
    (ticks : (after.ticks.filterMap Tick.callback?).Sublist
      (pool.ticks.filterMap Tick.callback?))
    (delivering : after.delivering.Sublist pool.delivering)
    (rerouted : after.rerouted ⊆ pool.rerouted)
    (connecting : ∀ connection callback,
      (after.connections connection).connecting = some callback →
      (pool.connections connection).connecting = some callback)
    (calls : pool.calls ≤ after.calls) : Orderly after service := by
  have fewer := queue.append ticks
  constructor
  · rintro callback (waiting | ⟨connection, waiting⟩)
    · exact Nat.lt_of_lt_of_le (before.known callback (Or.inl (fewer.subset waiting))) calls
    · exact Nat.lt_of_lt_of_le
        (before.known callback (Or.inr ⟨connection, connecting _ _ waiting⟩)) calls
  · intro callback accepted
    exact Nat.lt_of_lt_of_le (before.accepted_known callback accepted) calls
  · exact before.accepted_sorted
  · exact before.served_accepted
  · intro callback waiting
    exact before.queue_accepted callback (queue.subset waiting)
  · intro callback waiting
    exact before.rerouted_accepted callback (rerouted waiting)
  · exact before.unique.sublist fewer
  · intro first second callback one two
    exact before.connecting_once first second callback (connecting _ _ one)
      (connecting _ _ two)
  · intro connection callback waiting member
    exact before.connecting_only connection callback (connecting _ _ waiting)
      (fewer.subset member)
  · exact before.line.sublist
      (((List.Sublist.refl _).append (delivering.filter _)).append queue)
  · intro early member late
    have member := ((List.Sublist.refl service.served).append
      (delivering.filter (· ∈ service.accepted))).subset member
    rintro (waiting | ⟨accepted, connection, waiting⟩)
    · exact before.ahead early member late (Or.inl (rerouted waiting))
    · exact before.ahead early member late
        (Or.inr ⟨accepted, connection, connecting _ _ waiting⟩)
  · exact before.kept

/-- Callbacks stay where they are. -/
theorem same {pool after : BasePool κ} {service : Service κ} (before : Orderly pool service)
    (queue : after.connectionQueue = pool.connectionQueue) (ticks : after.ticks = pool.ticks)
    (connecting : ∀ connection, (after.connections connection).connecting =
      (pool.connections connection).connecting)
    (calls : after.calls = pool.calls) : Orderly after service := by
  apply before.shrink
  · rw [queue]
  · rw [ticks]
  · rw [BasePool.delivering, ticks, BasePool.delivering]
  · rw [BasePool.rerouted, ticks, BasePool.rerouted]
    exact List.Subset.refl _
  · intro connection callback waiting
    rwa [connecting] at waiting
  · exact Nat.le_of_eq calls.symm

/-- A change of a connection's other fields. -/
theorem modify {pool : BasePool κ} {service : Service κ} (before : Orderly pool service)
    (connection : Nat) (change : PoolConnection κ → PoolConnection κ)
    (connecting : ∀ fields, (change fields).connecting = fields.connecting) :
    Orderly (pool.modify connection change) service := by
  apply before.same
  · rfl
  · rfl
  · intro other
    by_cases eq : other = connection <;> simp [eq, connecting]
  · rfl

/-- The oldest queued callback starts on its way. -/
theorem redispatch {pool : BasePool κ} {service : Service κ}
    (before : Orderly pool service) : Orderly pool.redispatch service := by
  unfold BasePool.redispatch
  split
  · rename_i callback queue waiting
    have moved : (queue ++ (pool.ticks.filterMap Tick.callback? ++ [callback])).Perm
        (pool.connectionQueue ++ pool.ticks.filterMap Tick.callback?) := by
      rw [waiting, ← List.append_assoc]
      exact List.perm_append_singleton callback (queue ++ _)
    have ticks : (pool.ticks ++ [Tick.getConnection callback]).filterMap Tick.callback? =
        pool.ticks.filterMap Tick.callback? ++ [callback] := by
      rw [List.filterMap_append]
      rfl
    have deliveries : (pool.ticks ++ [Tick.getConnection callback]).filterMap Tick.delivered? =
        pool.ticks.filterMap Tick.delivered? := by
      rw [List.filterMap_append]
      exact List.append_nil _
    have reroutes : (pool.ticks ++ [Tick.getConnection callback]).filterMap Tick.rerouted? =
        pool.ticks.filterMap Tick.rerouted? ++ [callback] := by
      rw [List.filterMap_append]
      rfl
    have inQueue : callback ∈ pool.connectionQueue := by
      rw [waiting]
      exact List.mem_cons_self
    constructor
    · rintro other (place | place)
      · apply before.known other
        refine Or.inl (moved.subset ?_)
        simpa only [nextTick, ticks] using place
      · exact before.known other (Or.inr place)
    · exact before.accepted_known
    · exact before.accepted_sorted
    · exact before.served_accepted
    · intro other member
      apply before.queue_accepted
      rw [waiting]
      exact List.mem_cons_of_mem _ member
    · intro other member
      simp only [BasePool.rerouted, nextTick, reroutes] at member
      rcases List.mem_append.mp member with earlier | new
      · exact before.rerouted_accepted other earlier
      · rw [List.mem_singleton.mp new]
        exact before.queue_accepted callback inQueue
    · simp only [nextTick, ticks]
      exact moved.nodup_iff.mpr before.unique
    · exact before.connecting_once
    · intro connection other waits
      simp only [nextTick, ticks]
      exact fun member => before.connecting_only connection other waits (moved.subset member)
    · have line := before.line
      rw [waiting] at line
      simp only [nextTick, BasePool.delivering, deliveries]
      exact List.Pairwise.sublist
        ((List.Sublist.refl _).append (List.sublist_cons_self callback queue)) line
    · intro early member late
      simp only [nextTick, BasePool.delivering, deliveries] at member
      rintro (place | place)
      · simp only [BasePool.rerouted, nextTick, reroutes] at place
        rcases List.mem_append.mp place with earlier | new
        · exact before.ahead early member late (Or.inl earlier)
        · rw [List.mem_singleton.mp new]
          exact (List.pairwise_append.mp before.line).2.2 early member callback inQueue
      · exact before.ahead early member late (Or.inr place)
    · exact before.kept
  · exact before

/-- A queued callback is in no other place. -/
theorem not_rerouted {pool : BasePool κ} {service : Service κ} (before : Orderly pool service)
    {callback : Callback κ} (inQueue : callback ∈ pool.connectionQueue) :
    ¬ Rerouted pool service callback := by
  rintro (place | ⟨_, connection, place⟩)
  · have inTicks : callback ∈ pool.ticks.filterMap Tick.callback? := by
      rcases List.mem_filterMap.mp place with ⟨tick, member, isRerouted⟩
      refine List.mem_filterMap.mpr ⟨tick, member, ?_⟩
      cases tick <;> simp_all [Tick.rerouted?, Tick.callback?]
    exact (List.nodup_append.mp before.unique).2.2 callback inQueue callback inTicks rfl
  · exact before.connecting_only connection callback place
      (List.mem_append.mpr (Or.inl inQueue))

omit [DecidableEq κ] in
theorem mem_connectingCallbacks {pool : BasePool κ} (placed : Placed pool) {connection : Nat}
    {callback : Callback κ}
    (waiting : (pool.connections connection).connecting = some callback) :
    callback ∈ pool.connectingCallbacks := by
  have exists_ : connection < pool.created := by
    by_contra new
    have none := (placed.fresh connection (Nat.not_lt.mp new)).2.2
    exact absurd (waiting.symm.trans none) (Option.some_ne_none callback)
  exact List.mem_filterMap.mpr ⟨connection, List.mem_range.mpr exists_, waiting⟩

theorem mem_onTheirWay {pool : BasePool κ} {service : Service κ} (placed : Placed pool)
    {callback : Callback κ} (rerouted : Rerouted pool service callback) :
    callback ∈ pool.onTheirWay service := by
  rcases rerouted with waiting | ⟨accepted, connection, waiting⟩
  · exact List.mem_append.mpr (Or.inl waiting)
  · apply List.mem_append.mpr
    refine Or.inr (List.mem_filter.mpr ⟨mem_connectingCallbacks placed waiting, ?_⟩)
    simpa using accepted

/-- The head of the queue is handed a connection, and no older callback is on its
way. -/
theorem handleSuccessfulRelease {pool : BasePool κ} {service : Service κ}
    (placed : Placed pool) (before : Orderly pool service) (connection : Nat)
    (precedes : HeadPrecedes pool service) :
    Orderly (handleSuccessfulRelease pool connection).1
      ((handleSuccessfulRelease pool connection).2.foldl Service.receive service) := by
  unfold BasePool.handleSuccessfulRelease
  split
  · rename_i callback queue waiting
    have moved : (queue ++ (pool.ticks.filterMap Tick.callback? ++ [callback])).Perm
        (pool.connectionQueue ++ pool.ticks.filterMap Tick.callback?) := by
      rw [waiting, ← List.append_assoc]
      exact List.perm_append_singleton callback (queue ++ _)
    have ticks : (pool.ticks ++ [Tick.deliver callback connection]).filterMap
        Tick.callback? = pool.ticks.filterMap Tick.callback? ++ [callback] := by
      rw [List.filterMap_append]
      rfl
    have deliveries : (pool.ticks ++ [Tick.deliver callback connection]).filterMap
        Tick.delivered? = pool.ticks.filterMap Tick.delivered? ++ [callback] := by
      rw [List.filterMap_append]
      rfl
    have reroutes : (pool.ticks ++ [Tick.deliver callback connection]).filterMap
        Tick.rerouted? = pool.ticks.filterMap Tick.rerouted? := by
      rw [List.filterMap_append]
      exact List.append_nil _
    have inQueue : callback ∈ pool.connectionQueue := by
      rw [waiting]
      exact List.mem_cons_self
    have accepted := before.queue_accepted callback inQueue
    have precedes : Precedes pool service callback := by
      apply precedes
      rw [waiting]
      rfl
    have line : service.served ++
        ((pool.ticks ++ [Tick.deliver callback connection]).filterMap Tick.delivered?).filter
          (· ∈ service.accepted) ++ queue =
        service.served ++ pool.delivering.filter (· ∈ service.accepted) ++
          pool.connectionQueue := by
      rw [deliveries, waiting, List.filter_append]
      simp [accepted, BasePool.delivering]
    constructor
    · rintro other (place | place)
      · apply before.known other
        refine Or.inl (moved.subset ?_)
        simpa only [nextTick, ticks] using place
      · exact before.known other (Or.inr place)
    · exact before.accepted_known
    · exact before.accepted_sorted
    · exact before.served_accepted
    · intro other member
      apply before.queue_accepted
      rw [waiting]
      exact List.mem_cons_of_mem _ member
    · intro other member
      simp only [BasePool.rerouted, nextTick, reroutes] at member
      exact before.rerouted_accepted other member
    · simp only [nextTick, ticks]
      exact moved.nodup_iff.mpr before.unique
    · exact before.connecting_once
    · intro connection other waits
      simp only [nextTick, ticks]
      exact fun member => before.connecting_only connection other waits (moved.subset member)
    · have kept := before.line
      rw [← line] at kept
      exact kept
    · intro early member late moves
      have rerouted : Rerouted pool service late := by
        rcases moves with place | place
        · simp only [BasePool.rerouted, nextTick, reroutes] at place
          exact Or.inl place
        · exact Or.inr place
      clear moves
      simp only [nextTick, BasePool.delivering, deliveries, List.filter_append,
        ← List.append_assoc] at member
      rcases List.mem_append.mp member with earlier | new
      · exact before.ahead early earlier late rerouted
      · have same : early = callback := List.mem_singleton.mp (List.mem_filter.mp new).1
        subst same
        apply precedes late (mem_onTheirWay placed rerouted)
        intro same
        subst same
        exact before.not_rerouted inQueue rerouted
    · exact before.kept
  · exact before.same rfl rfl (fun _ => rfl) rfl

/-- A callback that is in no place is assigned a free connection. -/
theorem deliver {pool : BasePool κ} {service : Service κ} (before : Orderly pool service)
    {callback : Callback κ} (connection : Nat) (nowhere : ¬ Involved pool callback)
    (known : callback.call < pool.calls)
    (last : callback ∈ service.accepted →
      ∀ early ∈ service.served ++ pool.delivering.filter (· ∈ service.accepted),
        early.call < callback.call)
    (first : callback ∈ service.accepted → ∀ late, late ∈ pool.connectionQueue ∨
      Rerouted pool service late → callback.call < late.call) :
    Orderly (pool.nextTick (.deliver callback connection)) service := by
  have ticks : (pool.ticks ++ [Tick.deliver callback connection]).filterMap
      Tick.callback? = pool.ticks.filterMap Tick.callback? ++ [callback] := by
    rw [List.filterMap_append]
    rfl
  have deliveries : (pool.ticks ++ [Tick.deliver callback connection]).filterMap
      Tick.delivered? = pool.ticks.filterMap Tick.delivered? ++ [callback] := by
    rw [List.filterMap_append]
    rfl
  have reroutes : (pool.ticks ++ [Tick.deliver callback connection]).filterMap
      Tick.rerouted? = pool.ticks.filterMap Tick.rerouted? := by
    rw [List.filterMap_append]
    exact List.append_nil _
  have rerouted : ∀ late, Rerouted (pool.nextTick (.deliver callback connection)) service late →
      Rerouted pool service late := by
    rintro late (place | place)
    · simp only [BasePool.rerouted, nextTick, reroutes] at place
      exact Or.inl place
    · exact Or.inr place
  constructor
  · rintro other (place | place)
    · simp only [nextTick, ticks, ← List.append_assoc] at place
      rcases List.mem_append.mp place with earlier | new
      · exact before.known other (Or.inl earlier)
      · rw [List.mem_singleton.mp new]
        exact known
    · exact before.known other (Or.inr place)
  · exact before.accepted_known
  · exact before.accepted_sorted
  · exact before.served_accepted
  · exact before.queue_accepted
  · intro other member
    simp only [BasePool.rerouted, nextTick, reroutes] at member
    exact before.rerouted_accepted other member
  · simp only [nextTick, ticks, ← List.append_assoc]
    refine List.nodup_append.mpr ⟨before.unique, List.nodup_singleton _, ?_⟩
    intro other member new isNew same
    rw [List.mem_singleton.mp isNew] at same
    exact nowhere (Or.inl (same ▸ member))
  · exact before.connecting_once
  · intro other callback' place
    simp only [nextTick, ticks, ← List.append_assoc]
    intro member
    rcases List.mem_append.mp member with earlier | new
    · exact before.connecting_only other callback' place earlier
    · exact nowhere (Or.inr ⟨other, List.mem_singleton.mp new ▸ place⟩)
  · simp only [nextTick, BasePool.delivering, deliveries, List.filter_append]
    by_cases accepted : callback ∈ service.accepted
    · have line := List.pairwise_append.mp before.line
      simp only [List.filter_cons, accepted, List.filter_nil, decide_true, if_true]
      rw [← List.append_assoc]
      refine List.pairwise_append.mpr ⟨List.pairwise_append.mpr
        ⟨line.1, List.pairwise_singleton _ _, ?_⟩, line.2.1, ?_⟩
      · intro early member late isLate
        rw [List.mem_singleton.mp isLate]
        exact last accepted early member
      · intro early member late waiting
        rcases List.mem_append.mp member with earlier | new
        · exact line.2.2 early earlier late waiting
        · rw [List.mem_singleton.mp new]
          exact first accepted late (Or.inl waiting)
    · simpa [accepted, BasePool.delivering] using before.line
  · intro early member late moves
    simp only [nextTick, BasePool.delivering, deliveries, List.filter_append,
      ← List.append_assoc] at member
    rcases List.mem_append.mp member with earlier | new
    · exact before.ahead early earlier late (rerouted late moves)
    · rcases List.mem_filter.mp new with ⟨isNew, accepted⟩
      rw [List.mem_singleton.mp isNew] at accepted ⊢
      exact first (by simpa using accepted) late (Or.inr (rerouted late moves))
  · exact before.kept

/-- A connection is created for a callback that is in no place. -/
theorem create {pool : BasePool κ} {service : Service κ} (placed : Placed pool)
    (before : Orderly pool service) {callback : Callback κ} (now : Int)
    (nowhere : ¬ Involved pool callback) (known : callback.call < pool.calls)
    (last : callback ∈ service.accepted →
      ∀ early ∈ service.served ++ pool.delivering.filter (· ∈ service.accepted),
        early.call < callback.call) :
    Orderly (pool.create now callback) service := by
  have connecting : ∀ connection other,
      ((pool.create now callback).connections connection).connecting = some other →
      connection = pool.created ∧ other = callback ∨
        (pool.connections connection).connecting = some other := by
    intro connection other place
    by_cases new : connection = pool.created
    · rw [new] at place
      simp only [BasePool.create, Function.update_self] at place
      exact Or.inl ⟨new, (Option.some.inj place).symm⟩
    · exact Or.inr (by simpa [BasePool.create, new] using place)
  have unused : (pool.connections pool.created).connecting = none :=
    (placed.fresh pool.created (Nat.le_refl _)).2.2
  constructor
  · rintro other (place | ⟨connection, place⟩)
    · exact before.known other (Or.inl place)
    · rcases connecting connection other place with ⟨_, same⟩ | earlier
      · rw [same]
        exact known
      · exact before.known other (Or.inr ⟨connection, earlier⟩)
  · exact before.accepted_known
  · exact before.accepted_sorted
  · exact before.served_accepted
  · exact before.queue_accepted
  · exact before.rerouted_accepted
  · exact before.unique
  · intro first second other one two
    rcases connecting first other one with ⟨newFirst, sameFirst⟩ | one
    · rcases connecting second other two with ⟨newSecond, _⟩ | two
      · rw [newFirst, newSecond]
      · exact absurd (Or.inr ⟨second, sameFirst ▸ two⟩) nowhere
    · rcases connecting second other two with ⟨_, sameSecond⟩ | two
      · exact absurd (Or.inr ⟨first, sameSecond ▸ one⟩) nowhere
      · exact before.connecting_once first second other one two
  · intro connection other place member
    rcases connecting connection other place with ⟨_, same⟩ | earlier
    · exact nowhere (Or.inl (same ▸ member))
    · exact before.connecting_only connection other earlier member
  · exact before.line
  · intro early member late
    rintro (place | ⟨accepted, connection, place⟩)
    · exact before.ahead early member late (Or.inl place)
    · rcases connecting connection late place with ⟨_, same⟩ | earlier
      · rw [same] at accepted ⊢
        exact last accepted early member
      · exact before.ahead early member late (Or.inr ⟨accepted, connection, earlier⟩)
  · exact before.kept

/-- An accepted callback that is in no place goes to the end of the queue. -/
theorem enqueue {pool : BasePool κ} {service : Service κ} (before : Orderly pool service)
    {callback : Callback κ} (nowhere : ¬ Involved pool callback)
    (accepted : callback ∈ service.accepted)
    (last : ∀ early ∈ service.served ++ pool.delivering.filter (· ∈ service.accepted) ++
      pool.connectionQueue, early.call < callback.call) :
    Orderly { pool with connectionQueue := pool.connectionQueue ++ [callback] } service := by
  have moved : (pool.connectionQueue ++ [callback] ++ pool.ticks.filterMap Tick.callback?).Perm
      (callback :: (pool.connectionQueue ++ pool.ticks.filterMap Tick.callback?)) := by
    rw [List.append_assoc]
    exact List.perm_middle
  have onlyNew : ∀ other, other ∈ pool.connectionQueue ++ [callback] ++
      pool.ticks.filterMap Tick.callback? → other = callback ∨
        other ∈ pool.connectionQueue ++ pool.ticks.filterMap Tick.callback? :=
    fun other member => List.mem_cons.mp (moved.subset member)
  constructor
  · rintro other (place | place)
    · rcases onlyNew other place with new | earlier
      · rw [new]
        exact before.accepted_known callback accepted
      · exact before.known other (Or.inl earlier)
    · exact before.known other (Or.inr place)
  · exact before.accepted_known
  · exact before.accepted_sorted
  · exact before.served_accepted
  · intro other member
    rcases List.mem_append.mp member with earlier | new
    · exact before.queue_accepted other earlier
    · rw [List.mem_singleton.mp new]
      exact accepted
  · exact before.rerouted_accepted
  · refine moved.nodup_iff.mpr (List.nodup_cons.mpr ⟨?_, before.unique⟩)
    exact fun member => nowhere (Or.inl member)
  · exact before.connecting_once
  · intro connection other place member
    rcases onlyNew other member with new | earlier
    · exact nowhere (Or.inr ⟨connection, new ▸ place⟩)
    · exact before.connecting_only connection other place earlier
  · rw [← List.append_assoc]
    refine List.pairwise_append.mpr ⟨before.line, List.pairwise_singleton _ _, ?_⟩
    intro early member late isLate
    rw [List.mem_singleton.mp isLate]
    exact last early member
  · exact before.ahead
  · exact before.kept

/-- A new callback is accepted. -/
theorem accept {pool : BasePool κ} {service : Service κ} (before : Orderly pool service)
    {callback : Callback κ} (nowhere : ¬ Involved pool callback)
    (known : callback.call < pool.calls)
    (newest : ∀ other ∈ service.accepted, other.call < callback.call) :
    Orderly pool { service with accepted := service.accepted ++ [callback] } := by
  have deliveries : pool.delivering.filter (· ∈ service.accepted ++ [callback]) =
      pool.delivering.filter (· ∈ service.accepted) := by
    apply List.filter_congr
    intro other member
    have different : other ≠ callback := by
      intro same
      apply nowhere
      rcases List.mem_filterMap.mp member with ⟨tick, inTicks, isDelivered⟩
      refine Or.inl (List.mem_append.mpr (Or.inr (List.mem_filterMap.mpr ⟨tick, inTicks, ?_⟩)))
      cases tick <;> simp_all [Tick.delivered?, Tick.callback?]
    simp [different]
  constructor
  · exact before.known
  · intro other member
    rcases List.mem_append.mp member with earlier | new
    · exact before.accepted_known other earlier
    · rw [List.mem_singleton.mp new]
      exact known
  · refine List.pairwise_append.mpr ⟨before.accepted_sorted, List.pairwise_singleton _ _, ?_⟩
    intro earlier member later isLater
    rw [List.mem_singleton.mp isLater]
    exact newest earlier member
  · intro other member
    exact List.mem_append.mpr (Or.inl (before.served_accepted other member))
  · intro other member
    exact List.mem_append.mpr (Or.inl (before.queue_accepted other member))
  · intro other member
    exact List.mem_append.mpr (Or.inl (before.rerouted_accepted other member))
  · exact before.unique
  · exact before.connecting_once
  · exact before.connecting_only
  · dsimp only
    rw [deliveries]
    exact before.line
  · intro early member late
    dsimp only at member
    rw [deliveries] at member
    rintro (place | ⟨accepted, connection, place⟩)
    · exact before.ahead early member late (Or.inl place)
    · rcases List.mem_append.mp accepted with earlier | new
      · exact before.ahead early member late (Or.inr ⟨earlier, connection, place⟩)
      · exact absurd (Or.inr ⟨connection, List.mem_singleton.mp new ▸ place⟩) nowhere
  · exact before.kept

/-- Something is put off that hands on no callback. -/
theorem nextTick {pool : BasePool κ} {service : Service κ} (before : Orderly pool service)
    {tick : Tick κ} (silent : tick.callback? = none) : Orderly (pool.nextTick tick) service := by
  have undelivered : tick.delivered? = none := by
    cases tick <;> simp_all [Tick.callback?, Tick.delivered?]
  have unrerouted : tick.rerouted? = none := by
    cases tick <;> simp_all [Tick.callback?, Tick.rerouted?]
  apply before.shrink
  · exact List.Sublist.refl _
  · simp [BasePool.nextTick, List.filterMap_append, silent]
  · simp [BasePool.delivering, BasePool.nextTick, List.filterMap_append, undelivered]
  · simp [BasePool.rerouted, BasePool.nextTick, List.filterMap_append, unrerouted]
  · exact fun _ _ place => place
  · exact Nat.le_refl _

/-- A new call of `getConnection`. -/
theorem getConnection_new {pool : BasePool κ} {service : Service κ} (placed : Placed pool)
    (before : Orderly pool service) (config : PoolConfig) (now : Int) (client : κ) :
    Orderly
      (getConnection config now { pool with calls := pool.calls + 1 } ⟨client, pool.calls⟩).1
      ((getConnection config now { pool with calls := pool.calls + 1 }
        ⟨client, pool.calls⟩).2.foldl Service.receive service) := by
  have counted : Orderly { pool with calls := pool.calls + 1 } service :=
    before.shrink (List.Sublist.refl _) (List.Sublist.refl _) (List.Sublist.refl _)
      (List.Subset.refl _) (fun _ _ place => place) (Nat.le_succ _)
  have nowhere : ¬ Involved { pool with calls := pool.calls + 1 } ⟨client, pool.calls⟩ :=
    fun involved => Nat.lt_irrefl _ (before.known _ involved)
  have unaccepted : (⟨client, pool.calls⟩ : Callback κ) ∉ service.accepted :=
    fun accepted => Nat.lt_irrefl _ (before.accepted_known _ accepted)
  have known : (⟨client, pool.calls⟩ : Callback κ).call < pool.calls + 1 := Nat.lt_succ_self _
  unfold BasePool.getConnection
  split
  · exact counted.nextTick rfl
  · split
    · rename_i connection _
      have popped : Orderly
          { pool with
            calls := pool.calls + 1, freeConnections := pool.freeConnections.dropLast }
          service := counted.same rfl rfl (fun _ => rfl) rfl
      exact popped.deliver connection nowhere known (fun accepted => absurd accepted unaccepted)
        (fun accepted => absurd accepted unaccepted)
    · split
      · have placed : Placed { pool with calls := pool.calls + 1 } :=
          ⟨placed.places_le, placed.fresh, placed.nodup, placed.created⟩
        exact counted.create placed now nowhere known
          fun accepted => absurd accepted unaccepted
      · split
        · exact counted.nextTick rfl
        · split
          · simpa [Service.receive, unaccepted] using counted
          · have accepted := counted.accept nowhere known before.accepted_known
            have queued := accepted.enqueue nowhere (by simp) ?_
            · simpa [Service.receive, unaccepted] using queued
            · intro early member
              rcases List.mem_append.mp member with member | waiting
              · rcases List.mem_append.mp member with served | delivering
                · exact before.accepted_known early (before.served_accepted early served)
                · rcases List.mem_filter.mp delivering with ⟨assigned, isAccepted⟩
                  rcases List.mem_append.mp (of_decide_eq_true isAccepted) with old | new
                  · exact before.accepted_known early old
                  · rcases List.mem_filterMap.mp assigned with ⟨tick, inTicks, isDelivered⟩
                    refine before.known early (Or.inl (List.mem_append.mpr
                      (Or.inr (List.mem_filterMap.mpr ⟨tick, inTicks, ?_⟩))))
                    cases tick <;> simp_all [Tick.delivered?, Tick.callback?]
              · exact before.accepted_known early (before.queue_accepted early waiting)

/-- The oldest callback put off is taken off the list. -/
theorem takeTick {pool : BasePool κ} {service : Service κ} (before : Orderly pool service)
    {tick : Tick κ} {ticks : List (Tick κ)} (next : pool.ticks = tick :: ticks) :
    Orderly { pool with ticks := ticks } service := by
  have fewer : ticks.Sublist pool.ticks := by
    rw [next]
    exact List.sublist_cons_self tick ticks
  exact before.shrink (List.Sublist.refl _) (fewer.filterMap _) (fewer.filterMap _)
    (fewer.filterMap _).subset (fun _ _ place => place) (Nat.le_refl _)

omit [DecidableEq κ] in
theorem involved_of_rerouted {pool : BasePool κ} {service : Service κ}
    {callback : Callback κ} (rerouted : Rerouted pool service callback) :
    Involved pool callback := by
  rcases rerouted with place | ⟨_, place⟩
  · rcases List.mem_filterMap.mp place with ⟨tick, inTicks, isRerouted⟩
    refine Or.inl (List.mem_append.mpr (Or.inr (List.mem_filterMap.mpr ⟨tick, inTicks, ?_⟩)))
    cases tick <;> simp_all [Tick.rerouted?, Tick.callback?]
  · exact Or.inr place

/-- A callback on its way arrives at `getConnection`. -/
theorem getConnection_rerouted {config : PoolConfig} {pool : BasePool κ}
    {service : Service κ} (placed : Placed pool) (backed : Backed config 0 pool)
    (before : Orderly pool service) (now : Int) {callback : Callback κ}
    {ticks : List (Tick κ)} (next : pool.ticks = .getConnection callback :: ticks)
    (finds : FindsPlace config pool service callback) :
    Orderly (getConnection config now { pool with ticks := ticks } callback).1
      ((getConnection config now { pool with ticks := ticks } callback).2.foldl
        Service.receive service) := by
  have taken := before.takeTick next
  have onItsWay : Rerouted pool service callback := by
    refine Or.inl (List.mem_filterMap.mpr ⟨.getConnection callback, ?_, rfl⟩)
    rw [next]
    exact List.mem_cons_self
  have accepted : callback ∈ service.accepted := by
    rcases onItsWay with place | ⟨accepted, _⟩
    · exact before.rerouted_accepted callback place
    · exact accepted
  have nowhere : ¬ Involved { pool with ticks := ticks } callback := by
    have inTicks : pool.ticks.filterMap Tick.callback? =
        callback :: ticks.filterMap Tick.callback? := by
      rw [next]
      rfl
    rintro (place | ⟨connection, place⟩)
    · have unique := before.unique
      rw [inTicks] at unique
      exact (List.nodup_cons.mp (List.perm_middle.nodup_iff.mp unique)).1 place
    · apply before.connecting_only connection callback place
      rw [inTicks]
      exact List.mem_append.mpr (Or.inr List.mem_cons_self)
  have known : callback.call < pool.calls := before.accepted_known callback accepted
  have deliveries : ({ pool with ticks := ticks } : BasePool κ).delivering = pool.delivering := by
    simp only [BasePool.delivering, next, List.filterMap_cons, Tick.delivered?]
  have last : callback ∈ service.accepted →
      ∀ early ∈ service.served ++ ({ pool with ticks := ticks } : BasePool κ).delivering.filter
        (· ∈ service.accepted), early.call < callback.call := by
    intro _ early member
    rw [deliveries] at member
    exact before.ahead early member callback onItsWay
  unfold BasePool.getConnection
  split
  · exact taken.nextTick rfl
  · rename_i isOpen
    have isOpen : pool.closed = false := by simpa using isOpen
    rcases finds with isClosed | finds
    · exact absurd (isClosed.symm.trans isOpen) Bool.noConfusion
    · split
      · rename_i connection isLast
        have free : pool.freeConnections ≠ [] := by
          intro none
          rw [none] at isLast
          exact absurd isLast (by simp)
        rw [if_pos free] at finds
        have popped : Orderly
            { pool with ticks := ticks, freeConnections := pool.freeConnections.dropLast }
            service := taken.same rfl rfl (fun _ => rfl) rfl
        apply popped.deliver connection nowhere known last
        rintro _ late (waiting | rerouted)
        · have none := backed.free isOpen (List.ne_nil_of_mem waiting)
          exact absurd none free
        · have earlier : Rerouted pool service late := by
            rcases rerouted with place | place
            · refine Or.inl ?_
              simp only [BasePool.rerouted, next, List.filterMap_cons, Tick.rerouted?]
              exact List.mem_cons_of_mem _ place
            · exact Or.inr place
          apply finds late (mem_onTheirWay placed earlier)
          intro same
          have involved : Involved { pool with ticks := ticks } late :=
            involved_of_rerouted rerouted
          exact nowhere (same ▸ involved)
      · rename_i noFree
        have noFree : pool.freeConnections = [] := List.getLast?_eq_none_iff.mp noFree
        rw [if_neg (by simp [noFree])] at finds
        split
        · exact taken.create (placed.takeTick next).1 now nowhere known last
        · rename_i full
          rcases finds with unlimited | room | ⟨short, older⟩
          · exact absurd (Or.inl unlimited) full
          · exact absurd (Or.inr room) full
          · split
            · exact taken.nextTick rfl
            · split
              · rename_i tooLong
                rcases short with unlimited | short
                · exact absurd unlimited tooLong.1
                · exact absurd tooLong.2 (Nat.not_le.mpr short)
              · have queued := taken.enqueue nowhere accepted (by
                  intro early member
                  rcases List.mem_append.mp member with member | waiting
                  · exact last accepted early member
                  · exact older early waiting)
                simpa [Service.receive, accepted] using queued

/-- The oldest accepted callback that has not been served is served. -/
theorem serve {pool : BasePool κ} {service : Service κ} (before : Orderly pool service)
    {callback : Callback κ} (accepted : callback ∈ service.accepted)
    (last : ∀ early ∈ service.served, early.call < callback.call)
    (first : ∀ late ∈ pool.delivering.filter (· ∈ service.accepted) ++ pool.connectionQueue,
      callback.call < late.call)
    (precedes : ∀ late, Rerouted pool service late → callback.call < late.call) :
    Orderly pool { service with served := service.served ++ [callback] } := by
  have line := before.line
  rw [List.append_assoc] at line
  have parts := List.pairwise_append.mp line
  constructor
  · exact before.known
  · exact before.accepted_known
  · exact before.accepted_sorted
  · intro other member
    rcases List.mem_append.mp member with earlier | new
    · exact before.served_accepted other earlier
    · rw [List.mem_singleton.mp new]
      exact accepted
  · exact before.queue_accepted
  · exact before.rerouted_accepted
  · exact before.unique
  · exact before.connecting_once
  · exact before.connecting_only
  · rw [List.append_assoc]
    refine List.pairwise_append.mpr ⟨List.pairwise_append.mpr
      ⟨parts.1, List.pairwise_singleton _ _, ?_⟩, parts.2.1, ?_⟩
    · intro early member late isLate
      rw [List.mem_singleton.mp isLate]
      exact last early member
    · intro early member late waiting
      rcases List.mem_append.mp member with earlier | new
      · exact parts.2.2 early earlier late waiting
      · rw [List.mem_singleton.mp new]
        exact first late waiting
  · intro early member late rerouted
    rcases List.mem_append.mp member with served | delivering
    · rcases List.mem_append.mp served with earlier | new
      · exact before.ahead early (List.mem_append.mpr (Or.inl earlier)) late rerouted
      · rw [List.mem_singleton.mp new]
        exact precedes late rerouted
    · exact before.ahead early (List.mem_append.mpr (Or.inr delivering)) late rerouted
  · exact before.kept

/-- The oldest callback put off is called with its connection. -/
theorem tick_deliver {pool : BasePool κ} {service : Service κ}
    (before : Orderly pool service) {callback : Callback κ} {connection : Nat}
    {ticks : List (Tick κ)} (next : pool.ticks = .deliver callback connection :: ticks) :
    Orderly { pool with ticks := ticks }
      (service.receive (.callback callback (.ok connection))) := by
  have taken := before.takeTick next
  by_cases accepted : callback ∈ service.accepted
  · have received : service.receive (.callback callback (.ok connection)) =
        { service with served := service.served ++ [callback] } := by
      simp [Service.receive, accepted]
    rw [received]
    have deliveries : pool.delivering.filter (· ∈ service.accepted) =
        callback :: ({ pool with ticks := ticks } : BasePool κ).delivering.filter
          (· ∈ service.accepted) := by
      simp [BasePool.delivering, next, Tick.delivered?, accepted]
    have line := before.line
    rw [deliveries, List.append_assoc] at line
    have parts := List.pairwise_append.mp line
    apply taken.serve accepted
    · intro early member
      exact parts.2.2 early member callback List.mem_cons_self
    · exact (List.pairwise_cons.mp parts.2.1).1
    · intro late rerouted
      apply before.ahead callback
      · rw [deliveries]
        exact List.mem_append.mpr (Or.inr List.mem_cons_self)
      · rcases rerouted with place | place
        · refine Or.inl ?_
          rcases List.mem_filterMap.mp place with ⟨tick, inTicks, isRerouted⟩
          refine List.mem_filterMap.mpr ⟨tick, ?_, isRerouted⟩
          rw [next]
          exact List.mem_cons_of_mem _ inTicks
        · exact Or.inr place
  · have received : service.receive (.callback callback (.ok connection)) = service := by
      simp [Service.receive, accepted]
    rw [received]
    exact taken

/-- The connection created for a callback is established or fails.  `listening` is
the pool that still has the callback, behind what else the event did. -/
theorem complete {pool listening : BasePool κ} {service : Service κ} (placed : Placed pool)
    (before : Orderly pool service) (orderly : Orderly listening service) {connection : Nat}
    {callback : Callback κ}
    (waiting : (pool.connections connection).connecting = some callback)
    (connecting : ∀ other, (listening.connections other).connecting =
      (pool.connections other).connecting)
    (same : ∀ late, late ∈ listening.connectionQueue ∨ late ∈ listening.rerouted →
      late ∈ pool.connectionQueue ∨ late ∈ pool.rerouted)
    (delivering : listening.delivering = pool.delivering)
    (completes : CompletesFirst pool service connection) (outcome : Output κ)
    (served : service.receive outcome = service ∨
      callback ∈ service.accepted ∧
        service.receive outcome = { service with served := service.served ++ [callback] }) :
    Orderly (listening.stopListening connection) (service.receive outcome) := by
  have stopped : Orderly (listening.stopListening connection) service := by
    apply orderly.shrink
    · exact List.Sublist.refl _
    · exact List.Sublist.refl _
    · exact List.Sublist.refl _
    · exact List.Subset.refl _
    · intro other callback' place
      by_cases eq : other = connection
      · simp [stopListening, eq] at place
      · simpa [stopListening, eq] using place
    · exact Nat.le_refl _
  rcases served with unchanged | ⟨accepted, serves⟩
  · rw [unchanged]
    exact stopped
  · rw [serves]
    rcases completes callback waiting accepted with ⟨precedes, first⟩
    have onItsWay : Rerouted pool service callback := Or.inr ⟨accepted, connection, waiting⟩
    have ofRerouted : ∀ late, late ∈ pool.rerouted → callback.call < late.call := by
      intro late member
      apply precedes late (mem_onTheirWay placed (Or.inl member))
      intro eq
      rw [eq] at member
      apply before.connecting_only connection callback waiting
      rcases List.mem_filterMap.mp member with ⟨tick, inTicks, isRerouted⟩
      refine List.mem_append.mpr (Or.inr (List.mem_filterMap.mpr ⟨tick, inTicks, ?_⟩))
      cases tick <;> simp_all [Tick.rerouted?, Tick.callback?]
    have ofQueue : ∀ late, late ∈ pool.connectionQueue → callback.call < late.call :=
      fun late member => first late (List.mem_append.mpr (Or.inr member))
    apply stopped.serve accepted
    · intro early member
      exact before.ahead early (List.mem_append.mpr (Or.inl member)) callback onItsWay
    · intro late member
      rcases List.mem_append.mp member with delivered | waits
      · apply first late (List.mem_append.mpr (Or.inl _))
        rw [← delivering]
        exact delivered
      · rcases same late (Or.inl waits) with queued | rerouted
        · exact ofQueue late queued
        · exact ofRerouted late rerouted
    · rintro late (place | ⟨lateAccepted, other, place⟩)
      · rcases same late (Or.inr place) with queued | rerouted
        · exact ofQueue late queued
        · exact ofRerouted late rerouted
      · have different : other ≠ connection := by
          intro eq
          simp [stopListening, eq] at place
        have place : (pool.connections other).connecting = some late := by
          rw [← connecting]
          simpa [stopListening, different] using place
        apply precedes late (mem_onTheirWay placed (Or.inr ⟨lateAccepted, other, place⟩))
        intro eq
        rw [eq] at place
        exact different (before.connecting_once other connection callback place waiting)

theorem connected {pool : BasePool κ} {service : Service κ} (placed : Placed pool)
    (before : Orderly pool service) (connection : Nat)
    (completes : CompletesFirst pool service connection) :
    Orderly (connected pool connection).1
      ((connected pool connection).2.foldl Service.receive service) := by
  unfold BasePool.connected
  split
  · exact before
  · rename_i callback waiting
    split
    · apply before.complete placed before waiting (fun _ => rfl) (fun _ place => place) rfl
        completes (.callback callback (.error .closed))
      exact Or.inl rfl
    · apply before.complete placed before waiting (fun _ => rfl) (fun _ place => place) rfl
        completes (.callback callback (.ok connection))
      by_cases accepted : callback ∈ service.accepted
      · exact Or.inr ⟨accepted, by simp [Service.receive, accepted]⟩
      · exact Or.inl (by simp [Service.receive, accepted])

/-- A removal wakes the oldest queued callback. -/
theorem removeFromPool {pool : BasePool κ} {service : Service κ}
    (before : Orderly pool service) (config : PoolConfig) (connection : Nat) :
    Orderly (removeFromPool config pool connection).1 service := by
  rw [removeFromPool_eq]
  split
  · exact before
  · apply redispatch
    apply before.same
    · rfl
    · rfl
    · intro other
      by_cases eq : other = connection <;> simp [BasePool.remove, eq]
    · rfl

omit [DecidableEq κ] in
/-- A removal leaves callbacks that are assigned a connection, or wait for one,
where they are, and the others in the queue or on their way. -/
theorem removeFromPool_places (config : PoolConfig) (pool : BasePool κ) (connection : Nat) :
    (∀ other, ((BasePool.removeFromPool config pool connection).1.connections
        other).connecting = (pool.connections other).connecting) ∧
      (∀ late, late ∈ (BasePool.removeFromPool config pool connection).1.connectionQueue ∨
          late ∈ (BasePool.removeFromPool config pool connection).1.rerouted →
        late ∈ pool.connectionQueue ∨ late ∈ pool.rerouted) ∧
      (BasePool.removeFromPool config pool connection).1.delivering = pool.delivering := by
  rw [removeFromPool_eq]
  split
  · exact ⟨fun _ => rfl, fun _ place => place, rfl⟩
  · refine ⟨?_, ?_, ?_⟩
    · intro other
      simp only [redispatch_connections]
      by_cases eq : other = connection <;> simp [BasePool.remove, eq]
    · intro late
      simp only
      unfold BasePool.redispatch
      split
      · rename_i callback queue waiting
        have waiting : pool.connectionQueue = callback :: queue := waiting
        rw [waiting]
        simp only [BasePool.nextTick, BasePool.rerouted, List.filterMap_append]
        rintro (place | place)
        · exact Or.inl (List.mem_cons_of_mem _ place)
        · rcases List.mem_append.mp place with earlier | new
          · exact Or.inr earlier
          · rw [List.mem_singleton.mp new]
            exact Or.inl List.mem_cons_self
      · exact fun place => place
    · simp only
      unfold BasePool.redispatch
      split
      · simp only [BasePool.nextTick, BasePool.delivering, List.filterMap_append]
        exact List.append_nil _
      · rfl

theorem failed {pool : BasePool κ} {service : Service κ} (placed : Placed pool)
    (before : Orderly pool service) (config : PoolConfig) (connection : Nat) (err : JsError)
    (completes : CompletesFirst pool service connection) :
    Orderly (failed config pool connection err).1
      ((failed config pool connection err).2.foldl Service.receive service) := by
  have removed := before.removeFromPool config connection
  rcases removeFromPool_places config pool connection with ⟨connecting, same, delivering⟩
  have silent : (BasePool.removeFromPool config pool connection).2 = [] := by
    rw [removeFromPool_eq]
  unfold BasePool.failed
  simp only [silent, List.nil_append]
  split
  · rw [silent]
    exact removed
  · rename_i callback waiting
    rw [connecting] at waiting
    apply before.complete placed removed waiting connecting same delivering completes
    split
    · exact Or.inl rfl
    · by_cases accepted : callback ∈ service.accepted
      · exact Or.inr ⟨accepted, by simp [Service.receive, accepted]⟩
      · exact Or.inl (by simp [Service.receive, accepted])

theorem resetFailed {pool : BasePool κ} {service : Service κ}
    (before : Orderly pool service) (connection : Nat) :
    Orderly (pool.resetFailed connection) service := by
  apply redispatch
  apply before.same
  · rfl
  · rfl
  · intro other
    by_cases eq : other = connection <;> simp [eq]
  · rfl

theorem release {pool : BasePool κ} {service : Service κ} (placed : Placed pool)
    (before : Orderly pool service) (config : PoolConfig) (now : Int) (connection : Nat)
    (precedes : HandsOn config pool connection → HeadPrecedes pool service) :
    Orderly (release config now pool connection).1
      ((release config now pool connection).2.foldl Service.receive service) := by
  rcases release_cases config now pool connection with
    unchanged | ⟨notReleased, present, isOpen, same⟩
  · rw [unchanged]
    exact before
  · rw [same]
    have givenBack : Orderly (pool.giveBack now connection) service :=
      before.modify connection _ fun _ => rfl
    unfold releaseConnection
    split
    · exact givenBack.redispatch
    · split
      · split
        · exact givenBack.resetFailed connection
        · dsimp only [List.foldl_nil]
          apply givenBack.modify
          intro fields
          rfl
      · rename_i noReset
        have precedes := precedes ⟨notReleased, present, isOpen, by simpa using noReset⟩
        apply givenBack.handleSuccessfulRelease
          (placed.giveBack now connection notReleased present).1
        intro callback head other onItsWay
        have connecting : (pool.giveBack now connection).connectingCallbacks =
            pool.connectingCallbacks := by
          apply List.filterMap_congr
          intro other _
          by_cases eq : other = connection <;> simp [BasePool.giveBack, eq]
        apply precedes callback head other
        unfold onTheirWay at onItsWay ⊢
        rw [connecting] at onItsWay
        exact onItsWay

/-- By induction on the iterations that are left. -/
theorem sweepLoop {pool : BasePool κ} {service : Service κ} (before : Orderly pool service)
    (config : PoolConfig) (clock : Nat → Int) (left : Nat) :
    Orderly (sweepLoop config clock left pool).1
      ((sweepLoop config clock left pool).2.foldl Service.receive service) := by
  induction left generalizing pool with
  | zero => exact before
  | succ left ih =>
      unfold BasePool.sweepLoop
      split
      · exact before
      · split
        · split
          · rename_i connection _ _ _ _
            have removed := before.removeFromPool config connection
            have silent : (BasePool.removeFromPool config pool connection).2 = [] := by
              rw [removeFromPool_eq]
            simp only [silent, List.nil_append]
            exact ih (removed.modify connection _ fun _ => rfl)
          · exact before.same rfl rfl (fun _ => rfl) rfl
        · exact before

theorem endPool {pool : BasePool κ} {service : Service κ} (before : Orderly pool service) :
    Orderly pool.endPool service := by
  have silent : ∀ {α : Type} (read : Tick κ → Option α),
      (∀ callback error, read (.reject callback error) = none) →
      pool.endPool.ticks.filterMap read = pool.ticks.filterMap read := by
    intro α read unread
    have nothing : (pool.connectionQueue.map fun callback =>
        Tick.reject callback .closed).filterMap read = [] := by
      apply List.filterMap_eq_nil_iff.mpr
      intro tick member
      rcases List.mem_map.mp member with ⟨callback, _, rfl⟩
      exact unread callback .closed
    simp only [BasePool.endPool, List.filterMap_append, nothing, List.append_nil]
  apply before.shrink
  · exact List.nil_sublist _
  · rw [silent Tick.callback? fun _ _ => rfl]
  · rw [BasePool.delivering, silent Tick.delivered? fun _ _ => rfl, BasePool.delivering]
  · rw [BasePool.rerouted, silent Tick.rerouted? fun _ _ => rfl, BasePool.rerouted]
    exact List.Subset.refl _
  · intro connection callback place
    simp only [BasePool.endPool] at place
    split at place
    · exact place
    · exact place
  · exact Nat.le_refl _

end Orderly

/-- Callbacks are turned away later only because the pool is closed or does not let
them wait. -/
def RejectsKnown (pool : BasePool κ) : Prop :=
  ∀ callback error, Tick.reject callback error ∈ pool.ticks →
    error = .closed ∨ error = .noConnections

omit [DecidableEq κ] in
/-- The steps put off no other refusal. -/
theorem rejectsKnown_getConnection {config : PoolConfig} {pool : BasePool κ} (now : Int)
    (callback : Callback κ) (before : RejectsKnown pool) :
    RejectsKnown (getConnection config now pool callback).1 := by
  unfold getConnection
  split
  · intro other error member
    rcases List.mem_append.mp member with earlier | new
    · exact before other error earlier
    · simp_all
  · split
    · intro other error member
      rcases List.mem_append.mp member with earlier | new
      · exact before other error earlier
      · simp_all
    · split
      · exact before
      · split
        · intro other error member
          rcases List.mem_append.mp member with earlier | new
          · exact before other error earlier
          · simp_all
        · split
          · exact before
          · exact before

omit [DecidableEq κ] in
/-- What is put off behind the callbacks so far refuses nothing. -/
theorem RejectsKnown.append {pool after : BasePool κ} (before : RejectsKnown pool)
    (more : List (Tick κ)) (ticks : after.ticks = pool.ticks ++ more)
    (accepting : ∀ callback error, Tick.reject callback error ∉ more) : RejectsKnown after := by
  intro callback error member
  rw [ticks] at member
  rcases List.mem_append.mp member with earlier | new
  · exact before callback error earlier
  · exact absurd new (accepting callback error)

omit [DecidableEq κ] in
theorem redispatch_ticks (pool : BasePool κ) :
    ∃ more, pool.redispatch.ticks = pool.ticks ++ more ∧
      ∀ callback error, Tick.reject callback error ∉ more := by
  unfold redispatch
  split
  · rename_i callback _ _
    exact ⟨[.getConnection callback], rfl, by simp⟩
  · exact ⟨[], (List.append_nil _).symm, by simp⟩

omit [DecidableEq κ] in
theorem handleSuccessfulRelease_ticks (pool : BasePool κ) (connection : Nat) :
    ∃ more, (handleSuccessfulRelease pool connection).1.ticks = pool.ticks ++ more ∧
      ∀ callback error, Tick.reject callback error ∉ more := by
  unfold handleSuccessfulRelease
  split
  · rename_i callback _ _
    exact ⟨[.deliver callback connection], rfl, by simp⟩
  · exact ⟨[], (List.append_nil _).symm, by simp⟩

omit [DecidableEq κ] in
theorem RejectsKnown.redispatch {pool : BasePool κ} (before : RejectsKnown pool) :
    RejectsKnown pool.redispatch := by
  rcases redispatch_ticks pool with ⟨more, ticks, accepting⟩
  exact before.append more ticks accepting

omit [DecidableEq κ] in
theorem RejectsKnown.handleSuccessfulRelease {pool : BasePool κ} (before : RejectsKnown pool)
    (connection : Nat) : RejectsKnown (handleSuccessfulRelease pool connection).1 := by
  rcases handleSuccessfulRelease_ticks pool connection with ⟨more, ticks, accepting⟩
  exact before.append more ticks accepting

omit [DecidableEq κ] in
theorem RejectsKnown.takeTick {pool : BasePool κ} (before : RejectsKnown pool)
    {tick : Tick κ} {ticks : List (Tick κ)} (next : pool.ticks = tick :: ticks) :
    RejectsKnown { pool with ticks := ticks } := by
  intro callback error member
  apply before callback error
  rw [next]
  exact List.mem_cons_of_mem _ member

omit [DecidableEq κ] in
theorem rejectsKnown_invariant (config : PoolConfig) :
    Invariant config (fun _ : BasePool κ => True) RejectsKnown where
  getConnection _ client now before := rejectsKnown_getConnection now _ before
  remove pool connection before _ _ := by
    have removed : RejectsKnown (pool.remove connection) := before
    exact removed.redispatch
  release pool now connection before _ _ _ := by
    have givenBack : RejectsKnown (pool.giveBack now connection) := before
    unfold releaseConnection
    split
    · exact givenBack.redispatch
    · split
      · split
        · exact RejectsKnown.redispatch before
        · exact before
      · exact givenBack.handleSuccessfulRelease connection
  closeState _ _ before := before
  stopListening _ _ before := before
  resetReply pool connection before := by
    unfold resetReply
    split
    · exact before
    · exact before.append [.resetDone connection] rfl (by simp)
  resetError pool connection before := by
    unfold resetError
    split
    · exact before
    · exact RejectsKnown.redispatch before
  tick pool now before _ := by
    unfold tick
    split
    · exact before
    · rename_i next
      exact before.takeTick next
    · rename_i next
      exact before.takeTick next
    · rename_i next
      exact rejectsKnown_getConnection now _ (before.takeTick next)
    · rename_i next
      exact (before.takeTick next).handleSuccessfulRelease _
  endPool pool before := by
    intro callback error member
    rcases List.mem_append.mp member with earlier | new
    · exact before callback error earlier
    · rcases List.mem_map.mp new with ⟨_, _, same⟩
      injection same with _ same
      exact Or.inl same.symm
  hung _ before := before

/-! ## Runs -/

theorem Orderly.tick {config : PoolConfig} {pool : BasePool κ} {service : Service κ}
    (placed : Placed pool) (backed : Backed config 0 pool) (rejects : RejectsKnown pool)
    (before : Orderly pool service) (now : Int)
    (keeps : TickKeepsPlace config pool service) :
    Orderly (tick config now pool).1
      ((tick config now pool).2.foldl Service.receive service) := by
  unfold BasePool.tick
  unfold TickKeepsPlace at keeps
  split
  · exact before
  · rename_i callback connection ticks next
    have delivered := before.tick_deliver next
    dsimp only [List.foldl_cons, List.foldl_nil]
    apply delivered.modify
    intro fields
    rfl
  · rename_i callback error ticks next
    have known : error = .closed ∨ error = .noConnections := by
      apply rejects callback error
      rw [next]
      exact List.mem_cons_self
    have silent : service.receive (.callback callback (.error error)) = service := by
      rcases known with closed | noConnections
      · rw [closed]
        rfl
      · rw [noConnections]
        rfl
    dsimp only [List.foldl_cons, List.foldl_nil]
    rw [silent]
    exact before.takeTick next
  · rename_i callback ticks next
    rw [next] at keeps
    exact before.getConnection_rerouted placed backed now next keeps
  · rename_i connection ticks next
    rw [next] at keeps
    apply (before.takeTick next).handleSuccessfulRelease (placed.takeTick next).1
    intro callback head other onItsWay
    apply keeps callback head other
    unfold onTheirWay BasePool.rerouted at onItsWay ⊢
    rw [next]
    exact onItsWay

/-- One step of the pool in which callbacks keep their place. -/
theorem Orderly.step {config : PoolConfig} {pool : BasePool κ} {service : Service κ}
    (placed : Placed pool) (backed : Backed config 0 pool) (rejects : RejectsKnown pool)
    (before : Orderly pool service) {event : Event κ}
    (keeps : KeepsPlace config (pool, service) event) :
    Orderly (BasePool.step config pool event).1
      (service.observe event (BasePool.step config pool event).2) := by
  unfold Service.observe
  show Orderly (if pool.hung then (pool, []) else handle config pool event).1
    ((if pool.hung then (pool, []) else handle config pool event).2.foldl Service.receive
      service)
  split
  · exact before
  · cases event with
    | getConnection client now => exact before.getConnection_new placed config now client
    | release client connection now => exact before.release placed config now connection keeps
    | destroy client connection =>
        simp only [handle, destroy, removeFromPool_eq, List.foldl_nil]
        have removed := before.removeFromPool config connection
        rw [removeFromPool_eq] at removed
        exact removed.modify connection _ fun _ => rfl
    | endConnection client connection now =>
        simp only [handle, endConnection]
        split
        · simp only [removeFromPool_eq, List.foldl_nil]
          have removed := before.removeFromPool config connection
          rw [removeFromPool_eq] at removed
          exact removed.modify connection _ fun _ => rfl
        · rename_i notGraceful
          exact before.release placed config now connection (keeps (by simpa using notGraceful))
    | connected connection => exact before.connected placed connection keeps
    | failed connection err => exact before.failed placed config connection err keeps
    | ended connection =>
        have removed := before.removeFromPool config connection
        simp only [handle]
        rw [removeFromPool_eq] at removed ⊢
        exact removed
    | closeState connection =>
        show Orderly (pool.closeState connection) service
        exact before.modify connection _ fun _ => rfl
    | resetReply connection =>
        simp only [handle, resetReply, List.foldl_nil]
        split
        · exact before
        · have ended := before.modify connection
            (fun fields => { fields with resets := fields.resets - 1 }) fun _ => rfl
          exact ended.nextTick rfl
    | resetError connection =>
        simp only [handle, resetError, List.foldl_nil]
        split
        · exact before
        · have ended := before.modify connection
            (fun fields => { fields with resets := fields.resets - 1 }) fun _ => rfl
          exact ended.resetFailed connection
    | tick now => exact before.tick placed backed rejects now keeps
    | idleSweep clock =>
        simp only [handle, idleSweep]
        split
        · exact before.sweepLoop config clock _
        · exact before
    | endPool => exact before.endPool

/-- A pool of two connections. -/
def two : PoolConfig :=
  { onlyOne with connectionLimit := 2 }

/-- A pool of one connection and of one queued callback. -/
def oneQueued : PoolConfig :=
  { onlyOne with queueLimit := 1 }

end BasePool

end Mysql2.Pool

import Mathlib.Data.List.Nodup
import Mysql2.Pool.Capacity

/-!
# Ownership

Clients give back, or destroy, only connections that were delivered to them and to
nobody else since; they may do so more than once.  Then no connection has two
owners: two clients, or a client and the list of free connections.
-/

namespace Mysql2.Pool

open Mysql2.Packets
open Mysql2.Transition

variable {κ : Type}

/-- What the clients have: the connections delivered to them that they have not
given back or destroyed, and the client each connection was last delivered to. -/
structure Clients (κ : Type) where
  held : List (κ × Nat)
  last : Nat → Option κ

namespace Clients

/-- No client has a connection. -/
def init : Clients κ :=
  { held := []
    last := fun _ => none }

/-- A client that gives a connection back, or destroys it, does not hold it. -/
def letGo [DecidableEq κ] (clients : Clients κ) : Event κ → Clients κ
  | .release client connection _
  | .destroy client connection
  | .endConnection client connection _ =>
      { clients with held := clients.held.filter (· ≠ (client, connection)) }
  | _ => clients

/-- A callback called with a connection delivers it. -/
def receive (clients : Clients κ) : Output κ → Clients κ
  | .callback callback (.ok connection) =>
      { held := (callback.client, connection) :: clients.held
        last := Function.update clients.last connection (some callback.client) }
  | _ => clients

/-- What the clients have behind an event and its outputs. -/
def observe [DecidableEq κ] (clients : Clients κ) (event : Event κ)
    (outputs : List (Output κ)) : Clients κ :=
  outputs.foldl receive (clients.letGo event)

end Clients

/-- The client of the event, if it has one, is the last the connection was
delivered to. -/
def Entitled (state : BasePool κ × Clients κ) : Event κ → Prop
  | .release client connection _
  | .destroy client connection
  | .endConnection client connection _ => state.2.last connection = some client
  | _ => True

instance [DecidableEq κ] (state : BasePool κ × Clients κ) (event : Event κ) :
    Decidable (Entitled state event) :=
  match event with
  | .release client connection _
  | .destroy client connection
  | .endConnection client connection _ =>
      inferInstanceAs (Decidable (state.2.last connection = some client))
  | .getConnection _ _ | .connected _ | .failed _ _ | .ended _ | .closeState _
  | .resetReply _ | .resetError _ | .tick _ | .idleSweep _ | .endPool => .isTrue trivial

/-- A connection about to be delivered: the call of its callback has been put off,
or `connect` waits for it. -/
def AboutToBeDelivered (pool : BasePool κ) (connection : Nat) : Prop :=
  (∃ callback, Tick.deliver callback connection ∈ pool.ticks) ∨
    (pool.connections connection).connecting ≠ none

/-- Every connection has one owner at most, and there are not too many. -/
structure Owned (config : PoolConfig) (state : BasePool κ × Clients κ) : Prop where
  limit : state.1.allConnections.length ≤ config.connectionLimit
  all_nodup : state.1.allConnections.Nodup
  free_nodup : state.1.freeConnections.Nodup
  free_unowned : ∀ connection ∈ state.1.freeConnections,
    (∀ client, (client, connection) ∉ state.2.held) ∧
      ¬ AboutToBeDelivered state.1 connection
  one_client : (state.2.held.map Prod.snd).Nodup

/-- The output delivers a connection. -/
def Output.delivers : Output κ → Bool
  | .callback _ (.ok _) => true
  | _ => false

theorem Clients.foldl_receive_quiet (clients : Clients κ) (outputs : List (Output κ))
    (quiet : ∀ output ∈ outputs, output.delivers = false) :
    outputs.foldl Clients.receive clients = clients := by
  induction outputs with
  | nil => rfl
  | cons output outputs ih =>
      have same : clients.receive output = clients := by
        have delivers := quiet output List.mem_cons_self
        unfold Clients.receive
        split
        · exact absurd delivers Bool.noConfusion
        · rfl
      rw [List.foldl_cons, same]
      exact ih fun other member => quiet other (List.mem_cons_of_mem _ member)

namespace BasePool

/-! ## Operations that deliver nothing -/

/-- Nothing is delivered, no connection is given back, and `connect` waits for no
more connections but new ones. -/
structure Quiet (pool : BasePool κ) (result : BasePool κ × List (Output κ)) : Prop where
  outputs : ∀ output ∈ result.2, output.delivers = false
  released : ∀ connection,
    (result.1.connections connection).released = (pool.connections connection).released
  connecting : ∀ connection, (result.1.connections connection).connecting ≠ none →
    (pool.connections connection).connecting ≠ none ∨ pool.created ≤ connection
  created : pool.created ≤ result.1.created

namespace Quiet

/-- The connections are as they were. -/
theorem of_connections {pool : BasePool κ} {result : BasePool κ × List (Output κ)}
    (outputs : ∀ output ∈ result.2, output.delivers = false)
    (connections : result.1.connections = pool.connections)
    (created : result.1.created = pool.created) : Quiet pool result := by
  constructor
  · exact outputs
  · intro connection
    rw [connections]
  · intro connection waiting
    rw [connections] at waiting
    exact Or.inl waiting
  · exact Nat.le_of_eq created.symm

theorem refl (pool : BasePool κ) : Quiet pool (pool, []) :=
  of_connections (fun _ member => absurd member List.not_mem_nil) rfl rfl

theorem trans {pool middle : BasePool κ} {result : BasePool κ × List (Output κ)}
    {outputs : List (Output κ)} (first : Quiet pool (middle, outputs))
    (second : Quiet middle result) : Quiet pool (result.1, outputs ++ result.2) := by
  constructor
  · intro output member
    rcases List.mem_append.mp member with early | late
    · exact first.outputs output early
    · exact second.outputs output late
  · intro connection
    exact (second.released connection).trans (first.released connection)
  · intro connection waiting
    rcases second.connecting connection waiting with earlier | new
    · exact first.connecting connection earlier
    · exact Or.inr (Nat.le_trans first.created new)
  · exact Nat.le_trans first.created second.created

/-- A change of a connection's other fields. -/
theorem modify (pool : BasePool κ) (connection : Nat)
    (change : PoolConnection κ → PoolConnection κ)
    (released : ∀ fields, (change fields).released = fields.released)
    (connecting : ∀ fields, fields.connecting = none → (change fields).connecting = none) :
    Quiet pool (pool.modify connection change, []) := by
  constructor
  · intro output member
    exact absurd member List.not_mem_nil
  · intro other
    by_cases same : other = connection <;> simp [same, released]
  · intro other waiting
    by_cases same : other = connection
    · subst same
      refine Or.inl fun unset => waiting ?_
      simpa using connecting _ unset
    · exact Or.inl (by simpa [same] using waiting)
  · exact Nat.le_refl _

theorem redispatch (pool : BasePool κ) : Quiet pool (pool.redispatch, []) :=
  of_connections (fun _ member => absurd member List.not_mem_nil)
    (redispatch_connections pool) (redispatch_created pool)

theorem removeFromPool (config : PoolConfig) (pool : BasePool κ) (connection : Nat) :
    Quiet pool (removeFromPool config pool connection) := by
  rw [removeFromPool_eq]
  split
  · exact refl pool
  · have unset : Quiet pool (pool.remove connection, []) := by
      have changed := modify pool connection (fun fields => { fields with pool := false })
        (fun _ => rfl) (fun _ none => none)
      exact ⟨changed.outputs, changed.released, changed.connecting, changed.created⟩
    exact unset.trans (redispatch _)

theorem closeState (pool : BasePool κ) (connection : Nat) :
    Quiet pool (pool.closeState connection, []) :=
  modify pool connection _ (fun _ => rfl) (fun _ none => none)

theorem stopListening (pool : BasePool κ) (connection : Nat) :
    Quiet pool (pool.stopListening connection, []) :=
  modify pool connection _ (fun _ => rfl) (fun _ _ => rfl)

theorem resetFailed (pool : BasePool κ) (connection : Nat) :
    Quiet pool (pool.resetFailed connection, []) := by
  have changed := modify pool connection
    (fun fields => { fields with pool := false, closedState := true })
    (fun _ => rfl) (fun _ none => none)
  have erased : Quiet pool
      ({ pool.modify connection fun fields =>
          { fields with pool := false, closedState := true } with
        allConnections := pool.allConnections.erase connection }, []) :=
    ⟨changed.outputs, changed.released, changed.connecting, changed.created⟩
  exact erased.trans (redispatch _)

theorem handleSuccessfulRelease (pool : BasePool κ) (connection : Nat) :
    Quiet pool (handleSuccessfulRelease pool connection) := by
  unfold BasePool.handleSuccessfulRelease
  split
  · exact of_connections (by simp [Output.delivers]) rfl rfl
  · exact of_connections (by simp [Output.delivers]) rfl rfl

theorem releaseConnection (config : PoolConfig) (pool : BasePool κ) (connection : Nat) :
    Quiet pool (releaseConnection config pool connection) := by
  unfold BasePool.releaseConnection
  split
  · exact redispatch pool
  · split
    · split
      · exact resetFailed pool connection
      · exact modify pool connection _ (fun _ => rfl) (fun _ none => none)
    · exact handleSuccessfulRelease pool connection

theorem destroy (config : PoolConfig) (pool : BasePool κ) (connection : Nat) :
    Quiet pool (destroy config pool connection) := by
  have both := (removeFromPool config pool connection).trans
    (closeState (BasePool.removeFromPool config pool connection).1 connection)
  rwa [List.append_nil] at both

theorem failed (config : PoolConfig) (pool : BasePool κ) (connection : Nat)
    (err : JsError) : Quiet pool (failed config pool connection err) := by
  have removed := removeFromPool config pool connection
  unfold BasePool.failed
  dsimp only
  split
  · exact removed
  · have stopped := stopListening (BasePool.removeFromPool config pool connection).1 connection
    have reported : ∀ callback reason, Quiet (BasePool.removeFromPool config pool connection).1
        ((BasePool.removeFromPool config pool connection).1.stopListening connection,
          [.callback callback (.error reason)]) := fun callback reason =>
      ⟨by simp [Output.delivers], stopped.released, stopped.connecting, stopped.created⟩
    exact removed.trans (reported _ _)

theorem resetReply (pool : BasePool κ) (connection : Nat) :
    Quiet pool (pool.resetReply connection, []) := by
  unfold BasePool.resetReply
  split
  · exact refl pool
  · have changed := modify pool connection (fun fields => { fields with resets := fields.resets - 1 })
      (fun _ => rfl) (fun _ none => none)
    exact ⟨changed.outputs, changed.released, changed.connecting, changed.created⟩

theorem resetError (pool : BasePool κ) (connection : Nat) :
    Quiet pool (pool.resetError connection, []) := by
  unfold BasePool.resetError
  split
  · exact refl pool
  · have changed := modify pool connection (fun fields => { fields with resets := fields.resets - 1 })
      (fun _ => rfl) (fun _ none => none)
    exact changed.trans (resetFailed _ connection)

theorem getConnection {pool : BasePool κ} (placed : Placed pool) (config : PoolConfig)
    (now : Int) (callback : Callback κ) :
    Quiet pool (getConnection config now pool callback) := by
  unfold BasePool.getConnection
  split
  · exact of_connections (fun _ member => absurd member List.not_mem_nil) rfl rfl
  · split
    · exact of_connections (by simp [Output.delivers]) rfl rfl
    · split
      · constructor
        · intro output member
          exact absurd member List.not_mem_nil
        · intro connection
          by_cases same : connection = pool.created
          · subst same
            simpa [create] using (placed.fresh pool.created (Nat.le_refl _)).1.symm
          · simp [create, same]
        · intro connection waiting
          by_cases same : connection = pool.created
          · exact Or.inr (Nat.le_of_eq same.symm)
          · exact Or.inl (by simpa [create, same] using waiting)
        · exact Nat.le_succ _
      · split
        · exact of_connections (fun _ member => absurd member List.not_mem_nil) rfl rfl
        · split
          · exact of_connections (by simp [Output.delivers]) rfl rfl
          · exact of_connections (by simp [Output.delivers]) rfl rfl

/-- By induction on the iterations that are left. -/
theorem sweepLoop (config : PoolConfig) (clock : Nat → Int) (left : Nat)
    (pool : BasePool κ) : Quiet pool (sweepLoop config clock left pool) := by
  induction left generalizing pool with
  | zero => exact refl pool
  | succ left ih =>
      unfold BasePool.sweepLoop
      split
      · exact refl pool
      · split
        · split
          · rename_i connection _ _ _ _
            have closed := destroy config pool connection
            exact closed.trans (ih _)
          · exact of_connections (fun _ member => absurd member List.not_mem_nil) rfl rfl
        · exact refl pool

theorem endPool (pool : BasePool κ) : Quiet pool (pool.endPool, []) := by
  constructor
  · intro output member
    exact absurd member List.not_mem_nil
  · intro connection
    simp only [BasePool.endPool]
    split <;> rfl
  · intro connection waiting
    refine Or.inl ?_
    simp only [BasePool.endPool] at waiting
    split at waiting
    · exact waiting
    · exact waiting
  · exact Nat.le_refl _

end Quiet

/-! ## The invariant -/

/-- What the clients hold has not been released, and connections that `connect`
waits for have not been delivered yet. -/
structure Ledger (pool : BasePool κ) (clients : Clients κ) : Prop where
  placed : Placed pool
  held_last : ∀ client connection, (client, connection) ∈ clients.held →
    clients.last connection = some client
  held_nodup : (clients.held.map Prod.snd).Nodup
  held_released : ∀ client connection, (client, connection) ∈ clients.held →
    (pool.connections connection).released = false
  connecting : ∀ connection, (pool.connections connection).connecting ≠ none →
    clients.last connection = none ∧ (pool.connections connection).released = false
  delivered : ∀ connection, clients.last connection ≠ none → connection < pool.created

namespace Ledger

theorem init : Ledger (BasePool.init : BasePool κ) Clients.init := by
  constructor
  · exact Placed.init
  · intro client connection held
    exact absurd held List.not_mem_nil
  · exact List.nodup_nil
  · intro client connection held
    exact absurd held List.not_mem_nil
  · intro connection waiting
    exact absurd rfl waiting
  · intro connection delivered
    exact absurd rfl delivered

/-- Clients may let go of connections. -/
theorem sublist {pool : BasePool κ} {clients : Clients κ} (before : Ledger pool clients)
    {held : List (κ × Nat)} (fewer : held.Sublist clients.held) :
    Ledger pool { clients with held := held } := by
  constructor
  · exact before.placed
  · intro client connection member
    exact before.held_last client connection (fewer.subset member)
  · exact before.held_nodup.sublist (fewer.map Prod.snd)
  · intro client connection member
    exact before.held_released client connection (fewer.subset member)
  · exact before.connecting
  · exact before.delivered

/-- An operation that delivers nothing. -/
theorem quiet {pool : BasePool κ} {clients : Clients κ} (before : Ledger pool clients)
    {result : BasePool κ × List (Output κ)} (quiet : Quiet pool result)
    (placed : Placed result.1) :
    Ledger result.1 (result.2.foldl Clients.receive clients) := by
  rw [clients.foldl_receive_quiet result.2 quiet.outputs]
  constructor
  · exact placed
  · exact before.held_last
  · exact before.held_nodup
  · intro client connection held
    rw [quiet.released]
    exact before.held_released client connection held
  · intro connection waiting
    rw [quiet.released]
    rcases quiet.connecting connection waiting with earlier | new
    · exact before.connecting connection earlier
    · constructor
      · by_contra delivered
        exact absurd (before.delivered connection delivered) (Nat.not_lt.mpr new)
      · exact (before.placed.fresh connection new).1
  · intro connection delivered
    exact Nat.lt_of_lt_of_le (before.delivered connection delivered) quiet.created

/-- A connection that nobody holds, and that is nowhere else, is delivered. -/
theorem deliver {pool after : BasePool κ} {clients : Clients κ}
    (before : Ledger pool clients) (client : κ) {connection : Nat} (placed : Placed after)
    (unheld : ∀ client, (client, connection) ∉ clients.held)
    (exists_ : connection < after.created)
    (notReleased : (after.connections connection).released = false)
    (connected : (after.connections connection).connecting = none)
    (others : ∀ other, other ≠ connection → after.connections other = pool.connections other)
    (created : pool.created ≤ after.created) :
    Ledger after
      { held := (client, connection) :: clients.held
        last := Function.update clients.last connection (some client) } := by
  have different : ∀ client other, (client, other) ∈ clients.held → other ≠ connection := by
    intro client other held same
    rw [same] at held
    exact unheld client held
  constructor
  · exact placed
  · intro holder other held
    rcases List.mem_cons.mp held with new | old
    · cases new
      simp
    · simpa [different holder other old] using before.held_last holder other old
  · rw [List.map_cons, List.nodup_cons]
    refine ⟨?_, before.held_nodup⟩
    intro member
    rcases List.mem_map.mp member with ⟨⟨holder, other⟩, held, same⟩
    exact different holder other held same
  · intro holder other held
    rcases List.mem_cons.mp held with new | old
    · cases new
      exact notReleased
    · rw [others other (different holder other old)]
      exact before.held_released holder other old
  · intro other waiting
    by_cases same : other = connection
    · rw [same, connected] at waiting
      exact absurd rfl waiting
    · rw [others other same] at waiting ⊢
      simpa [same] using before.connecting other waiting
  · intro other delivered
    by_cases same : other = connection
    · rwa [same]
    · have earlier : clients.last other ≠ none := by simpa [same] using delivered
      exact Nat.lt_of_lt_of_le (before.delivered other earlier) created

/-- A client gives back a connection that it was the last to get. -/
theorem giveBack {pool : BasePool κ} {clients : Clients κ} (before : Ledger pool clients)
    (now : Int) {connection : Nat} (unheld : ∀ client, (client, connection) ∉ clients.held)
    (delivered : clients.last connection ≠ none)
    (notReleased : (pool.connections connection).released = false)
    (present : (pool.connections connection).pool = true) :
    Ledger (pool.giveBack now connection) clients := by
  constructor
  · exact (before.placed.giveBack now connection notReleased present).1
  · exact before.held_last
  · exact before.held_nodup
  · intro client other held
    have different : other ≠ connection := by
      intro same
      rw [same] at held
      exact unheld client held
    simpa [BasePool.giveBack, different] using before.held_released client other held
  · intro other waiting
    by_cases same : other = connection
    · subst same
      have waits : (pool.connections other).connecting ≠ none := by
        simpa [BasePool.giveBack] using waiting
      exact absurd (before.connecting other waits).1 delivered
    · have waits : (pool.connections other).connecting ≠ none := by
        simpa [BasePool.giveBack, same] using waiting
      simpa [BasePool.giveBack, same] using before.connecting other waits
  · exact before.delivered

variable [DecidableEq κ]

/-- The last client a connection was delivered to is the only one that may hold it. -/
theorem unheld {pool : BasePool κ} {clients : Clients κ} (before : Ledger pool clients)
    {client : κ} {connection : Nat} (last : clients.last connection = some client)
    (other : κ) : (other, connection) ∉ clients.held.filter (· ≠ (client, connection)) := by
  intro member
  rcases List.mem_filter.mp member with ⟨held, kept⟩
  have same := (before.held_last other connection held).symm.trans last
  rw [Option.some.inj same] at kept
  simp at kept

theorem release {pool : BasePool κ} {clients : Clients κ} (before : Ledger pool clients)
    (config : PoolConfig) (now : Int) {client : κ} {connection : Nat}
    (last : clients.last connection = some client) :
    Ledger (release config now pool connection).1
      ((release config now pool connection).2.foldl Clients.receive
        { clients with held := clients.held.filter (· ≠ (client, connection)) }) := by
  have letGo := before.sublist
    (List.filter_sublist (p := (· ≠ (client, connection))) (l := clients.held))
  rcases release_cases config now pool connection with
    unchanged | ⟨notReleased, present, isOpen, same⟩
  · rw [unchanged]
    exact letGo
  · rw [same]
    have delivered : clients.last connection ≠ none := by
      rw [last]
      exact Option.some_ne_none client
    have givenBack := letGo.giveBack now (before.unheld last) delivered notReleased present
    apply givenBack.quiet (Quiet.releaseConnection config _ connection)
    exact before.placed.release config now connection notReleased present

omit [DecidableEq κ] in
theorem tick {pool : BasePool κ} {clients : Clients κ} (before : Ledger pool clients)
    (config : PoolConfig) (now : Int) :
    Ledger (tick config now pool).1 ((tick config now pool).2.foldl Clients.receive clients) := by
  have placed := before.placed.tick config now
  have taken : ∀ tick ticks, pool.ticks = tick :: ticks →
      Ledger { pool with ticks := ticks } clients := by
    intro tick ticks next
    exact ⟨(before.placed.takeTick next).1, before.held_last, before.held_nodup,
      before.held_released, before.connecting, before.delivered⟩
  unfold BasePool.tick at placed ⊢
  split
  · exact before
  · rename_i callback connection ticks next
    rw [next] at placed
    have released : (pool.connections connection).released = true := by
      apply before.placed.released
      have counted := (before.placed.takeTick next).2 connection
      simp [Tick.carries] at counted
      omega
    have unheld : ∀ client, (client, connection) ∉ clients.held := by
      intro client held
      have notReleased := before.held_released client connection held
      exact absurd (released.symm.trans notReleased) Bool.noConfusion
    have connected : (pool.connections connection).connecting = none := by
      by_contra waiting
      have notReleased := (before.connecting connection waiting).2
      exact absurd (released.symm.trans notReleased) Bool.noConfusion
    have exists_ : connection < pool.created := by
      by_contra new
      have notReleased := (before.placed.fresh connection (Nat.not_lt.mp new)).1
      exact absurd (released.symm.trans notReleased) Bool.noConfusion
    apply (taken _ _ next).deliver callback.client placed unheld
    · exact exists_
    · simp
    · simpa using connected
    · intro other different
      simp [different]
    · exact Nat.le_refl _
  · rename_i next
    rw [next] at placed
    exact (taken _ _ next).quiet
      (Quiet.of_connections (by simp [Output.delivers]) rfl rfl) placed
  · rename_i callback ticks next
    rw [next] at placed
    exact (taken _ _ next).quiet
      (Quiet.getConnection (taken _ _ next).placed config now callback) placed
  · rename_i connection ticks next
    rw [next] at placed
    exact (taken _ _ next).quiet (Quiet.handleSuccessfulRelease _ connection) placed

omit [DecidableEq κ] in
theorem connected {pool : BasePool κ} {clients : Clients κ} (before : Ledger pool clients)
    (connection : Nat) :
    Ledger (connected pool connection).1
      ((connected pool connection).2.foldl Clients.receive clients) := by
  unfold BasePool.connected
  split
  · exact before
  · rename_i callback waiting
    have waits : (pool.connections connection).connecting ≠ none := by
      rw [waiting]
      exact Option.some_ne_none callback
    rcases before.connecting connection waits with ⟨undelivered, notReleased⟩
    have placed : Placed (pool.stopListening connection) :=
      before.placed.modify connection _ (fun _ => rfl) (fun _ => rfl) (fun _ unset => unset)
        (fun _ _ => rfl)
    split
    · exact before.quiet
        ⟨by simp [Output.delivers], (Quiet.stopListening pool connection).released,
          (Quiet.stopListening pool connection).connecting, Nat.le_refl _⟩ placed
    · apply before.deliver callback.client placed
      · intro client held
        have last := before.held_last client connection held
        exact absurd (undelivered.symm.trans last) (Option.some_ne_none client).symm
      · by_contra new
        have none := (before.placed.fresh connection (Nat.not_lt.mp new)).2.2
        exact waits none
      · simpa [stopListening] using notReleased
      · simp [stopListening]
      · intro other different
        simp [stopListening, different]
      · exact Nat.le_refl _

/-- One step of the pool, by a client that is entitled to it. -/
theorem step {pool : BasePool κ} {clients : Clients κ} (before : Ledger pool clients)
    (config : PoolConfig) {event : Event κ} (entitled : Entitled (pool, clients) event) :
    Ledger (BasePool.step config pool event).1
      (clients.observe event (BasePool.step config pool event).2) := by
  have placed : Placed (BasePool.step config pool event).1 :=
    (placed_invariant config).step event before.placed fun _ _ => trivial
  have letGo : ∀ client connection, Ledger pool
      { clients with held := clients.held.filter (· ≠ (client, connection)) } :=
    fun client connection => before.sublist List.filter_sublist
  unfold Clients.observe
  revert placed
  show Placed (if pool.hung then (pool, []) else handle config pool event).1 →
    Ledger (if pool.hung then (pool, []) else handle config pool event).1
      ((if pool.hung then (pool, []) else handle config pool event).2.foldl Clients.receive
        (clients.letGo event))
  split
  · intro _
    cases event with
    | release client connection now => exact letGo client connection
    | destroy client connection => exact letGo client connection
    | endConnection client connection now => exact letGo client connection
    | _ => exact before
  · intro placed
    cases event with
    | getConnection client now =>
        have counted : Ledger { pool with calls := pool.calls + 1 } clients :=
          ⟨⟨before.placed.places_le, before.placed.fresh, before.placed.nodup,
            before.placed.created⟩, before.held_last, before.held_nodup,
            before.held_released, before.connecting, before.delivered⟩
        exact counted.quiet (Quiet.getConnection counted.placed config now _) placed
    | release client connection now => exact before.release config now entitled
    | destroy client connection =>
        exact (letGo client connection).quiet (Quiet.destroy config pool connection) placed
    | endConnection client connection now =>
        revert placed
        simp only [handle, endConnection]
        split
        · intro placed
          exact (letGo client connection).quiet (Quiet.destroy config pool connection) placed
        · intro _
          exact before.release config now entitled
    | connected connection => exact before.connected connection
    | failed connection err =>
        exact before.quiet (Quiet.failed config pool connection err) placed
    | ended connection =>
        exact before.quiet (Quiet.removeFromPool config pool connection) placed
    | closeState connection => exact before.quiet (Quiet.closeState pool connection) placed
    | resetReply connection => exact before.quiet (Quiet.resetReply pool connection) placed
    | resetError connection => exact before.quiet (Quiet.resetError pool connection) placed
    | tick now => exact before.tick config now
    | idleSweep clock =>
        revert placed
        simp only [handle, idleSweep]
        split
        · intro placed
          exact before.quiet (Quiet.sweepLoop config clock _ pool) placed
        · intro _
          exact before
    | endPool => exact before.quiet (Quiet.endPool pool) placed

omit [DecidableEq κ] in
/-- What is in the list of free connections has been released, and is nowhere else. -/
theorem owned {pool : BasePool κ} {clients : Clients κ} (ledger : Ledger pool clients)
    {config : PoolConfig} (limit : pool.allConnections.length ≤ config.connectionLimit) :
    Owned config (pool, clients) := by
  have once : ∀ connection, pool.places connection ≤ 1 := fun connection =>
    Nat.le_trans (ledger.placed.places_le connection) (Bool.toNat_le _)
  constructor
  · exact limit
  · exact ledger.placed.nodup
  · apply List.nodup_iff_count_le_one.mpr
    intro connection
    show pool.freeConnections.count connection ≤ 1
    have atMost := once connection
    simp only [BasePool.places] at atMost
    omega
  · intro connection free
    have counted : 0 < pool.freeConnections.count connection := List.count_pos_iff.mpr free
    have atMost := once connection
    have released : (pool.connections connection).released = true := by
      apply ledger.placed.released
      simp only [BasePool.places]
      omega
    constructor
    · intro client held
      have notReleased := ledger.held_released client connection held
      exact absurd (released.symm.trans notReleased) Bool.noConfusion
    · rintro (⟨callback, member⟩ | waiting)
      · have carried : 0 < pool.ticks.countP (Tick.carries connection) :=
          List.countP_pos_iff.mpr ⟨_, member, by simp [Tick.carries]⟩
        simp only [BasePool.places] at atMost
        omega
      · have notReleased := (ledger.connecting connection waiting).2
        exact absurd (released.symm.trans notReleased) Bool.noConfusion
  · exact ledger.held_nodup

end Ledger

variable [DecidableEq κ]

/-- In every run whose clients are entitled to what they do, every connection has
one owner at most. -/
theorem run_owned (config : PoolConfig) (limited : 0 < config.connectionLimit)
    (events : List (Event κ))
    (entitled : Meets (observing (step config) Clients.observe) Entitled
      (init, Clients.init) events) :
    Owned config
      (run (observing (step config) Clients.observe) (init, Clients.init) events).1 := by
  have ledger := entitled.preserves
    (fun state : BasePool κ × Clients κ => Ledger state.1 state.2)
    (fun _ _ before entitled => before.step config entitled) Ledger.init
  apply ledger.owned
  rw [run_observing_fst]
  apply (withinLimit_invariant config).always
  · exact fun _ => Nat.zero_le _
  · exact Nat.ne_of_gt limited

/-- Two releases by the first client, and the second gets the connection. -/
theorem run_owned_doubleRelease :
    Owned onlyOne
      (run (observing (step onlyOne) Clients.observe) (init, (Clients.init : Clients Nat))
        [.getConnection 1 0, .connected 0, .release 1 0 5, .release 1 0 6, .getConnection 2 7,
          .tick 8]).1 :=
  run_owned onlyOne (by decide) _ (by decide)

end BasePool

end Mysql2.Pool

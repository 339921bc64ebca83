import Mathlib.Logic.Function.Basic
import Mysql2.Packets.Reader
import Mysql2.Transition.Mealy

/-!
# The connection pool

A pool hands out connections, keeps released ones for later and queues requests
when it is full.  Connections lose their place in the pool when they are
destroyed, end or fail.  Much of the work is put off with `process.nextTick`: the
callbacks put off so are run in order, one a step, and everything else can happen
between two of them.
-/

namespace Mysql2.Pool

open Mysql2.Packets
open Mysql2.Transition

/-- What the pool reads of its configuration.  `gracefulEnd` is that of the
connection configuration. -/
structure PoolConfig where
  waitForConnections : Bool
  connectionLimit : Nat
  maxIdle : Nat
  idleTimeout : Int
  queueLimit : Nat
  resetOnRelease : Bool
  gracefulEnd : Bool

/-- The callback of one call of `getConnection`, with the client that made the
call and the number of the call. -/
structure Callback (κ : Type) where
  client : κ
  call : Nat
  deriving DecidableEq, Repr

/-- The errors that a callback of `getConnection` gets. -/
inductive PoolError
  /-- `Pool is closed.` -/
  | closed
  /-- `No connections available.` -/
  | noConnections
  /-- `Queue limit reached.` -/
  | queueLimit
  /-- The error of the connection created for the callback. -/
  | connect (err : JsError)
  deriving DecidableEq, Repr

/-- A pooled connection. -/
structure PoolConnection (κ : Type) where
  /-- `_pool` is the pool, and not `null`. -/
  pool : Bool
  released : Bool
  lastActiveTime : Int
  /-- `addCommand` has been replaced by `_addCommandClosedState`. -/
  closedState : Bool
  /-- The `ResetConnection` commands of `releaseConnection` that wait for their reply. -/
  resets : Nat
  /-- The callback for which `connect` listens to `connect` and `error`. -/
  connecting : Option (Callback κ)
  deriving DecidableEq, Repr

/-- A callback put off with `process.nextTick`. -/
inductive Tick (κ : Type)
  /-- `connection._released = false; cb(null, connection)` -/
  | deliver (callback : Callback κ) (connection : Nat)
  | reject (callback : Callback κ) (error : PoolError)
  /-- `this.getConnection.bind(this, cb)` for a callback taken off the queue. -/
  | getConnection (callback : Callback κ)
  /-- The callback of a `ResetConnection` command, called without an error. -/
  | resetDone (connection : Nat)
  deriving DecidableEq, Repr

/-- What an observer sees of a step. -/
inductive Output (κ : Type)
  | callback (callback : Callback κ) (result : Except PoolError Nat)
  /-- The callback was pushed onto `_connectionQueue`, behind an `enqueue` event. -/
  | enqueue (callback : Callback κ)
  /-- `_handleSuccessfulRelease` took the callback off the queue for this
  connection, which then was or was not usable: in `_allConnections` and with
  `_pool` still set. -/
  | assign (callback : Callback κ) (connection : Nat) (usable : Bool)
  | acquire (connection : Nat)
  | connection (connection : Nat)
  | release (connection : Nat)
  deriving DecidableEq

/-- The fields of a pool, the connections it has created, numbered in order, and
the callbacks put off.  `hung` says that a loop does not end: nothing else
happens in the process. -/
structure BasePool (κ : Type) where
  allConnections : List Nat
  freeConnections : List Nat
  connectionQueue : List (Callback κ)
  closed : Bool
  connections : Nat → PoolConnection κ
  created : Nat
  calls : Nat
  ticks : List (Tick κ)
  hung : Bool

namespace BasePool

variable {κ : Type}

/-- A connection that does not exist. -/
def noConnection : PoolConnection κ :=
  { pool := false
    released := false
    lastActiveTime := 0
    closedState := false
    resets := 0
    connecting := none }

/-- A new pool. -/
def init : BasePool κ :=
  { allConnections := []
    freeConnections := []
    connectionQueue := []
    closed := false
    connections := fun _ => noConnection
    created := 0
    calls := 0
    ticks := []
    hung := false }

/-- Change one connection. -/
def modify (pool : BasePool κ) (connection : Nat)
    (change : PoolConnection κ → PoolConnection κ) : BasePool κ :=
  { pool with
    connections :=
      Function.update pool.connections connection (change (pool.connections connection)) }

/-- `process.nextTick`. -/
def nextTick (pool : BasePool κ) (tick : Tick κ) : BasePool κ :=
  { pool with ticks := pool.ticks ++ [tick] }

/-- `new PoolConnection(this, …)`, its entry in `_allConnections`, and `connect`
for the callback. -/
def create (pool : BasePool κ) (now : Int) (callback : Callback κ) : BasePool κ :=
  { pool with
    allConnections := pool.allConnections ++ [pool.created]
    connections := Function.update pool.connections pool.created
      { pool := true
        released := false
        lastActiveTime := now
        closedState := false
        resets := 0
        connecting := some callback }
    created := pool.created + 1 }

/-- `getConnection`. -/
def getConnection (config : PoolConfig) (now : Int) (pool : BasePool κ)
    (callback : Callback κ) : BasePool κ × List (Output κ) :=
  if pool.closed then
    (pool.nextTick (.reject callback .closed), [])
  else
    match pool.freeConnections.getLast? with
    | some connection =>
        (({ pool with freeConnections := pool.freeConnections.dropLast }).nextTick
            (.deliver callback connection),
          [.acquire connection])
    | none =>
        if config.connectionLimit = 0 ∨
            pool.allConnections.length < config.connectionLimit then
          (pool.create now callback, [])
        else if config.waitForConnections = false then
          (pool.nextTick (.reject callback .noConnections), [])
        else if config.queueLimit ≠ 0 ∧ config.queueLimit ≤ pool.connectionQueue.length then
          (pool, [.callback callback (.error .queueLimit)])
        else
          ({ pool with connectionQueue := pool.connectionQueue ++ [callback] },
            [.enqueue callback])

/-- `_handleSuccessfulRelease`. -/
def handleSuccessfulRelease (pool : BasePool κ) (connection : Nat) :
    BasePool κ × List (Output κ) :=
  match pool.connectionQueue with
  | callback :: queue =>
      (({ pool with connectionQueue := queue }).nextTick (.deliver callback connection),
        [.assign callback connection
          (pool.allConnections.contains connection && (pool.connections connection).pool)])
  | [] =>
      ({ pool with freeConnections := pool.freeConnections ++ [connection] },
        [.release connection])

/-- Send the oldest queued callback through `getConnection` again, on the next
tick. -/
def redispatch (pool : BasePool κ) : BasePool κ :=
  match pool.connectionQueue with
  | callback :: queue =>
      ({ pool with connectionQueue := queue }).nextTick (.getConnection callback)
  | [] => pool

/-- `_pool = null` and the entry in `_allConnections`, as a failed reset removes
them.  The call of `destroy` finds `_pool` unset and closes the connection. -/
def resetFailed (pool : BasePool κ) (connection : Nat) : BasePool κ :=
  redispatch
    { pool.modify connection fun fields => { fields with pool := false, closedState := true } with
      allConnections := pool.allConnections.erase connection }

/-- `releaseConnection`.  In the closed state the reset's callback is called at
once, with an error. -/
def releaseConnection (config : PoolConfig) (pool : BasePool κ) (connection : Nat) :
    BasePool κ × List (Output κ) :=
  if (pool.connections connection).pool = false then
    (pool.redispatch, [])
  else if config.resetOnRelease then
    if (pool.connections connection).closedState then
      (pool.resetFailed connection, [])
    else
      (pool.modify connection fun fields => { fields with resets := fields.resets + 1 }, [])
  else
    pool.handleSuccessfulRelease connection

/-- `_removeConnection`. -/
def removeConnection (config : PoolConfig) (pool : BasePool κ) (connection : Nat) :
    BasePool κ × List (Output κ) :=
  releaseConnection config
    { pool with
      allConnections := pool.allConnections.erase connection
      freeConnections := pool.freeConnections.erase connection }
    connection

/-- `PoolConnection._removeFromPool`. -/
def removeFromPool (config : PoolConfig) (pool : BasePool κ) (connection : Nat) :
    BasePool κ × List (Output κ) :=
  if (pool.connections connection).pool = false ∨ pool.closed then
    (pool, [])
  else
    removeConnection config
      (pool.modify connection fun fields => { fields with pool := false }) connection

/-- `addCommand` is replaced: the connection was closed, or failed. -/
def closeState (pool : BasePool κ) (connection : Nat) : BasePool κ :=
  pool.modify connection fun fields => { fields with closedState := true }

/-- `PoolConnection.release`. -/
def release (config : PoolConfig) (now : Int) (pool : BasePool κ) (connection : Nat) :
    BasePool κ × List (Output κ) :=
  if (pool.connections connection).released then
    (pool, [])
  else if (pool.connections connection).pool = false ∨ pool.closed then
    (pool, [])
  else
    releaseConnection config
      (pool.modify connection fun fields =>
        { fields with released := true, lastActiveTime := now })
      connection

/-- `PoolConnection.destroy`. -/
def destroy (config : PoolConfig) (pool : BasePool κ) (connection : Nat) :
    BasePool κ × List (Output κ) :=
  let removed := removeFromPool config pool connection
  (removed.1.closeState connection, removed.2)

/-- `PoolConnection.end`: `destroy` with a quit command, or the deprecated way to
release. -/
def endConnection (config : PoolConfig) (now : Int) (pool : BasePool κ) (connection : Nat) :
    BasePool κ × List (Output κ) :=
  if config.gracefulEnd then
    let removed := removeFromPool config pool connection
    (removed.1.closeState connection, removed.2)
  else
    release config now pool connection

/-- The listeners that `connect` has put on the connection are removed. -/
def stopListening (pool : BasePool κ) (connection : Nat) : BasePool κ :=
  pool.modify connection fun fields => { fields with connecting := none }

/-- The connection's `connect` event. -/
def connected (pool : BasePool κ) (connection : Nat) : BasePool κ × List (Output κ) :=
  match (pool.connections connection).connecting with
  | none => (pool, [])
  | some callback =>
      (pool.stopListening connection,
        if pool.closed then
          [.callback callback (.error .closed)]
        else
          [.connection connection, .acquire connection, .callback callback (.ok connection)])

/-- The connection's `error` event.  `_removeFromPool` listens first, then
`connect`.  That it listens `once` makes no difference: a second call finds
`_pool` unset or the pool closed. -/
def failed (config : PoolConfig) (pool : BasePool κ) (connection : Nat) (err : JsError) :
    BasePool κ × List (Output κ) :=
  let removed := removeFromPool config pool connection
  match (removed.1.connections connection).connecting with
  | none => removed
  | some callback =>
      (removed.1.stopListening connection,
        removed.2 ++
          [.callback callback
            (.error (if removed.1.closed then .closed else .connect err))])

/-- The reply to a reset: the command's callback is put off. -/
def resetReply (pool : BasePool κ) (connection : Nat) : BasePool κ :=
  if (pool.connections connection).resets = 0 then
    pool
  else
    (pool.modify connection fun fields => { fields with resets := fields.resets - 1 }).nextTick
      (.resetDone connection)

/-- A reset's callback is called with an error. -/
def resetError (pool : BasePool κ) (connection : Nat) : BasePool κ :=
  if (pool.connections connection).resets = 0 then
    pool
  else
    (pool.modify connection fun fields =>
      { fields with resets := fields.resets - 1 }).resetFailed connection

/-- Run the oldest of the callbacks put off. -/
def tick (config : PoolConfig) (now : Int) (pool : BasePool κ) :
    BasePool κ × List (Output κ) :=
  match pool.ticks with
  | [] => (pool, [])
  | .deliver callback connection :: ticks =>
      (({ pool with ticks := ticks }).modify connection fun fields =>
          { fields with released := false },
        [.callback callback (.ok connection)])
  | .reject callback error :: ticks =>
      ({ pool with ticks := ticks }, [.callback callback (.error error)])
  | .getConnection callback :: ticks =>
      getConnection config now { pool with ticks := ticks } callback
  | .resetDone connection :: ticks =>
      handleSuccessfulRelease { pool with ticks := ticks } connection

/-- The condition of the loop of the idle sweep. -/
def overIdle (config : PoolConfig) (now : Int) (pool : BasePool κ) : Bool :=
  config.maxIdle < pool.freeConnections.length ||
    match pool.freeConnections with
    | [] => false
    | connection :: _ =>
        config.idleTimeout < now - (pool.connections connection).lastActiveTime

/-- The loop of the idle sweep; `clock` is what `Date.now()` returns from one
iteration to the next.  An iteration takes the first free connection off the
list.  A connection that has lost its `_pool` stays first for ever. -/
def sweepLoop (config : PoolConfig) (clock : Nat → Int) :
    Nat → BasePool κ → BasePool κ × List (Output κ)
  | 0, pool => (pool, [])
  | left + 1, pool =>
      match pool.freeConnections with
      | [] => (pool, [])
      | connection :: _ =>
          if overIdle config (clock left) pool then
            if (pool.connections connection).pool then
              let removed := removeFromPool config pool connection
              let swept := sweepLoop config clock left (removed.1.closeState connection)
              (swept.1, removed.2 ++ swept.2)
            else
              ({ pool with hung := true }, [])
          else
            (pool, [])

/-- The idle sweep, when its timer is set. -/
def idleSweep (config : PoolConfig) (clock : Nat → Int) (pool : BasePool κ) :
    BasePool κ × List (Output κ) :=
  if config.maxIdle < config.connectionLimit ∧ pool.closed = false then
    sweepLoop config clock pool.freeConnections.length pool
  else
    (pool, [])

/-- `end`: queued callbacks are turned away, and every connection is ended. -/
def endPool (pool : BasePool κ) : BasePool κ :=
  { pool with
    closed := true
    connectionQueue := []
    ticks := pool.ticks ++ pool.connectionQueue.map fun callback => .reject callback .closed
    connections := fun connection =>
      if connection ∈ pool.allConnections then
        { pool.connections connection with closedState := true }
      else
        pool.connections connection }

end BasePool

/-- What can happen to a pool: clients call it and its connections, connections
emit events and receive replies, the oldest callback put off is run, the timer of
the idle sweep fires. -/
inductive Event (κ : Type)
  | getConnection (client : κ) (now : Int)
  | release (client : κ) (connection : Nat) (now : Int)
  | destroy (client : κ) (connection : Nat)
  | endConnection (client : κ) (connection : Nat) (now : Int)
  | connected (connection : Nat)
  | failed (connection : Nat) (err : JsError)
  /-- The `end` event. -/
  | ended (connection : Nat)
  /-- The connection enters its closed state, without an event so far. -/
  | closeState (connection : Nat)
  | resetReply (connection : Nat)
  | resetError (connection : Nat)
  | tick (now : Int)
  | idleSweep (clock : Nat → Int)
  | endPool

namespace BasePool

variable {κ : Type}

/-- What an event does to a pool that is not in an endless loop. -/
def handle (config : PoolConfig) (pool : BasePool κ) :
    Event κ → BasePool κ × List (Output κ)
  | .getConnection client now =>
      getConnection config now { pool with calls := pool.calls + 1 } ⟨client, pool.calls⟩
  | .release _ connection now => release config now pool connection
  | .destroy _ connection => destroy config pool connection
  | .endConnection _ connection now => endConnection config now pool connection
  | .connected connection => connected pool connection
  | .failed connection err => failed config pool connection err
  | .ended connection => removeFromPool config pool connection
  | .closeState connection => (pool.closeState connection, [])
  | .resetReply connection => (pool.resetReply connection, [])
  | .resetError connection => (pool.resetError connection, [])
  | .tick now => tick config now pool
  | .idleSweep clock => idleSweep config clock pool
  | .endPool => (pool.endPool, [])

/-- One step of a pool. -/
def step (config : PoolConfig) : Step (BasePool κ) (Event κ) (Output κ)
  | pool, event => if pool.hung then (pool, []) else handle config pool event

end BasePool

end Mysql2.Pool

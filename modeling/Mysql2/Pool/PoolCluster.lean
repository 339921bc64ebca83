import Mathlib.Logic.Function.Basic
import Mysql2.Packets.Reader
import Mysql2.Script.Text
import Mysql2.Transition.Mealy

/-!
# Clusters of pools

A cluster registers pools under ids and asks those whose ids match a pattern for
connections.  Lookups go through a cache that is keyed by the text of the pattern.
The fields `_nodes` and `_findCaches` are plain objects, which inherit the members
of `Object.prototype`.

A connection attempt holds the node it was made on.  Between the emission of an
event and what follows it anything can happen, since a listener may use the
cluster.
-/

namespace Mysql2.Pool

open Mysql2.Packets (JsError)
open Mysql2.Script
open Mysql2.Transition

/-! ## Patterns -/

/-- A pattern of ids: a string, or a regular expression. -/
inductive Pattern (ρ : Type)
  | text (pattern : JsString)
  | regExp (expression : ρ)
  deriving DecidableEq

/-- What the language does with regular expressions. -/
structure RegExps (ρ : Type) where
  /-- `new RegExp(source)`. -/
  compile : JsString → ρ
  /-- The expression as a string. -/
  text : ρ → JsString
  /-- Whether `id.match(expression)` finds a match. -/
  test : ρ → JsString → Bool

variable {ρ : Type}

/-- The characters that `patternRegExp` puts a backslash before. -/
def escaped : JsString :=
  units ".+?^=!:$\x7b\x7d()|[]/\\"

/-- `patternRegExp`. -/
def patternRegExp (regExps : RegExps ρ) : Pattern ρ → ρ
  | .regExp expression => expression
  | .text pattern =>
      let source := (pattern.flatMap fun unit => if unit ∈ escaped then [92, unit] else [unit]).flatMap
        fun unit => if unit = 42 then units ".*" else [unit]
      regExps.compile (units "^" ++ source ++ units "$")

namespace Pattern

/-- The pattern as the key of a property. -/
def key (regExps : RegExps ρ) : Pattern ρ → JsString
  | .text pattern => pattern
  | .regExp expression => regExps.text expression

/-- Whether an id matches the pattern. -/
def matchesId (regExps : RegExps ρ) (pattern : Pattern ρ) (id : JsString) : Bool :=
  regExps.test (patternRegExp regExps pattern) id

end Pattern

/-- The members of `Object.prototype` with their `length`, which the prototype itself,
that `__proto__` stands for, does not have. -/
def prototypeMembers : List (JsString × Option Nat) :=
  [(units "__proto__", none), (units "__defineGetter__", some 2),
    (units "__defineSetter__", some 2), (units "__lookupGetter__", some 1),
    (units "__lookupSetter__", some 1), (units "constructor", some 1),
    (units "hasOwnProperty", some 1), (units "isPrototypeOf", some 1),
    (units "propertyIsEnumerable", some 1), (units "toLocaleString", some 0),
    (units "toString", some 0), (units "valueOf", some 0)]

/-- The `length` of the member that a plain object inherits under a key. -/
def inherited (key : JsString) : Option (Option Nat) :=
  prototypeMembers.lookup key

/-- What `_findNodeIds` returns: an array of ids, or an inherited member by its
`length`. -/
inductive Found
  | ids (foundNodeIds : List JsString)
  | member (length : Option Nat)
  deriving DecidableEq

namespace Found

/-- `foundNodeIds.length`. -/
def length : Found → Option Nat
  | .ids foundNodeIds => some foundNodeIds.length
  | .member length => length

/-- The elements of `foundNodeIds` below its `length`, as keys: those of a member are
`undefined`. -/
def elements : Found → List JsString
  | .ids foundNodeIds => foundNodeIds
  | .member length => .replicate (length.getD 0) (units "undefined")

end Found

/-! ## The cluster -/

/-- What a cluster reads of its configuration. -/
structure ClusterConfig where
  canRetry : Bool
  removeNodeErrorCount : Int
  restoreNodeTimeout : Int
  deriving DecidableEq, Repr

/-- A node record.  `ended` says that its `pool.end` has been called. -/
structure Node where
  id : JsString
  errorCount : Nat
  offlineUntil : Int
  ended : Bool
  deriving DecidableEq, Repr

/-- The selectors. -/
inductive Selector
  | RR
  | RANDOM
  | ORDER
  deriving DecidableEq, Repr

/-- `makeSelector[selector]`. -/
def makeSelector (name : JsString) : Option Selector :=
  if name = units "RR" then some .RR
  else if name = units "RANDOM" then some .RANDOM
  else if name = units "ORDER" then some .ORDER
  else none

/-- A namespace, with the `index` of its selector. -/
structure PoolNamespace (ρ : Type) where
  pattern : Pattern ρ
  selector : Selector
  index : Nat
  deriving DecidableEq

namespace PoolNamespace

/-- The id that the selector takes from some ids, and the namespace after that. -/
def select (space : PoolNamespace ρ) (random : Nat) (clusterIds : List JsString) :
    Option JsString × PoolNamespace ρ :=
  match space.selector with
  | .RR => (clusterIds[space.index % clusterIds.length]?, { space with index := space.index + 1 })
  | .RANDOM => (clusterIds[random % clusterIds.length]?, space)
  | .ORDER => (clusterIds[0]?, space)

end PoolNamespace

/-- How far a call of `getConnection` has come: an attempt on a node is made, its
callback is to be run, or another attempt is to be made. -/
inductive Progress
  | connecting (node : Nat)
  | answered (err : Option JsError)
  | retrying
  deriving DecidableEq

/-- A call of `getConnection`, with the key of its namespace. -/
structure Request where
  space : JsString
  progress : Progress
  deriving DecidableEq

/-- The fields of a cluster, the node records it has created and the calls of
`getConnection`, both numbered in order. -/
structure PoolCluster (ρ : Type) where
  nodes : JsString → Option Nat
  serviceableNodeIds : List JsString
  namespaces : JsString → Option (PoolNamespace ρ)
  findCaches : JsString → Option Found
  lastId : Nat
  records : Nat → Node
  created : Nat
  requests : Nat → Option Request
  calls : Nat

/-- The events that tell of a node. -/
inductive NodeEvent
  | remove
  | offline
  | online
  deriving DecidableEq, Repr

/-- What an observer of the methods sees. -/
inductive ClusterOutput (ρ : Type)
  | lookup (pattern : Pattern ρ)
  /-- `_nodes` and `_serviceableNodeIds` get an id, or lose it. -/
  | registered (id : JsString)
  | unregistered (id : JsString)
  /-- An event with the id of a node, of which the number is given. -/
  | emit (event : NodeEvent) (node : Nat)
  | warn (err : JsError)
  | attempt (request node : Nat)
  | callback (request : Nat) (err : Option JsError)
  | throw (err : JsError)
  deriving DecidableEq

/-- What a method does, and the error it throws if it does not return. -/
structure Outcome (ρ : Type) where
  cluster : PoolCluster ρ
  outputs : List (ClusterOutput ρ)
  thrown : Option JsError

/-- The error of a call of something that is no function. -/
def notAFunction (text : String) : JsError :=
  .new (text ++ " is not a function")

/-- The error without a node that matches. -/
def poolNoExist : JsError :=
  { JsError.new "Pool does Not exist." with code := some (.name "POOL_NOEXIST") }

/-- The error without a node that is online. -/
def poolNoneOnline : JsError :=
  { JsError.new "Pool does Not have online node." with code := some (.name "POOL_NONEONLINE") }

namespace PoolCluster

/-- The node that a record starts as. -/
def newNode (id : JsString) : Node :=
  { id := id
    errorCount := 0
    offlineUntil := 0
    ended := false }

/-- A new cluster. -/
def init : PoolCluster ρ :=
  { nodes := fun _ => none
    serviceableNodeIds := []
    namespaces := fun _ => none
    findCaches := fun _ => none
    lastId := 0
    records := fun _ => newNode []
    created := 0
    requests := fun _ => none
    calls := 0 }

/-- Change a node record. -/
def modify (cluster : PoolCluster ρ) (node : Nat) (change : Node → Node) : PoolCluster ρ :=
  { cluster with
    records := Function.update cluster.records node (change (cluster.records node)) }

/-- `_clearFindCaches`. -/
def clearFindCaches (cluster : PoolCluster ρ) : PoolCluster ρ :=
  { cluster with findCaches := fun _ => none }

/-- `add` with an id. -/
def register (cluster : PoolCluster ρ) (id : JsString) : PoolCluster ρ × List (ClusterOutput ρ) :=
  if cluster.nodes id = none ∧ inherited id = none then
    (clearFindCaches
      { cluster with
        nodes := Function.update cluster.nodes id (some cluster.created)
        serviceableNodeIds := cluster.serviceableNodeIds ++ [id]
        records := Function.update cluster.records cluster.created (newNode id)
        created := cluster.created + 1 },
      [.registered id])
  else
    (cluster, [])

/-- `add(id, config)` or `add(config)`. -/
def add (cluster : PoolCluster ρ) : Option JsString → PoolCluster ρ × List (ClusterOutput ρ)
  | some id => cluster.register id
  | none =>
      { cluster with lastId := cluster.lastId + 1 }.register
        (units ("CLUSTER::" ++ toString (cluster.lastId + 1)))

/-- `_removeNode`.  Without a callback `pool.end` throws the error it comes to. -/
def removeNode (cluster : PoolCluster ρ) (node : Nat) (endError : Option JsError) : Outcome ρ :=
  let id := (cluster.records node).id
  if id ∈ cluster.serviceableNodeIds then
    { cluster := modify (clearFindCaches
        { cluster with
          serviceableNodeIds := cluster.serviceableNodeIds.erase id
          nodes := Function.update cluster.nodes id none })
        node fun record => { record with ended := true }
      outputs := [.unregistered id]
      thrown := endError }
  else
    { cluster := cluster, outputs := [], thrown := none }

section Lookup

variable (regExps : RegExps ρ)

/-- `_findNodeIds(pattern, true)`. -/
def findNodeIds (cluster : PoolCluster ρ) (pattern : Pattern ρ) : PoolCluster ρ × Found :=
  let key := pattern.key regExps
  let foundNodeIds :=
    match cluster.findCaches key, inherited key with
    | some found, _ => found
    | none, some length => .member length
    | none, none => .ids (cluster.serviceableNodeIds.filter (pattern.matchesId regExps))
  -- an assignment to `__proto__` makes no property
  if key = units "__proto__" then
    (cluster, foundNodeIds)
  else
    ({ cluster with findCaches := Function.update cluster.findCaches key (some foundNodeIds) },
      foundNodeIds)

/-- The filter of `_findNodeIds(pattern)`, which throws if it has no array to work on or
comes to an id without a node. -/
def online (cluster : PoolCluster ρ) (currentTime : Int) : Found → Except JsError (List JsString)
  | .member _ => .error (notAFunction "foundNodeIds.filter")
  | .ids foundNodeIds =>
      if foundNodeIds.all (fun nodeId => (cluster.nodes nodeId).isSome) then
        .ok (foundNodeIds.filter fun nodeId =>
          (cluster.nodes nodeId).any fun node =>
            (cluster.records node).offlineUntil = 0 ∨
              (cluster.records node).offlineUntil ≤ currentTime)
      else
        .error JsError.typeError

/-- The loop of `remove` over the ids found. -/
def removeAll (ends : Nat → Option JsError) :
    PoolCluster ρ → List JsString → PoolCluster ρ × List (ClusterOutput ρ)
  | cluster, [] => (cluster, [])
  | cluster, id :: ids =>
      match cluster.nodes id with
      | none => removeAll ends cluster ids
      | some node =>
          let removed := cluster.removeNode node (ends node)
          match removed.thrown with
          | some err => (removed.cluster, removed.outputs ++ [.throw err])
          | none =>
              let rest := removeAll ends removed.cluster ids
              (rest.1, removed.outputs ++ rest.2)

/-- `remove(pattern)`. -/
def remove (cluster : PoolCluster ρ) (pattern : Pattern ρ) (ends : Nat → Option JsError) :
    PoolCluster ρ × List (ClusterOutput ρ) :=
  let found := cluster.findNodeIds regExps pattern
  let removed := removeAll ends found.1 found.2.elements
  (removed.1, .lookup pattern :: removed.2)

/-! ## Connection attempts -/

/-- `_getClusterNode`. -/
def getClusterNode (cluster : PoolCluster ρ) (key : JsString) (space : PoolNamespace ρ)
    (random : Nat) (now : Int) : PoolCluster ρ × Except JsError (Option Nat) :=
  let found := cluster.findNodeIds regExps space.pattern
  match found.1.online now found.2 with
  | .error err => (found.1, .error err)
  | .ok [] => (found.1, .ok none)
  | .ok [nodeId] => (found.1, .ok (found.1.nodes nodeId))
  | .ok foundNodeIds =>
      let selected := space.select random foundNodeIds
      ({ found.1 with namespaces := Function.update found.1.namespaces key (some selected.2) },
        .ok (selected.1.bind found.1.nodes))

/-- How a request goes on. -/
def setRequest (cluster : PoolCluster ρ) (request : Nat) (next : Option Request) : PoolCluster ρ :=
  { cluster with requests := Function.update cluster.requests request next }

/-- `getConnection(cb)` of a namespace, up to the attempt on a node. -/
def connect (cluster : PoolCluster ρ) (request : Nat) (key : JsString) (space : PoolNamespace ρ)
    (random : Nat) (now : Int) : PoolCluster ρ × List (ClusterOutput ρ) :=
  let clusterNode := cluster.getClusterNode regExps key space random now
  match clusterNode.2 with
  | .error err => (clusterNode.1.setRequest request none, [.lookup space.pattern, .throw err])
  | .ok (some node) =>
      (clusterNode.1.setRequest request (some ⟨key, .connecting node⟩),
        [.lookup space.pattern, .attempt request node])
  | .ok none =>
      let found := clusterNode.1.findNodeIds regExps space.pattern
      let err := if found.2.length = some 0 then poolNoExist else poolNoneOnline
      (found.1.setRequest request none,
        [.lookup space.pattern, .lookup space.pattern, .callback request (some err)])

/-- `of(pattern, selector)`, by the selector in upper case, with the key of the
namespace. -/
def namespaceOf (cluster : PoolCluster ρ) (pattern : Pattern ρ) (selector : JsString) :
    PoolCluster ρ × Option (JsString × PoolNamespace ρ) :=
  let pattern :=
    match pattern with
    | .text [] => .text (units "*")
    | pattern => pattern
  let key := pattern.key regExps ++ selector
  match cluster.namespaces key, makeSelector selector with
  | some space, _ => (cluster, some (key, space))
  | none, some selector =>
      let space := { pattern := pattern, selector := selector, index := 0 }
      ({ cluster with namespaces := Function.update cluster.namespaces key (some space) },
        some (key, space))
  | none, none => (cluster, none)

/-- `of` as a call of its own. -/
def of (cluster : PoolCluster ρ) (pattern : Pattern ρ) (selector : JsString) :
    PoolCluster ρ × List (ClusterOutput ρ) :=
  let space := cluster.namespaceOf regExps pattern selector
  (space.1, if space.2.isNone then [.throw (notAFunction "makeSelector[selector]")] else [])

/-- `getConnection(cb)` of a namespace is called. -/
def ask (cluster : PoolCluster ρ) (key : JsString) : PoolCluster ρ :=
  setRequest { cluster with calls := cluster.calls + 1 } cluster.calls (some ⟨key, .retrying⟩)

/-- `getConnection(pattern, selector, cb)`. -/
def getConnection (cluster : PoolCluster ρ) (pattern : Pattern ρ) (selector : JsString)
    (random : Nat) (now : Int) : PoolCluster ρ × List (ClusterOutput ρ) :=
  let space := cluster.namespaceOf regExps pattern selector
  match space.2 with
  | none => (space.1, [.throw (notAFunction "makeSelector[selector]")])
  | some (key, found) =>
      (space.1.ask key).connect regExps space.1.calls key found random now

/-- `_increaseErrorCount`. -/
def increaseErrorCount (config : ClusterConfig) (cluster : PoolCluster ρ) (node : Nat) (now : Int)
    (endError : Option JsError) : Outcome ρ :=
  let counted := cluster.modify node fun record => { record with errorCount := record.errorCount + 1 }
  let errorCount := (cluster.records node).errorCount + 1
  if (errorCount : Int) < config.removeNodeErrorCount then
    { cluster := counted, outputs := [], thrown := none }
  else if 0 < config.restoreNodeTimeout then
    { cluster := counted.modify node fun record =>
        { record with offlineUntil := now + config.restoreNodeTimeout }
      outputs := [.emit .offline node]
      thrown := none }
  else
    let removed := counted.removeNode node endError
    match removed.thrown with
    | some _ => removed
    | none => { removed with outputs := removed.outputs ++ [.emit .remove node] }

/-- `_decreaseErrorCount`. -/
def decreaseErrorCount (config : ClusterConfig) (cluster : PoolCluster ρ) (node : Nat) :
    PoolCluster ρ × List (ClusterOutput ρ) :=
  let errorCount := max 1 (min ((cluster.records node).errorCount : Int) config.removeNodeErrorCount)
  (cluster.modify node fun record =>
      { record with errorCount := (errorCount - 1).toNat, offlineUntil := 0 },
    if (cluster.records node).offlineUntil = 0 then [] else [.emit .online node])

/-- An attempt has succeeded. -/
def connected (config : ClusterConfig) (cluster : PoolCluster ρ) (request : Nat) :
    PoolCluster ρ × List (ClusterOutput ρ) :=
  match cluster.requests request with
  | some ⟨key, .connecting node⟩ =>
      let decreased := cluster.decreaseErrorCount config node
      (decreased.1.setRequest request (some ⟨key, .answered none⟩), decreased.2)
  | _ => (cluster, [])

/-- An attempt has failed. -/
def failed (config : ClusterConfig) (cluster : PoolCluster ρ) (request : Nat) (err : JsError)
    (now : Int) (endError : Option JsError) : PoolCluster ρ × List (ClusterOutput ρ) :=
  match cluster.requests request with
  | some ⟨key, .connecting node⟩ =>
      let increased := cluster.increaseErrorCount config node now endError
      match increased.thrown with
      | some thrown =>
          (increased.cluster.setRequest request none, increased.outputs ++ [.throw thrown])
      | none =>
          (increased.cluster.setRequest request (some ⟨key, .answered (some err)⟩),
            increased.outputs)
  | _ => (cluster, [])

/-- The callback of an attempt. -/
def answer (config : ClusterConfig) (cluster : PoolCluster ρ) (request : Nat) (now : Int) :
    PoolCluster ρ × List (ClusterOutput ρ) :=
  match cluster.requests request with
  | some ⟨_, .answered none⟩ => (cluster.setRequest request none, [.callback request none])
  | some ⟨key, .answered (some err)⟩ =>
      match cluster.namespaces key with
      | some space =>
          if config.canRetry then
            let found := cluster.findNodeIds regExps space.pattern
            match found.1.online now found.2 with
            | .error thrown =>
                (found.1.setRequest request none, [.lookup space.pattern, .throw thrown])
            | .ok [] =>
                (found.1.setRequest request none,
                  [.lookup space.pattern, .callback request (some err)])
            | .ok _ =>
                (found.1.setRequest request (some ⟨key, .retrying⟩),
                  [.lookup space.pattern, .warn err])
          else
            (cluster.setRequest request none, [.callback request (some err)])
      | none => (cluster, [])
  | _ => (cluster, [])

/-- Another attempt, behind the event `warn`. -/
def retry (cluster : PoolCluster ρ) (request random : Nat) (now : Int) :
    PoolCluster ρ × List (ClusterOutput ρ) :=
  match cluster.requests request with
  | some ⟨key, .retrying⟩ =>
      match cluster.namespaces key with
      | some space => cluster.connect regExps request key space random now
      | none => (cluster, [])
  | _ => (cluster, [])

end Lookup

end PoolCluster

/-- What happens to a cluster: calls of its methods, completions of attempts, and what
follows them.  `ends` and `endError` are what a call of `pool.end` throws. -/
inductive ClusterEvent (ρ : Type)
  | add (id : Option JsString)
  | remove (pattern : Pattern ρ) (ends : Nat → Option JsError)
  | find (pattern : Pattern ρ)
  | of (pattern : Pattern ρ) (selector : JsString)
  | getConnection (pattern : Pattern ρ) (selector : JsString) (random : Nat) (now : Int)
  | connected (request : Nat)
  | failed (request : Nat) (err : JsError) (now : Int) (endError : Option JsError)
  | answer (request : Nat) (now : Int)
  | retry (request random : Nat) (now : Int)

namespace PoolCluster

/-- One event. -/
def step (regExps : RegExps ρ) (config : ClusterConfig) :
    Step (PoolCluster ρ) (ClusterEvent ρ) (ClusterOutput ρ)
  | cluster, .add id => cluster.add id
  | cluster, .remove pattern ends => cluster.remove regExps pattern ends
  | cluster, .find pattern => ((cluster.findNodeIds regExps pattern).1, [.lookup pattern])
  | cluster, .of pattern selector => cluster.of regExps pattern selector
  | cluster, .getConnection pattern selector random now =>
      cluster.getConnection regExps pattern selector random now
  | cluster, .connected request => cluster.connected config request
  | cluster, .failed request err now endError => cluster.failed config request err now endError
  | cluster, .answer request now => cluster.answer regExps config request now
  | cluster, .retry request random now => cluster.retry regExps request random now

end PoolCluster

end Mysql2.Pool

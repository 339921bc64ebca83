import Mysql2.Pool.Lookup
import Mysql2.Store.Budget
import Mysql2.Transition.Driven

/-!
# Retries of a cluster

A call of `getConnection` makes attempts on one node after another, as long as they fail
and the pattern matches nodes.  Each failure takes one from what its node can still
bear, and a node that can bear no more is removed.
-/

namespace Mysql2.Pool

open Mysql2.Packets (JsError)
open Mysql2.Script
open Mysql2.Store
open Mysql2.Transition

variable {ρ : Type}

/-- What a cluster meets while attempts fail: the errors, random numbers and times by the
number of the attempt, and what `pool.end` throws for a node. -/
structure Failures where
  err : Nat → JsError
  random : Nat → Nat
  now : Nat → Int
  ends : Nat → Option JsError

/-- An attempt on a node. -/
def ClusterOutput.isAttempt : ClusterOutput ρ → Bool
  | .attempt _ _ => true
  | _ => false

/-- What a callback is called with. -/
def ClusterOutput.calledWith : ClusterOutput ρ → Option (Option JsError)
  | .callback _ err => some err
  | _ => none

namespace PoolCluster

/-- What happens next to a request whose attempts fail, with the number of the next
attempt. -/
def fails (failures : Failures) (request : Nat) : Driver (PoolCluster ρ) (ClusterEvent ρ) Nat :=
  fun attempt cluster =>
    match cluster.requests request with
    | none => none
    | some ⟨_, .retrying⟩ =>
        some (.retry request (failures.random attempt) (failures.now attempt), attempt + 1)
    | some ⟨_, .connecting node⟩ =>
        some (.failed request (failures.err attempt) (failures.now attempt) (failures.ends node),
          attempt)
    | some ⟨_, .answered _⟩ => some (.answer request (failures.now attempt), attempt)

/-- The failures a node can bear: `max(1, removeNodeErrorCount - errorCount)`. -/
def budget (config : ClusterConfig) (cluster : PoolCluster ρ) (node : Nat) : Nat :=
  (max 1 (config.removeNodeErrorCount - (cluster.records node).errorCount)).toNat

/-- The failures that the registered nodes which match can bear. -/
def budgetOf (config : ClusterConfig) (cluster : PoolCluster ρ) (isMatch : JsString → Bool) : Nat :=
  total cluster.registeredNodes fun node =>
    if isMatch (cluster.records node).id then budget config cluster node else 0

/-- The failures that the node under an id can bear. -/
def idBudget (config : ClusterConfig) (cluster : PoolCluster ρ) (id : JsString) : Nat :=
  (cluster.nodes id).elim 1 (budget config cluster)

section Request

variable (regExps : RegExps ρ) (config : ClusterConfig) (failures : Failures) (request : Nat)

/-- All attempts of the request fail, no more than a number of them are made, and the
callback is called once, with an error. -/
def FailsWithin (attempt bound : Nat) (cluster : PoolCluster ρ) : Prop :=
  ∃ outputs, Drives (step regExps config) (fails failures request) attempt cluster outputs ∧
    outputs.countP ClusterOutput.isAttempt ≤ bound ∧
    ∃ err, outputs.filterMap ClusterOutput.calledWith = [some err]

/-- The ids that a lookup has for a pattern: those in the cache, or those that match. -/
def lookedUpIds (cluster : PoolCluster ρ) (pattern : Pattern ρ) : List JsString :=
  match cluster.findCaches (pattern.key regExps) with
  | some found => found.elements
  | none => cluster.matchingIds regExps pattern

/-- The id that the selector takes for an attempt, if it always takes one of the same ids. -/
def selected (space : PoolNamespace ρ) (attempt : Nat) (ids : List JsString) (count : Nat) :
    JsString :=
  (({ space with index := space.index + count }.select (failures.random (attempt + count))
    ids).1).getD []

end Request

/-! ## Steps of a request -/

section Steps

variable {regExps : RegExps ρ} {config : ClusterConfig} {failures : Failures} {request : Nat}
  {attempt later bound : Nat} {cluster : PoolCluster ρ} {event : ClusterEvent ρ}

variable (regExps config) in
theorem failsWithin_step
    (chosen : fails failures request attempt cluster = some (event, later))
    (noCallback : (step regExps config cluster event).2.filterMap ClusterOutput.calledWith = []) :
    FailsWithin regExps config failures request attempt bound cluster ↔
      (step regExps config cluster event).2.countP ClusterOutput.isAttempt ≤ bound ∧
        FailsWithin regExps config failures request later
          (bound - (step regExps config cluster event).2.countP ClusterOutput.isAttempt)
          (step regExps config cluster event).1 := by
  constructor
  · rintro ⟨outputs, drives, within, err, called⟩
    obtain ⟨rest, drivesRest, rfl⟩ := (Drives.step_iff chosen).mp drives
    rw [List.countP_append] at within
    rw [List.filterMap_append, noCallback, List.nil_append] at called
    exact ⟨by omega, rest, drivesRest, by omega, err, called⟩
  · rintro ⟨enough, rest, drivesRest, within, err, called⟩
    refine ⟨_, .step chosen drivesRest, ?_, err, ?_⟩
    · rw [List.countP_append]
      omega
    · rw [List.filterMap_append, noCallback, List.nil_append]
      exact called

variable (regExps config) in
theorem failsWithin_last
    (chosen : fails failures request attempt cluster = some (event, later))
    (gone : (step regExps config cluster event).1.requests request = none)
    (noAttempt : (step regExps config cluster event).2.countP ClusterOutput.isAttempt = 0) :
    FailsWithin regExps config failures request attempt bound cluster ↔
      ∃ err, (step regExps config cluster event).2.filterMap ClusterOutput.calledWith = [some err] := by
  have stops : fails failures request later (step regExps config cluster event).1 = none := by
    rw [fails, gone]
  constructor
  · rintro ⟨outputs, drives, within, err, called⟩
    obtain ⟨rest, drivesRest, rfl⟩ := (Drives.step_iff chosen).mp drives
    rw [(Drives.stop_iff stops).mp drivesRest, List.append_nil] at called
    exact ⟨err, called⟩
  · rintro ⟨err, called⟩
    refine ⟨_, .step chosen (.stop stops), ?_, err, ?_⟩
    · rw [List.append_nil, noAttempt]
      exact Nat.zero_le bound
    · rw [List.append_nil]
      exact called

end Steps

/-! ## Requests -/

/-- The nodes and their registrations are the same. -/
structure SameNodes (cluster other : PoolCluster ρ) : Prop where
  nodes : other.nodes = cluster.nodes
  serviceableNodeIds : other.serviceableNodeIds = cluster.serviceableNodeIds
  records : other.records = cluster.records
  created : other.created = cluster.created

/-- A request of a namespace, in a cluster whose nodes are online and where the cache has
registered ids for the pattern. -/
structure Asking (regExps : RegExps ρ) (request : Nat) (key : JsString) (progress : Progress)
    (space : PoolNamespace ρ) (cluster : PoolCluster ρ) : Prop where
  sound : Sound cluster
  online : ∀ node, (cluster.records node).offlineUntil = 0
  own : inherited (space.pattern.key regExps) = none
  cached : ∀ found, cluster.findCaches (space.pattern.key regExps) = some found →
    ∃ ids, found = .ids ids ∧ ∀ id ∈ ids, id ∈ cluster.registeredIds
  spaceIs : cluster.namespaces key = some space
  asked : cluster.requests request = some ⟨key, progress⟩

namespace SameNodes

variable {cluster other : PoolCluster ρ}

theorem registeredNodes (same : SameNodes cluster other) :
    other.registeredNodes = cluster.registeredNodes := by
  simp only [PoolCluster.registeredNodes, same.nodes, same.records, same.created]

theorem registeredIds (same : SameNodes cluster other) :
    other.registeredIds = cluster.registeredIds := by
  simp only [PoolCluster.registeredIds, same.registeredNodes, same.records]

theorem sound (same : SameNodes cluster other) (sound : Sound cluster) : Sound other := by
  constructor
  · rw [same.nodes, same.created]
    exact sound.created
  · rw [same.nodes, same.records]
    exact sound.named
  · rw [same.nodes]
    exact sound.own
  · rw [same.serviceableNodeIds, same.registeredIds]
    exact sound.listed

theorem budgetOf (same : SameNodes cluster other) (config : ClusterConfig)
    (isMatch : JsString → Bool) : other.budgetOf config isMatch = cluster.budgetOf config isMatch := by
  simp only [PoolCluster.budgetOf, budget, same.registeredNodes, same.records]

theorem idBudget (same : SameNodes cluster other) (config : ClusterConfig) :
    other.idBudget config = cluster.idBudget config := by
  funext id
  simp only [PoolCluster.idBudget, same.nodes]
  congr 1
  funext node
  simp only [budget, same.records]

end SameNodes

namespace Asking

variable {regExps : RegExps ρ} {config : ClusterConfig} {failures : Failures} {request : Nat}
  {key : JsString} {progress : Progress} {space : PoolNamespace ρ} {cluster : PoolCluster ρ}

theorem lookedUp_registered (asking : Asking regExps request key progress space cluster)
    {id : JsString} (member : id ∈ cluster.lookedUpIds regExps space.pattern) :
    ∃ node, cluster.nodes id = some node := by
  apply asking.sound.mem_registeredIds.mp
  rw [lookedUpIds] at member
  cases cached : cluster.findCaches (space.pattern.key regExps) with
  | some found =>
      obtain ⟨ids, rfl, registered⟩ := asking.cached found cached
      rw [cached] at member
      exact registered id member
  | none =>
      rw [cached] at member
      exact List.mem_of_mem_filter member

theorem findNodeIds (asking : Asking regExps request key progress space cluster) :
    (cluster.findNodeIds regExps space.pattern).2 =
      .ids (cluster.lookedUpIds regExps space.pattern) := by
  rw [findNodeIds_snd, asking.own, lookedUpIds]
  cases cached : cluster.findCaches (space.pattern.key regExps) with
  | some found =>
      obtain ⟨ids, rfl, _⟩ := asking.cached found cached
      rfl
  | none =>
      dsimp only
      rw [asking.sound.listed]
      rfl

theorem findCaches (asking : Asking regExps request key progress space cluster) :
    (cluster.findNodeIds regExps space.pattern).1.findCaches (space.pattern.key regExps) =
      some (.ids (cluster.lookedUpIds regExps space.pattern)) := by
  have notProto : space.pattern.key regExps ≠ units "__proto__" := by
    intro isProto
    have own := asking.own
    rw [isProto] at own
    exact absurd own (by decide)
  rw [findCaches_findNodeIds, if_neg notProto, Function.update_self, asking.findNodeIds]

variable (regExps request key) in
/-- A request behind a lookup of its pattern, with a selector that may have been used. -/
def goOn (progress : Progress) (space next : PoolNamespace ρ) (cluster : PoolCluster ρ) :
    PoolCluster ρ :=
  let found := (cluster.findNodeIds regExps space.pattern).1
  setRequest { found with namespaces := Function.update found.namespaces key (some next) } request
    (some ⟨key, progress⟩)

variable (regExps request key) in
theorem sameNodes_goOn (progress : Progress) (space next : PoolNamespace ρ)
    (cluster : PoolCluster ρ) :
    SameNodes cluster (goOn regExps request key progress space next cluster) where
  nodes := nodes_findNodeIds ..
  serviceableNodeIds := serviceableNodeIds_findNodeIds ..
  records := records_findNodeIds ..
  created := created_findNodeIds ..

theorem goOn_asking (asking : Asking regExps request key progress space cluster)
    {next : PoolNamespace ρ} (samePattern : next.pattern = space.pattern) (after : Progress) :
    Asking regExps request key after next (goOn regExps request key after space next cluster) := by
  have same : SameNodes cluster (goOn regExps request key after space next cluster) :=
    sameNodes_goOn regExps request key after space next cluster
  constructor
  · exact same.sound asking.sound
  · intro node
    rw [same.records]
    exact asking.online node
  · rw [samePattern]
    exact asking.own
  · intro found isCached
    rw [samePattern] at isCached
    have foundEq := isCached.symm.trans asking.findCaches
    refine ⟨_, Option.some.inj foundEq, ?_⟩
    intro id member
    rw [same.registeredIds]
    exact asking.sound.mem_registeredIds.mpr (asking.lookedUp_registered member)
  · exact Function.update_self ..
  · exact Function.update_self ..

theorem goOn_lookedUpIds (asking : Asking regExps request key progress space cluster)
    {next : PoolNamespace ρ} (samePattern : next.pattern = space.pattern) (after : Progress) :
    (goOn regExps request key after space next cluster).lookedUpIds regExps next.pattern =
      cluster.lookedUpIds regExps space.pattern := by
  have cached : (goOn regExps request key after space next cluster).findCaches
      (space.pattern.key regExps) = some (.ids (cluster.lookedUpIds regExps space.pattern)) :=
    asking.findCaches
  rw [samePattern, lookedUpIds, cached]
  rfl

/-- All ids are online. -/
theorem online_lookedUp (asking : Asking regExps request key progress space cluster) (now : Int) :
    (cluster.findNodeIds regExps space.pattern).1.online now
        (.ids (cluster.lookedUpIds regExps space.pattern)) =
      .ok (cluster.lookedUpIds regExps space.pattern) := by
  have registered : ∀ id ∈ cluster.lookedUpIds regExps space.pattern,
      ∃ node, cluster.nodes id = some node := fun id member => asking.lookedUp_registered member
  have allRegistered : (cluster.lookedUpIds regExps space.pattern).all fun nodeId =>
      (cluster.nodes nodeId).isSome := by
    apply List.all_eq_true.mpr
    intro id member
    obtain ⟨node, found⟩ := registered id member
    rw [found]
    rfl
  rw [PoolCluster.online, nodes_findNodeIds, if_pos allRegistered, records_findNodeIds]
  congr 1
  apply List.filter_eq_self.mpr
  intro id member
  obtain ⟨node, found⟩ := registered id member
  simp [found, asking.online node]

/-! ## The draw of a node -/

theorem select_of_length_one {ids : List JsString} (one : ids.length = 1)
    (space : PoolNamespace ρ) (random : Nat) : (space.select random ids).1 = ids[0]? := by
  rw [PoolNamespace.select]
  cases space.selector <;> simp [one, Nat.mod_one]

theorem select_isSome {ids : List JsString} (nonempty : ids ≠ []) (space : PoolNamespace ρ)
    (random : Nat) : ∃ id ∈ ids, (space.select random ids).1 = some id := by
  have positive := List.length_pos_of_ne_nil nonempty
  have drawn : ∀ index, index < ids.length → ∃ id ∈ ids, ids[index]? = some id := by
    intro index within
    exact ⟨ids[index], List.getElem_mem within, List.getElem?_eq_getElem within⟩
  rw [PoolNamespace.select]
  cases space.selector with
  | RR => exact drawn _ (Nat.mod_lt _ positive)
  | RANDOM => exact drawn _ (Nat.mod_lt _ positive)
  | ORDER => exact drawn 0 positive

variable (failures) in
theorem selected_mem {ids : List JsString} (nonempty : ids ≠ []) (space : PoolNamespace ρ)
    (attempt count : Nat) : selected failures space attempt ids count ∈ ids := by
  obtain ⟨id, member, isSelected⟩ := select_isSome nonempty
    { space with index := space.index + count } (failures.random (attempt + count))
  rw [selected, isSelected]
  exact member

variable (failures) in
theorem selected_zero {ids : List JsString} (nonempty : ids ≠ []) (space : PoolNamespace ρ)
    (attempt : Nat) :
    (space.select (failures.random attempt) ids).1 =
      some (selected failures space attempt ids 0) := by
  obtain ⟨id, _, isSelected⟩ := select_isSome nonempty space (failures.random attempt)
  rw [selected]
  show _ = some ((space.select (failures.random attempt) ids).1.getD [])
  rw [isSelected]
  rfl

/-- The selector goes on behind the id it takes. -/
theorem selected_select (space : PoolNamespace ρ) (attempt count : Nat) (ids : List JsString) :
    selected failures (space.select (failures.random attempt) ids).2 (attempt + 1) ids count =
      selected failures space attempt ids (count + 1) := by
  have later : attempt + 1 + count = attempt + (count + 1) := by omega
  rw [selected, selected, later]
  cases isSelector : space.selector with
  | RR =>
      have index : space.index + 1 + count = space.index + (count + 1) := by omega
      simp [PoolNamespace.select, isSelector, index]
  | RANDOM => simp [PoolNamespace.select, isSelector]
  | ORDER => simp [PoolNamespace.select, isSelector]

variable (failures) in
/-- `_getClusterNode` takes the node of an id, and the selector goes on from there. -/
theorem getClusterNode_eq (asking : Asking regExps request key progress space cluster)
    (nonempty : cluster.lookedUpIds regExps space.pattern ≠ []) (attempt : Nat) (now : Int) :
    ∃ next : PoolNamespace ρ, next.pattern = space.pattern ∧
      (∀ count,
        selected failures next (attempt + 1) (cluster.lookedUpIds regExps space.pattern) count =
          selected failures space attempt (cluster.lookedUpIds regExps space.pattern)
            (count + 1)) ∧
      cluster.getClusterNode regExps key space (failures.random attempt) now =
        ({ (cluster.findNodeIds regExps space.pattern).1 with
            namespaces := Function.update (cluster.findNodeIds regExps space.pattern).1.namespaces
              key (some next) },
          .ok (cluster.nodes
            (selected failures space attempt (cluster.lookedUpIds regExps space.pattern) 0))) := by
  have online := asking.online_lookedUp now
  have zero := selected_zero failures nonempty space attempt
  rw [getClusterNode, asking.findNodeIds]
  dsimp only
  rw [online]
  have nodesEq := nodes_findNodeIds regExps cluster space.pattern
  generalize cluster.lookedUpIds regExps space.pattern = ids at nonempty zero
  rcases ids with _ | ⟨id, _ | ⟨other, rest⟩⟩
  · exact absurd rfl nonempty
  · have one : ∀ (any : PoolNamespace ρ) (attempt count : Nat),
        selected failures any attempt [id] count = id := by
      intro any attempt count
      rw [selected, select_of_length_one rfl]
      rfl
    refine ⟨space, rfl, ?_, ?_⟩
    · intro count
      rw [one, one]
    · have unchanged : Function.update (cluster.findNodeIds regExps space.pattern).1.namespaces key
          (some space) = (cluster.findNodeIds regExps space.pattern).1.namespaces := by
        rw [← asking.spaceIs, ← namespaces_findNodeIds regExps cluster space.pattern,
          Function.update_eq_self]
      rw [one, unchanged]
      exact Prod.ext rfl (congrArg (fun nodes => Except.ok (nodes id)) nodesEq)
  · refine ⟨(space.select (failures.random attempt) (id :: other :: rest)).2, ?_, ?_, ?_⟩
    · rw [PoolNamespace.select]
      cases space.selector <;> rfl
    · exact fun count => selected_select space attempt count _
    · refine Prod.ext rfl ?_
      show Except.ok ((space.select (failures.random attempt) (id :: other :: rest)).1.bind
        (cluster.findNodeIds regExps space.pattern).1.nodes) = _
      rw [zero, nodesEq]
      rfl

/-! ## The events of a request -/

variable (failures) in
/-- An attempt is made on the node of the id drawn. -/
theorem retry_eq (asking : Asking regExps request key .retrying space cluster)
    (nonempty : cluster.lookedUpIds regExps space.pattern ≠ []) (attempt : Nat) (now : Int) :
    ∃ (next : PoolNamespace ρ) (node : Nat), next.pattern = space.pattern ∧
      (∀ count,
        selected failures next (attempt + 1) (cluster.lookedUpIds regExps space.pattern) count =
          selected failures space attempt (cluster.lookedUpIds regExps space.pattern)
            (count + 1)) ∧
      cluster.nodes
        (selected failures space attempt (cluster.lookedUpIds regExps space.pattern) 0) =
          some node ∧
      cluster.retry regExps request (failures.random attempt) now =
        (goOn regExps request key (.connecting node) space next cluster,
          [.lookup space.pattern, .attempt request node]) := by
  obtain ⟨next, samePattern, later, taken⟩ :=
    asking.getClusterNode_eq failures nonempty attempt now
  obtain ⟨node, found⟩ := asking.lookedUp_registered
    (selected_mem failures nonempty space attempt 0)
  refine ⟨next, node, samePattern, later, found, ?_⟩
  rw [retry, asking.asked]
  dsimp only
  rw [asking.spaceIs]
  dsimp only
  rw [connect, taken, found]
  rfl

/-- Without a node that matches the callback gets an error. -/
theorem retry_empty (asking : Asking regExps request key .retrying space cluster)
    (empty : cluster.lookedUpIds regExps space.pattern = []) (random : Nat) (now : Int) :
    ∃ next err, next.requests request = none ∧
      cluster.retry regExps request random now =
        (next, [.lookup space.pattern, .lookup space.pattern, .callback request (some err)]) := by
  have online := asking.online_lookedUp now
  rw [empty] at online
  have taken : cluster.getClusterNode regExps key space random now =
      ((cluster.findNodeIds regExps space.pattern).1, .ok none) := by
    rw [getClusterNode, asking.findNodeIds, empty]
    dsimp only
    rw [online]
  rw [retry, asking.asked]
  dsimp only
  rw [asking.spaceIs]
  dsimp only
  rw [connect, taken]
  exact ⟨_, _, Function.update_self .., rfl⟩

/-- Another attempt follows if there is still a node. -/
theorem answer_eq {err : JsError}
    (asking : Asking regExps request key (.answered (some err)) space cluster)
    (retries : config.canRetry = true) (now : Int) :
    if cluster.lookedUpIds regExps space.pattern = [] then
      (cluster.answer regExps config request now).1.requests request = none ∧
        (cluster.answer regExps config request now).2 =
          [.lookup space.pattern, .callback request (some err)]
    else
      cluster.answer regExps config request now =
        (goOn regExps request key .retrying space space cluster,
          [.lookup space.pattern, .warn err]) := by
  have online := asking.online_lookedUp now
  have unchanged : Function.update (cluster.findNodeIds regExps space.pattern).1.namespaces key
      (some space) = (cluster.findNodeIds regExps space.pattern).1.namespaces := by
    rw [← asking.spaceIs, ← namespaces_findNodeIds regExps cluster space.pattern,
      Function.update_eq_self]
  rw [answer, asking.asked]
  dsimp only
  rw [asking.spaceIs]
  dsimp only
  rw [if_pos retries, asking.findNodeIds, online]
  cases found : cluster.lookedUpIds regExps space.pattern with
  | nil =>
      rw [if_pos rfl]
      exact ⟨Function.update_self .., rfl⟩
  | cons id ids =>
      rw [if_neg (List.cons_ne_nil id ids), goOn]
      dsimp only
      rw [unchanged]

end Asking

/-- A node can bear one failure less. -/
structure Bears (config : ClusterConfig) (cluster next : PoolCluster ρ) (node : Nat) : Prop where
  nodes : next.nodes = cluster.nodes
  registeredNodes : next.registeredNodes = cluster.registeredNodes
  ids : ∀ other, (next.records other).id = (cluster.records other).id
  budget : budget config next =
    Function.update (budget config cluster) node (budget config cluster node - 1)

/-- A node has left the cluster. -/
structure Gone (config : ClusterConfig) (cluster next : PoolCluster ρ) (node : Nat) : Prop where
  registeredNodes : next.registeredNodes = cluster.registeredNodes.erase node
  ids : ∀ other, (next.records other).id = (cluster.records other).id
  budget : ∀ other, other ≠ node → budget config next other = budget config cluster other

section Budgets

variable {config : ClusterConfig} {cluster next : PoolCluster ρ} {node : Nat}

theorem nodup_registeredNodes (cluster : PoolCluster ρ) : cluster.registeredNodes.Nodup :=
  List.nodup_range.filter _

theorem budget_pos (config : ClusterConfig) (cluster : PoolCluster ρ) (node : Nat) :
    0 < budget config cluster node := by
  rw [budget]
  omega

theorem Bears.budgetOf (bears : Bears config cluster next node)
    (registered : node ∈ cluster.registeredNodes) (isMatch : JsString → Bool) :
    next.budgetOf config isMatch + (if isMatch (cluster.records node).id then 1 else 0) =
      cluster.budgetOf config isMatch := by
  have weight : (fun other => if isMatch (next.records other).id then
        PoolCluster.budget config next other else 0) =
      Function.update
        (fun other => if isMatch (cluster.records other).id then
          PoolCluster.budget config cluster other else 0)
        node (if isMatch (cluster.records node).id then
          PoolCluster.budget config cluster node - 1 else 0) := by
    funext other
    rw [bears.ids, bears.budget]
    by_cases same : other = node
    · subst same
      simp
    · simp [same]
  have changed := total_update (nodup_registeredNodes cluster) registered
    (fun other => if isMatch (cluster.records other).id then
      PoolCluster.budget config cluster other else 0)
    (if isMatch (cluster.records node).id then PoolCluster.budget config cluster node - 1 else 0)
  have positive := budget_pos config cluster node
  rw [PoolCluster.budgetOf, PoolCluster.budgetOf, bears.registeredNodes, weight]
  by_cases matched : isMatch (cluster.records node).id = true
  · simp only [if_pos matched] at changed ⊢
    omega
  · simp only [if_neg matched] at changed ⊢
    omega

theorem Gone.budgetOf (gone : Gone config cluster next node)
    (registered : node ∈ cluster.registeredNodes) (isMatch : JsString → Bool) :
    next.budgetOf config isMatch +
        (if isMatch (cluster.records node).id then PoolCluster.budget config cluster node else 0) =
      cluster.budgetOf config isMatch := by
  have others : total (cluster.registeredNodes.erase node)
        (fun other => if isMatch (next.records other).id then
          PoolCluster.budget config next other else 0) =
      total (cluster.registeredNodes.erase node)
        (fun other => if isMatch (cluster.records other).id then
          PoolCluster.budget config cluster other else 0) := by
    apply total_congr
    intro other isOther
    rw [gone.ids, gone.budget other ((nodup_registeredNodes cluster).mem_erase_iff.mp isOther).1]
  rw [PoolCluster.budgetOf, gone.registeredNodes, others]
  exact total_erase registered _

end Budgets

/-! ## Failures -/

section Failing

variable {regExps : RegExps ρ} {config : ClusterConfig} {failures : Failures} {request : Nat}
  {key : JsString} {space : PoolNamespace ρ} {cluster : PoolCluster ρ} {node : Nat}

/-- A failure has been counted. -/
def counted (cluster : PoolCluster ρ) (node : Nat) : PoolCluster ρ :=
  cluster.modify node fun record => { record with errorCount := record.errorCount + 1 }

/-- A node has been removed for a failure. -/
def removed (cluster : PoolCluster ρ) (node : Nat) : PoolCluster ρ :=
  ((cluster.counted node).unregister (cluster.records node).id).modify node fun record =>
    { record with ended := true }

theorem keeps_count (config : ClusterConfig) :
    Keeps config fun record => { record with errorCount := record.errorCount + 1 } :=
  ⟨fun _ => rfl, fun _ _ online => online⟩

theorem keeps_ended (config : ClusterConfig) :
    Keeps config fun record => { record with ended := true } :=
  ⟨fun _ => rfl, fun _ _ online => online⟩

theorem registeredNodes_modify {change : Node → Node} (keeps : Keeps config change)
    (cluster : PoolCluster ρ) (node : Nat) :
    (cluster.modify node change).registeredNodes = cluster.registeredNodes := by
  simp only [registeredNodes, id_modify keeps]
  rfl

theorem online_modify {change : Node → Node} (keeps : Keeps config change)
    (never : config.restoreNodeTimeout ≤ 0)
    (online : ∀ node, (cluster.records node).offlineUntil = 0) (node other : Nat) :
    ((cluster.modify node change).records other).offlineUntil = 0 := by
  by_cases same : other = node
  · subst same
    simpa [modify] using keeps.online never _ (online other)
  · simpa [modify, same] using online other

theorem registeredNodes_unregister (registered : cluster.Registered node) :
    (cluster.unregister (cluster.records node).id).registeredNodes =
      cluster.registeredNodes.erase node := by
  rw [(nodup_registeredNodes cluster).erase_eq_filter]
  simp only [registeredNodes, unregister, clearFindCaches, List.filter_filter]
  apply List.filter_congr
  intro other _
  by_cases same : other = node
  · subst same
    simp
  · by_cases sameId : (cluster.records other).id = (cluster.records node).id
    · have notOther : cluster.nodes (cluster.records node).id ≠ some other := by
        rw [registered]
        simpa using Ne.symm same
      simp [sameId, notOther]
    · simp [sameId, same]

theorem increaseErrorCount_counted (more : 1 < budget config cluster node) (now : Int)
    (endError : Option JsError) :
    increaseErrorCount config cluster node now endError =
      { cluster := cluster.counted node, outputs := [], thrown := none } := by
  have below :
      (((cluster.records node).errorCount + 1 : Nat) : Int) < config.removeNodeErrorCount := by
    rw [budget] at more
    omega
  rw [increaseErrorCount]
  dsimp only
  rw [if_pos below]
  rfl

theorem increaseErrorCount_removed (sound : Sound cluster) (registered : cluster.Registered node)
    (last : budget config cluster node = 1) (never : config.restoreNodeTimeout ≤ 0) (now : Int)
    (endError : Option JsError) :
    increaseErrorCount config cluster node now endError =
      { cluster := cluster.removed node
        outputs := .unregistered (cluster.records node).id ::
          if endError = none then [.emit .remove node] else []
        thrown := endError } := by
  have reached :
      ¬(((cluster.records node).errorCount + 1 : Nat) : Int) < config.removeNodeErrorCount := by
    rw [budget] at last
    omega
  have sameId : ((cluster.counted node).records node).id = (cluster.records node).id :=
    id_modify (keeps_count config) cluster node node
  have listed : (cluster.records node).id ∈ (cluster.counted node).serviceableNodeIds := by
    show (cluster.records node).id ∈ cluster.serviceableNodeIds
    rw [sound.listed]
    exact sound.mem_registeredIds.mpr ⟨node, registered⟩
  have removeEq : (cluster.counted node).removeNode node endError =
      { cluster := cluster.removed node
        outputs := [.unregistered (cluster.records node).id]
        thrown := endError } := by
    rw [removeNode, sameId, if_pos listed]
    rfl
  rw [increaseErrorCount]
  dsimp only
  rw [if_neg reached, if_neg (Int.not_lt.mpr never)]
  rw [← counted, removeEq]
  cases endError <;> rfl

/-- A request goes on in a changed cluster. -/
theorem Asking.setRequest {progress : Progress}
    (asking : Asking regExps request key progress space cluster) {next : PoolCluster ρ}
    (sound : Sound next) (online : ∀ node, (next.records node).offlineUntil = 0)
    (cached : ∀ found, next.findCaches (space.pattern.key regExps) = some found →
      ∃ ids, found = .ids ids ∧ ∀ id ∈ ids, id ∈ next.registeredIds)
    (spaces : next.namespaces = cluster.namespaces) (after : Progress) :
    Asking regExps request key after space (next.setRequest request (some ⟨key, after⟩)) where
  sound :=
    have same : SameNodes next (next.setRequest request (some ⟨key, after⟩)) :=
      ⟨rfl, rfl, rfl, rfl⟩
    same.sound sound
  online := online
  own := asking.own
  cached := cached
  spaceIs := (congrFun spaces key).trans asking.spaceIs
  asked := Function.update_self ..

theorem budget_counted (config : ClusterConfig) (cluster : PoolCluster ρ) (node : Nat)
    (more : 1 < budget config cluster node) :
    budget config (cluster.counted node) =
      Function.update (budget config cluster) node (budget config cluster node - 1) := by
  funext other
  by_cases same : other = node
  · subst same
    rw [Function.update_self]
    simp only [budget, counted, modify, Function.update_self] at more ⊢
    omega
  · rw [Function.update_of_ne same]
    simp [budget, counted, modify, same]

/-- A failure that the node can bear. -/
theorem failed_bears (asking : Asking regExps request key (.connecting node) space cluster)
    (more : 1 < budget config cluster node) (never : config.restoreNodeTimeout ≤ 0)
    (err : JsError) (now : Int) (endError : Option JsError) :
    ∃ next, cluster.failed config request err now endError = (next, []) ∧
      Asking regExps request key (.answered (some err)) space next ∧
      Bears config cluster next node ∧
      next.lookedUpIds regExps space.pattern = cluster.lookedUpIds regExps space.pattern := by
  have sameIds : (cluster.counted node).registeredIds = cluster.registeredIds :=
    registeredIds_modify (keeps_count config) cluster node
  refine ⟨(cluster.counted node).setRequest request (some ⟨key, .answered (some err)⟩),
    ?_, ?_, ?_, ?_⟩
  · rw [failed, asking.asked]
    dsimp only
    rw [increaseErrorCount_counted more]
  · apply asking.setRequest
    · exact asking.sound.modify (keeps_count config) node
    · exact online_modify (keeps_count config) never asking.online node
    · rw [sameIds]
      exact asking.cached
    · rfl
  · constructor
    · rfl
    · exact registeredNodes_modify (keeps_count config) cluster node
    · exact id_modify (keeps_count config) cluster node
    · exact budget_counted config cluster node more
  · show (match cluster.findCaches (space.pattern.key regExps) with
      | some found => found.elements
      | none => (cluster.counted node).registeredIds.filter (space.pattern.matchesId regExps)) = _
    rw [sameIds]
    rfl

/-- A failure that the node cannot bear. -/
theorem failed_removes (asking : Asking regExps request key (.connecting node) space cluster)
    (registered : cluster.Registered node) (last : budget config cluster node = 1)
    (never : config.restoreNodeTimeout ≤ 0) (err : JsError) (now : Int) :
    ∃ next, cluster.failed config request err now none =
        (next, [.unregistered (cluster.records node).id, .emit .remove node]) ∧
      Asking regExps request key (.answered (some err)) space next ∧
      Gone config cluster next node ∧
      next.lookedUpIds regExps space.pattern = next.matchingIds regExps space.pattern := by
  have soundCounted : Sound (cluster.counted node) :=
    asking.sound.modify (keeps_count config) node
  have registeredCounted : (cluster.counted node).Registered node := by
    rw [Registered, counted, id_modify (keeps_count config)]
    exact registered
  have sameId : ((cluster.counted node).records node).id = (cluster.records node).id :=
    id_modify (keeps_count config) cluster node node
  refine ⟨(cluster.removed node).setRequest request (some ⟨key, .answered (some err)⟩),
    ?_, ?_, ?_, ?_⟩
  · rw [failed, asking.asked]
    dsimp only
    rw [increaseErrorCount_removed asking.sound registered last never]
    rfl
  · apply asking.setRequest
    · exact (soundCounted.unregister _).modify (keeps_ended config) node
    · apply online_modify (keeps_ended config) never
      exact online_modify (keeps_count config) never asking.online node
    · rintro found ⟨⟩
    · rfl
  · constructor
    · show (cluster.removed node).registeredNodes = _
      rw [removed, registeredNodes_modify (keeps_ended config), ← sameId,
        registeredNodes_unregister registeredCounted, counted,
        registeredNodes_modify (keeps_count config)]
    · intro other
      exact (id_modify (keeps_ended config) _ node other).trans
        (id_modify (keeps_count config) cluster node other)
    · intro other different
      simp [budget, setRequest, removed, unregister, clearFindCaches, counted, modify, different]
  · rfl

/-- A failure that the node cannot bear, whose pool throws when it is ended. -/
theorem failed_throws (asking : Asking regExps request key (.connecting node) space cluster)
    (registered : cluster.Registered node) (last : budget config cluster node = 1)
    (never : config.restoreNodeTimeout ≤ 0) (err thrown : JsError) (now : Int) :
    (cluster.failed config request err now (some thrown)).1.requests request = none ∧
      (cluster.failed config request err now (some thrown)).2 =
        [.unregistered (cluster.records node).id, .throw thrown] := by
  rw [failed, asking.asked]
  dsimp only
  rw [increaseErrorCount_removed asking.sound registered last never]
  exact ⟨Function.update_self .., rfl⟩

/-! ## Rounds -/

variable {attempt bound : Nat}

theorem failsWithin_empty (asking : Asking regExps request key .retrying space cluster)
    (empty : cluster.lookedUpIds regExps space.pattern = []) :
    FailsWithin regExps config failures request attempt bound cluster := by
  obtain ⟨next, err, gone, retried⟩ :=
    asking.retry_empty empty (failures.random attempt) (failures.now attempt)
  have chosen : fails failures request attempt cluster =
      some (.retry request (failures.random attempt) (failures.now attempt), attempt + 1) := by
    rw [fails, asking.asked]
  apply (failsWithin_last regExps config chosen ?_ ?_).mpr
  · rw [step, retried]
    exact ⟨err, rfl⟩
  · rw [step, retried]
    exact gone
  · rw [step, retried]
    rfl

theorem failsWithin_answered {err : JsError} (retries : config.canRetry = true)
    (asking : Asking regExps request key (.answered (some err)) space cluster) :
    FailsWithin regExps config failures request attempt bound cluster ↔
      FailsWithin regExps config failures request attempt bound
        (Asking.goOn regExps request key .retrying space space cluster) := by
  have chosen : fails failures request attempt cluster =
      some (.answer request (failures.now attempt), attempt) := by
    rw [fails, asking.asked]
  have answered := asking.answer_eq retries (failures.now attempt)
  by_cases empty : cluster.lookedUpIds regExps space.pattern = []
  · rw [if_pos empty] at answered
    obtain ⟨gone, outputs⟩ := answered
    constructor
    · intro _
      apply failsWithin_empty (asking.goOn_asking rfl .retrying)
      rw [asking.goOn_lookedUpIds rfl]
      exact empty
    · intro _
      apply (failsWithin_last regExps config chosen gone ?_).mpr
      · rw [step, outputs]
        exact ⟨err, rfl⟩
      · rw [step, outputs]
        rfl
  · rw [if_neg empty] at answered
    rw [failsWithin_step regExps config chosen, step, answered]
    · simp [ClusterOutput.isAttempt]
    · rw [step, answered]
      rfl

theorem SameNodes.budget {other : PoolCluster ρ} (same : SameNodes cluster other)
    (config : ClusterConfig) : budget config other = budget config cluster := by
  funext node
  simp only [PoolCluster.budget, same.records]

theorem Bears.of_same {before after : PoolCluster ρ} {next : PoolCluster ρ}
    (first : SameNodes before cluster) (bears : Bears config cluster next node)
    (last : SameNodes next after) : Bears config before after node where
  nodes := last.nodes.trans (bears.nodes.trans first.nodes)
  registeredNodes :=
    last.registeredNodes.trans (bears.registeredNodes.trans first.registeredNodes)
  ids other := by rw [last.records, bears.ids, first.records]
  budget := by rw [last.budget, bears.budget, first.budget]

theorem Gone.of_same {before after : PoolCluster ρ} {next : PoolCluster ρ}
    (first : SameNodes before cluster) (gone : Gone config cluster next node)
    (last : SameNodes next after) : Gone config before after node where
  registeredNodes := by
    rw [last.registeredNodes, gone.registeredNodes, first.registeredNodes]
  ids other := by rw [last.records, gone.ids, first.records]
  budget other different := by rw [last.budget, gone.budget other different, first.budget]

/-- A cluster behind a failed attempt on a node. -/
inductive Round (regExps : RegExps ρ) (config : ClusterConfig) (pattern : Pattern ρ)
    (cluster next : PoolCluster ρ) (node : Nat) : Prop
  | bears : 1 < budget config cluster node → Bears config cluster next node →
      next.lookedUpIds regExps pattern = cluster.lookedUpIds regExps pattern →
      Round regExps config pattern cluster next node
  | gone : budget config cluster node = 1 → Gone config cluster next node →
      next.lookedUpIds regExps pattern = next.matchingIds regExps pattern →
      Round regExps config pattern cluster next node

/-- An attempt, its failure and what follows it. -/
theorem failsWithin_round (asking : Asking regExps request key .retrying space cluster)
    (nonempty : cluster.lookedUpIds regExps space.pattern ≠ [])
    (retries : config.canRetry = true) (never : config.restoreNodeTimeout ≤ 0)
    (failures : Failures) (attempt : Nat) :
    ∃ next after node, after.pattern = space.pattern ∧
      (∀ count,
        selected failures after (attempt + 1) (cluster.lookedUpIds regExps space.pattern) count =
          selected failures space attempt (cluster.lookedUpIds regExps space.pattern)
            (count + 1)) ∧
      cluster.nodes
        (selected failures space attempt (cluster.lookedUpIds regExps space.pattern) 0) =
          some node ∧
      Asking regExps request key .retrying after next ∧
      Round regExps config space.pattern cluster next node ∧
      ∀ bound, FailsWithin regExps config failures request attempt bound cluster ↔
        1 ≤ bound ∧ (budget config cluster node = 1 → failures.ends node = none) ∧
          FailsWithin regExps config failures request (attempt + 1) (bound - 1) next := by
  obtain ⟨after, node, samePattern, later, found, retried⟩ :=
    asking.retry_eq failures nonempty attempt (failures.now attempt)
  have chosen : fails failures request attempt cluster =
      some (.retry request (failures.random attempt) (failures.now attempt), attempt + 1) := by
    rw [fails, asking.asked]
  let making := Asking.goOn regExps request key (.connecting node) space after cluster
  have makingAsks : Asking regExps request key (.connecting node) after making :=
    asking.goOn_asking samePattern (.connecting node)
  have sameNodes : SameNodes cluster making := 
    Asking.sameNodes_goOn regExps request key (.connecting node) space after cluster
  have sameIds : making.lookedUpIds regExps after.pattern =
      cluster.lookedUpIds regExps space.pattern :=
    asking.goOn_lookedUpIds samePattern (.connecting node)
  have sameBudget : budget config making node = budget config cluster node :=
    congrFun (sameNodes.budget config) node
  have registered : making.Registered node := by
    rw [Registered, sameNodes.nodes, sameNodes.records, asking.sound.named _ node found]
    exact found
  have attempted : ∀ bound, FailsWithin regExps config failures request attempt bound cluster ↔
      1 ≤ bound ∧ FailsWithin regExps config failures request (attempt + 1) (bound - 1) making := by
    intro bound
    rw [failsWithin_step regExps config chosen, step, retried]
    · rfl
    · rw [step, retried]
      rfl
  have failing : fails failures request (attempt + 1) making =
      some (.failed request (failures.err (attempt + 1)) (failures.now (attempt + 1))
        (failures.ends node), attempt + 1) := by
    rw [fails, makingAsks.asked]
  rcases Nat.lt_or_eq_of_le (budget_pos config cluster node) with more | last
  · obtain ⟨answered, failedEq, answeredAsks, bears, served⟩ := failed_bears makingAsks
      (sameBudget.symm ▸ more) never (failures.err (attempt + 1)) (failures.now (attempt + 1))
      (failures.ends node)
    have same := Asking.sameNodes_goOn regExps request key .retrying after after answered
    refine ⟨_, after, node, samePattern, later, found, answeredAsks.goOn_asking rfl .retrying,
      .bears more (bears.of_same sameNodes same) ?_, ?_⟩
    · rw [← samePattern, answeredAsks.goOn_lookedUpIds rfl, served, sameIds, samePattern]
    · intro bound
      rw [attempted, failsWithin_step regExps config failing, step,
        failedEq, failsWithin_answered retries answeredAsks]
      · simp [Nat.ne_of_gt more]
      · rw [step, failedEq]
        rfl
  · obtain ⟨answered, failedEq, answeredAsks, gone, served⟩ := failed_removes makingAsks registered
      (sameBudget.trans last.symm) never (failures.err (attempt + 1)) (failures.now (attempt + 1))
    have same := Asking.sameNodes_goOn regExps request key .retrying after after answered
    refine ⟨_, after, node, samePattern, later, found, answeredAsks.goOn_asking rfl .retrying,
      .gone last.symm (gone.of_same sameNodes same) ?_, ?_⟩
    · rw [← samePattern, answeredAsks.goOn_lookedUpIds rfl, served, matchingIds, matchingIds,
        same.registeredIds]
    · intro bound
      rw [attempted]
      cases ends : failures.ends node with
      | none =>
          rw [ends] at failing
          rw [failsWithin_step regExps config failing, step, failedEq,
            failsWithin_answered retries answeredAsks]
          · simp [ClusterOutput.isAttempt]
          · rw [step, failedEq]
            rfl
      | some thrown =>
          rw [ends] at failing
          obtain ⟨left, outputs⟩ := failed_throws makingAsks registered
            (sameBudget.trans last.symm) never (failures.err (attempt + 1)) thrown
            (failures.now (attempt + 1))
          rw [failsWithin_last regExps config failing left]
          · rw [step, outputs]
            constructor
            · rintro ⟨_, err, called⟩
              cases called
            · rintro ⟨_, returns, _⟩
              cases returns last.symm
          · rw [step, outputs]
            rfl

/-! ## All attempts -/

variable (config) in
theorem budgetOf_eq_zero {pattern : Pattern ρ}
    (none : cluster.matchingIds regExps pattern = []) :
    cluster.budgetOf config (pattern.matchesId regExps) = 0 := by
  rw [budgetOf, total, List.sum_eq_zero]
  intro weight member
  obtain ⟨node, isNode, rfl⟩ := List.mem_map.mp member
  rw [if_neg]
  intro matched
  have inIds : (cluster.records node).id ∈ cluster.matchingIds regExps pattern :=
    List.mem_filter.mpr ⟨List.mem_map.mpr ⟨node, isNode, rfl⟩, matched⟩
  rw [none] at inIds
  cases inIds

theorem Round.budgetOf {pattern : Pattern ρ} {next : PoolCluster ρ}
    (round : Round regExps config pattern cluster next node)
    (registered : node ∈ cluster.registeredNodes) (isMatch : JsString → Bool) :
    next.budgetOf config isMatch + (if isMatch (cluster.records node).id then 1 else 0) =
      cluster.budgetOf config isMatch := by
  cases round with
  | bears _ bears _ => exact bears.budgetOf registered isMatch
  | gone last gone _ =>
      have sum := gone.budgetOf registered isMatch
      rw [last] at sum
      exact sum

/-- The node that an attempt is made on is registered. -/
theorem Asking.registered_of_found {progress : Progress} {id : JsString}
    (asking : Asking regExps request key progress space cluster)
    (found : cluster.nodes id = some node) :
    node ∈ cluster.registeredNodes ∧ (cluster.records node).id = id := by
  have named := asking.sound.named id node found
  constructor
  · rw [asking.sound.mem_registeredNodes, Registered, named]
    exact found
  · exact named

/-- The attempts are no fewer than the failures that the nodes which match can bear, by
induction on what all nodes can bear. -/
theorem budgetOf_le (retries : config.canRetry = true) (never : config.restoreNodeTimeout ≤ 0)
    (asking : Asking regExps request key .retrying space cluster)
    (nonempty : cluster.lookedUpIds regExps space.pattern ≠ [])
    (within : FailsWithin regExps config failures request attempt bound cluster) :
    cluster.budgetOf config (space.pattern.matchesId regExps) ≤ bound := by
  induction all : cluster.budgetOf config (fun _ => true) using Nat.strong_induction_on
    generalizing cluster space attempt bound with
  | _ all_ ih =>
      subst all
      obtain ⟨next, after, node, samePattern, _, found, nextAsks, round, iff⟩ :=
        failsWithin_round asking nonempty retries never failures attempt
      obtain ⟨positive, _, withinNext⟩ := (iff bound).mp within
      obtain ⟨registered, _⟩ := asking.registered_of_found found
      have fewer := round.budgetOf registered fun _ => true
      have matching := round.budgetOf registered (space.pattern.matchesId regExps)
      have atMostOne : (if space.pattern.matchesId regExps (cluster.records node).id = true
          then 1 else 0) ≤ 1 := by
        split <;> omega
      rw [if_pos rfl] at fewer
      have rest : next.budgetOf config (space.pattern.matchesId regExps) ≤ bound - 1 := by
        by_cases empty : next.lookedUpIds regExps after.pattern = []
        · rw [samePattern] at empty
          cases round with
          | bears _ _ served => exact absurd (served.symm.trans empty) nonempty
          | gone _ _ served =>
              rw [budgetOf_eq_zero config (served.symm.trans empty)]
              exact Nat.zero_le _
        · rw [← samePattern]
          exact ih _ (by omega) nextAsks empty withinNext rfl
      omega

theorem idBudget_pos (config : ClusterConfig) (cluster : PoolCluster ρ) (id : JsString) :
    0 < idBudget config cluster id := by
  rw [idBudget]
  cases cluster.nodes id with
  | none => exact Nat.one_pos
  | some node => exact budget_pos config cluster node

theorem Bears.idBudget {next : PoolCluster ρ} (bears : Bears config cluster next node)
    (sound : Sound cluster) {id : JsString} (found : cluster.nodes id = some node) :
    idBudget config next =
      Function.update (idBudget config cluster) id (idBudget config cluster id - 1) := by
  funext other
  rw [PoolCluster.idBudget, bears.nodes, bears.budget]
  by_cases same : other = id
  · subst same
    rw [Function.update_self, PoolCluster.idBudget, found]
    exact Function.update_self ..
  · rw [Function.update_of_ne same, PoolCluster.idBudget]
    cases otherFound : cluster.nodes other with
    | none => rfl
    | some otherNode =>
        have different : otherNode ≠ node := by
          rintro rfl
          exact same ((sound.named other otherNode otherFound).symm.trans
            (sound.named id otherNode found))
        exact Function.update_of_ne different ..

variable (regExps config failures) in
/-- Until the budget of a node is spent, the selector takes ids that match from those that
are served, and the pools of the nodes that match end without an error. -/
def ServesMatching (attempt : Nat) (space : PoolNamespace ρ) (cluster : PoolCluster ρ) : Prop :=
  UntilSpent (idBudget config cluster)
      (selected failures space attempt (cluster.lookedUpIds regExps space.pattern))
      (fun id => space.pattern.matchesId regExps id = true) ∧
    ∀ node ∈ cluster.registeredNodes,
      space.pattern.matchesId regExps (cluster.records node).id = true →
        failures.ends node = none

/-- What is served after a removal matches. -/
theorem untilSpent_of_matching {budget : JsString → Nat}
    (nonempty : cluster.lookedUpIds regExps space.pattern ≠ [])
    (matching : cluster.lookedUpIds regExps space.pattern =
      cluster.matchingIds regExps space.pattern) :
    UntilSpent budget
      (selected failures space attempt (cluster.lookedUpIds regExps space.pattern))
      fun id => space.pattern.matchesId regExps id = true := by
  intro count _
  have member := Asking.selected_mem failures nonempty space attempt count
  rw [matching] at member ⊢
  exact (List.mem_filter.mp member).2

theorem Bears.servesMatching {next : PoolCluster ρ} {after : PoolNamespace ρ} {id : JsString}
    (bears : Bears config cluster next node) (sound : Sound cluster)
    (found : cluster.nodes id = some node) (samePattern : after.pattern = space.pattern)
    (served : next.lookedUpIds regExps space.pattern = cluster.lookedUpIds regExps space.pattern)
    (later : ∀ count,
      selected failures after (attempt + 1) (cluster.lookedUpIds regExps space.pattern) count =
        selected failures space attempt (cluster.lookedUpIds regExps space.pattern) (count + 1)) :
    ServesMatching regExps config failures (attempt + 1) after next ↔
      UntilSpent (Function.update (PoolCluster.idBudget config cluster) id
            (PoolCluster.idBudget config cluster id - 1))
          (fun count => selected failures space attempt
            (cluster.lookedUpIds regExps space.pattern) (count + 1))
          (fun id => space.pattern.matchesId regExps id = true) ∧
        ∀ node ∈ cluster.registeredNodes,
          space.pattern.matchesId regExps (cluster.records node).id = true →
            failures.ends node = none := by
  have draws : selected failures after (attempt + 1) (cluster.lookedUpIds regExps space.pattern) =
      fun count => selected failures space attempt (cluster.lookedUpIds regExps space.pattern)
        (count + 1) := funext later
  simp only [ServesMatching, samePattern, served, draws, bears.idBudget sound found,
    bears.registeredNodes, bears.ids]

theorem Gone.servesMatching {next : PoolCluster ρ} {after : PoolNamespace ρ}
    (gone : Gone config cluster next node) (registered : node ∈ cluster.registeredNodes)
    (matched : space.pattern.matchesId regExps (cluster.records node).id = true)
    (samePattern : after.pattern = space.pattern)
    (served : next.lookedUpIds regExps space.pattern = next.matchingIds regExps space.pattern)
    (attempt : Nat) :
    failures.ends node = none ∧ (next.lookedUpIds regExps space.pattern = [] ∨
        ServesMatching regExps config failures (attempt + 1) after next) ↔
      ∀ node ∈ cluster.registeredNodes,
        space.pattern.matchesId regExps (cluster.records node).id = true →
          failures.ends node = none := by
  have others : ∀ other, other ∈ next.registeredNodes ↔
      other ≠ node ∧ other ∈ cluster.registeredNodes := by
    intro other
    rw [gone.registeredNodes]
    exact (nodup_registeredNodes cluster).mem_erase_iff
  constructor
  · rintro ⟨ends, servesNext⟩ other isRegistered isMatch
    by_cases same : other = node
    · rw [same]
      exact ends
    · have isNext := (others other).mpr ⟨same, isRegistered⟩
      rw [← gone.ids other] at isMatch
      rcases servesNext with none | ⟨_, endsNext⟩
      · have member : (next.records other).id ∈ next.matchingIds regExps space.pattern :=
          List.mem_filter.mpr ⟨List.mem_map.mpr ⟨other, isNext, rfl⟩, isMatch⟩
        rw [← served, none] at member
        cases member
      · exact endsNext other isNext (by rw [samePattern]; exact isMatch)
  · intro ends
    refine ⟨ends node registered matched, ?_⟩
    by_cases empty : next.lookedUpIds regExps space.pattern = []
    · exact .inl empty
    · right
      constructor
      · rw [← samePattern] at empty served
        exact untilSpent_of_matching empty served
      · intro other isNext isMatch
        rw [samePattern, gone.ids] at isMatch
        exact ends other ((others other).mp isNext).2 isMatch

/-- Exactly if what is served matches the attempts are as many as the nodes that match can
bear, by induction on what all nodes can bear. -/
theorem failsWithin_iff (retries : config.canRetry = true) (never : config.restoreNodeTimeout ≤ 0)
    (asking : Asking regExps request key .retrying space cluster) :
    FailsWithin regExps config failures request attempt
        (cluster.budgetOf config (space.pattern.matchesId regExps)) cluster ↔
      cluster.lookedUpIds regExps space.pattern = [] ∨
        ServesMatching regExps config failures attempt space cluster := by
  induction all : cluster.budgetOf config (fun _ => true) using Nat.strong_induction_on
    generalizing cluster space attempt with
  | _ all_ ih =>
      subst all
      by_cases empty : cluster.lookedUpIds regExps space.pattern = []
      · simp [empty, failsWithin_empty asking empty]
      · obtain ⟨next, after, node, samePattern, later, found, nextAsks, round, iff⟩ :=
          failsWithin_round asking empty retries never failures attempt
        obtain ⟨registered, named⟩ := asking.registered_of_found found
        have fewer := round.budgetOf registered fun _ => true
        have matching := round.budgetOf registered (space.pattern.matchesId regExps)
        have budgetIs : idBudget config cluster (selected failures space attempt
            (cluster.lookedUpIds regExps space.pattern) 0) = budget config cluster node := by
          rw [idBudget, found]
          rfl
        have positive := budget_pos config cluster node
        rw [if_pos rfl] at fewer
        rw [iff, or_iff_right empty, ServesMatching,
          untilSpent_iff (idBudget_pos config cluster), budgetIs, ← named]
        by_cases matched : space.pattern.matchesId regExps (cluster.records node).id = true
        · rw [if_pos matched] at matching
          have nextIff : FailsWithin regExps config failures request (attempt + 1)
              (next.budgetOf config (after.pattern.matchesId regExps)) next ↔ _ :=
            ih _ (by omega) nextAsks rfl
          have oneLess : cluster.budgetOf config (space.pattern.matchesId regExps) - 1 =
              next.budgetOf config (space.pattern.matchesId regExps) := by
            omega
          rw [samePattern] at nextIff
          rw [oneLess, nextIff]
          cases round with
          | bears more bears served =>
              have stillServed : next.lookedUpIds regExps space.pattern ≠ [] := by
                rw [served]
                exact empty
              rw [or_iff_right stillServed,
                bears.servesMatching asking.sound found samePattern served later, budgetIs, ← named]
              constructor
              · rintro ⟨_, _, serves, ends⟩
                exact ⟨⟨matched, fun _ => serves⟩, ends⟩
              · rintro ⟨⟨_, serves⟩, ends⟩
                exact ⟨by omega, fun last => absurd last (by omega), serves more, ends⟩
          | gone last gone served =>
              rw [← gone.servesMatching registered matched samePattern served attempt]
              constructor
              · rintro ⟨_, ends, serves⟩
                exact ⟨⟨matched, fun more => absurd last (by omega)⟩, ends last, serves⟩
              · rintro ⟨_, ends, serves⟩
                exact ⟨by omega, fun _ => ends, serves⟩
        · rw [if_neg matched, Nat.add_zero] at matching
          constructor
          · rintro ⟨some, _, within⟩
            exfalso
            -- an attempt was made on a node that does not match, and the others bear the same
            by_cases nextEmpty : next.lookedUpIds regExps after.pattern = []
            · rw [samePattern] at nextEmpty
              cases round with
              | bears _ _ served => exact empty (served.symm.trans nextEmpty)
              | gone _ _ served =>
                  have zero := budgetOf_eq_zero config (served.symm.trans nextEmpty)
                  omega
            · have atLeast := budgetOf_le retries never nextAsks nextEmpty within
              rw [samePattern] at atLeast
              omega
          · rintro ⟨⟨isMatch, _⟩, _⟩
            exact absurd isMatch matched

end Failing

/-! ## Clusters that have been run -/

section Reached

variable {regExps : RegExps ρ} {config : ClusterConfig}

theorem online_invariant (regExps : RegExps ρ) (never : config.restoreNodeTimeout ≤ 0) :
    Invariant regExps config fun _ (cluster : PoolCluster ρ) =>
      ∀ node, (cluster.records node).offlineUntil = 0 where
  quiet online same _ node := by
    rw [same.records]
    exact online node
  register {_ cluster id} free own online node := by
    rw [register_of_free free own]
    by_cases new : node = cluster.created
    · simp [new, clearFindCaches, newNode]
    · simpa [clearFindCaches, new] using online node
  unregister _ online := online
  modify {_ _ changed _} keeps online node := online_modify keeps never online changed node
  find pattern online node := by
    rw [records_findNodeIds]
    exact online node

theorem Cached.ask {outputs : List (ClusterOutput ρ)} {cluster : PoolCluster ρ} {key : JsString}
    {space : PoolNamespace ρ} (cached : Cached regExps outputs cluster)
    (online : ∀ node, (cluster.records node).offlineUntil = 0)
    (own : inherited (space.pattern.key regExps) = none)
    (spaceIs : cluster.namespaces key = some space) :
    Asking regExps cluster.calls key .retrying space (cluster.ask key) where
  sound :=
    have same : SameNodes cluster (cluster.ask key) := ⟨rfl, rfl, rfl, rfl⟩
    same.sound cached.sound
  online := online
  own := own
  cached found isCached := by
    have served := (cached.own _ own).symm.trans isCached
    obtain ⟨first, _, rfl⟩ := Option.map_eq_some_iff.mp served
    exact ⟨_, rfl, fun id member => List.mem_of_mem_filter member⟩
  spaceIs := spaceIs
  asked := Function.update_self ..

/-- In every cluster that is reached, if nodes are not restored and requests are tried
again, a request of a namespace whose pattern names no member of `Object.prototype`,
and whose attempts all fail, makes no more attempts than the nodes that match can
bear failures and calls its callback once, with an error, exactly if no ids are served
for the pattern, or those that the selector takes until the budget of a node is spent
match, and the pools of the nodes that match end without an error. -/
theorem run_failsWithin_iff (regExps : RegExps ρ) (config : ClusterConfig)
    (retries : config.canRetry = true) (never : config.restoreNodeTimeout = 0)
    (events : List (ClusterEvent ρ)) {cluster : PoolCluster ρ}
    (reached : cluster = (run (step regExps config) init events).1) {key : JsString}
    {space : PoolNamespace ρ} (spaceIs : cluster.namespaces key = some space)
    (own : inherited (space.pattern.key regExps) = none) (failures : Failures) :
    FailsWithin regExps config failures cluster.calls 0
        (cluster.budgetOf config (space.pattern.matchesId regExps)) (cluster.ask key) ↔
      cluster.lookedUpIds regExps space.pattern = [] ∨
        ServesMatching regExps config failures 0 space cluster := by
  have notRestored := Int.le_of_eq never
  have cached := (cached_invariant regExps config).run cached_init events
  have online := @Invariant.run ρ regExps config _ (online_invariant regExps notRestored) [] init
    (fun _ => rfl) events
  rw [← reached] at cached online
  exact failsWithin_iff retries notRestored (cached.ask online own spaceIs)

end Reached

/-- Nothing but errors of connections. -/
def refused : Failures :=
  { err := fun _ => .new "connect ECONNREFUSED"
    random := fun _ => 0
    now := fun _ => 0
    ends := fun _ => none }

/-- Two nodes, and a namespace that both match. -/
def bothMatch : PoolCluster JsString :=
  (run (step literals defaultCluster) init
    [.add (some (units "a1")), .add (some (units "a2")), .of (.regExp (units "a")) (units "RR")]).1

/-- Ten attempts at most are made. -/
theorem run_failsWithin_bothMatch :
    FailsWithin literals defaultCluster refused 0 0
      (bothMatch.budgetOf defaultCluster (Pattern.matchesId literals (.regExp (units "a"))))
      (bothMatch.ask (units "/a/RR")) := by
  have spaceIs : bothMatch.namespaces (units "/a/RR") =
      some { pattern := .regExp (units "a"), selector := .RR, index := 0 } := by
    decide
  apply (run_failsWithin_iff literals defaultCluster rfl rfl
    [.add (some (units "a1")), .add (some (units "a2")), .of (.regExp (units "a")) (units "RR")]
    (show bothMatch = _ from rfl) spaceIs (by decide) refused).mpr
  right
  constructor
  · exact untilSpent_of_matching (by decide) (by decide)
  · intro _ _ _
    rfl

/-- One error removes a node, and requests are tried again. -/
def oneErrorEach : ClusterConfig :=
  { canRetry := true
    removeNodeErrorCount := 1
    restoreNodeTimeout := 0 }

/-- Two nodes, of which one is named like an expression that both match, a namespace for
that name, and a lookup of the expression. -/
def servedOthers : PoolCluster JsString :=
  (run (step literals oneErrorEach) init
    [.add (some (units "a")), .add (some (units "/a/")), .of (.text (units "/a/")) (units "RR"),
      .find (.regExp (units "a"))]).1

/-- The first attempt is made on the node that does not match. -/
theorem servedOthers_not_failsWithin :
    ¬FailsWithin literals oneErrorEach refused 0 0
      (servedOthers.budgetOf oneErrorEach (Pattern.matchesId literals (.text (units "/a/"))))
      (servedOthers.ask (units "/a/RR")) := by
  have spaceIs : servedOthers.namespaces (units "/a/RR") =
      some { pattern := .text (units "/a/"), selector := .RR, index := 0 } := by
    decide
  have cached := (cached_invariant literals oneErrorEach).run cached_init
    [.add (some (units "a")), .add (some (units "/a/")), .of (.text (units "/a/")) (units "RR"),
      .find (.regExp (units "a"))]
  have online := @Invariant.run JsString literals oneErrorEach _
    (online_invariant literals (Int.le_refl 0)) [] init (fun _ => rfl)
    [.add (some (units "a")), .add (some (units "/a/")), .of (.text (units "/a/")) (units "RR"),
      .find (.regExp (units "a"))]
  intro within
  rcases (failsWithin_iff rfl (Int.le_refl 0)
    (cached.ask online (by decide) spaceIs)).mp within with none | serves
  · exact absurd none (by decide)
  · have matched := serves.1 0 fun id => idBudget_pos oneErrorEach servedOthers id
    exact absurd matched (by decide)

end PoolCluster

end Mysql2.Pool

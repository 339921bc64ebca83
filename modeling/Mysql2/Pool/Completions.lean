import Mysql2.Pool.Lookup
import Mysql2.Transition.Throughout

/-!
# Completions of connection attempts

An attempt holds the node record it was made on, and can complete when the record is
registered no more, or when another record has its id.  The removal of a node for its
errors goes by the id, so it is that of the record only while the record is registered.
-/

namespace Mysql2.Pool

open Mysql2.Packets (JsError)
open Mysql2.Script
open Mysql2.Transition

variable {ρ : Type}

/-- A completion of an attempt, or what follows one. -/
def ClusterEvent.isCompletion : ClusterEvent ρ → Bool
  | .connected _ | .failed _ _ _ _ | .answer _ _ | .retry _ _ _ => true
  | _ => false

/-- `emit('remove', id)` for a node. -/
def ClusterOutput.removes (node : Nat) : ClusterOutput ρ → Bool
  | .emit .remove other => other = node
  | _ => false

namespace PoolCluster

/-- The node of the attempt that a request makes. -/
def attemptOf (cluster : PoolCluster ρ) (request : Nat) : Option Nat :=
  match cluster.requests request with
  | some ⟨_, .connecting node⟩ => some node
  | _ => none

/-- The node of the attempt that an event completes. -/
def completes (cluster : PoolCluster ρ) : ClusterEvent ρ → Option Nat
  | .connected request | .failed request _ _ _ => cluster.attemptOf request
  | _ => none

/-- The error count of the node comes to the bound. -/
def ReachesBound (config : ClusterConfig) (cluster : PoolCluster ρ) (node : Nat) : Prop :=
  config.removeNodeErrorCount ≤ (cluster.records node).errorCount + 1

instance (config : ClusterConfig) (cluster : PoolCluster ρ) (node : Nat) :
    Decidable (ReachesBound config cluster node) :=
  inferInstanceAs (Decidable (_ ≤ _))

/-- An event is a reason for the node to leave the cluster. -/
def Removes (regExps : RegExps ρ) (config : ClusterConfig) (cluster : PoolCluster ρ)
    (node : Nat) : ClusterEvent ρ → Prop
  | .remove pattern _ => pattern.matchesId regExps (cluster.records node).id = true
  | .failed request err now endError =>
      cluster.completes (.failed request err now endError) = some node ∧
        ReachesBound config cluster node
  | _ => False

/-- An event touches no nodes but that of the attempt it completes, and takes nodes out
of the cluster for a reason. -/
structure Confined (regExps : RegExps ρ) (config : ClusterConfig) (cluster next : PoolCluster ρ)
    (event : ClusterEvent ρ) : Prop where
  others : event.isCompletion = true → ∀ node, cluster.completes event ≠ some node →
    next.records node = cluster.records node ∧ (next.Registered node ↔ cluster.Registered node)
  leaves : ∀ node, cluster.Registered node → ¬next.Registered node →
    Removes regExps config cluster node event

/-- The elements of what the cache or the prototype has for a pattern. -/
def served (regExps : RegExps ρ) (cluster : PoolCluster ρ) (pattern : Pattern ρ) : List JsString :=
  match cluster.findCaches (pattern.key regExps), inherited (pattern.key regExps) with
  | some found, _ => found.elements
  | none, some length => (Found.member length).elements
  | none, none => []

/-- Before each removal, what is served for its pattern are ids that match.  If the error
count of a node comes to the bound, and it is not set offline, then no other node is
registered under its id, and it has not been reported as removed. -/
def Current (regExps : RegExps ρ) (config : ClusterConfig) (outputs : List (ClusterOutput ρ))
    (cluster : PoolCluster ρ) : ClusterEvent ρ → Prop
  | .remove pattern _ => ∀ id ∈ cluster.served regExps pattern, cluster.nodes id ≠ none →
      pattern.matchesId regExps id = true
  | .failed request err now endError =>
      match cluster.completes (.failed request err now endError) with
      | some node => ReachesBound config cluster node → config.restoreNodeTimeout ≤ 0 →
          (cluster.nodes (cluster.records node).id = none ∨ cluster.Registered node) ∧
            outputs.all fun output => !output.removes node
      | none => True
  | _ => True

instance (regExps : RegExps ρ) (config : ClusterConfig) (outputs : List (ClusterOutput ρ))
    (cluster : PoolCluster ρ) (event : ClusterEvent ρ) :
    Decidable (Current regExps config outputs cluster event) := by
  unfold Current
  split
  · infer_instance
  · split <;> infer_instance
  · infer_instance

/-! ## What the methods change -/

section Methods

variable {regExps : RegExps ρ} {config : ClusterConfig} {cluster : PoolCluster ρ}

/-- The registry and the records are as they were. -/
structure Untouched (cluster next : PoolCluster ρ) : Prop where
  nodes : next.nodes = cluster.nodes
  records : next.records = cluster.records

theorem Untouched.registered {next : PoolCluster ρ} (untouched : Untouched cluster next)
    (node : Nat) : next.Registered node ↔ cluster.Registered node := by
  rw [Registered, Registered, untouched.nodes, untouched.records]

theorem Untouched.confined {next : PoolCluster ρ} (untouched : Untouched cluster next)
    (event : ClusterEvent ρ) : Confined regExps config cluster next event := by
  constructor
  · intro _ node _
    exact ⟨congrFun untouched.records node, untouched.registered node⟩
  · intro node registered left
    exact absurd ((untouched.registered node).mpr registered) left

variable (regExps cluster) in
theorem untouched_find (pattern : Pattern ρ) :
    Untouched cluster (cluster.findNodeIds regExps pattern).1 :=
  ⟨nodes_findNodeIds regExps cluster pattern, records_findNodeIds regExps cluster pattern⟩

variable (regExps cluster) in
theorem untouched_getClusterNode (key : JsString) (space : PoolNamespace ρ) (random : Nat)
    (now : Int) : Untouched cluster (cluster.getClusterNode regExps key space random now).1 := by
  have found := untouched_find regExps cluster space.pattern
  unfold getClusterNode
  dsimp only
  split
  · exact found
  · exact found
  · exact found
  · exact ⟨found.nodes, found.records⟩

variable (regExps cluster) in
theorem untouched_connect (request : Nat) (key : JsString) (space : PoolNamespace ρ) (random : Nat)
    (now : Int) : Untouched cluster (cluster.connect regExps request key space random now).1 := by
  have found := untouched_getClusterNode regExps cluster key space random
    now
  unfold connect
  dsimp only
  split
  · exact ⟨found.nodes, found.records⟩
  · exact ⟨found.nodes, found.records⟩
  · constructor
    · exact (nodes_findNodeIds regExps _ _).trans found.nodes
    · exact (records_findNodeIds regExps _ _).trans found.records

variable (regExps cluster) in
theorem untouched_namespaceOf (pattern : Pattern ρ) (selector : JsString) :
    Untouched cluster (cluster.namespaceOf regExps pattern selector).1 := by
  unfold namespaceOf
  dsimp only
  split <;> exact ⟨rfl, rfl⟩

theorem untouched_getConnection (pattern : Pattern ρ) (selector : JsString) (random : Nat)
    (now : Int) :
    Untouched cluster (cluster.getConnection regExps pattern selector random now).1 := by
  have found : Untouched cluster (cluster.namespaceOf regExps pattern selector).1 :=
    untouched_namespaceOf regExps cluster pattern selector
  unfold getConnection
  dsimp only
  split
  · exact found
  · have asked := fun key => untouched_connect regExps
      ((cluster.namespaceOf regExps pattern selector).1.ask key)
      (cluster.namespaceOf regExps pattern selector).1.calls key
    exact ⟨(asked _ _ random now).nodes.trans found.nodes,
      (asked _ _ random now).records.trans found.records⟩

theorem untouched_answer (request : Nat) (now : Int) :
    Untouched cluster (cluster.answer regExps config request now).1 := by
  unfold answer
  split
  · exact ⟨rfl, rfl⟩
  · split
    · rename_i space _
      have found := untouched_find regExps cluster space.pattern
      split
      · dsimp only
        split <;> exact ⟨found.nodes, found.records⟩
      · exact ⟨rfl, rfl⟩
    · exact ⟨rfl, rfl⟩
  · exact ⟨rfl, rfl⟩

theorem untouched_retry (request random : Nat) (now : Int) :
    Untouched cluster (cluster.retry regExps request random now).1 := by
  unfold retry
  split
  · split
    · exact untouched_connect ..
    · exact ⟨rfl, rfl⟩
  · exact ⟨rfl, rfl⟩

theorem records_modify_of_ne {node other : Nat} (different : other ≠ node)
    (change : Node → Node) :
    (cluster.modify node change).records other = cluster.records other :=
  Function.update_of_ne different ..

theorem registered_modify {change : Node → Node} (keeps : Keeps config change) (node other : Nat) :
    (cluster.modify node change).Registered other ↔ cluster.Registered other := by
  rw [Registered, id_modify keeps]
  rfl

/-- The removal of a node that is registered, or whose id is not, leaves the others. -/
theorem removeNode_others {node other : Nat} (different : other ≠ node)
    (current : cluster.nodes (cluster.records node).id = none ∨ cluster.Registered node)
    (endError : Option JsError) :
    (cluster.removeNode node endError).cluster.records other = cluster.records other ∧
      ((cluster.removeNode node endError).cluster.Registered other ↔ cluster.Registered other) := by
  unfold removeNode
  by_cases listed : (cluster.records node).id ∈ cluster.serviceableNodeIds
  · simp only [if_pos listed]
    constructor
    · exact records_modify_of_ne different _
    · simp only [Registered, records_modify_of_ne different]
      by_cases sameId : (cluster.records other).id = (cluster.records node).id
      · have notOther : cluster.nodes (cluster.records node).id ≠ some other := by
          rcases current with free | registered
          · simp [free]
          · rw [registered]
            simpa using different.symm
        simp [modify, clearFindCaches, sameId, notOther]
      · simp [modify, clearFindCaches, sameId]
  · simp [if_neg listed]

/-- It takes no other node out of the cluster. -/
theorem removeNode_leaves {node other : Nat}
    (current : cluster.nodes (cluster.records node).id = none ∨ cluster.Registered node)
    {endError : Option JsError} (registered : cluster.Registered other)
    (left : ¬(cluster.removeNode node endError).cluster.Registered other) : other = node := by
  by_contra different
  exact left ((removeNode_others different current endError).2.mpr registered)

/-- A failure counts on its node, which leaves the cluster if the count comes to the
bound. -/
theorem increaseErrorCount_confined {node : Nat} (now : Int) (endError : Option JsError)
    (current : ReachesBound config cluster node → config.restoreNodeTimeout ≤ 0 →
      cluster.nodes (cluster.records node).id = none ∨ cluster.Registered node) :
    (∀ other, other ≠ node →
      (increaseErrorCount config cluster node now endError).cluster.records other =
          cluster.records other ∧
        ((increaseErrorCount config cluster node now endError).cluster.Registered other ↔
          cluster.Registered other)) ∧
    ∀ other, cluster.Registered other →
      ¬(increaseErrorCount config cluster node now endError).cluster.Registered other →
        other = node ∧ ReachesBound config cluster node := by
  have counts : Keeps config fun record => { record with errorCount := record.errorCount + 1 } :=
    ⟨fun _ => rfl, fun _ _ online => online⟩
  unfold increaseErrorCount
  dsimp only
  generalize countedEq : (cluster.modify node fun record =>
    { record with errorCount := record.errorCount + 1 }) = counted
  have sameRecords : ∀ other, other ≠ node → counted.records other = cluster.records other := by
    intro other different
    rw [← countedEq]
    exact records_modify_of_ne different _
  have sameRegistered : ∀ other, counted.Registered other ↔ cluster.Registered other := by
    intro other
    rw [← countedEq]
    exact registered_modify counts node other
  split
  · constructor
    · intro other different
      exact ⟨sameRecords other different, sameRegistered other⟩
    · intro other registered left
      exact absurd ((sameRegistered other).mpr registered) left
  · rename_i reached
    have bound : ReachesBound config cluster node := by
      rw [ReachesBound]
      omega
    split
    · rename_i restores
      have offline : Keeps config fun record =>
          { record with offlineUntil := now + config.restoreNodeTimeout } :=
        ⟨fun _ => rfl, fun never => absurd restores (Int.not_lt.mpr never)⟩
      constructor
      · intro other different
        constructor
        · have same : (counted.modify node fun record => { record with
              offlineUntil := now + config.restoreNodeTimeout }).records other =
                counted.records other := records_modify_of_ne different _
          exact same.trans (sameRecords other different)
        · exact (registered_modify offline node other).trans (sameRegistered other)
      · intro other registered left
        exact absurd
          ((registered_modify offline node other).mpr ((sameRegistered other).mpr registered)) left
    · rename_i never
      have isCurrent : counted.nodes (counted.records node).id = none ∨
          counted.Registered node := by
        rw [sameRegistered, ← countedEq, id_modify counts]
        exact current bound (Int.not_lt.mp never)
      have others : ∀ other, other ≠ node →
          (counted.removeNode node endError).cluster.records other = cluster.records other ∧
          ((counted.removeNode node endError).cluster.Registered other ↔
            cluster.Registered other) := by
        intro other different
        obtain ⟨records, registered⟩ := removeNode_others different isCurrent endError
        exact ⟨records.trans (sameRecords other different), registered.trans (sameRegistered other)⟩
      have leaves : ∀ other, cluster.Registered other →
          ¬(counted.removeNode node endError).cluster.Registered other →
          other = node ∧ ReachesBound config cluster node := fun other registered left =>
        ⟨removeNode_leaves isCurrent ((sameRegistered other).mpr registered) left, bound⟩
      split
      · exact ⟨others, leaves⟩
      · exact ⟨others, leaves⟩

theorem requests_of_attemptOf {request node : Nat} (attempt : cluster.attemptOf request = some node) :
    ∃ key, cluster.requests request = some ⟨key, .connecting node⟩ := by
  rw [attemptOf] at attempt
  split at attempt
  · rename_i key other asked
    cases attempt
    exact ⟨key, asked⟩
  · cases attempt

theorem failed_of_none {request : Nat} (none : cluster.attemptOf request = none) (err : JsError)
    (now : Int) (endError : Option JsError) :
    cluster.failed config request err now endError = (cluster, []) := by
  rw [failed]
  split
  · rename_i asked
    rw [attemptOf, asked] at none
    cases none
  · rfl

theorem connected_of_none {request : Nat} (none : cluster.attemptOf request = none) :
    cluster.connected config request = (cluster, []) := by
  rw [connected]
  split
  · rename_i asked
    rw [attemptOf, asked] at none
    cases none
  · rfl

theorem confined_failed {request : Nat} {err : JsError} {now : Int} {endError : Option JsError}
    {outputs : List (ClusterOutput ρ)}
    (current : Current regExps config outputs cluster (.failed request err now endError)) :
    Confined regExps config cluster (cluster.failed config request err now endError).1
      (.failed request err now endError) := by
  cases attempt : cluster.attemptOf request with
  | none =>
      rw [failed_of_none attempt]
      exact Untouched.confined ⟨rfl, rfl⟩ _
  | some node =>
      rw [Current, completes, attempt] at current
      obtain ⟨others, leaves⟩ := increaseErrorCount_confined now endError
        fun reached never => (current reached never).1
      have same : Untouched (increaseErrorCount config cluster node now endError).cluster
          (cluster.failed config request err now endError).1 := by
        obtain ⟨key, asked⟩ := requests_of_attemptOf attempt
        rw [failed, asked]
        dsimp only
        split <;> exact ⟨rfl, rfl⟩
      constructor
      · intro _ other notCompleted
        have different : other ≠ node := fun isNode =>
          notCompleted (attempt.trans (congrArg some isNode.symm))
        obtain ⟨records, registered⟩ := others other different
        exact ⟨(congrFun same.records other).trans records,
          (same.registered other).trans registered⟩
      · intro other registered left
        obtain ⟨rfl, reached⟩ := leaves other registered fun stays =>
          left ((same.registered other).mpr stays)
        exact ⟨attempt, reached⟩

theorem confined_connected (request : Nat) :
    Confined regExps config cluster (cluster.connected config request).1 (.connected request) := by
  cases attempt : cluster.attemptOf request with
  | none =>
      rw [connected_of_none attempt]
      exact Untouched.confined ⟨rfl, rfl⟩ _
  | some node =>
      have online : Keeps config fun record =>
          { record with
            errorCount := (max 1 (min ((cluster.records node).errorCount : Int)
              config.removeNodeErrorCount) - 1).toNat
            offlineUntil := 0 } :=
        ⟨fun _ => rfl, fun _ _ _ => rfl⟩
      have same : Untouched (decreaseErrorCount config cluster node).1
          (cluster.connected config request).1 := by
        obtain ⟨key, asked⟩ := requests_of_attemptOf attempt
        rw [connected, asked]
        exact ⟨rfl, rfl⟩
      have registered : ∀ other,
          (cluster.connected config request).1.Registered other ↔ cluster.Registered other :=
        fun other => (same.registered other).trans (registered_modify online node other)
      constructor
      · intro _ other notCompleted
        have different : other ≠ node := fun isNode =>
          notCompleted (attempt.trans (congrArg some isNode.symm))
        constructor
        · rw [same.records]
          exact Function.update_of_ne different ..
        · exact registered other
      · intro other isRegistered left
        exact absurd ((registered other).mpr isRegistered) left

/-! ## Registrations and removals -/

theorem confined_add (sound : Sound cluster) (id : Option JsString) :
    Confined regExps config cluster (cluster.add id).1 (.add id) := by
  have stays : ∀ (before : PoolCluster ρ) (id : JsString), Sound before → ∀ node,
      before.Registered node → (before.register id).1.Registered node := by
    intro before id sound node registered
    by_cases free : before.nodes id = none ∧ inherited id = none
    · have older := Nat.ne_of_lt (sound.created _ _ registered)
      have otherId : (before.records node).id ≠ id := by
        intro same
        rw [Registered, same, free.1] at registered
        cases registered
      rw [register_of_free free.1 free.2]
      simpa [Registered, clearFindCaches, older, otherId] using registered
    · rw [register, if_neg free]
      exact registered
  constructor
  · intro completion
    cases completion
  · intro node registered left
    cases id with
    | some id => exact absurd (stays cluster id sound node registered) left
    | none =>
        exact absurd (stays { cluster with lastId := cluster.lastId + 1 } _
          (sound.of_same ⟨rfl, rfl, rfl, rfl, rfl⟩) node registered) left

/-- Only the nodes of the ids are removed, by induction on the ids. -/
theorem removeAll_leaves (config : ClusterConfig) (sound : Sound cluster) (ends : Nat → Option JsError)
    (ids : List JsString) {node : Nat} (registered : cluster.Registered node)
    (left : ¬(removeAll ends cluster ids).1.Registered node) : (cluster.records node).id ∈ ids := by
  induction ids generalizing cluster with
  | nil => exact absurd registered left
  | cons id ids ih =>
      rw [removeAll] at left
      cases found : cluster.nodes id with
      | none =>
          rw [found] at left
          exact List.mem_cons_of_mem id (ih sound registered left)
      | some other =>
          rw [found] at left
          dsimp only at left
          have named := sound.named id other found
          have otherRegistered : cluster.Registered other := by
            rw [Registered, named]
            exact found
          by_cases same : node = other
          · rw [same, named]
            exact List.mem_cons_self
          · obtain ⟨records, stays⟩ :=
              removeNode_others same (.inr otherRegistered) (ends other)
            have after := sound.removeNode config other (ends other)
            split at left
            · exact absurd (stays.mpr registered) left
            · have member := ih after (stays.mpr registered) left
              rw [records] at member
              exact List.mem_cons_of_mem id member

theorem findNodeIds_elements (pattern : Pattern ρ) {id : JsString}
    (found : id ∈ (cluster.findNodeIds regExps pattern).2.elements) :
    id ∈ cluster.served regExps pattern ∨ pattern.matchesId regExps id = true := by
  rw [findNodeIds_snd] at found
  rw [served]
  cases cached : cluster.findCaches (pattern.key regExps) with
  | some _ =>
      rw [cached] at found
      exact .inl found
  | none =>
      rw [cached] at found
      cases own : inherited (pattern.key regExps) with
      | some _ =>
          rw [own] at found
          exact .inl found
      | none =>
          rw [own] at found
          exact .inr (List.mem_filter.mp found).2

theorem confined_remove (sound : Sound cluster) {outputs : List (ClusterOutput ρ)} {pattern : Pattern ρ}
    {ends : Nat → Option JsError}
    (current : Current regExps config outputs cluster (.remove pattern ends)) :
    Confined regExps config cluster (cluster.remove regExps pattern ends).1
      (.remove pattern ends) := by
  have found := untouched_find regExps cluster pattern
  constructor
  · intro completion
    cases completion
  · intro node registered left
    have member := removeAll_leaves config (sound.find regExps pattern) ends
      (cluster.findNodeIds regExps pattern).2.elements ((found.registered node).mpr registered) left
    rw [found.records] at member
    rcases findNodeIds_elements pattern member with isServed | isMatch
    · apply current _ isServed
      rw [registered]
      exact Option.some_ne_none node
    · exact isMatch

theorem confined_step (sound : Sound cluster) {outputs : List (ClusterOutput ρ)} {event : ClusterEvent ρ}
    (current : Current regExps config outputs cluster event) :
    Confined regExps config cluster (step regExps config cluster event).1 event := by
  cases event with
  | add id => exact confined_add sound id
  | remove pattern ends => exact confined_remove sound current
  | find pattern => exact (untouched_find regExps cluster pattern).confined _
  | of pattern selector =>
      have found := untouched_namespaceOf regExps cluster pattern selector
      exact Untouched.confined ⟨found.nodes, found.records⟩ _
  | getConnection pattern selector random now =>
      exact (untouched_getConnection pattern selector random now).confined _
  | connected request => exact confined_connected request
  | failed request err now endError => exact confined_failed current
  | answer request now => exact (untouched_answer request now).confined _
  | retry request random now => exact (untouched_retry request random now).confined _

/-! ## Reports of removals -/

/-- No node is reported as removed. -/
def Silent (outputs : List (ClusterOutput ρ)) : Prop :=
  ∀ output ∈ outputs, ∀ node, output.removes node = false

theorem silent_add (id : Option JsString) : Silent (cluster.add id).2 := by
  have registers : ∀ (before : PoolCluster ρ) (id : JsString), Silent (before.register id).2 := by
    intro before id
    unfold register
    split <;> simp [Silent, ClusterOutput.removes]
  cases id with
  | some id => exact registers cluster id
  | none => exact registers _ _

theorem silent_removeNode (node : Nat) (endError : Option JsError) :
    Silent (cluster.removeNode node endError).outputs := by
  unfold removeNode
  dsimp only
  split <;> simp [Silent, ClusterOutput.removes]

theorem Silent.append {outputs more : List (ClusterOutput ρ)} (first : Silent outputs)
    (second : Silent more) : Silent (outputs ++ more) := by
  intro output member
  rcases List.mem_append.mp member with inFirst | inSecond
  · exact first output inFirst
  · exact second output inSecond

theorem silent_removeAll (ends : Nat → Option JsError) (ids : List JsString) :
    Silent (removeAll ends cluster ids).2 := by
  induction ids generalizing cluster with
  | nil => simp [removeAll, Silent]
  | cons id ids ih =>
      rw [removeAll]
      split
      · exact ih
      · dsimp only
        split
        · exact (silent_removeNode _ _).append (by simp [Silent, ClusterOutput.removes])
        · exact (silent_removeNode _ _).append ih

theorem silent_connect (request : Nat) (key : JsString) (space : PoolNamespace ρ) (random : Nat)
    (now : Int) : Silent (cluster.connect regExps request key space random now).2 := by
  unfold connect
  dsimp only
  split <;> simp [Silent, ClusterOutput.removes]

theorem silent_getConnection (pattern : Pattern ρ) (selector : JsString) (random : Nat)
    (now : Int) : Silent (cluster.getConnection regExps pattern selector random now).2 := by
  unfold getConnection
  dsimp only
  split
  · simp [Silent, ClusterOutput.removes]
  · apply silent_connect

theorem silent_connected (request : Nat) : Silent (cluster.connected config request).2 := by
  unfold connected
  split
  · unfold decreaseErrorCount
    dsimp only
    split <;> simp [Silent, ClusterOutput.removes]
  · simp [Silent]

theorem silent_answer (request : Nat) (now : Int) :
    Silent (cluster.answer regExps config request now).2 := by
  unfold answer
  split
  · simp [Silent, ClusterOutput.removes]
  · split
    · split
      · dsimp only
        split <;> simp [Silent, ClusterOutput.removes]
      · simp [Silent, ClusterOutput.removes]
    · simp [Silent]
  · simp [Silent]

theorem silent_retry (request random : Nat) (now : Int) :
    Silent (cluster.retry regExps request random now).2 := by
  unfold retry
  split
  · split
    · apply silent_connect
    · simp [Silent]
  · simp [Silent]

variable (config cluster) in
/-- What a failure reports: its node, if the count comes to the bound. -/
theorem increaseErrorCount_reports (node : Nat) (now : Int) (endError : Option JsError) :
    Silent (increaseErrorCount config cluster node now endError).outputs ∨
      (increaseErrorCount config cluster node now endError).thrown = none ∧
        ReachesBound config cluster node ∧ config.restoreNodeTimeout ≤ 0 ∧
        ∃ silent, Silent silent ∧
          (increaseErrorCount config cluster node now endError).outputs =
            silent ++ [.emit .remove node] := by
  unfold increaseErrorCount
  dsimp only
  split
  · exact .inl (by simp [Silent])
  · rename_i reached
    split
    · exact .inl (by simp [Silent, ClusterOutput.removes])
    · rename_i never
      split
      · exact .inl (silent_removeNode node endError)
      · rename_i returned
        have bound : ReachesBound config cluster node := by
          rw [ReachesBound]
          omega
        exact .inr ⟨returned, bound, Int.not_lt.mp never, _, silent_removeNode node endError, rfl⟩

variable (config cluster) in
theorem failed_reports (request : Nat) (err : JsError) (now : Int) (endError : Option JsError) :
    Silent (cluster.failed config request err now endError).2 ∨
      ∃ node silent, cluster.attemptOf request = some node ∧ ReachesBound config cluster node ∧
        config.restoreNodeTimeout ≤ 0 ∧ Silent silent ∧
        (cluster.failed config request err now endError).2 = silent ++ [.emit .remove node] := by
  cases attempt : cluster.attemptOf request with
  | none =>
      rw [failed_of_none attempt]
      exact .inl (by simp [Silent])
  | some node =>
      obtain ⟨key, asked⟩ := requests_of_attemptOf attempt
      rw [failed, asked]
      dsimp only
      rcases increaseErrorCount_reports config cluster node now endError with
        silent | ⟨returned, bound, never, silent, isSilent, outputsEq⟩
      · left
        split
        · exact silent.append (by simp [Silent, ClusterOutput.removes])
        · exact silent
      · right
        rw [returned]
        exact ⟨node, silent, rfl, bound, never, isSilent, outputsEq⟩

theorem countP_silent {outputs : List (ClusterOutput ρ)} (silent : Silent outputs) (node : Nat) :
    outputs.countP (ClusterOutput.removes node) = 0 :=
  List.countP_eq_zero.mpr fun output member => by simp [silent output member node]

/-- A node is reported as removed once. -/
theorem countP_step {outputs : List (ClusterOutput ρ)} {event : ClusterEvent ρ}
    (current : Current regExps config outputs cluster event) {node : Nat}
    (once : outputs.countP (ClusterOutput.removes node) ≤ 1) :
    (outputs ++ (step regExps config cluster event).2).countP (ClusterOutput.removes node) ≤ 1 := by
  have silently : Silent (step regExps config cluster event).2 →
      (outputs ++ (step regExps config cluster event).2).countP (ClusterOutput.removes node) ≤ 1 := by
    intro silent
    rw [List.countP_append, countP_silent silent]
    exact once
  cases event with
  | add id => exact silently (silent_add id)
  | remove pattern ends =>
      apply silently
      intro output member
      rcases List.mem_cons.mp member with rfl | removed
      · intro _
        rfl
      · exact silent_removeAll ends _ output removed
  | find pattern => exact silently (by simp [step, Silent, ClusterOutput.removes])
  | of pattern selector =>
      apply silently
      rw [step, PoolCluster.of]
      dsimp only
      split <;> simp [Silent, ClusterOutput.removes]
  | getConnection pattern selector random now =>
      exact silently (silent_getConnection pattern selector random now)
  | connected request => exact silently (silent_connected request)
  | answer request now => exact silently (silent_answer request now)
  | retry request random now => exact silently (silent_retry request random now)
  | failed request err now endError =>
      rcases failed_reports config cluster request err now endError with
        silent | ⟨other, silent, attempt, bound, never, isSilent, outputsEq⟩
      · exact silently silent
      · rw [Current, completes, attempt] at current
        have notReported := (current bound never).2
        rw [step, outputsEq, List.countP_append, List.countP_append, countP_silent isSilent]
        by_cases same : other = node
        · subst same
          have none : outputs.countP (ClusterOutput.removes other) = 0 :=
            List.countP_eq_zero.mpr (by simpa using notReported)
          simp [none, ClusterOutput.removes]
        · simpa [ClusterOutput.removes, same] using once

end Methods

/-! ## Runs -/

/-- In every run in which each removal serves matching ids, and each failure that comes to
the bound is on a node that is registered, or under whose id no node is, and that has
not been reported as removed, no completion touches another node than that of its
attempt, nodes leave the cluster for a reason, and each is reported as removed at most
once. -/
theorem run_confined (regExps : RegExps ρ) (config : ClusterConfig) (events : List (ClusterEvent ρ))
    (current : Throughout (step regExps config) (Current regExps config) [] init events) :
    Throughout (step regExps config)
        (fun _ cluster event =>
          Confined regExps config cluster (step regExps config cluster event).1 event)
        [] init events ∧
      ∀ node, (run (step regExps config) init events).2.countP (ClusterOutput.removes node) ≤ 1 := by
  constructor
  · apply current.imp Sound
    · intro cluster event sound
      exact sound.step regExps config event
    · intro outputs cluster event sound current
      exact confined_step sound current
    · exact sound_init
  · intro node
    have once := current.invariant
      (fun outputs _ => outputs.countP (ClusterOutput.removes node) ≤ 1)
      (fun _ _ _ once current => countP_step current once) (Nat.zero_le 1)
    rw [List.nil_append] at once
    exact once

/-- One error removes a node. -/
def oneError : ClusterConfig :=
  { canRetry := false
    removeNodeErrorCount := 1
    restoreNodeTimeout := 0 }

/-- Two attempts are made on a node, the first one fails, and another node is added
under the same id. -/
def replaced : List (ClusterEvent JsString) :=
  [.add (some (units "a")), .getConnection (.text (units "a")) (units "RR") 0 0,
    .getConnection (.text (units "a")) (units "RR") 0 0,
    .failed 0 (.new "connect ECONNREFUSED") 0 none, .answer 0 0, .add (some (units "a"))]

/-- The second attempt succeeds. -/
theorem run_confined_replaced :
    Throughout (step literals oneError)
        (fun _ cluster event =>
          Confined literals oneError cluster (step literals oneError cluster event).1 event)
        [] init (replaced ++ [.connected 1, .answer 1 0]) ∧
      ∀ node, (run (step literals oneError) init
        (replaced ++ [.connected 1, .answer 1 0])).2.countP (ClusterOutput.removes node) ≤ 1 :=
  run_confined literals oneError (replaced ++ [.connected 1, .answer 1 0]) (by decide)

/-- The second attempt fails: the other node leaves the cluster, and the first one is
reported as removed again. -/
theorem lateFailure_not_confined :
    ¬Throughout (step literals oneError)
        (fun _ cluster event =>
          Confined literals oneError cluster (step literals oneError cluster event).1 event)
        [] init (replaced ++ [.failed 1 (.new "connect ECONNREFUSED") 0 none]) ∧
      1 < (run (step literals oneError) init
        (replaced ++ [.failed 1 (.new "connect ECONNREFUSED") 0 none])).2.countP
          (ClusterOutput.removes 0) := by
  constructor
  · rintro ⟨_, _, _, _, _, _, late, _⟩
    have reason := late.leaves 1 (by decide) (by decide)
    exact absurd reason.1 (by decide)
  · decide

end PoolCluster

end Mysql2.Pool

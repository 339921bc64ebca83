import Mysql2.Pool.PoolCluster

/-!
# What a cluster keeps

The methods of a cluster change its registry and its caches in four ways: an id is
registered, an id is unregistered, a pattern is looked up, and a node record is
changed.  A property that survives these holds after every run.
-/

namespace Mysql2.Pool

open Mysql2.Packets (JsError)
open Mysql2.Script
open Mysql2.Transition

variable {ρ : Type}

/-- Outputs that tell nothing of the registry and the caches. -/
def ClusterOutput.quiet : ClusterOutput ρ → Bool
  | .lookup _ | .registered _ | .unregistered _ => false
  | _ => true

namespace PoolCluster

/-- Two clusters with the same registry, caches and node records. -/
structure SameRegistry (cluster other : PoolCluster ρ) : Prop where
  nodes : other.nodes = cluster.nodes
  serviceableNodeIds : other.serviceableNodeIds = cluster.serviceableNodeIds
  findCaches : other.findCaches = cluster.findCaches
  records : other.records = cluster.records
  created : other.created = cluster.created

/-- An id is taken out of the registry. -/
def unregister (cluster : PoolCluster ρ) (id : JsString) : PoolCluster ρ :=
  clearFindCaches
    { cluster with
      serviceableNodeIds := cluster.serviceableNodeIds.erase id
      nodes := Function.update cluster.nodes id none }

/-- Changes of a record that keep its id, and keep it online unless nodes are restored. -/
structure Keeps (config : ClusterConfig) (change : Node → Node) : Prop where
  id : ∀ record, (change record).id = record.id
  online : config.restoreNodeTimeout ≤ 0 →
    ∀ record, record.offlineUntil = 0 → (change record).offlineUntil = 0

/-- A property of the outputs so far and the cluster that survives what the methods
do. -/
structure Invariant (regExps : RegExps ρ) (config : ClusterConfig)
    (holds : List (ClusterOutput ρ) → PoolCluster ρ → Prop) : Prop where
  quiet : ∀ {outputs more cluster other}, holds outputs cluster → SameRegistry cluster other →
    (∀ output ∈ more, ClusterOutput.quiet output = true) → holds (outputs ++ more) other
  register : ∀ {outputs cluster id}, cluster.nodes id = none → inherited id = none →
    holds outputs cluster →
      holds (outputs ++ [.registered id]) (cluster.register id).1
  unregister : ∀ {outputs cluster id}, id ∈ cluster.serviceableNodeIds → holds outputs cluster →
    holds (outputs ++ [.unregistered id]) (cluster.unregister id)
  modify : ∀ {outputs cluster node change}, Keeps config change → holds outputs cluster →
    holds outputs (cluster.modify node change)
  find : ∀ {outputs cluster} pattern, holds outputs cluster →
    holds (outputs ++ [.lookup pattern]) (cluster.findNodeIds regExps pattern).1

namespace Invariant

variable {regExps : RegExps ρ} {config : ClusterConfig}
  {holds : List (ClusterOutput ρ) → PoolCluster ρ → Prop} (invariant : Invariant regExps config holds)
  {outputs : List (ClusterOutput ρ)} {cluster : PoolCluster ρ}

include invariant

/-- The property does not look at anything else. -/
theorem same {other : PoolCluster ρ} (before : holds outputs cluster)
    (registry : SameRegistry cluster other) : holds outputs other := by
  have after := invariant.quiet before registry (List.forall_mem_nil _)
  rw [List.append_nil] at after
  exact after

theorem register_eq (before : holds outputs cluster) (id : JsString) :
    holds (outputs ++ (cluster.register id).2) (cluster.register id).1 := by
  by_cases free : cluster.nodes id = none ∧ inherited id = none
  · have outputsEq : (cluster.register id).2 = [.registered id] := by
      rw [PoolCluster.register, if_pos free]
    rw [outputsEq]
    exact invariant.register free.1 free.2 before
  · rw [PoolCluster.register, if_neg free, List.append_nil]
    exact before

theorem add (before : holds outputs cluster) (id : Option JsString) :
    holds (outputs ++ (cluster.add id).2) (cluster.add id).1 := by
  cases id with
  | some id => exact invariant.register_eq before id
  | none =>
      apply invariant.register_eq
      exact invariant.same before ⟨rfl, rfl, rfl, rfl, rfl⟩

theorem removeNode (before : holds outputs cluster) (node : Nat) (endError : Option JsError) :
    holds (outputs ++ (cluster.removeNode node endError).outputs)
      (cluster.removeNode node endError).cluster := by
  unfold PoolCluster.removeNode
  by_cases listed : (cluster.records node).id ∈ cluster.serviceableNodeIds
  · simp only [if_pos listed]
    apply invariant.modify
    · constructor
      · intro record
        rfl
      · intro _ record online
        exact online
    · exact invariant.unregister listed before
  · simp only [if_neg listed, List.append_nil]
    exact before

theorem removeAll (before : holds outputs cluster) (ends : Nat → Option JsError)
    (ids : List JsString) :
    holds (outputs ++ (removeAll ends cluster ids).2) (removeAll ends cluster ids).1 := by
  induction ids generalizing outputs cluster with
  | nil =>
      rw [PoolCluster.removeAll, List.append_nil]
      exact before
  | cons id ids ih =>
      rw [PoolCluster.removeAll]
      cases found : cluster.nodes id with
      | none => exact ih before
      | some node =>
          have removed := invariant.removeNode before node (ends node)
          dsimp only
          cases (cluster.removeNode node (ends node)).thrown with
          | some err =>
              rw [← List.append_assoc]
              exact invariant.quiet removed ⟨rfl, rfl, rfl, rfl, rfl⟩ (by simp [ClusterOutput.quiet])
          | none =>
              rw [← List.append_assoc]
              exact ih removed

theorem remove (before : holds outputs cluster) (pattern : Pattern ρ)
    (ends : Nat → Option JsError) :
    holds (outputs ++ (cluster.remove regExps pattern ends).2)
      (cluster.remove regExps pattern ends).1 := by
  rw [PoolCluster.remove, List.append_cons]
  exact invariant.removeAll (invariant.find pattern before) ends _

theorem getClusterNode (before : holds outputs cluster) (key : JsString) (space : PoolNamespace ρ)
    (random : Nat) (now : Int) :
    holds (outputs ++ [.lookup space.pattern])
      (cluster.getClusterNode regExps key space random now).1 := by
  have found := invariant.find space.pattern before
  unfold PoolCluster.getClusterNode
  dsimp only
  split
  · exact found
  · exact found
  · exact found
  · exact invariant.same found ⟨rfl, rfl, rfl, rfl, rfl⟩

theorem connect (before : holds outputs cluster) (request : Nat) (key : JsString)
    (space : PoolNamespace ρ) (random : Nat) (now : Int) :
    holds (outputs ++ (cluster.connect regExps request key space random now).2)
      (cluster.connect regExps request key space random now).1 := by
  have found := invariant.getClusterNode before key space random now
  unfold PoolCluster.connect
  dsimp only
  split
  · rw [List.append_cons]
    exact invariant.quiet found ⟨rfl, rfl, rfl, rfl, rfl⟩ (by simp [ClusterOutput.quiet])
  · rw [List.append_cons]
    exact invariant.quiet found ⟨rfl, rfl, rfl, rfl, rfl⟩ (by simp [ClusterOutput.quiet])
  · rw [List.append_cons, List.append_cons]
    exact invariant.quiet (invariant.find space.pattern found) ⟨rfl, rfl, rfl, rfl, rfl⟩
      (by simp [ClusterOutput.quiet])

theorem namespaceOf (before : holds outputs cluster) (pattern : Pattern ρ) (selector : JsString) :
    holds outputs (cluster.namespaceOf regExps pattern selector).1 := by
  unfold PoolCluster.namespaceOf
  dsimp only
  split
  · exact before
  · exact invariant.same before ⟨rfl, rfl, rfl, rfl, rfl⟩
  · exact before

theorem of (before : holds outputs cluster) (pattern : Pattern ρ) (selector : JsString) :
    holds (outputs ++ (cluster.of regExps pattern selector).2)
      (cluster.of regExps pattern selector).1 := by
  have found := invariant.namespaceOf before pattern selector
  apply invariant.quiet found ⟨rfl, rfl, rfl, rfl, rfl⟩
  unfold PoolCluster.of
  dsimp only
  split <;> simp [ClusterOutput.quiet]

theorem getConnection (before : holds outputs cluster) (pattern : Pattern ρ) (selector : JsString)
    (random : Nat) (now : Int) :
    holds (outputs ++ (cluster.getConnection regExps pattern selector random now).2)
      (cluster.getConnection regExps pattern selector random now).1 := by
  have found := invariant.namespaceOf before pattern selector
  unfold PoolCluster.getConnection
  dsimp only
  split
  · exact invariant.quiet found ⟨rfl, rfl, rfl, rfl, rfl⟩ (by simp [ClusterOutput.quiet])
  · apply invariant.connect
    exact invariant.same found ⟨rfl, rfl, rfl, rfl, rfl⟩

theorem increaseErrorCount (before : holds outputs cluster) (node : Nat) (now : Int)
    (endError : Option JsError) :
    holds (outputs ++ (increaseErrorCount config cluster node now endError).outputs)
      (increaseErrorCount config cluster node now endError).cluster := by
  have counted : holds outputs
      (cluster.modify node fun record => { record with errorCount := record.errorCount + 1 }) :=
    invariant.modify ⟨fun _ => rfl, fun _ _ online => online⟩ before
  unfold PoolCluster.increaseErrorCount
  dsimp only
  split
  · rw [List.append_nil]
    exact counted
  · split
    · rename_i restores
      have offline : Keeps config fun record =>
          { record with offlineUntil := now + config.restoreNodeTimeout } :=
        ⟨fun _ => rfl, fun never => absurd restores (Int.not_lt.mpr never)⟩
      exact invariant.quiet (invariant.modify offline counted) ⟨rfl, rfl, rfl, rfl, rfl⟩ (by simp [ClusterOutput.quiet])
    · have removed := invariant.removeNode counted node endError
      split
      · exact removed
      · dsimp only
        rw [← List.append_assoc]
        exact invariant.quiet removed ⟨rfl, rfl, rfl, rfl, rfl⟩ (by simp [ClusterOutput.quiet])

theorem decreaseErrorCount (before : holds outputs cluster) (node : Nat) :
    holds (outputs ++ (decreaseErrorCount config cluster node).2)
      (decreaseErrorCount config cluster node).1 := by
  have online : Keeps config fun record =>
      { record with
        errorCount := (max 1 (min ((cluster.records node).errorCount : Int)
          config.removeNodeErrorCount) - 1).toNat
        offlineUntil := 0 } :=
    ⟨fun _ => rfl, fun _ _ _ => rfl⟩
  unfold PoolCluster.decreaseErrorCount
  apply invariant.quiet (invariant.modify online before) ⟨rfl, rfl, rfl, rfl, rfl⟩
  split <;> simp [ClusterOutput.quiet]

theorem connected (before : holds outputs cluster) (request : Nat) :
    holds (outputs ++ (connected config cluster request).2) (connected config cluster request).1 := by
  unfold PoolCluster.connected
  split
  · exact invariant.same (invariant.decreaseErrorCount before _) ⟨rfl, rfl, rfl, rfl, rfl⟩
  · rw [List.append_nil]
    exact before

theorem failed (before : holds outputs cluster) (request : Nat) (err : JsError) (now : Int)
    (endError : Option JsError) :
    holds (outputs ++ (failed config cluster request err now endError).2)
      (failed config cluster request err now endError).1 := by
  unfold PoolCluster.failed
  split
  · rename_i node _
    have increased := invariant.increaseErrorCount before node now endError
    dsimp only
    split
    · rw [← List.append_assoc]
      exact invariant.quiet increased ⟨rfl, rfl, rfl, rfl, rfl⟩ (by simp [ClusterOutput.quiet])
    · exact invariant.same increased ⟨rfl, rfl, rfl, rfl, rfl⟩
  · rw [List.append_nil]
    exact before

theorem answer (before : holds outputs cluster) (request : Nat) (now : Int) :
    holds (outputs ++ (cluster.answer regExps config request now).2)
      (cluster.answer regExps config request now).1 := by
  unfold PoolCluster.answer
  split
  · exact invariant.quiet before ⟨rfl, rfl, rfl, rfl, rfl⟩ (by simp [ClusterOutput.quiet])
  · split
    · rename_i space _
      have found := invariant.find space.pattern before
      split
      · dsimp only
        split <;>
        · rw [List.append_cons]
          exact invariant.quiet found ⟨rfl, rfl, rfl, rfl, rfl⟩ (by simp [ClusterOutput.quiet])
      · exact invariant.quiet before ⟨rfl, rfl, rfl, rfl, rfl⟩ (by simp [ClusterOutput.quiet])
    · rw [List.append_nil]
      exact before
  · rw [List.append_nil]
    exact before

theorem retry (before : holds outputs cluster) (request random : Nat) (now : Int) :
    holds (outputs ++ (cluster.retry regExps request random now).2)
      (cluster.retry regExps request random now).1 := by
  unfold PoolCluster.retry
  split
  · split
    · exact invariant.connect before ..
    · rw [List.append_nil]
      exact before
  · rw [List.append_nil]
    exact before

/-- The property survives an event. -/
theorem step (before : holds outputs cluster) (event : ClusterEvent ρ) :
    holds (outputs ++ (step regExps config cluster event).2)
      (step regExps config cluster event).1 := by
  cases event with
  | add id => exact invariant.add before id
  | remove pattern ends => exact invariant.remove before pattern ends
  | find pattern => exact invariant.find pattern before
  | of pattern selector => exact invariant.of before pattern selector
  | getConnection pattern selector random now =>
      exact invariant.getConnection before pattern selector random now
  | connected request => exact invariant.connected before request
  | failed request err now endError => exact invariant.failed before request err now endError
  | answer request now => exact invariant.answer before request now
  | retry request random now => exact invariant.retry before request random now

/-- The property survives a run. -/
theorem run (before : holds outputs cluster) (events : List (ClusterEvent ρ)) :
    holds (outputs ++ (run (PoolCluster.step regExps config) cluster events).2)
      (run (PoolCluster.step regExps config) cluster events).1 :=
  run_invariant holds (fun _ _ event before => invariant.step before event) events before

end Invariant

end PoolCluster

end Mysql2.Pool

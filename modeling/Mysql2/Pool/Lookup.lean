import Mathlib.Data.List.Infix
import Mathlib.Data.List.Nodup
import Mysql2.Pool.Registration

/-!
# Lookups of a cluster

The cache of lookups is keyed by the text of patterns, and is cleared when the registry
changes.  So a lookup serves what the first pattern with that text has matched since
the registry changed, or a member of `Object.prototype` with that name.
-/

namespace Mysql2.Pool

open Mysql2.Packets (JsError)
open Mysql2.Script
open Mysql2.Transition

variable {ρ : Type}

namespace PoolCluster

/-! ## The registry -/

/-- A node record is the one registered under its id. -/
def Registered (cluster : PoolCluster ρ) (node : Nat) : Prop :=
  cluster.nodes (cluster.records node).id = some node

instance (cluster : PoolCluster ρ) (node : Nat) : Decidable (cluster.Registered node) :=
  inferInstanceAs (Decidable (_ = _))

/-- The registered nodes in the order they were added. -/
def registeredNodes (cluster : PoolCluster ρ) : List Nat :=
  (List.range cluster.created).filter fun node =>
    cluster.nodes (cluster.records node).id = some node

/-- Their ids. -/
def registeredIds (cluster : PoolCluster ρ) : List JsString :=
  cluster.registeredNodes.map fun node => (cluster.records node).id

theorem SameRegistry.registeredIds {cluster other : PoolCluster ρ}
    (same : SameRegistry cluster other) : other.registeredIds = cluster.registeredIds := by
  simp only [PoolCluster.registeredIds, registeredNodes, same.nodes, same.records, same.created]

/-- `_nodes` and `_serviceableNodeIds` agree, and inherited names are not registered. -/
structure Sound (cluster : PoolCluster ρ) : Prop where
  created : ∀ id node, cluster.nodes id = some node → node < cluster.created
  named : ∀ id node, cluster.nodes id = some node → (cluster.records node).id = id
  own : ∀ id node, cluster.nodes id = some node → inherited id = none
  listed : cluster.serviceableNodeIds = cluster.registeredIds

namespace Sound

variable {cluster : PoolCluster ρ}

theorem mem_registeredNodes (sound : Sound cluster) {node : Nat} :
    node ∈ cluster.registeredNodes ↔ cluster.Registered node := by
  simp only [registeredNodes, List.mem_filter, List.mem_range, decide_eq_true_eq]
  exact and_iff_right_iff_imp.mpr (sound.created _ _)

theorem mem_registeredIds (sound : Sound cluster) {id : JsString} :
    id ∈ cluster.registeredIds ↔ ∃ node, cluster.nodes id = some node := by
  simp only [registeredIds, List.mem_map, sound.mem_registeredNodes]
  constructor
  · rintro ⟨node, registered, rfl⟩
    exact ⟨node, registered⟩
  · rintro ⟨node, found⟩
    have named := sound.named id node found
    refine ⟨node, ?_, named⟩
    rw [Registered, named]
    exact found

theorem nodup_registeredIds (cluster : PoolCluster ρ) : cluster.registeredIds.Nodup := by
  apply List.Nodup.map_on
  · intro node isRegistered other otherRegistered sameId
    have registered : cluster.Registered node := of_decide_eq_true (List.mem_filter.mp isRegistered).2
    have otherIs : cluster.Registered other := of_decide_eq_true (List.mem_filter.mp otherRegistered).2
    rw [Registered, sameId, otherIs] at registered
    exact (Option.some.inj registered).symm
  · exact List.nodup_range.filter _

theorem of_same {other : PoolCluster ρ} (sound : Sound cluster)
    (same : SameRegistry cluster other) : Sound other := by
  constructor
  · rw [same.nodes, same.created]
    exact sound.created
  · rw [same.nodes, same.records]
    exact sound.named
  · rw [same.nodes]
    exact sound.own
  · rw [same.serviceableNodeIds, same.registeredIds]
    exact sound.listed

end Sound

theorem register_of_free {cluster : PoolCluster ρ} {id : JsString} (free : cluster.nodes id = none)
    (own : inherited id = none) :
    (cluster.register id).1 = clearFindCaches
      { cluster with
        nodes := Function.update cluster.nodes id (some cluster.created)
        serviceableNodeIds := cluster.serviceableNodeIds ++ [id]
        records := Function.update cluster.records cluster.created (newNode id)
        created := cluster.created + 1 } := by
  rw [register, if_pos ⟨free, own⟩]

/-- A new node comes behind the others. -/
theorem registeredIds_register {cluster : PoolCluster ρ} {id : JsString}
    (free : cluster.nodes id = none) (own : inherited id = none) :
    (cluster.register id).1.registeredIds = cluster.registeredIds ++ [id] := by
  have nodesEq : (cluster.register id).1.nodes =
      Function.update cluster.nodes id (some cluster.created) := by
    rw [register_of_free free own]
    rfl
  have recordsEq : (cluster.register id).1.records =
      Function.update cluster.records cluster.created (newNode id) := by
    rw [register_of_free free own]
    rfl
  have createdEq : (cluster.register id).1.created = cluster.created + 1 := by
    rw [register_of_free free own]
    rfl
  have older : ∀ node ∈ List.range cluster.created, node ≠ cluster.created := fun node member =>
    Nat.ne_of_lt (List.mem_range.mp member)
  rw [registeredIds, registeredNodes, createdEq, List.range_succ, List.filter_append,
    List.map_append]
  congr 1
  · refine (congrArg (List.map _) (List.filter_congr fun node member => ?_)).trans
      (List.map_congr_left fun node member => ?_)
    · have isOlder := older node member
      rw [decide_eq_decide, nodesEq, recordsEq, Function.update_of_ne isOlder]
      by_cases sameId : (cluster.records node).id = id
      · simp [sameId, free, isOlder.symm]
      · rw [Function.update_of_ne sameId]
    · rw [recordsEq, Function.update_of_ne (older node (List.mem_of_mem_filter member))]
  · simp [nodesEq, recordsEq, newNode]

/-- The others stay when an id goes. -/
theorem registeredIds_unregister (cluster : PoolCluster ρ) (id : JsString) :
    (cluster.unregister id).registeredIds = cluster.registeredIds.erase id := by
  rw [(Sound.nodup_registeredIds cluster).erase_eq_filter]
  simp only [registeredIds, registeredNodes, unregister, clearFindCaches,
    List.filter_map, List.filter_filter]
  congr 1
  apply List.filter_congr
  intro node _
  by_cases sameId : (cluster.records node).id = id
  · simp [sameId]
  · simp [sameId, bne]

@[simp]
theorem id_modify {config : ClusterConfig} {change : Node → Node} (keeps : Keeps config change)
    (cluster : PoolCluster ρ) (node other : Nat) :
    ((cluster.modify node change).records other).id = (cluster.records other).id := by
  by_cases same : other = node
  · subst same
    simp [modify, keeps.id]
  · simp [modify, same]

theorem registeredIds_modify {config : ClusterConfig} {change : Node → Node}
    (keeps : Keeps config change) (cluster : PoolCluster ρ) (node : Nat) :
    (cluster.modify node change).registeredIds = cluster.registeredIds := by
  simp only [registeredIds, registeredNodes, id_modify keeps]
  rfl

theorem findCaches_findNodeIds (regExps : RegExps ρ) (cluster : PoolCluster ρ)
    (pattern : Pattern ρ) :
    (cluster.findNodeIds regExps pattern).1.findCaches =
      if pattern.key regExps = units "__proto__" then cluster.findCaches
      else Function.update cluster.findCaches (pattern.key regExps)
        (some (cluster.findNodeIds regExps pattern).2) := by
  unfold findNodeIds
  dsimp only
  split <;> rfl

theorem findNodeIds_snd (regExps : RegExps ρ) (cluster : PoolCluster ρ) (pattern : Pattern ρ) :
    (cluster.findNodeIds regExps pattern).2 =
      match cluster.findCaches (pattern.key regExps), inherited (pattern.key regExps) with
      | some found, _ => found
      | none, some length => .member length
      | none, none =>
          .ids (cluster.serviceableNodeIds.filter (pattern.matchesId regExps)) := by
  unfold findNodeIds
  dsimp only
  split <;> rfl

@[simp]
theorem nodes_findNodeIds (regExps : RegExps ρ) (cluster : PoolCluster ρ) (pattern : Pattern ρ) :
    (cluster.findNodeIds regExps pattern).1.nodes = cluster.nodes := by
  unfold findNodeIds
  dsimp only
  split <;> rfl

@[simp]
theorem records_findNodeIds (regExps : RegExps ρ) (cluster : PoolCluster ρ) (pattern : Pattern ρ) :
    (cluster.findNodeIds regExps pattern).1.records = cluster.records := by
  unfold findNodeIds
  dsimp only
  split <;> rfl

@[simp]
theorem namespaces_findNodeIds (regExps : RegExps ρ) (cluster : PoolCluster ρ)
    (pattern : Pattern ρ) :
    (cluster.findNodeIds regExps pattern).1.namespaces = cluster.namespaces := by
  unfold findNodeIds
  dsimp only
  split <;> rfl

@[simp]
theorem requests_findNodeIds (regExps : RegExps ρ) (cluster : PoolCluster ρ)
    (pattern : Pattern ρ) :
    (cluster.findNodeIds regExps pattern).1.requests = cluster.requests := by
  unfold findNodeIds
  dsimp only
  split <;> rfl

@[simp]
theorem created_findNodeIds (regExps : RegExps ρ) (cluster : PoolCluster ρ) (pattern : Pattern ρ) :
    (cluster.findNodeIds regExps pattern).1.created = cluster.created := by
  unfold findNodeIds
  dsimp only
  split <;> rfl

@[simp]
theorem serviceableNodeIds_findNodeIds (regExps : RegExps ρ) (cluster : PoolCluster ρ)
    (pattern : Pattern ρ) :
    (cluster.findNodeIds regExps pattern).1.serviceableNodeIds = cluster.serviceableNodeIds := by
  unfold findNodeIds
  dsimp only
  split <;> rfl

@[simp]
theorem registeredNodes_findNodeIds (regExps : RegExps ρ) (cluster : PoolCluster ρ)
    (pattern : Pattern ρ) :
    (cluster.findNodeIds regExps pattern).1.registeredNodes = cluster.registeredNodes := by
  simp [registeredNodes]

@[simp]
theorem registeredIds_findNodeIds (regExps : RegExps ρ) (cluster : PoolCluster ρ)
    (pattern : Pattern ρ) :
    (cluster.findNodeIds regExps pattern).1.registeredIds = cluster.registeredIds := by
  simp [registeredIds]

namespace Sound

variable {cluster : PoolCluster ρ} {id : JsString}

theorem register (sound : Sound cluster) (free : cluster.nodes id = none)
    (own : inherited id = none) : Sound (cluster.register id).1 := by
  have listed := registeredIds_register free own
  rw [register_of_free free own] at listed ⊢
  constructor
  · intro other node found
    by_cases same : other = id
    · subst same
      simp [clearFindCaches] at found
      simp [clearFindCaches, ← found]
    · simp only [clearFindCaches, Function.update_of_ne same] at found
      exact Nat.lt_succ_of_lt (sound.created other node found)
  · intro other node found
    by_cases same : other = id
    · subst same
      simp [clearFindCaches] at found
      simp [clearFindCaches, ← found, newNode]
    · simp only [clearFindCaches, Function.update_of_ne same] at found
      have older := Nat.ne_of_lt (sound.created other node found)
      simp only [clearFindCaches, Function.update_of_ne older]
      exact sound.named other node found
  · intro other node found
    by_cases same : other = id
    · subst same
      exact own
    · simp only [clearFindCaches, Function.update_of_ne same] at found
      exact sound.own other node found
  · rw [listed, ← sound.listed]
    rfl

theorem unregister (sound : Sound cluster) (id : JsString) : Sound (cluster.unregister id) := by
  have remains : ∀ other node, (cluster.unregister id).nodes other = some node →
      cluster.nodes other = some node := by
    intro other node found
    by_cases same : other = id
    · subst same
      simp [PoolCluster.unregister, clearFindCaches] at found
    · simpa [PoolCluster.unregister, clearFindCaches, same] using found
  constructor
  · exact fun other node found => sound.created other node (remains other node found)
  · exact fun other node found => sound.named other node (remains other node found)
  · exact fun other node found => sound.own other node (remains other node found)
  · rw [registeredIds_unregister, ← sound.listed]
    rfl

theorem modify {config : ClusterConfig} {change : Node → Node} (sound : Sound cluster)
    (keeps : Keeps config change) (node : Nat) : Sound (cluster.modify node change) := by
  constructor
  · exact sound.created
  · intro id other found
    rw [id_modify keeps]
    exact sound.named id other found
  · exact sound.own
  · rw [registeredIds_modify keeps]
    exact sound.listed

theorem removeNode (sound : Sound cluster) (config : ClusterConfig) (node : Nat)
    (endError : Option JsError) : Sound (cluster.removeNode node endError).cluster := by
  have keeps : Keeps config fun record => { record with ended := true } :=
    ⟨fun _ => rfl, fun _ _ online => online⟩
  unfold PoolCluster.removeNode
  dsimp only
  split
  · exact (sound.unregister _).modify keeps node
  · exact sound

theorem find (sound : Sound cluster) (regExps : RegExps ρ) (pattern : Pattern ρ) :
    Sound (cluster.findNodeIds regExps pattern).1 := by
  constructor
  · simpa using sound.created
  · simpa using sound.named
  · simpa using sound.own
  · simpa using sound.listed

end Sound

theorem sound_invariant (regExps : RegExps ρ) (config : ClusterConfig) :
    Invariant regExps config fun _ cluster => Sound cluster where
  quiet sound same _ := sound.of_same same
  register free own sound := sound.register free own
  unregister _ sound := sound.unregister _
  modify keeps sound := sound.modify keeps _
  find pattern sound := sound.find regExps pattern

theorem Sound.step {cluster : PoolCluster ρ} (sound : Sound cluster) (regExps : RegExps ρ)
    (config : ClusterConfig) (event : ClusterEvent ρ) :
    Sound (step regExps config cluster event).1 :=
  @Invariant.step ρ regExps config _ (sound_invariant regExps config) [] cluster sound event

theorem sound_init : Sound (init : PoolCluster ρ) := by
  constructor
  · rintro id node ⟨⟩
  · rintro id node ⟨⟩
  · rintro id node ⟨⟩
  · rfl

/-! ## The cache -/

/-- The patterns looked up since the registry changed, one output on. -/
def looked (patterns : List (Pattern ρ)) : ClusterOutput ρ → List (Pattern ρ)
  | .lookup pattern => patterns ++ [pattern]
  | .registered _ | .unregistered _ => []
  | _ => patterns

/-- The patterns looked up since the registry changed. -/
def lookedUp (outputs : List (ClusterOutput ρ)) : List (Pattern ρ) :=
  outputs.foldl looked []

theorem lookedUp_append_quiet (outputs : List (ClusterOutput ρ)) {more : List (ClusterOutput ρ)}
    (quiet : ∀ output ∈ more, ClusterOutput.quiet output = true) :
    lookedUp (outputs ++ more) = lookedUp outputs := by
  induction more generalizing outputs with
  | nil => rw [List.append_nil]
  | cons output more ih =>
      have ⟨isQuiet, areQuiet⟩ := List.forall_mem_cons.mp quiet
      have same : lookedUp (outputs ++ [output]) = lookedUp outputs := by
        rw [lookedUp, List.foldl_append]
        cases output <;> first | rfl | cases isQuiet
      rw [List.append_cons, ih _ areQuiet, same]

@[simp]
theorem lookedUp_lookup (outputs : List (ClusterOutput ρ)) (pattern : Pattern ρ) :
    lookedUp (outputs ++ [.lookup pattern]) = lookedUp outputs ++ [pattern] := by
  simp [lookedUp, looked]

section Cache

variable (regExps : RegExps ρ)

/-- The first of some patterns with a key. -/
def firstWith (key : JsString) (patterns : List (Pattern ρ)) : Option (Pattern ρ) :=
  patterns.find? fun pattern => pattern.key regExps = key

/-- The ids of the registered nodes that match a pattern, in the order they were added. -/
def matchingIds (cluster : PoolCluster ρ) (pattern : Pattern ρ) : List JsString :=
  cluster.registeredIds.filter (pattern.matchesId regExps)

/-- The cache holds what the first patterns looked up have matched. -/
structure Cached (outputs : List (ClusterOutput ρ)) (cluster : PoolCluster ρ) : Prop where
  sound : Sound cluster
  own : ∀ key, inherited key = none →
    cluster.findCaches key = (firstWith regExps key (lookedUp outputs)).map fun first =>
      .ids (cluster.matchingIds regExps first)
  member : ∀ key length, inherited key = some length →
    cluster.findCaches key = none ∨ cluster.findCaches key = some (.member length)

variable {regExps} {outputs : List (ClusterOutput ρ)} {cluster : PoolCluster ρ}

/-- What a lookup returns. -/
theorem Cached.findNodeIds (cached : Cached regExps outputs cluster) (pattern : Pattern ρ) :
    (cluster.findNodeIds regExps pattern).2 =
      match inherited (pattern.key regExps) with
      | some length => .member length
      | none => .ids (cluster.matchingIds regExps
          ((firstWith regExps (pattern.key regExps) (lookedUp outputs)).getD pattern)) := by
  rw [findNodeIds_snd]
  cases own : inherited (pattern.key regExps) with
  | some length =>
      rcases cached.member _ length own with empty | filled
      · rw [empty]
      · rw [filled]
  | none =>
      rw [cached.own _ own]
      cases firstWith regExps (pattern.key regExps) (lookedUp outputs) with
      | none =>
          rw [cached.sound.listed]
          rfl
      | some first => rfl

variable (regExps) in
theorem cached_invariant (config : ClusterConfig) : Invariant regExps config (Cached regExps) where
  quiet {outputs more cluster other} cached same quiet := by
    constructor
    · exact cached.sound.of_same same
    · intro key own
      rw [same.findCaches, lookedUp_append_quiet outputs quiet, cached.own key own]
      simp only [matchingIds, same.registeredIds]
    · rw [same.findCaches]
      exact cached.member
  register {outputs cluster id} free own cached := by
    constructor
    · exact cached.sound.register free own
    · intro key _
      rw [register_of_free free own]
      simp [clearFindCaches, lookedUp, looked, firstWith]
    · intro key length _
      rw [register_of_free free own]
      exact .inl rfl
  unregister {outputs cluster id} _ cached := by
    constructor
    · exact cached.sound.unregister id
    · intro key _
      simp [unregister, clearFindCaches, lookedUp, looked, firstWith]
    · intro key length _
      exact .inl rfl
  modify {outputs cluster node change} keeps cached := by
    constructor
    · exact cached.sound.modify keeps node
    · intro key own
      simp only [matchingIds, registeredIds_modify keeps]
      exact cached.own key own
    · exact cached.member
  find {outputs cluster} pattern cached := by
    have found := cached.findNodeIds pattern
    constructor
    · exact cached.sound.find regExps pattern
    · intro key own
      have isFirst : firstWith regExps key (lookedUp (outputs ++ [.lookup pattern])) =
          (firstWith regExps key (lookedUp outputs)).or
            (if pattern.key regExps = key then some pattern else none) := by
        by_cases same : pattern.key regExps = key <;> simp [firstWith, List.find?_append, same]
      rw [isFirst, findCaches_findNodeIds]
      simp only [matchingIds, registeredIds_findNodeIds]
      by_cases same : pattern.key regExps = key
      · subst same
        have notProto : pattern.key regExps ≠ units "__proto__" := by
          intro isProto
          rw [isProto] at own
          exact absurd own (by decide)
        rw [if_neg notProto, Function.update_self, found, own]
        cases firstWith regExps (pattern.key regExps) (lookedUp outputs) <;> simp [matchingIds]
      · have others := cached.own key own
        simp only [matchingIds] at others
        split
        · simp [others]
        · rw [Function.update_of_ne (Ne.symm same)]
          simp [others]
    · intro key length isMember
      rw [findCaches_findNodeIds]
      split
      · exact cached.member key length isMember
      · by_cases same : pattern.key regExps = key
        · subst same
          rw [Function.update_self, found, isMember]
          exact .inr rfl
        · rw [Function.update_of_ne (Ne.symm same)]
          exact cached.member key length isMember

theorem cached_init : Cached regExps [] (init : PoolCluster ρ) := by
  constructor
  · exact sound_init
  · intro key _
    rfl
  · intro key length _
    exact .inl rfl

/-- In every run, a pattern is looked up as the registered nodes that match it, in the
order they were added, exactly if its text names no member of `Object.prototype` and
the first pattern with the same text that was looked up since the registry changed, if
there is one, matches the same nodes. -/
theorem run_findNodeIds_iff (regExps : RegExps ρ) (config : ClusterConfig)
    (events : List (ClusterEvent ρ)) (pattern : Pattern ρ) :
    ((run (step regExps config) init events).1.findNodeIds regExps pattern).2 =
        .ids ((run (step regExps config) init events).1.matchingIds regExps pattern) ↔
      inherited (pattern.key regExps) = none ∧
        ∀ first, firstWith regExps (pattern.key regExps)
            (lookedUp (run (step regExps config) init events).2) = some first →
          (run (step regExps config) init events).1.matchingIds regExps first =
            (run (step regExps config) init events).1.matchingIds regExps pattern := by
  have cached := (cached_invariant regExps config).run cached_init events
  rw [List.nil_append] at cached
  rw [cached.findNodeIds pattern]
  cases own : inherited (pattern.key regExps) with
  | some length => simp
  | none =>
      simp only [Found.ids.injEq, true_and]
      cases firstWith regExps (pattern.key regExps)
          (lookedUp (run (step regExps config) init events).2) with
      | none => simp
      | some first => simp

end Cache

/-! ## A collision -/

/-- Expressions without special characters, by their source: anchored at both ends,
where characters may have a backslash before them, or not anchored. -/
def literals : RegExps JsString where
  compile source := source
  text source := units "/" ++ source ++ units "/"
  test source id :=
    if source.head? = some 94 then id = source.tail.dropLast.filter (· ≠ 92)
    else id.tails.any fun rest => source.isPrefixOf rest

/-- Five errors remove a node, and requests are tried again. -/
def defaultCluster : ClusterConfig :=
  { canRetry := true
    removeNodeErrorCount := 5
    restoreNodeTimeout := 0 }

/-- Two nodes, of which one is named like an expression, are added, and this name is
looked up. -/
def sharedText : List (ClusterEvent JsString) :=
  [.add (some (units "a")), .add (some (units "/a/")), .find (.text (units "/a/"))]

/-- The expression matches both nodes, and one is found. -/
theorem sharedText_findNodeIds :
    ((run (step literals defaultCluster) init sharedText).1.findNodeIds literals
        (.regExp (units "a"))).2 ≠
      .ids ((run (step literals defaultCluster) init sharedText).1.matchingIds literals
        (.regExp (units "a"))) := by
  decide

end PoolCluster

end Mysql2.Pool

import Mysql2.Pool.Closing

/-!
# Ending a cluster

`end(callback)` ends the pools of the nodes one after another, and raises the count of
pools it waits for by one before each.  A pool that has no connection to wait for
reports while the loop is still running.
-/

namespace Mysql2.Pool

open Mysql2.Packets
open Mysql2.Transition

variable {κ : Type}

/-- The pool of a node, with its configuration and its connections that are idle. -/
structure NodePool (κ : Type) where
  config : PoolConfig
  pool : BasePool κ
  idle : Nat → Bool

/-- What `process.nextTick` has put off: a call of `onEnd`, or of the callback itself. -/
inductive EndTick
  | onEnd
  | callback
  deriving DecidableEq, Repr

/-- A cluster behind a call of `end`: the pools that are being ended with their
configurations, the variables of `end` and what is put off. -/
structure ClusterEnd (κ : Type) where
  pools : List (PoolConfig × Closing κ)
  waitingClose : Int
  calledBack : Bool
  tick : Option EndTick

/-- What an observer sees: the pool of a node reports to `end`, and the callback is
called. -/
inductive EndOutput
  | reported (node : Nat) (err : Option JsError)
  | callback (err : Option JsError)
  deriving DecidableEq

/-- Something happens to the pool of a node, or what is put off is run. -/
inductive EndEvent (κ : Type)
  | pool (node : Nat) (event : ClosingEvent κ)
  | tick

/-- What is put off is run. -/
def EndEvent.isTick : EndEvent κ → Bool
  | .tick => true
  | .pool _ _ => false

namespace ClusterEnd

/-- `onEnd(err)`. -/
def onEnd (ending : ClusterEnd κ) : Option JsError → ClusterEnd κ × List EndOutput
  | some err =>
      if ending.calledBack then (ending, [])
      else ({ ending with calledBack := true }, [.callback (some err)])
  | none =>
      if ending.calledBack then
        (ending, [])
      else
        let waitingClose := ending.waitingClose - 1
        if waitingClose ≤ 0 then
          ({ ending with waitingClose := waitingClose, calledBack := true }, [.callback none])
        else
          ({ ending with waitingClose := waitingClose }, [])

/-- The calls of `onEnd` by the pool of a node. -/
def reports (node : Nat) : ClusterEnd κ → List (Option JsError) → ClusterEnd κ × List EndOutput
  | ending, [] => (ending, [])
  | ending, err :: errs =>
      let ended := ending.onEnd err
      let rest := reports node ended.1 errs
      (rest.1, .reported node err :: ended.2 ++ rest.2)

/-- The loop of `end`, for one node. -/
def endPool (ending : ClusterEnd κ) (node : NodePool κ) : ClusterEnd κ × List EndOutput :=
  let closing := Closing.start node.pool node.idle
  reports ending.pools.length
    { ending with
      pools := ending.pools ++ [(node.config, closing.1)]
      waitingClose := ending.waitingClose + 1 }
    closing.2

/-- The loop of `end` over the nodes. -/
def endAll : ClusterEnd κ → List (NodePool κ) → ClusterEnd κ × List EndOutput
  | ending, [] => (ending, [])
  | ending, node :: nodes =>
      let ended := ending.endPool node
      let rest := endAll ended.1 nodes
      (rest.1, ended.2 ++ rest.2)

/-- `end(callback)`, of a cluster that has been ended before or not. -/
def start (closed : Bool) (nodes : List (NodePool κ)) : ClusterEnd κ × List EndOutput :=
  let ending : ClusterEnd κ :=
    { pools := []
      waitingClose := 0
      calledBack := false
      tick := none }
  if closed then
    ({ ending with tick := some .callback }, [])
  else
    let ended := ending.endAll nodes
    (if ended.1.waitingClose = 0 then { ended.1 with tick := some .onEnd } else ended.1, ended.2)

/-- One event behind `end`. -/
def step : Step (ClusterEnd κ) (EndEvent κ) EndOutput
  | ending, .pool node event =>
      match ending.pools[node]? with
      | none => (ending, [])
      | some (config, closing) =>
          let next := Closing.step config closing event
          { ending with pools := ending.pools.set node (config, next.1) }.reports node next.2
  | ending, .tick =>
      match ending.tick with
      | none => (ending, [])
      | some .onEnd => { ending with tick := none }.onEnd none
      | some .callback => ({ ending with tick := none }, [.callback none])

/-! ## What a pool reports -/

end ClusterEnd

namespace Closing

/-- Between two states of a pool that is being ended, its callback is not called, or is
called for the first time. -/
def Calls (closing next : Closing κ) (outputs : List (Option JsError)) : Prop :=
  outputs = [] ∧ next.calledBack = closing.calledBack ∨
    closing.calledBack = false ∧ next.calledBack = true ∧ ∃ err, outputs = [err]

theorem calls_endCB (closing : Closing κ) (err : Option JsError) :
    Calls closing (closing.endCB err).1 (closing.endCB err).2 := by
  unfold endCB
  by_cases called : closing.calledBack = true
  · rw [if_pos called]
    exact .inl ⟨rfl, rfl⟩
  · rw [if_neg called]
    have notCalled := Bool.eq_false_iff.mpr called
    cases err with
    | some err => exact .inr ⟨notCalled, rfl, _, rfl⟩
    | none =>
        dsimp only
        split
        · exact .inr ⟨notCalled, rfl, _, rfl⟩
        · exact .inl ⟨rfl, rfl⟩

theorem calls_realEnd (closing : Closing κ) (closedState idle : Bool) (connection : Nat) :
    Calls closing (closing.realEnd closedState idle connection).1
      (closing.realEnd closedState idle connection).2 := by
  unfold realEnd
  split
  · exact calls_endCB closing _
  · split
    · exact calls_endCB { closing with processed := closing.processed ++ [connection] } none
    · exact .inl ⟨rfl, rfl⟩

theorem Calls.trans {first second third : Closing κ} {outputs more : List (Option JsError)}
    (calls : Calls first second outputs) (callsMore : Calls second third more) :
    Calls first third (outputs ++ more) := by
  rcases calls with ⟨rfl, same⟩ | ⟨before, called, err, rfl⟩
  · rcases callsMore with ⟨rfl, sameMore⟩ | ⟨notCalled, called, err, rfl⟩
    · exact .inl ⟨rfl, sameMore.trans same⟩
    · exact .inr ⟨same.symm.trans notCalled, called, err, rfl⟩
  · rcases callsMore with ⟨rfl, sameMore⟩ | ⟨notCalled, _⟩
    · exact .inr ⟨before, sameMore.trans called, err, rfl⟩
    · exact Bool.noConfusion (called.symm.trans notCalled)

theorem calls_realEndAll (closedState idle : Nat → Bool) (closing : Closing κ)
    (connections : List Nat) :
    Calls closing (closing.realEndAll closedState idle connections).1
      (closing.realEndAll closedState idle connections).2 := by
  induction connections generalizing closing with
  | nil => exact .inl ⟨rfl, rfl⟩
  | cons connection connections ih =>
      rw [realEndAll]
      exact (calls_realEnd closing _ _ connection).trans (ih _)

/-- The callback of a pool is called at most once in the call of `end`. -/
theorem calls_start (pool : BasePool κ) (idle : Nat → Bool) :
    (start pool idle).1.calledBack = false ∧ (start pool idle).2 = [] ∨
      (start pool idle).1.calledBack = true ∧ ∃ err, (start pool idle).2 = [err] := by
  have calls : ∃ closing : Closing κ, closing.calledBack = false ∧
      Calls closing (start pool idle).1 (start pool idle).2 := by
    unfold start
    dsimp only
    split
    · exact ⟨_, rfl, calls_endCB _ none⟩
    · exact ⟨_, rfl, calls_realEndAll _ idle _ _⟩
  obtain ⟨closing, notCalled, ⟨noOutput, same⟩ | ⟨_, called, output⟩⟩ := calls
  · exact .inl ⟨same.trans notCalled, noOutput⟩
  · exact .inr ⟨called, output⟩

theorem calls_step (config : PoolConfig) (closing : Closing κ) (event : ClosingEvent κ) :
    Calls closing (step config closing event).1 (step config closing event).2 := by
  cases event with
  | pool event => exact .inl ⟨rfl, rfl⟩
  | quit connection =>
      rw [step]
      split
      · exact calls_endCB
          { closing with
            waiting := closing.waiting.erase connection
            processed := closing.processed ++ [connection] } none
      · exact .inl ⟨rfl, rfl⟩
  | quitFailed connection err =>
      rw [step]
      split
      · exact calls_endCB { closing with waiting := closing.waiting.erase connection } (some err)
      · exact .inl ⟨rfl, rfl⟩

/-- A pool without connections, or whose connections are all idle and not in the closed
state. -/
def EndsAtOnce (pool : BasePool κ) (idle : Nat → Bool) : Prop :=
  ∀ connection ∈ pool.allConnections,
    (pool.connections connection).closedState = false ∧ idle connection = true

instance (pool : BasePool κ) (idle : Nat → Bool) : Decidable (EndsAtOnce pool idle) :=
  inferInstanceAs (Decidable (∀ connection ∈ pool.allConnections, _ ∧ _))

theorem realEndAll_of_called {closing : Closing κ} (called : closing.calledBack = true)
    (closedState idle : Nat → Bool) (connections : List Nat) :
    (closing.realEndAll closedState idle connections).2 = [] := by
  rcases calls_realEndAll closedState idle closing connections with ⟨noOutput, _⟩ | ⟨notCalled, _⟩
  · exact noOutput
  · exact Bool.noConfusion (called.symm.trans notCalled)

/-- By induction on the connections to come, of which there are no more than the count
still needs. -/
theorem none_mem_realEndAll (closedState idle : Nat → Bool) {closing : Closing κ}
    {connections : List Nat} (notCalled : closing.calledBack = false)
    (room : closing.closedConnections + connections.length ≤ closing.pool.allConnections.length)
    (more : closing.closedConnections < closing.pool.allConnections.length) :
    none ∈ (closing.realEndAll closedState idle connections).2 ↔
      closing.closedConnections + connections.length = closing.pool.allConnections.length ∧
        ∀ connection ∈ connections, closedState connection = false ∧ idle connection = true := by
  induction connections generalizing closing with
  | nil =>
      rw [realEndAll]
      simp only [List.not_mem_nil, List.length_nil, Nat.add_zero, false_iff]
      rintro ⟨full, _⟩
      omega
  | cons connection connections ih =>
      rw [List.length_cons] at room ⊢
      rw [realEndAll, List.mem_append]
      by_cases closed : closedState connection = true
      · have failed : closing.realEnd (closedState connection) (idle connection) connection =
            ({ closing with calledBack := true }, [some Connection.BaseConnection.closedStateError]) := by
          rw [realEnd, if_pos closed, endCB, if_neg (by simp [notCalled])]
        rw [failed, realEndAll_of_called rfl]
        simp [closed]
      · by_cases isIdle : idle connection = true
        · have started : closing.realEnd (closedState connection) (idle connection) connection =
              closing.startQuit connection := by
            rw [realEnd, if_neg closed, if_pos isIdle]
          rw [started, startQuit, endCB, if_neg (by simp [notCalled])]
          dsimp only
          by_cases reached :
              closing.pool.allConnections.length ≤ closing.closedConnections + 1
          · have last : connections = [] := List.length_eq_zero_iff.mp (by omega)
            rw [if_pos reached, last]
            simp [closed, isIdle]
            omega
          · have rest := @ih
              { closing with
                processed := closing.processed ++ [connection]
                closedConnections := closing.closedConnections + 1 }
              notCalled (by dsimp only; omega) (by dsimp only; omega)
            rw [if_neg reached]
            simp only [List.not_mem_nil, false_or]
            rw [rest]
            simp [closed, isIdle]
            omega
        · have waits : closing.realEnd (closedState connection) (idle connection) connection =
              ({ closing with waiting := closing.waiting ++ [connection] }, []) := by
            rw [realEnd, if_neg closed, if_neg isIdle]
          have rest := @ih { closing with waiting := closing.waiting ++ [connection] } notCalled
            (by dsimp only; omega) more
          rw [waits]
          simp only [List.not_mem_nil, false_or]
          rw [rest]
          simp [isIdle]
          omega

/-- A pool reports success in the call of `end` exactly if nothing is to be waited for. -/
theorem none_mem_start (pool : BasePool κ) (idle : Nat → Bool) :
    none ∈ (start pool idle).2 ↔ EndsAtOnce pool idle := by
  rw [start]
  by_cases empty : pool.allConnections.length = 0
  · have noConnections := List.length_eq_zero_iff.mp empty
    have here : pool.endPool.allConnections.length ≤ 0 + 1 := by
      show pool.allConnections.length ≤ 0 + 1
      omega
    rw [if_pos empty, endCB, if_neg (by simp)]
    dsimp only
    rw [if_pos here, EndsAtOnce, noConnections]
    simp
  · have same : pool.endPool.allConnections = pool.allConnections := rfl
    rw [if_neg empty, none_mem_realEndAll _ idle rfl]
    · simp [same, EndsAtOnce]
    · simp [same]
    · simp only [same]
      omega

end Closing

namespace EndOutput

/-- The callback is called. -/
def isCallback : EndOutput → Bool
  | .callback _ => true
  | .reported _ _ => false

/-- All nodes have reported, or one has reported an error. -/
def Settled (total : Nat) (outputs : List EndOutput) : Prop :=
  (∀ node, node < total → ∃ err, EndOutput.reported node err ∈ outputs) ∨
    ∃ node err, EndOutput.reported node (some err) ∈ outputs

/-- The callback is not called before that. -/
def InOrder (total : Nat) (outputs : List EndOutput) : Prop :=
  ∀ before err after, outputs = before ++ EndOutput.callback err :: after → Settled total before

theorem InOrder.append {total : Nat} {outputs more : List EndOutput}
    (inOrder : InOrder total outputs) (quiet : ∀ output ∈ more, isCallback output = false) :
    InOrder total (outputs ++ more) := by
  intro before err after split
  rcases List.append_eq_append_iff.mp split with ⟨gap, _, moreEq⟩ | ⟨gap, outputsEq, restEq⟩
  · have called := quiet (.callback err) (by simp [moreEq])
    cases called
  · cases gap with
    | nil =>
        have called := quiet (.callback err) (by simp [← show _ = more from restEq])
        cases called
    | cons output gap =>
        cases restEq
        exact inOrder before err gap outputsEq

theorem inOrder_of_quiet {total : Nat} {outputs : List EndOutput}
    (quiet : ∀ output ∈ outputs, isCallback output = false) : InOrder total outputs := by
  rintro before err after rfl
  have called := quiet (.callback err) (by simp)
  cases called

/-- The first call of the callback. -/
theorem Settled.inOrder {total : Nat} {outputs : List EndOutput} (settled : Settled total outputs)
    (quiet : ∀ output ∈ outputs, isCallback output = false) (err : Option JsError) :
    InOrder total (outputs ++ [.callback err]) := by
  intro before other after split
  rcases List.append_eq_append_iff.mp split with ⟨gap, beforeEq, restEq⟩ | ⟨gap, outputsEq, restEq⟩
  · cases gap with
    | nil =>
        rw [beforeEq, List.append_nil]
        exact settled
    | cons output gap =>
        have empty := congrArg List.length restEq
        simp at empty
  · cases gap with
    | nil =>
        rw [outputsEq, List.append_nil] at settled
        exact settled
    | cons output gap =>
        cases restEq
        have called := quiet (.callback other) (by simp [outputsEq])
        cases called

end EndOutput

namespace ClusterEnd

/-- The pools that have not reported. -/
def pending (ending : ClusterEnd κ) : Nat :=
  ending.pools.countP fun entry => !entry.2.calledBack

/-- What the variables of `end` are worth: the nodes that have reported, and those that
are waited for. -/
structure Waits (total : Nat) (outputs : List EndOutput) (ending : ClusterEnd κ) : Prop where
  reported : ∀ node, (∃ entry, ending.pools[node]? = some entry ∧ entry.2.calledBack = true) ↔
    ∃ err, EndOutput.reported node err ∈ outputs
  waiting : ending.calledBack = false →
    ending.waitingClose = ending.pending ∧ (ending.pools ≠ [] → 0 < ending.pending) ∧
      (∀ node err, EndOutput.reported node (some err) ∉ outputs) ∧
      ∀ output ∈ outputs, output.isCallback = false
  settled : ending.calledBack = true →
    outputs.countP EndOutput.isCallback = 1 ∧ EndOutput.InOrder total outputs

namespace Waits

variable {total : Nat} {outputs : List EndOutput} {ending : ClusterEnd κ}

/-- Another pool is waited for. -/
theorem add (waits : Waits total outputs ending) (config : PoolConfig) {closing : Closing κ}
    (notCalled : closing.calledBack = false) :
    Waits total outputs
      { ending with
        pools := ending.pools ++ [(config, closing)]
        waitingClose := ending.waitingClose + 1 } := by
  have onePending : ({ ending with
      pools := ending.pools ++ [(config, closing)]
      waitingClose := ending.waitingClose + 1 } : ClusterEnd κ).pending = ending.pending + 1 := by
    simp [pending, notCalled]
  constructor
  · intro node
    rw [← waits.reported node]
    constructor
    · rintro ⟨entry, found, called⟩
      rcases Nat.lt_trichotomy node ending.pools.length with below | same | above
      · rw [List.getElem?_append_left below] at found
        exact ⟨entry, found, called⟩
      · subst same
        rw [List.getElem?_concat_length] at found
        cases found
        exact Bool.noConfusion (notCalled.symm.trans called)
      · rw [List.getElem?_eq_none (by simpa using Nat.succ_le_of_lt above)] at found
        cases found
    · rintro ⟨entry, found, called⟩
      have below := (List.getElem?_eq_some_iff.mp found).1
      exact ⟨entry, (List.getElem?_append_left below).trans found, called⟩
  · intro isNotCalled
    obtain ⟨count, _, noErrors, quiet⟩ := waits.waiting isNotCalled
    rw [onePending]
    refine ⟨?_, fun _ => Nat.succ_pos _, noErrors, quiet⟩
    show ending.waitingClose + 1 = _
    rw [count]
    rfl
  · exact waits.settled

/-- `_nodes` after a report, of which `onEnd` has not been told. -/
theorem reported_set (waits : Waits total outputs ending) {node : Nat} {config : PoolConfig}
    {closing next : Closing κ} (found : ending.pools[node]? = some (config, closing))
    (called : next.calledBack = true) (err : Option JsError) (other : Nat) :
    (∃ entry, (ending.pools.set node (config, next))[other]? = some entry ∧
        entry.2.calledBack = true) ↔
      ∃ err', EndOutput.reported other err' ∈ outputs ++ [.reported node err] := by
  have within := (List.getElem?_eq_some_iff.mp found).1
  by_cases same : other = node
  · subst same
    rw [List.getElem?_set_self within]
    constructor
    · intro _
      exact ⟨err, by simp⟩
    · intro _
      exact ⟨_, rfl, called⟩
  · rw [List.getElem?_set_ne (Ne.symm same), waits.reported other]
    simp [same]

theorem pending_set {node : Nat} {config : PoolConfig} {closing next : Closing κ}
    (found : ending.pools[node]? = some (config, closing))
    (notCalled : closing.calledBack = false) (called : next.calledBack = true) :
    ({ ending with pools := ending.pools.set node (config, next) } : ClusterEnd κ).pending + 1 =
      ending.pending := by
  obtain ⟨within, isEntry⟩ := List.getElem?_eq_some_iff.mp found
  have positive : 0 < ending.pools.countP fun entry => !entry.2.calledBack :=
    List.countP_pos_iff.mpr ⟨_, List.mem_of_getElem? found, by simp [notCalled]⟩
  simp only [pending]
  rw [List.countP_set within, isEntry]
  simp only [notCalled, called, Bool.not_false, Bool.not_true, if_true]
  simp
  omega

/-- The pool of a node reports for the first time. -/
theorem report (waits : Waits total outputs ending) {node : Nat} {config : PoolConfig}
    {closing next : Closing κ} (found : ending.pools[node]? = some (config, closing))
    (notCalled : closing.calledBack = false) (called : next.calledBack = true)
    (err : Option JsError)
    (complete : ending.calledBack = false → err = none →
      ({ ending with pools := ending.pools.set node (config, next) } : ClusterEnd κ).pending = 0 →
        ending.pools.length = total) :
    Waits total
      (outputs ++
        (reports node { ending with pools := ending.pools.set node (config, next) } [err]).2)
      (reports node { ending with pools := ending.pools.set node (config, next) } [err]).1 := by
  have reported := waits.reported_set found called err
  have count := pending_set found notCalled called
  let set : ClusterEnd κ := { ending with pools := ending.pools.set node (config, next) }
  show Waits total (outputs ++ (.reported node err :: (set.onEnd err).2 ++ [])) (set.onEnd err).1
  rw [List.append_nil, List.append_cons]
  by_cases calledBack : ending.calledBack = true
  · have told : set.onEnd err = (set, []) := by
      cases err <;> exact if_pos calledBack
    rw [told, List.append_nil]
    obtain ⟨once, inOrder⟩ := waits.settled calledBack
    constructor
    · exact reported
    · intro notCalledBack
      exact Bool.noConfusion (calledBack.symm.trans notCalledBack)
    · intro _
      exact ⟨by simp [once, EndOutput.isCallback],
        inOrder.append (by simp [EndOutput.isCallback])⟩
  · obtain ⟨waitingClose, _, noErrors, quiet⟩ := waits.waiting (Bool.eq_false_iff.mpr calledBack)
    have stillQuiet : ∀ output ∈ outputs ++ [EndOutput.reported node err], output.isCallback = false := by
      intro output member
      rcases List.mem_append.mp member with old | new
      · exact quiet output old
      · rw [List.mem_singleton.mp new]
        rfl
    have noCallback : (outputs ++ [EndOutput.reported node err]).countP EndOutput.isCallback = 0 :=
      List.countP_eq_zero.mpr fun output member => by simp [stillQuiet output member]
    -- behind a call of the callback, when the nodes have settled
    have calls : ∀ (result : Option JsError) (waitingClose : Int),
        EndOutput.Settled total (outputs ++ [.reported node err]) →
        Waits total (outputs ++ [.reported node err] ++ [.callback result])
          { set with waitingClose := waitingClose, calledBack := true } := by
      intro result waitingClose settled
      constructor
      · intro other
        simpa using reported other
      · rintro ⟨⟩
      · intro _
        constructor
        · rw [List.countP_append, noCallback]
          rfl
        · exact settled.inOrder stillQuiet result
    cases err with
    | some err =>
        have told : set.onEnd (some err) =
            ({ set with calledBack := true }, [.callback (some err)]) := if_neg calledBack
        rw [told]
        exact calls (some err) set.waitingClose (.inr ⟨node, err, by simp⟩)
    | none =>
        have told : set.onEnd none =
            if set.waitingClose - 1 ≤ 0 then
              ({ set with waitingClose := set.waitingClose - 1, calledBack := true },
                [.callback none])
            else ({ set with waitingClose := set.waitingClose - 1 }, []) := if_neg calledBack
        have waitingSet : set.waitingClose - 1 = set.pending := by
          have countIs : set.pending + 1 = ending.pending := count
          show ending.waitingClose - 1 = set.pending
          omega
        rw [told]
        by_cases last : set.pending = 0
        · have finished : set.waitingClose - 1 ≤ 0 := by
            rw [waitingSet, last]
            exact Int.le_refl 0
          rw [if_pos finished]
          apply calls none
          -- no pool is pending, so all have reported
          left
          intro other below
          rw [← complete (Bool.eq_false_iff.mpr calledBack) rfl last] at below
          apply (reported other).mp
          have within : other < (ending.pools.set node (config, next)).length := by
            rw [List.length_set]
            exact below
          refine ⟨_, List.getElem?_eq_getElem within, ?_⟩
          have noneLeft := List.countP_eq_zero.mp last _ (List.getElem_mem within)
          simpa using noneLeft
        · have more : ¬set.waitingClose - 1 ≤ 0 := by
            rw [waitingSet]
            omega
          rw [if_neg more, List.append_nil]
          constructor
          · exact reported
          · intro _
            refine ⟨waitingSet, fun _ => Nat.pos_of_ne_zero last, ?_, stillQuiet⟩
            intro other err
            simpa using noErrors other err
          · intro isCalled
            exact absurd isCalled calledBack

end Waits

/-! ## The loop -/

variable {total : Nat} {outputs : List EndOutput} {ending : ClusterEnd κ}

/-- The callback has been called, or the first pool has not reported. -/
def Held (ending : ClusterEnd κ) : Prop :=
  ending.calledBack = true ∨
    ∃ entry, ending.pools[0]? = some entry ∧ entry.2.calledBack = false

/-- The pools and whether the callback has been called, behind a report. -/
theorem reports_cases (node : Nat) (ending : ClusterEnd κ) (errs : List (Option JsError)) :
    (reports node ending errs).1.pools = ending.pools ∧
      (reports node ending errs).1.tick = ending.tick ∧
      (ending.calledBack = true → (reports node ending errs).1.calledBack = true) := by
  induction errs generalizing ending with
  | nil => exact ⟨rfl, rfl, id⟩
  | cons err errs ih =>
      have told : (ending.onEnd err).1.pools = ending.pools ∧
          (ending.onEnd err).1.tick = ending.tick ∧
          (ending.calledBack = true → (ending.onEnd err).1.calledBack = true) := by
        cases err with
        | some err =>
            rw [onEnd]
            split <;> simp_all
        | none =>
            rw [onEnd]
            split
            · simp_all
            · dsimp only
              split <;> simp_all
      obtain ⟨pools, tick, called⟩ := ih (ending.onEnd err).1
      exact ⟨pools.trans told.1, tick.trans told.2.1, fun before => called (told.2.2 before)⟩

/-- One more pool is ended.  If it reports success at once, other pools are still waited
for, or it is the last one. -/
theorem Waits.endPool (waits : Waits total outputs ending) (node : NodePool κ)
    (complete : ending.calledBack = false → none ∈ (Closing.start node.pool node.idle).2 →
      0 < ending.pending ∨ ending.pools.length + 1 = total) :
    Waits total (outputs ++ (ending.endPool node).2) (ending.endPool node).1 := by
  rw [ClusterEnd.endPool]
  rcases Closing.calls_start node.pool node.idle with ⟨notCalled, noOutput⟩ | ⟨called, err, output⟩
  · rw [noOutput, reports, List.append_nil]
    exact waits.add node.config notCalled
  · -- the pool reports like one that is waited for already
    let closing : Closing κ :=
      { (Closing.start node.pool node.idle).1 with calledBack := false }
    have added := waits.add node.config (show closing.calledBack = false from rfl)
    have found : (ending.pools ++ [(node.config, closing)])[ending.pools.length]? =
        some (node.config, closing) := List.getElem?_concat_length ..
    have replaced : (ending.pools ++ [(node.config, closing)]).set ending.pools.length
        (node.config, (Closing.start node.pool node.idle).1) =
          ending.pools ++ [(node.config, (Closing.start node.pool node.idle).1)] := by
      rw [List.set_append_right _ _ (Nat.le_refl _), Nat.sub_self]
      rfl
    have reported := added.report found rfl called err
    rw [output]
    dsimp only at reported
    rw [replaced] at reported
    apply reported
    intro notCalledBack isNone noPending
    have noOthers : ending.pending = 0 := by
      simpa [pending, called] using noPending
    rcases complete notCalledBack (by rw [output, isNone]; exact List.mem_singleton_self none) with
      others | last
    · omega
    · rw [List.length_append]
      exact last

theorem endPool_cases (ending : ClusterEnd κ) (node : NodePool κ) :
    (ending.endPool node).1.pools =
        ending.pools ++ [(node.config, (Closing.start node.pool node.idle).1)] ∧
      (ending.endPool node).1.tick = ending.tick ∧
      (ending.calledBack = true → (ending.endPool node).1.calledBack = true) :=
  reports_cases _ _ _

theorem Held.endPool (held : Held ending) (node : NodePool κ) : Held (ending.endPool node).1 := by
  obtain ⟨pools, _, called⟩ := endPool_cases ending node
  rcases held with calledBack | ⟨entry, found, notCalled⟩
  · exact .inl (called calledBack)
  · right
    rw [pools]
    have below := (List.getElem?_eq_some_iff.mp found).1
    exact ⟨entry, (List.getElem?_append_left below).trans found, notCalled⟩

theorem Held.pending_pos (held : Held ending) (notCalled : ending.calledBack = false) :
    0 < ending.pending := by
  rcases held with called | ⟨entry, found, isPending⟩
  · exact Bool.noConfusion (notCalled.symm.trans called)
  · exact List.countP_pos_iff.mpr ⟨entry, List.mem_of_getElem? found, by simp [isPending]⟩

/-- By induction on the nodes, while the first pool is waited for. -/
theorem Waits.endAll (waits : Waits total outputs ending) (held : Held ending)
    (nodes : List (NodePool κ)) :
    Waits total (outputs ++ (endAll ending nodes).2) (endAll ending nodes).1 := by
  induction nodes generalizing outputs ending with
  | nil =>
      rw [ClusterEnd.endAll, List.append_nil]
      exact waits
  | cons node nodes ih =>
      rw [ClusterEnd.endAll, ← List.append_assoc]
      apply ih
      · exact waits.endPool node fun notCalled _ => .inl (held.pending_pos notCalled)
      · exact held.endPool node

theorem endAll_cases (ending : ClusterEnd κ) (nodes : List (NodePool κ)) :
    (endAll ending nodes).1.pools.length = ending.pools.length + nodes.length ∧
      (endAll ending nodes).1.tick = ending.tick := by
  induction nodes generalizing ending with
  | nil => exact ⟨rfl, rfl⟩
  | cons node nodes ih =>
      obtain ⟨pools, tick, _⟩ := endPool_cases ending node
      obtain ⟨length, sameTick⟩ := ih (ending.endPool node).1
      rw [ClusterEnd.endAll]
      constructor
      · rw [length, pools, List.length_append, List.length_cons]
        exact Nat.add_right_comm ..
      · exact sameTick.trans tick

/-! ## Runs -/

/-- The callback is called at most once, not before the nodes have settled, and once they
have and nothing is put off it has been called. -/
structure EndsOnce (total : Nat) (outputs : List EndOutput) (ending : ClusterEnd κ) : Prop where
  once : outputs.countP EndOutput.isCallback ≤ 1
  inOrder : EndOutput.InOrder total outputs
  called : EndOutput.Settled total outputs → ending.tick = none →
    outputs.countP EndOutput.isCallback = 1

/-- What holds behind the call of `end`. -/
structure Ended (total : Nat) (outputs : List EndOutput) (ending : ClusterEnd κ) : Prop where
  waits : Waits total outputs ending
  length : ending.pools.length = total
  putOff : ending.calledBack = false → (ending.tick = some .onEnd ↔ ending.pools = [])
  onEnd : ending.tick ≠ some .callback

namespace Ended

theorem endsOnce (ended : Ended total outputs ending) : EndsOnce total outputs ending := by
  cases calledBack : ending.calledBack with
  | true =>
      obtain ⟨once, inOrder⟩ := ended.waits.settled calledBack
      exact ⟨Nat.le_of_eq once, inOrder, fun _ _ => once⟩
  | false =>
      obtain ⟨_, pending, noErrors, quiet⟩ := ended.waits.waiting calledBack
      have none : outputs.countP EndOutput.isCallback = 0 :=
        List.countP_eq_zero.mpr fun output member => by simp [quiet output member]
      refine ⟨by omega, EndOutput.inOrder_of_quiet quiet, ?_⟩
      intro settled noTick
      exfalso
      have some : ending.pools ≠ [] := by
        intro empty
        rw [(ended.putOff calledBack).mpr empty] at noTick
        cases noTick
      rcases settled with all | ⟨node, err, failed⟩
      · -- all pools have reported, but one is pending
        obtain ⟨entry, member, isPending⟩ := List.countP_pos_iff.mp (pending some)
        obtain ⟨node, below, isEntry⟩ := List.getElem_of_mem member
        rw [ended.length] at below
        obtain ⟨other, found, called⟩ := (ended.waits.reported node).mpr (all node below)
        have same := (List.getElem?_eq_some_iff.mp found).2.symm.trans isEntry
        rw [same] at called
        simp [called] at isPending
      · exact noErrors node err failed

/-- The pool of a node goes on without a report. -/
theorem goOn (ended : Ended total outputs ending) {node : Nat} {config : PoolConfig}
    {closing next : Closing κ} (found : ending.pools[node]? = some (config, closing))
    (same : next.calledBack = closing.calledBack) :
    Ended total outputs { ending with pools := ending.pools.set node (config, next) } := by
  obtain ⟨within, isEntry⟩ := List.getElem?_eq_some_iff.mp found
  have samePending :
      ({ ending with pools := ending.pools.set node (config, next) } : ClusterEnd κ).pending =
        ending.pending := by
    have counted : (if (!closing.calledBack) = true then 1 else 0) ≤
        ending.pools.countP fun entry => !entry.2.calledBack := by
      split
      · exact List.countP_pos_iff.mpr ⟨_, List.mem_of_getElem? found, by assumption⟩
      · exact Nat.zero_le _
    simp only [pending]
    rw [List.countP_set within, isEntry]
    simp only [same]
    exact Nat.sub_add_cancel counted
  constructor
  · constructor
    · intro other
      rw [← ended.waits.reported other]
      by_cases isNode : other = node
      · subst isNode
        show (∃ entry, (ending.pools.set other (config, next))[other]? = some entry ∧ _) ↔ _
        rw [List.getElem?_set_self within, found]
        simp [same]
      · show (∃ entry, (ending.pools.set node (config, next))[other]? = some entry ∧ _) ↔ _
        rw [List.getElem?_set_ne (Ne.symm isNode)]
    · intro notCalled
      rw [samePending]
      obtain ⟨count, pending, rest⟩ := ended.waits.waiting notCalled
      refine ⟨count, fun some => pending fun empty => some ?_, rest⟩
      show ending.pools.set node (config, next) = []
      rw [empty]
      rfl
    · exact ended.waits.settled
  · show (ending.pools.set node (config, next)).length = total
    rw [List.length_set]
    exact ended.length
  · intro notCalled
    show ending.tick = some .onEnd ↔ ending.pools.set node (config, next) = []
    rw [ended.putOff notCalled, List.set_eq_nil_iff]
  · exact ended.onEnd

theorem step (ended : Ended total outputs ending) (event : EndEvent κ) :
    Ended total (outputs ++ (step ending event).2) (step ending event).1 := by
  cases event with
  | pool node event =>
      cases found : ending.pools[node]? with
      | none =>
          have ignored : ClusterEnd.step ending (.pool node event) = (ending, []) := by
            rw [ClusterEnd.step, found]
          rw [ignored, List.append_nil]
          exact ended
      | some entry =>
          obtain ⟨config, closing⟩ := entry
          have stepEq : ClusterEnd.step ending (.pool node event) =
              reports node
                { ending with
                  pools := ending.pools.set node (config, (Closing.step config closing event).1) }
                (Closing.step config closing event).2 := by
            rw [ClusterEnd.step, found]
          rw [stepEq]
          rcases Closing.calls_step config closing event with
            ⟨noOutput, same⟩ | ⟨notCalled, called, err, output⟩
          · rw [noOutput, reports, List.append_nil]
            exact ended.goOn found same
          · rw [output]
            have waits := ended.waits.report found notCalled called err
              fun _ _ _ => ended.length
            obtain ⟨pools, tick, stays⟩ := reports_cases node
              { ending with
                pools := ending.pools.set node (config, (Closing.step config closing event).1) }
              [err]
            constructor
            · exact waits
            · rw [pools, List.length_set]
              exact ended.length
            · intro notCalledBack
              have before : ending.calledBack = false := by
                cases isCalled : ending.calledBack with
                | false => rfl
                | true => exact Bool.noConfusion (notCalledBack.symm.trans (stays isCalled))
              rw [pools, tick, List.set_eq_nil_iff]
              exact ended.putOff before
            · rw [tick]
              exact ended.onEnd
  | tick =>
      cases putOff : ending.tick with
      | none =>
          have ignored : ClusterEnd.step ending .tick = (ending, []) := by
            rw [ClusterEnd.step, putOff]
          rw [ignored, List.append_nil]
          exact ended
      | some tick =>
          cases tick with
          | callback => exact absurd putOff ended.onEnd
          | onEnd =>
              by_cases calledBack : ending.calledBack = true
              · have stepEq : ClusterEnd.step ending .tick = ({ ending with tick := none }, []) := by
                  rw [ClusterEnd.step, putOff]
                  exact if_pos calledBack
                rw [stepEq, List.append_nil]
                refine ⟨⟨ended.waits.reported, ?_, ended.waits.settled⟩, ended.length, ?_, ?_⟩
                · intro notCalled
                  exact Bool.noConfusion (calledBack.symm.trans notCalled)
                · intro notCalled
                  exact Bool.noConfusion (calledBack.symm.trans notCalled)
                · rintro ⟨⟩
              · -- there are no nodes
                have notCalled := Bool.eq_false_iff.mpr calledBack
                have empty := (ended.putOff notCalled).mp putOff
                obtain ⟨count, _, _, quiet⟩ := ended.waits.waiting notCalled
                have noPending : ending.pending = 0 := by rw [pending, empty]; rfl
                have finished : ending.waitingClose - 1 ≤ 0 := by omega
                have stepEq : ClusterEnd.step ending .tick =
                    ({ ending with
                      tick := none
                      waitingClose := ending.waitingClose - 1
                      calledBack := true }, [.callback none]) := by
                  rw [ClusterEnd.step, putOff]
                  exact (if_neg calledBack).trans (if_pos finished)
                have noNodes : total = 0 := by rw [← ended.length, empty]; rfl
                have settled : EndOutput.Settled total outputs := by
                  left
                  intro node below
                  omega
                rw [stepEq]
                refine ⟨⟨?_, ?_, ?_⟩, ended.length, ?_, ?_⟩
                · intro node
                  simpa using ended.waits.reported node
                · rintro ⟨⟩
                · intro _
                  constructor
                  · rw [List.countP_append, List.countP_eq_zero.mpr fun output member => by
                      simp [quiet output member]]
                    rfl
                  · exact settled.inOrder quiet none
                · rintro ⟨⟩
                · rintro ⟨⟩

end Ended

theorem Ended.run (ended : Ended total outputs ending) (events : List (EndEvent κ)) :
    Ended total (outputs ++ (run ClusterEnd.step ending events).2)
      (run ClusterEnd.step ending events).1 := by
  induction events generalizing outputs ending with
  | nil =>
      rw [run_nil, List.append_nil]
      exact ended
  | cons event events ih =>
      rw [run_cons, ← List.append_assoc]
      exact ih (ended.step event)

theorem waits_new (total : Nat) (tick : Option EndTick) :
    Waits total [] ({ pools := [], waitingClose := 0, calledBack := false, tick := tick } :
      ClusterEnd κ) := by
  constructor
  · intro node
    simp
  · intro _
    exact ⟨rfl, fun some => absurd rfl some, by simp, by simp⟩
  · rintro ⟨⟩

/-- The first pool is not done at once, or it is the only one. -/
def FirstWaits (nodes : List (NodePool κ)) : Prop :=
  nodes.length ≤ 1 ∨ ∀ first ∈ nodes.head?, ¬Closing.EndsAtOnce first.pool first.idle

/-- The first pool does not report success at once. -/
theorem held_endPool {node : NodePool κ} (waitsFirst : none ∉ (Closing.start node.pool node.idle).2)
    (ending : ClusterEnd κ) (noPools : ending.pools = []) : Held (ending.endPool node).1 := by
  obtain ⟨pools, _, _⟩ := endPool_cases ending node
  rcases Closing.calls_start node.pool node.idle with ⟨notCalled, _⟩ | ⟨_, err, output⟩
  · right
    rw [pools, noPools]
    exact ⟨_, rfl, notCalled⟩
  · cases err with
    | none =>
        rw [output] at waitsFirst
        exact absurd (List.mem_singleton_self none) waitsFirst
    | some err =>
        left
        rw [endPool, output, reports, reports, onEnd]
        dsimp only
        split
        · assumption
        · rfl

theorem waits_endAll {nodes : List (NodePool κ)} (first : FirstWaits nodes) :
    Waits nodes.length
      (endAll ({ pools := [], waitingClose := 0, calledBack := false, tick := none } :
        ClusterEnd κ) nodes).2
      (endAll ({ pools := [], waitingClose := 0, calledBack := false, tick := none } :
        ClusterEnd κ) nodes).1 := by
  cases nodes with
  | nil => exact waits_new 0 none
  | cons node nodes =>
      have waitsFirst : nodes ≠ [] → none ∉ (Closing.start node.pool node.idle).2 := by
        intro some
        rcases first with only | firstWaits
        · exact absurd (List.length_eq_zero_iff.mp (Nat.le_zero.mp (Nat.le_of_succ_le_succ only))) some
        · rw [Closing.none_mem_start]
          exact firstWaits node rfl
      have firstEnded := (waits_new (κ := κ) (node :: nodes).length none).endPool node fun _ atOnce =>
        .inr (by
          by_cases last : nodes = []
          · rw [last]
            rfl
          · exact absurd atOnce (waitsFirst last))
      rw [List.nil_append] at firstEnded
      rw [endAll]
      by_cases last : nodes = []
      · rw [last] at firstEnded ⊢
        rw [endAll, List.append_nil]
        exact firstEnded
      · exact firstEnded.endAll (held_endPool (waitsFirst last) _ rfl) nodes

theorem ended_start {nodes : List (NodePool κ)} (first : FirstWaits nodes) :
    Ended nodes.length (start false nodes).2 (start false nodes).1 := by
  have waits := waits_endAll first
  obtain ⟨length, tick⟩ := endAll_cases
    ({ pools := [], waitingClose := 0, calledBack := false, tick := none } : ClusterEnd κ) nodes
  have startEq : start false nodes =
      (if (endAll ({ pools := [], waitingClose := 0, calledBack := false, tick := none } :
          ClusterEnd κ) nodes).1.waitingClose = 0 then
        { (endAll ({ pools := [], waitingClose := 0, calledBack := false, tick := none } :
          ClusterEnd κ) nodes).1 with tick := some .onEnd }
      else (endAll ({ pools := [], waitingClose := 0, calledBack := false, tick := none } :
          ClusterEnd κ) nodes).1,
        (endAll ({ pools := [], waitingClose := 0, calledBack := false, tick := none } :
          ClusterEnd κ) nodes).2) := rfl
  rw [startEq]
  generalize endAll ({ pools := [], waitingClose := 0, calledBack := false, tick := none } :
    ClusterEnd κ) nodes = ended at waits length tick
  have emptyIff : ended.1.calledBack = false → (ended.1.waitingClose = 0 ↔ ended.1.pools = []) := by
    intro notCalled
    obtain ⟨count, positive, _⟩ := waits.waiting notCalled
    constructor
    · intro zero
      by_contra some
      have atLeast := positive some
      omega
    · intro empty
      rw [count, pending, empty]
      rfl
  by_cases zero : ended.1.waitingClose = 0
  · simp only [if_pos zero]
    refine ⟨⟨waits.reported, waits.waiting, waits.settled⟩, by simpa using length, ?_, ?_⟩
    · intro notCalled
      simpa using (emptyIff notCalled).mp zero
    · rintro ⟨⟩
  · simp only [if_neg zero]
    refine ⟨waits, by simpa using length, ?_, ?_⟩
    · intro notCalled
      rw [tick, ← emptyIff notCalled]
      simp [zero]
    · rw [tick]
      rintro ⟨⟩

/-- If the first pool is done at once and there are others, the callback is called before
they are ended. -/
theorem not_inOrder_start {nodes : List (NodePool κ)} (notFirst : ¬FirstWaits nodes)
    (more : List EndOutput) : ¬EndOutput.InOrder nodes.length ((start false nodes).2 ++ more) := by
  obtain ⟨several, node, isFirst, atOnce⟩ : 1 < nodes.length ∧
      ∃ first ∈ nodes.head?, Closing.EndsAtOnce first.pool first.idle := by
    simpa [FirstWaits] using notFirst
  cases nodes with
  | nil => cases isFirst
  | cons first nodes =>
      cases isFirst
      have atOnceOutput : (Closing.start node.pool node.idle).2 = [none] := by
        have member := (Closing.none_mem_start node.pool node.idle).mpr atOnce
        rcases Closing.calls_start node.pool node.idle with ⟨_, noOutput⟩ | ⟨_, err, output⟩
        · rw [noOutput] at member
          cases member
        · rw [output, List.mem_singleton] at member
          rw [output, member]
      have opens : ∃ rest, (start false (node :: nodes)).2 =
          [.reported 0 none] ++ .callback none :: rest := by
        show ∃ rest, (endAll _ (node :: nodes)).2 = _
        rw [endAll, endPool, atOnceOutput]
        exact ⟨_, rfl⟩
      obtain ⟨rest, outputs⟩ := opens
      intro inOrder
      have settled := inOrder [.reported 0 none] none (rest ++ more) (by rw [outputs]; rfl)
      rcases settled with all | ⟨other, err, failed⟩
      · obtain ⟨err, reported⟩ := all 1 several
        simp at reported
      · simp at failed

/-- In every run behind the call of `end` of a cluster that has not been ended, the callback
is called exactly once and in order exactly if the first pool is not done at once, or
there is no other. -/
theorem run_endsOnce_iff (nodes : List (NodePool κ)) (events : List (EndEvent κ)) :
    EndsOnce nodes.length
        ((start false nodes).2 ++ (run step (start false nodes).1 events).2)
        (run step (start false nodes).1 events).1 ↔
      FirstWaits nodes := by
  constructor
  · intro endsOnce
    by_contra notFirst
    exact not_inOrder_start notFirst _ endsOnce.inOrder
  · intro first
    exact ((ended_start first).run events).endsOnce

/-- Two nodes of pools without connections. -/
def twoEmpty : List (NodePool Unit) :=
  [{ config := onlyOne, pool := BasePool.init, idle := fun _ => true },
    { config := onlyOne, pool := BasePool.init, idle := fun _ => true }]

/-- The callback is called before the second pool is ended. -/
theorem twoEmpty_not_endsOnce :
    ¬EndsOnce twoEmpty.length (start false twoEmpty).2 (start false twoEmpty).1 := by
  intro endsOnce
  have settled := endsOnce.inOrder [.reported 0 none] none [.reported 1 none] rfl
  rcases settled with all | ⟨node, err, failed⟩
  · obtain ⟨err, reported⟩ := all 1 (by decide)
    simp at reported
  · simp at failed

/-- Nothing happens without pools and without anything put off. -/
theorem run_idle (waitingClose : Int) (calledBack : Bool) (events : List (EndEvent κ)) :
    (run step { pools := [], waitingClose := waitingClose, calledBack := calledBack, tick := none }
      events).2 = [] := by
  induction events with
  | nil => rfl
  | cons event events ih => cases event <;> exact ih

/-- A cluster that has been ended before calls the callback once, when what is put off is
run. -/
theorem run_start_closed (nodes : List (NodePool κ)) (events : List (EndEvent κ)) :
    (run step (start true nodes).1 events).2 =
      if events.any EndEvent.isTick then [.callback none] else [] := by
  induction events with
  | nil => rfl
  | cons event events ih =>
      cases event with
      | pool node event => exact ih
      | tick => exact congrArg ([EndOutput.callback none] ++ ·) (run_idle 0 false events)

end ClusterEnd

end Mysql2.Pool

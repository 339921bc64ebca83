import Mysql2.Connection.Sending

/-!
# Two compressed connections

Two connections write to each other, and the bytes of each arrive at the other one in
any chunks.  Ticks and callbacks of the four queues run in any order.
-/

namespace Mysql2.Compression

open Mysql2.Packets
open Mysql2.Parser
open Mysql2.Stream
open Mysql2.Transition

/-- One of two connections. -/
inductive Side
  | left
  | right
  deriving DecidableEq, Repr

namespace Side

def other : Side → Side
  | left => right
  | right => left

@[simp]
theorem other_other (side : Side) : side.other.other = side := by
  cases side <;> rfl

@[simp]
theorem other_ne (side : Side) : side.other ≠ side := by
  cases side <;> nofun

theorem eq_other_of_ne {side current : Side} (ne : side ≠ current) : side = current.other := by
  cases side <;> cases current <;> first | rfl | exact absurd rfl ne

end Side

/-- The connections, and the bytes on their way to each of them. -/
structure Peers where
  conn : Side → CompressedConnection
  channel : Side → Bytes

/-- What happens on one side: a call, a tick, a callback, or the arrival of a chunk with
at most `count` bytes. -/
inductive PeerEvent
  | write (buffer : Bytes)
  | resetSequenceId
  | inflateNext
  | inflated (index : Nat)
  | deflateNext
  | deflated (index : Nat)
  | arrive (count : Nat)
  deriving DecidableEq

namespace Peers

/-- Compression has just been turned on. -/
def new (compressedSequenceId : Side → Nat) : Peers :=
  { conn := fun side => .enableCompression (compressedSequenceId side)
    channel := fun _ => [] }

/-- The event as the connection sees it.  An empty chunk never arrives. -/
def seen (peers : Peers) (side : Side) : PeerEvent → Option Event
  | .write buffer => some (.write buffer)
  | .resetSequenceId => some .resetSequenceId
  | .inflateNext => some .inflateNext
  | .inflated index => some (.inflated index)
  | .deflateNext => some .deflateNext
  | .deflated index => some (.deflated index)
  | .arrive count =>
      let chunk := (peers.channel side).take count
      if chunk = [] then none else some (.data chunk)

/-- The bytes that are still on their way. -/
def remaining (peers : Peers) (side : Side) : PeerEvent → Bytes
  | .arrive count => (peers.channel side).drop count
  | _ => peers.channel side

/-- An event of one side.  What the connection writes is on its way to the other side. -/
def act (zlib : Zlib) (peers : Peers) (side : Side) (input : PeerEvent) (event : Event) :
    Peers × List (Side × Output) :=
  let stepped := (peers.conn side).step zlib event
  let channel := Function.update peers.channel side (peers.remaining side input)
  ({ conn := Function.update peers.conn side stepped.1
     channel := Function.update channel side.other
       (peers.channel side.other ++ (written stepped.2).flatten) },
    stepped.2.map fun output => (side, output))

/-- One step of one side. -/
def step (zlib : Zlib) (peers : Peers) (input : Side × PeerEvent) :
    Peers × List (Side × Output) :=
  let side := input.1
  match peers.seen side input.2 with
  | none => (peers, [])
  | some event => peers.act zlib side input.2 event

end Peers

/-- What a connection has shown. -/
def shownBy (side : Side) (outputs : List (Side × Output)) : List Output :=
  outputs.filterMap fun output => if output.1 = side then some output.2 else none

/-- The buffers that a connection has been asked to write. -/
def writtenBy (side : Side) (inputs : List (Side × PeerEvent)) : List Bytes :=
  inputs.filterMap fun
    | (current, .write buffer) => if current = side then some buffer else none
    | _ => none

/-! ## Observations -/

theorem shownBy_append (side : Side) (outputs more : List (Side × Output)) :
    shownBy side (outputs ++ more) = shownBy side outputs ++ shownBy side more :=
  List.filterMap_append

theorem shownBy_same (side : Side) (outputs : List Output) :
    shownBy side (outputs.map fun output => (side, output)) = outputs := by
  have shows : (fun output : Side × Output => if output.1 = side then some output.2 else none) ∘
      (fun output => (side, output)) = some :=
    funext fun output => if_pos rfl
  rw [shownBy, List.filterMap_map, shows, List.filterMap_some]

theorem shownBy_other {side current : Side} (ne : side ≠ current) (outputs : List Output) :
    shownBy side (outputs.map fun output => (current, output)) = [] := by
  rw [shownBy, List.filterMap_map, List.filterMap_eq_nil_iff]
  exact fun output _ => if_neg ne.symm

theorem writtenBy_append (side : Side) (inputs more : List (Side × PeerEvent)) :
    writtenBy side (inputs ++ more) = writtenBy side inputs ++ writtenBy side more :=
  List.filterMap_append

/-- A side is asked to write what it sees. -/
theorem writtenBy_seen {peers : Peers} {side : Side} {input : PeerEvent} {event : Event}
    (isSeen : peers.seen side input = some event) :
    writtenBy side [(side, input)] = writes [event] := by
  cases input with
  | write buffer =>
      cases isSeen
      simp [writtenBy, writes]
  | arrive count =>
      rw [Peers.seen] at isSeen
      split at isSeen
      · cases isSeen
      · cases isSeen
        rfl
  | _ =>
      cases isSeen
      rfl

theorem writtenBy_unseen {peers : Peers} {side : Side} {input : PeerEvent}
    (unseen : peers.seen side input = none) (observer : Side) :
    writtenBy observer [(side, input)] = [] := by
  cases input with
  | arrive count => rfl
  | _ => cases unseen

theorem writtenBy_elsewhere {side current : Side} (ne : side ≠ current) (input : PeerEvent) :
    writtenBy side [(current, input)] = [] := by
  cases input with
  | write buffer => simp [writtenBy, ne.symm]
  | _ => rfl

/-- What arrives has been on its way. -/
theorem received_seen {peers : Peers} {side : Side} {input : PeerEvent} {event : Event}
    (isSeen : peers.seen side input = some event) :
    (received [event]).flatten ++ peers.remaining side input = peers.channel side ∧
      ∀ chunk ∈ received [event], chunk ≠ [] := by
  cases input with
  | arrive count =>
      rw [Peers.seen] at isSeen
      split at isSeen
      · cases isSeen
      · rename_i nonempty
        cases isSeen
        refine ⟨?_, fun chunk member => ?_⟩
        · change ((peers.channel side).take count ++ []) ++ (peers.channel side).drop count = _
          rw [List.append_nil, List.take_append_drop]
        · rw [List.mem_singleton.mp member]
          exact nonempty
  | _ =>
      cases isSeen
      exact ⟨rfl, fun _ member => absurd member List.not_mem_nil⟩

/-! ## Runs -/

/-- Behind these inputs, each side is where its own events have led it, and what has
arrived there has been written on the other side. -/
structure Linked (zlib : Zlib) (compressedSequenceId : Side → Nat) (log : Side → List Event)
    (inputs : List (Side × PeerEvent)) (outputs : List (Side × Output)) (peers : Peers) :
    Prop where
  follows : ∀ side, run (CompressedConnection.step zlib)
    (.enableCompression (compressedSequenceId side)) (log side) =
      (peers.conn side, shownBy side outputs)
  listening : ∀ side, (peers.conn side).failed = false
  sending : ∀ side, ∃ frames,
    Sending zlib (writtenBy side inputs) (peers.conn side) (shownBy side outputs) frames
  channel : ∀ side, (received (log side)).flatten ++ peers.channel side =
    (written (shownBy side.other outputs)).flatten
  nonempty : ∀ side, ∀ chunk ∈ received (log side), chunk ≠ []

variable {zlib : Zlib} {compressedSequenceId : Side → Nat} {log : Side → List Event}
  {inputs : List (Side × PeerEvent)} {outputs : List (Side × Output)} {peers : Peers}

theorem linked_new (zlib : Zlib) (idShort : ∀ side, compressedSequenceId side < 256) :
    Linked zlib compressedSequenceId (fun _ => []) [] [] (.new compressedSequenceId) where
  follows := fun _ => rfl
  listening := fun _ => rfl
  sending := fun side => ⟨[], sending_enableCompression zlib (idShort side)⟩
  channel := fun _ => rfl
  nonempty := fun _ _ member => absurd member List.not_mem_nil

/-- What one side has read is a beginning of the frames that the other has written. -/
theorem Linked.arrived (linked : Linked zlib compressedSequenceId log inputs outputs peers)
    {side : Side} {frames : List CompressedFrame}
    (sending : Sending zlib (writtenBy side.other inputs) (peers.conn side.other)
      (shownBy side.other outputs) frames) :
    (received (log side)).flatten ++ peers.channel side =
      frames.flatMap CompressedFrame.encode := by
  rw [linked.channel side, sending.written, flatten_buffers]

/-- What arrives in an event does not make the connection fail. -/
theorem Linked.still_listening (linked : Linked zlib compressedSequenceId log inputs outputs peers)
    (roundTrips : zlib.RoundTrips) {side : Side} {input : PeerEvent} {event : Event}
    (isSeen : peers.seen side input = some event) :
    ((peers.conn side).step zlib event).1.failed = false := by
  obtain ⟨frames, sending⟩ := linked.sending side.other
  obtain ⟨arrives, nonempty⟩ := received_seen isSeen
  have beginning : (received (log side ++ [event])).flatten <+:
      frames.flatMap CompressedFrame.encode := by
    refine ⟨peers.remaining side input, ?_⟩
    rw [received_append, List.flatten_append, List.append_assoc, arrives]
    exact linked.arrived sending
  have allNonempty : ∀ chunk ∈ received (log side ++ [event]), chunk ≠ [] := by
    intro chunk member
    rw [received_append] at member
    rcases List.mem_append.mp member with isEarlier | isLast
    · exact linked.nonempty side chunk isEarlier
    · exact nonempty chunk isLast
  have listening := (run_presented roundTrips.deflates
    (fun frame member => (sending.frames_sendable frame member).wellFormed)
    (compressedSequenceId side) (log side ++ [event]) allNonempty beginning).2.1
  rw [run_append, linked.follows side] at listening
  exact listening

/-- One side acts. -/
theorem Linked.acts (linked : Linked zlib compressedSequenceId log inputs outputs peers)
    (roundTrips : zlib.RoundTrips) {current : Side} {input : PeerEvent} {event : Event}
    (isSeen : peers.seen current input = some event) :
    Linked zlib compressedSequenceId (Function.update log current (log current ++ [event]))
      (inputs ++ [(current, input)]) (outputs ++ (peers.act zlib current input event).2)
      (peers.act zlib current input event).1 := by
  obtain ⟨arrives, nonempty⟩ := received_seen isSeen
  let stepped := (peers.conn current).step zlib event
  have shownCurrent : shownBy current (outputs ++ (peers.act zlib current input event).2) =
      shownBy current outputs ++ stepped.2 := by
    rw [shownBy_append, Peers.act]
    dsimp only
    rw [shownBy_same]
  have shownElsewhere {side : Side} (ne : side ≠ current) :
      shownBy side (outputs ++ (peers.act zlib current input event).2) = shownBy side outputs := by
    rw [shownBy_append, Peers.act]
    dsimp only
    rw [shownBy_other ne, List.append_nil]
  have connCurrent : (peers.act zlib current input event).1.conn current = stepped.1 :=
    Function.update_self ..
  have connElsewhere {side : Side} (ne : side ≠ current) :
      (peers.act zlib current input event).1.conn side = peers.conn side :=
    Function.update_of_ne ne ..
  constructor
  · intro side
    by_cases same : side = current
    · subst same
      rw [Function.update_self, shownCurrent, connCurrent, run_append, linked.follows side]
      change (stepped.1, _ ++ (stepped.2 ++ [])) = _
      rw [List.append_nil]
    · rw [Function.update_of_ne same, shownElsewhere same, connElsewhere same]
      exact linked.follows side
  · intro side
    by_cases same : side = current
    · subst same
      rw [connCurrent]
      exact linked.still_listening roundTrips isSeen
    · rw [connElsewhere same]
      exact linked.listening side
  · intro side
    rw [writtenBy_append]
    by_cases same : side = current
    · subst same
      obtain ⟨frames, sending⟩ := linked.sending side
      rw [connCurrent, shownCurrent, writtenBy_seen isSeen]
      exact CompressedConnection.step_sendsOn roundTrips sending (linked.listening side) event
    · rw [connElsewhere same, shownElsewhere same, writtenBy_elsewhere same, List.append_nil]
      exact linked.sending side
  · intro side
    by_cases same : side = current
    · subst same
      have channelEq : (peers.act zlib side input event).1.channel side =
          peers.remaining side input :=
        (Function.update_of_ne side.other_ne.symm ..).trans (Function.update_self ..)
      rw [Function.update_self, channelEq, received_append, List.flatten_append,
        List.append_assoc, arrives, shownElsewhere side.other_ne]
      exact linked.channel side
    · obtain rfl := Side.eq_other_of_ne same
      have channelEq : (peers.act zlib current input event).1.channel current.other =
          peers.channel current.other ++ (written stepped.2).flatten := Function.update_self ..
      have before := linked.channel current.other
      rw [Side.other_other] at before ⊢
      rw [Function.update_of_ne same, channelEq, shownCurrent, written_append,
        List.flatten_append, ← before, List.append_assoc]
  · intro side
    by_cases same : side = current
    · subst same
      rw [Function.update_self, received_append]
      intro chunk member
      rcases List.mem_append.mp member with isEarlier | isLast
      · exact linked.nonempty side chunk isEarlier
      · exact nonempty chunk isLast
    · rw [Function.update_of_ne same]
      exact linked.nonempty side

/-- A step of one side. -/
theorem Linked.step (linked : Linked zlib compressedSequenceId log inputs outputs peers)
    (roundTrips : zlib.RoundTrips) (input : Side × PeerEvent) :
    ∃ log, Linked zlib compressedSequenceId log (inputs ++ [input])
      (outputs ++ (peers.step zlib input).2) (peers.step zlib input).1 := by
  obtain ⟨current, input⟩ := input
  cases isSeen : peers.seen current input with
  | none =>
      refine ⟨log, ?_⟩
      rw [Peers.step, isSeen, List.append_nil]
      refine { linked with sending := fun side => ?_ }
      rw [writtenBy_append, writtenBy_unseen isSeen, List.append_nil]
      exact linked.sending side
  | some event =>
      have acts := linked.acts roundTrips isSeen
      have stepEq : peers.step zlib (current, input) = peers.act zlib current input event := by
        rw [Peers.step, isSeen]
      rw [← stepEq] at acts
      exact ⟨_, acts⟩

/-- What has arrived on one side and has been inflated is what the other side has been
asked to write, in its order, and all of it when nothing is pending or on its way. -/
structure Delivered (inputs : List (Side × PeerEvent)) (outputs : List (Side × Output))
    (peers : Peers) (side : Side) : Prop where
  listening : (peers.conn side).failed = false
  fed : (executed (shownBy side outputs)).flatten <+: (writtenBy side.other inputs).flatten
  complete : (peers.conn side.other).deflateQueue.AtRest → peers.channel side = [] →
    (peers.conn side).inflateQueue.AtRest →
    (executed (shownBy side outputs)).flatten = (writtenBy side.other inputs).flatten

theorem Linked.delivered (linked : Linked zlib compressedSequenceId log inputs outputs peers)
    (roundTrips : zlib.RoundTrips) (side : Side) : Delivered inputs outputs peers side := by
  obtain ⟨frames, sending⟩ := linked.sending side.other
  have arrived := linked.arrived sending
  have sendable := sending.frames_sendable
  have fedInOrder := alwaysFedInOrder_of_harmless roundTrips.deflates
    (fun frame member => (sendable frame member).wellFormed) (compressedSequenceId side)
    (harmless_of_sendable sendable) (log side) (linked.nonempty side) ⟨_, arrived⟩
  rw [linked.follows side] at fedInOrder
  refine ⟨linked.listening side, fedInOrder.fed.trans sending.content_prefix, ?_⟩
  intro nothingPending noneOnTheWay atRest
  rw [noneOnTheWay, List.append_nil] at arrived
  rw [(fedInOrder.complete arrived atRest).1, sending.content_atRest nothingPending]

theorem run_linked (roundTrips : zlib.RoundTrips)
    (linked : Linked zlib compressedSequenceId log inputs outputs peers)
    (more : List (Side × PeerEvent)) :
    ∃ log, Linked zlib compressedSequenceId log (inputs ++ more)
      (outputs ++ (run (Peers.step zlib) peers more).2) (run (Peers.step zlib) peers more).1 := by
  induction more generalizing log inputs outputs peers with
  | nil =>
      rw [List.append_nil, run_nil, List.append_nil]
      exact ⟨log, linked⟩
  | cons input more ih =>
      obtain ⟨_, stepped⟩ := linked.step roundTrips input
      obtain ⟨log, later⟩ := ih stepped
      refine ⟨log, ?_⟩
      rw [run_cons, ← List.append_assoc]
      rw [List.append_assoc, List.singleton_append] at later
      exact later

/-- In every run of two compressed connections, whatever the chunks and the order of
ticks and callbacks, no side fails, and each is fed what the other writes. -/
theorem run_delivered (roundTrips : zlib.RoundTrips)
    (idShort : ∀ side, compressedSequenceId side < 256) (inputs : List (Side × PeerEvent))
    (side : Side) :
    Delivered inputs (run (Peers.step zlib) (.new compressedSequenceId) inputs).2
      (run (Peers.step zlib) (.new compressedSequenceId) inputs).1 side := by
  obtain ⟨_, linked⟩ := run_linked roundTrips (linked_new zlib idShort) inputs
  exact linked.delivered roundTrips side

/-- A long buffer goes to the right, behind it a short one; in the meantime a short one
comes back. -/
def bothWays : List (Side × PeerEvent) :=
  [(.left, .write repetitive), (.left, .write [3]), (.right, .write [1, 2]),
    (.left, .deflateNext), (.left, .arrive 4), (.left, .deflated 0), (.right, .arrive 20),
    (.left, .deflateNext), (.left, .arrive 100), (.left, .deflated 0), (.left, .deflateNext),
    (.right, .arrive 100), (.right, .inflateNext)]

theorem run_delivered_bothWays :
    Delivered bothWays (run (Peers.step repetitiveZlib) (.new fun _ => 7) bothWays).2
      (run (Peers.step repetitiveZlib) (.new fun _ => 7) bothWays).1 .right :=
  run_delivered repetitiveZlib_roundTrips (fun _ => by decide) bothWays .right

end Mysql2.Compression

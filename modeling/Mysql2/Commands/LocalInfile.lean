import Mysql2.Commands.Defaults
import Mysql2.Commands.Frame
import Mysql2.Connection.Frames

/-!
# The contents of a local file

The server asks for a local file and reads packets up to an empty one.  The
listeners on the local stream write one packet for each chunk, and an empty
packet for the end of the stream and for an error.  No listener knows what the
others have written, so the empty packet need not be the only one: an empty
chunk ends the contents early, an error and the end behind it end them twice,
and `writePacket` puts an empty frame behind some chunks.
-/

namespace Mysql2.Commands

open Mysql2.Connection
open Mysql2.Packets
open Mysql2.Parser
open Mysql2.Transition

/-! ## What the server finds in a stream -/

/-- A stream is made of packets with these payloads, and nothing is left. -/
structure HoldsPackets (stream : Bytes) (payloads : List Bytes) : Prop where
  packets : (framing plainHeader stream).packets.map Delivery.payload = payloads
  unfinished : (framing plainHeader stream).unfinished = []
  tail : (framing plainHeader stream).tail = []

theorem HoldsPackets.unique {stream : Bytes} {first second : List Bytes}
    (left : HoldsPackets stream first) (right : HoldsPackets stream second) : first = second :=
  left.packets.symm.trans right.packets

theorem holdsPackets_nil : HoldsPackets [] [] := by
  have nothing : (frameReader plainHeader).deframe [] = ([], []) :=
    @deframe_encodeFrames [] (by simp) (by simp)
  constructor <;> simp [framing, nothing]

theorem HoldsPackets.append {stream more : Bytes} {payloads others : List Bytes}
    (left : HoldsPackets stream payloads) (right : HoldsPackets more others) :
    HoldsPackets (stream ++ more) (payloads ++ others) := by
  have split := framing_append plainHeader stream more
  dsimp only at split
  rw [left.unfinished, left.tail, List.nil_append] at split
  constructor
  · rw [split, List.map_append, left.packets]
    exact congrArg (payloads ++ ·) right.packets
  · rw [split]
    exact right.unfinished
  · rw [split]
    exact right.tail

/-- The payloads of the packets that arrive for one packet. -/
def arrivingPayloads (payload : Bytes) : List Bytes :=
  if payload.length % MAX_PACKET_LENGTH ≤ MAX_PACKET_LENGTH - 4 then [payload] else [payload, []]

theorem mem_arrivingPayloads (payload : Bytes) : payload ∈ arrivingPayloads payload := by
  unfold arrivingPayloads
  split <;> exact List.mem_cons_self

/-- The frames that `writePacket` writes for a payload join to its packet, and to
an empty packet if there is one frame too many. -/
theorem holdsPackets_payloadFrames (sequenceId : Nat) (payload : Bytes) :
    HoldsPackets ((payloadFrames sequenceId payload).flatMap encodeFrame)
      (arrivingPayloads payload) := by
  have frames := deframe_payloadFrames sequenceId payload
  have enough : payload.length ≤ (payload.length / MAX_PACKET_LENGTH + 1) * MAX_PACKET_LENGTH := by
    have remainder := Nat.mod_lt payload.length MAX_PACKET_LENGTH_pos
    have whole := Nat.div_add_mod' payload.length MAX_PACKET_LENGTH
    rw [Nat.succ_mul]
    omega
  unfold arrivingPayloads
  by_cases residue : payload.length % MAX_PACKET_LENGTH ≤ MAX_PACKET_LENGTH - 4
  · rw [if_pos residue]
    have countEq := (frameCount_eq_iff payload.length).mpr residue
    have joined := joinFrames_payloadFrames sequenceId countEq
    have payloadEq : (Delivery.ofFrames (payloadFrames sequenceId payload)).payload = payload :=
      payload_ofFrames (body_numberFrames _ _) (countEq ▸ enough)
    constructor <;> simp [framing, frames, joined, payloadEq]
  · rw [if_neg residue]
    -- one frame more than the payload needs: its body is empty
    have bodies := body_numberFrames sequenceId (frameChunks (frameCount payload.length) payload)
    rw [frameCount_of_residue residue, frameChunks_succ_of_le enough,
      List.map_eq_append_iff] at bodies
    rcases bodies with ⟨needed, extraList, framesEq, neededBodies, extraBodies⟩
    rcases List.map_eq_singleton_iff.mp extraBodies with ⟨extra, rfl, extraBody⟩
    have extraShort : extra.body.length ≠ MAX_PACKET_LENGTH := by
      rw [extraBody]
      exact (Nat.ne_of_lt MAX_PACKET_LENGTH_pos)
    have joined : joinFrames [] (payloadFrames sequenceId payload) =
        ([Delivery.ofFrames needed, Delivery.ofFrames [extra]], []) := by
      rw [payloadFrames, frameCount_of_residue residue, frameChunks_succ_of_le enough, framesEq,
        joinFrames_append, joinFrames_of_bodies neededBodies]
      simp [joinFrames_shorter extraShort]
    have payloadEq : (Delivery.ofFrames needed).payload = payload :=
      payload_ofFrames neededBodies enough
    have extraEq : (Delivery.ofFrames [extra]).payload = [] := by
      simp [Delivery.ofFrames, extraBody]
    constructor <;> simp [framing, frames, joined, payloadEq, extraEq]

/-- `writePacket` appends what arrives as the payload's packets. -/
theorem writePacket_holdsPackets {packet : Packet} (fills : FillsBuffer packet) (wire : Wire)
    (idShort : wire.sequenceId < 256) :
    ∃ bytes, (writePacket wire packet).written.flatten = wire.written.flatten ++ bytes ∧
      HoldsPackets bytes (arrivingPayloads (packet.buffer.drop 4)) ∧
      (writePacket wire packet).sequenceId < 256 := by
  obtain ⟨written, sequenceId⟩ := writePacket_eq fills wire idShort
  refine ⟨_, written, holdsPackets_payloadFrames _ _, ?_⟩
  rw [sequenceId]
  exact Nat.mod_lt _ (by decide)

/-- The server finds the contents in non-empty packets, one empty packet behind
them, and nothing else. -/
def SentOnce (contents stream : Bytes) : Prop :=
  ∃ packets, HoldsPackets stream (packets ++ [[]]) ∧ (∀ packet ∈ packets, packet ≠ []) ∧
    packets.flatten = contents

/-! ## The listeners on a local stream -/

variable {V ρ γ : Type}

/-- How a local stream closes. -/
inductive StreamClosing
  | ended
  | failed (err : JsError)
  | failedAndEnded (err : JsError)

/-- The events behind the chunks. -/
def StreamClosing.events : StreamClosing → List LocalStreamEvent
  | .ended => [.ended]
  | .failed err => [.error err]
  | .failedAndEnded err => [.error err, .ended]

/-- The stream emits one event behind the chunks. -/
def StreamClosing.once : StreamClosing → Bool
  | .ended => true
  | .failed _ => true
  | .failedAndEnded _ => false

/-- The events of a local stream. -/
def streamEvents (chunks : List Bytes) (closing : StreamClosing) : List LocalStreamEvent :=
  chunks.map .data ++ closing.events

/-- The payload of the packet that a listener writes. -/
def LocalStreamEvent.payload : LocalStreamEvent → Bytes
  | .data bytes => bytes
  | .ended => []
  | .error _ => []

/-- Every listener writes one packet. -/
theorem localStreamEvent_wire (id : Nat) (event : LocalStreamEvent) (store : Store γ)
    (wire : Wire) :
    ∃ packet, FillsBuffer packet ∧ packet.buffer.drop 4 = event.payload ∧
      (localStreamEvent id event store wire :
        Effect (Store γ) (Command V ρ) (CommandOutput ρ)).wire = writePacket wire packet := by
  cases event with
  | data bytes =>
      refine ⟨_, ⟨rfl, ?_, ?_⟩, rfl, rfl⟩
      · simp [Packet.new]
      · simp [Packet.new]
  | ended => exact ⟨_, ⟨rfl, rfl, by decide⟩, rfl, rfl⟩
  | error err => exact ⟨_, ⟨rfl, rfl, by decide⟩, rfl, rfl⟩

/-- A listener calls nothing and does not throw. -/
theorem localStreamEvent_quiet (id : Nat) (event : LocalStreamEvent) (store : Store γ)
    (wire : Wire) :
    (localStreamEvent id event store wire :
        Effect (Store γ) (Command V ρ) (CommandOutput ρ)).calls = [] ∧
      (localStreamEvent id event store wire :
        Effect (Store γ) (Command V ρ) (CommandOutput ρ)).uncaught = false := by
  cases event <;> exact ⟨rfl, rfl⟩

/-! ## A transfer on a connection -/

/-- A connection that runs no handler and whose `write` is its own. -/
structure Writes (conn : BaseConnection (Store γ) (Command V ρ)) : Prop where
  running : conn.crashed = false
  idle : conn.todo = []
  writeOpen : conn.writeClosed = false
  idShort : conn.wire.sequenceId < 256

/-- The events of the local stream of a command, for a connection. -/
def localStreamInputs (id : Nat) (events : List LocalStreamEvent) :
    List (BaseConnection.Event (Behaviour V ρ) (Interrupt V ρ) (Command V ρ)) :=
  events.map fun event => .input (.interrupt (.localStream id event))

/-- What has been written since. -/
def writtenSince (before after : BaseConnection (Store γ) (Command V ρ)) : Bytes :=
  after.wire.written.flatten.drop before.wire.written.flatten.length

variable (config : CommandConfig V γ) (settings : Config)

/-- One listener. -/
theorem Writes.step {conn : BaseConnection (Store γ) (Command V ρ)} (writes : Writes conn)
    (id : Nat) (event : LocalStreamEvent) :
    let after := (BaseConnection.step (Command.family config) settings conn
      (.input (.interrupt (.localStream id event)))).1
    Writes after ∧ ∃ bytes, after.wire.written.flatten = conn.wire.written.flatten ++ bytes ∧
      HoldsPackets bytes (arrivingPayloads event.payload) := by
  rcases localStreamEvent_wire (V := V) (ρ := ρ) id event conn.store conn.wire with
    ⟨packet, fills, payloadEq, wireEq⟩
  rcases localStreamEvent_quiet (V := V) (ρ := ρ) id event conn.store conn.wire with
    ⟨noCalls, caught⟩
  obtain ⟨bytes, written, holds, idShort⟩ := writePacket_holdsPackets fills conn.wire writes.idShort
  have stepEq : (BaseConnection.step (Command.family config) settings conn
        (.input (.interrupt (.localStream id event)))).1 =
      (conn.apply (localStreamEvent id event conn.store conn.wire)).1 := by
    rw [BaseConnection.step, if_pos ⟨writes.running, writes.idle⟩, BaseConnection.accept,
      BaseConnection.runInterrupt, if_neg]
    · rfl
    · simp [writes.writeOpen]
  intro after
  have afterEq : after = (conn.apply (localStreamEvent id event conn.store conn.wire)).1 := stepEq
  have wireAfter : after.wire = writePacket conn.wire packet := by
    rw [afterEq, ← wireEq]
    rfl
  constructor
  · constructor
    · rw [afterEq, BaseConnection.apply, caught]
      simp [BaseConnection.push, writes.running]
    · rw [afterEq, BaseConnection.apply, noCalls]
      simp [BaseConnection.push, writes.idle]
    · rw [afterEq]
      exact writes.writeOpen
    · rw [wireAfter]
      exact idShort
  · refine ⟨bytes, ?_, payloadEq ▸ holds⟩
    rw [wireAfter, written]

/-- All of them: what is written arrives as the packets of the events, in their
order. -/
theorem Writes.run {conn : BaseConnection (Store γ) (Command V ρ)} (writes : Writes conn)
    (id : Nat) (events : List LocalStreamEvent) :
    let after := (run (BaseConnection.step (Command.family config) settings) conn
      (localStreamInputs id events)).1
    Writes after ∧ ∃ bytes, after.wire.written.flatten = conn.wire.written.flatten ++ bytes ∧
      HoldsPackets bytes (events.flatMap fun event => arrivingPayloads event.payload) := by
  induction events generalizing conn with
  | nil => exact ⟨writes, [], (List.append_nil _).symm, holdsPackets_nil⟩
  | cons event events ih =>
      obtain ⟨writesNext, bytes, written, holds⟩ := writes.step config settings id event
      obtain ⟨writesLast, more, writtenMore, holdsMore⟩ := ih writesNext
      refine ⟨writesLast, bytes ++ more, ?_, holds.append holdsMore⟩
      rw [localStreamInputs, List.map_cons, run_cons]
      exact writtenMore.trans (by rw [written, List.append_assoc])

/-- What a whole transfer writes. -/
theorem Writes.transfer {conn : BaseConnection (Store γ) (Command V ρ)} (writes : Writes conn)
    (id : Nat) (chunks : List Bytes) (closing : StreamClosing) :
    HoldsPackets
      (writtenSince conn (Transition.run (BaseConnection.step (Command.family config) settings)
        conn (localStreamInputs id (streamEvents chunks closing))).1)
      (chunks.flatMap arrivingPayloads ++ if closing.once then [[]] else [[], []]) := by
  obtain ⟨-, bytes, written, holds⟩ :=
    writes.run config settings id (streamEvents chunks closing)
  rw [writtenSince, written, List.drop_left']
  · have emptyArrives : arrivingPayloads [] = [[]] := if_pos (Nat.zero_mod _ ▸ Nat.zero_le _)
    rw [streamEvents, List.flatMap_append, List.flatMap_map] at holds
    cases closing with
    | ended => simpa [StreamClosing.events, StreamClosing.once, LocalStreamEvent.payload,
        emptyArrives] using holds
    | failed err => simpa [StreamClosing.events, StreamClosing.once, LocalStreamEvent.payload,
        emptyArrives] using holds
    | failedAndEnded err => simpa [StreamClosing.events, StreamClosing.once,
        LocalStreamEvent.payload, emptyArrives] using holds
  · rfl

/-! ## When the server finds the contents once -/

/-- A chunk arrives as one packet that does not end the contents. -/
def Transfers (chunk : Bytes) : Prop :=
  chunk ≠ [] ∧ chunk.length % MAX_PACKET_LENGTH ≤ MAX_PACKET_LENGTH - 4

theorem flatMap_arrivingPayloads {chunks : List Bytes}
    (transfers : ∀ chunk ∈ chunks, Transfers chunk) :
    chunks.flatMap arrivingPayloads = chunks := by
  induction chunks with
  | nil => rfl
  | cons chunk chunks ih =>
      have ⟨first, later⟩ := List.forall_mem_cons.mp transfers
      rw [List.flatMap_cons, ih later, arrivingPayloads, if_pos first.2, List.singleton_append]

/-- Without an empty packet among those of the chunks, every chunk transfers. -/
theorem transfers_of_nonempty {chunks : List Bytes}
    (nonempty : ∀ packet ∈ chunks.flatMap arrivingPayloads, packet ≠ []) :
    ∀ chunk ∈ chunks, Transfers chunk := by
  intro chunk chunkMem
  constructor
  · exact nonempty chunk (List.mem_flatMap.mpr ⟨chunk, chunkMem, mem_arrivingPayloads chunk⟩)
  · by_contra residue
    apply nonempty [] (List.mem_flatMap.mpr ⟨chunk, chunkMem, ?_⟩) rfl
    rw [arrivingPayloads, if_neg residue]
    exact List.mem_cons_of_mem chunk List.mem_cons_self

/-- What a transfer writes is the contents once, if the packets of the chunks are
the chunks and the stream closes with one event. -/
theorem sentOnce_iff {stream : Bytes} {chunks : List Bytes} {closing : StreamClosing}
    (holds : HoldsPackets stream
      (chunks.flatMap arrivingPayloads ++ if closing.once then [[]] else [[], []])) :
    SentOnce chunks.flatten stream ↔
      (∀ chunk ∈ chunks, Transfers chunk) ∧ closing.once = true := by
  constructor
  · rintro ⟨packets, found, nonempty, -⟩
    have payloadsEq := found.unique holds
    cases once : closing.once with
    | true =>
        rw [once, if_pos rfl, List.append_cancel_right_eq] at payloadsEq
        exact ⟨transfers_of_nonempty (payloadsEq ▸ nonempty), rfl⟩
    | false =>
        -- the first terminator is one of the packets in front of the last
        rw [once, if_neg Bool.false_ne_true,
          List.append_cons (chunks.flatMap arrivingPayloads) [] [[]],
          List.append_cancel_right_eq] at payloadsEq
        have terminator : [] ∈ packets := by
          rw [payloadsEq]
          exact List.mem_append_right _ List.mem_cons_self
        exact absurd rfl (nonempty [] terminator)
  · rintro ⟨transfers, once⟩
    rw [once, if_pos rfl, flatMap_arrivingPayloads transfers] at holds
    exact ⟨chunks, holds, fun chunk chunkMem => (transfers chunk chunkMem).1, rfl⟩

/-- The server finds the contents of a local file once exactly if no chunk is
empty or one, two or three bytes short of filling its last frame, and no end
follows an error. -/
theorem localStream_sentOnce_iff {conn : BaseConnection (Store γ) (Command V ρ)}
    (writes : Writes conn) (id : Nat) (chunks : List Bytes) (closing : StreamClosing) :
    SentOnce chunks.flatten
        (writtenSince conn (Transition.run (BaseConnection.step (Command.family config) settings)
          conn (localStreamInputs id (streamEvents chunks closing))).1) ↔
      (∀ chunk ∈ chunks, Transfers chunk) ∧ closing.once = true :=
  sentOnce_iff (writes.transfer config settings id chunks closing)

/-- A connection with nothing to do. -/
theorem writes_new {V ρ γ : Type} (store : Store γ) :
    Writes (.new store : BaseConnection (Store γ) (Command V ρ)) :=
  ⟨rfl, rfl, rfl, Nat.zero_lt_succ 255⟩

/-- A stream with one chunk. -/
theorem localStream_sentOnce_iff_one :
    let conn : BaseConnection (Store Entries) (Command JsValue Unit) := .new (.empty [])
    SentOnce [[1, 2]].flatten
        (writtenSince conn (Transition.run
          (BaseConnection.step (Command.family (defaultConfig false)) listening)
          conn (localStreamInputs 7 (streamEvents [[1, 2]] .ended))).1) ↔
      (∀ chunk ∈ [[1, 2]], Transfers chunk) ∧ StreamClosing.ended.once = true :=
  localStream_sentOnce_iff (defaultConfig false) listening (writes_new _) 7 [[1, 2]] .ended

/-- An empty chunk ends the contents in front of the next chunk. -/
theorem emptyChunk_not_sentOnce :
    let conn : BaseConnection (Store Entries) (Command JsValue Unit) := .new (.empty [])
    ¬ SentOnce [[], [1, 2]].flatten
      (writtenSince conn (Transition.run
        (BaseConnection.step (Command.family (defaultConfig false)) listening)
        conn (localStreamInputs 7 (streamEvents [[], [1, 2]] .ended))).1) := by
  intro conn sent
  have writes : Writes conn := writes_new _
  have holds := writes.transfer (defaultConfig false) listening 7 [[], [1, 2]] .ended
  have transfers := ((sentOnce_iff holds).mp sent).1
  exact (transfers [] List.mem_cons_self).1 rfl

end Mysql2.Commands

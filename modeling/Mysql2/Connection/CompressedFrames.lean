import Mysql2.Connection.Inflating

/-!
# Receiving the frames of the compressed protocol

A conforming stream is a sequence of well-formed frames.  The inner parser is
fed the contents of the frames in order exactly when every frame of maximal size
is raw and has a raw frame behind it.
-/

namespace Mysql2.Compression

open Mysql2.Packets
open Mysql2.Parser
open Mysql2.Stream
open Mysql2.Transition

namespace CompressedFrame

/-- The frame as the outer parser sees it, with its bytes behind the id. -/
def full (frame : CompressedFrame) : Frame × Bytes :=
  (⟨frame.sequenceId, frame.body⟩, frame.lengthBytes ++ frame.body)

/-- A frame of maximal size. -/
def Maximal (frame : CompressedFrame) : Prop :=
  frame.body.length = MAX_PACKET_LENGTH

/-- A frame with a raw body. -/
def Raw (frame : CompressedFrame) : Prop :=
  frame.compressed = none

instance (frame : CompressedFrame) : Decidable frame.Maximal :=
  inferInstanceAs (Decidable (_ = _))

instance (frame : CompressedFrame) : Decidable frame.Raw :=
  inferInstanceAs (Decidable (_ = _))

/-- The call of `zlib.inflate` the frame needs. -/
def call (frame : CompressedFrame) : Option (Bytes × Nat) :=
  frame.compressed.map fun compressed => (compressed, frame.content.length)

theorem Raw.body_eq {frame : CompressedFrame} (raw : frame.Raw) : frame.body = frame.content := by
  rw [body, raw]
  rfl

theorem Raw.call_eq {frame : CompressedFrame} (raw : frame.Raw) : frame.call = none := by
  rw [call, raw]
  rfl

/-- The bytes of a frame, from the frame as the outer parser sees it. -/
def encodeFull (full : Frame × Bytes) : Bytes :=
  [toByte full.1.body.length, toByte (full.1.body.length / 256),
    toByte (full.1.body.length / 65536), toByte full.1.sequenceId] ++ full.2

/-- The number in three length bytes. -/
theorem frameLength_bytes {length : Nat} (short : length ≤ MAX_PACKET_LENGTH) (rest : Bytes) :
    frameLength ([toByte length, toByte (length / 256), toByte (length / 65536)] ++ rest) =
      length := by
  rw [MAX_PACKET_LENGTH_eq] at short
  change (toByte _).toNat + 256 * (toByte _).toNat + 65536 * (toByte _).toNat = _
  rw [toByte_toNat, toByte_toNat, toByte_toNat]
  omega

theorem WellFormed.uncompressedLength_le {zlib : Zlib} {frame : CompressedFrame}
    (wellFormed : frame.WellFormed zlib) : frame.uncompressedLength ≤ MAX_PACKET_LENGTH := by
  unfold uncompressedLength
  split
  · exact wellFormed.content
  · exact Nat.zero_le _

/-- The outer parser's reader reads the frame back. -/
theorem WellFormed.read_encodeFull {zlib : Zlib} {frame : CompressedFrame}
    (wellFormed : frame.WellFormed zlib) :
    (fullReader compressedHeader).read (encodeFull frame.full) = some (frame.full, []) := by
  have lengthEq : frameLength (encodeFull frame.full) = frame.body.length :=
    frameLength_bytes wellFormed.body _
  have totalEq : (encodeFull frame.full).length = 7 + frame.body.length := by
    simp [encodeFull, full, lengthBytes]
    omega
  have idEq : byteAt (encodeFull frame.full) 3 = frame.sequenceId := by
    change (toByte frame.sequenceId).toNat = _
    rw [toByte_toNat, Nat.mod_eq_of_lt wellFormed.sequenceId]
  have behindEq : behindId compressedHeader (encodeFull frame.full) frame.full.1 =
      frame.full.2 := by
    have short : ((encodeFull frame.full).drop 4).length ≤ 7 + frame.body.length - 4 :=
      Nat.le_of_eq (by rw [List.length_drop, totalEq])
    exact List.take_of_length_le short
  have readEq : readFrame compressedHeader (encodeFull frame.full) =
      some (frame.full.1, []) := by
    apply readFrame_eq_some_iff.mpr
    rw [lengthEq, idEq]
    refine ⟨Nat.le_of_eq totalEq.symm, ?_, ?_⟩
    · change _ = Frame.mk _ (slice _ 7 (7 + frame.body.length))
      rw [slice, Nat.add_sub_cancel_left, List.take_of_length_le]
      · rfl
      · rw [List.length_drop, totalEq]
        omega
    · exact (List.drop_of_length_le (Nat.le_of_eq totalEq)).symm
  rw [fullReader_read_some readEq, behindEq]

/-- A stream of well-formed frames is cut into these frames. -/
theorem deframe_encode {zlib : Zlib} {frames : List CompressedFrame}
    (wellFormed : ∀ frame ∈ frames, frame.WellFormed zlib) :
    (fullReader compressedHeader).deframe (frames.flatMap encode) = (frames.map full, []) := by
  have encodeEq : frames.flatMap encode = (frames.map full).flatMap encodeFull := by
    rw [List.flatMap_map]
    congr 1
  have readBack : ∀ other ∈ frames.map full,
      (fullReader compressedHeader).read (encodeFull other) = some (other, []) := by
    intro other otherMem
    obtain ⟨frame, frameMem, rfl⟩ := List.mem_map.mp otherMem
    exact (wellFormed frame frameMem).read_encodeFull
  rw [encodeEq]
  exact (fullReader compressedHeader).deframe_flatMap_encode encodeFull _ readBack
    (fullReader_read_none (readFrame_eq_none (Or.inl (by decide))))

/-! ## The task for a frame -/

/-- The data of the task for a packet that presents these bytes. -/
def unreadData (zlib : Zlib) (unread : Bytes) : Bytes :=
  (Inflation.ofUnread 0 unread).data zlib

/-- The call of `zlib.inflate` for such a packet. -/
def unreadCall (unread : Bytes) : Option (Bytes × Nat) :=
  (Inflation.ofUnread 0 unread).call

theorem WellFormed.deflatedLength_eq {zlib : Zlib} {frame : CompressedFrame}
    (wellFormed : frame.WellFormed zlib) :
    (Inflation.ofUnread 0 frame.full.2).deflatedLength = frame.uncompressedLength :=
  frameLength_bytes wellFormed.uncompressedLength_le frame.body

theorem body_ofUnread (frame : CompressedFrame) :
    (Inflation.ofUnread 0 frame.full.2).body = frame.body :=
  rfl

theorem Raw.uncompressedLength_eq {frame : CompressedFrame} (raw : frame.Raw) :
    frame.uncompressedLength = 0 := by
  rw [uncompressedLength, raw]
  rfl

/-- A compressed frame has a length that marks it as compressed. -/
theorem WellFormed.uncompressedLength_ne {zlib : Zlib} {frame : CompressedFrame}
    (wellFormed : frame.WellFormed zlib) {compressed : Bytes}
    (compressedEq : frame.compressed = some compressed) :
    frame.uncompressedLength = frame.content.length ∧ frame.uncompressedLength ≠ 0 := by
  have nonempty := wellFormed.nonempty (by rw [compressedEq]; rfl)
  have lengthEq : frame.uncompressedLength = frame.content.length := by
    rw [uncompressedLength, compressedEq]
    rfl
  exact ⟨lengthEq, by rw [lengthEq]; exact mt List.length_eq_zero_iff.mp nonempty⟩

/-- A packet of one frame ends with the content of the frame. -/
theorem WellFormed.unreadData_full {zlib : Zlib} {frame : CompressedFrame}
    (wellFormed : frame.WellFormed zlib) : unreadData zlib frame.full.2 = frame.content := by
  rw [unreadData, Inflation.data, wellFormed.deflatedLength_eq, body_ofUnread]
  cases compressedEq : frame.compressed with
  | none =>
      have raw : frame.Raw := compressedEq
      rw [if_pos raw.uncompressedLength_eq, raw.body_eq]
  | some compressed =>
      obtain ⟨lengthEq, nonzero⟩ := wellFormed.uncompressedLength_ne compressedEq
      have bodyEq : frame.body = compressed := by
        rw [CompressedFrame.body, compressedEq]
        rfl
      rw [if_neg nonzero, lengthEq, bodyEq, wellFormed.inflates compressed compressedEq]

/-- It is inflated with the length of its own content. -/
theorem WellFormed.unreadCall_full {zlib : Zlib} {frame : CompressedFrame}
    (wellFormed : frame.WellFormed zlib) : unreadCall frame.full.2 = frame.call := by
  rw [unreadCall, Inflation.call, wellFormed.deflatedLength_eq, body_ofUnread, call]
  cases compressedEq : frame.compressed with
  | none =>
      have raw : frame.Raw := compressedEq
      rw [if_pos raw.uncompressedLength_eq]
      rfl
  | some compressed =>
      obtain ⟨lengthEq, nonzero⟩ := wellFormed.uncompressedLength_ne compressedEq
      rw [if_neg nonzero, lengthEq, CompressedFrame.body, compressedEq]
      rfl

/-- The bytes that a packet joined of several frames presents. -/
def joinedUnread (frames : List CompressedFrame) : Bytes :=
  List.replicate 3 0 ++ frames.flatMap body

theorem deflatedLength_joined (frames : List CompressedFrame) :
    (Inflation.ofUnread 0 (joinedUnread frames)).deflatedLength = 0 :=
  rfl

/-- A joined packet is taken for raw. -/
theorem unreadData_joined (zlib : Zlib) (frames : List CompressedFrame) :
    unreadData zlib (joinedUnread frames) = frames.flatMap body :=
  Inflation.data_raw (deflatedLength_joined frames) zlib

theorem unreadCall_joined (frames : List CompressedFrame) :
    unreadCall (joinedUnread frames) = none :=
  Inflation.call_raw (deflatedLength_joined frames)

end CompressedFrame

open CompressedFrame

/-! ## The packets of a stream of frames -/

/-- What the packets of a stream of frames present, with the run of maximal
frames no packet contains yet. -/
def presented (unfinished frames : List CompressedFrame) : List Bytes :=
  joinUnread compressedHeader (unfinished.map fun frame => frame.full.1)
    (frames.map CompressedFrame.full)

theorem presented_cons (unfinished frames : List CompressedFrame) (frame : CompressedFrame) :
    presented unfinished (frame :: frames) =
      if frame.Maximal then presented (unfinished ++ [frame]) frames
      else
        (if unfinished = [] then frame.full.2 else joinedUnread (unfinished ++ [frame])) ::
          presented [] frames := by
  unfold presented
  rw [List.map_cons, joinUnread]
  by_cases maximal : frame.Maximal
  · have fullMaximal : frame.full.1.body.length = MAX_PACKET_LENGTH := maximal
    rw [if_pos maximal, if_pos fullMaximal, List.map_append, List.map_singleton]
  · have fullShorter : ¬frame.full.1.body.length = MAX_PACKET_LENGTH := maximal
    rw [if_neg maximal, if_neg fullShorter]
    congr 1
    by_cases nothing : unfinished = []
    · rw [if_pos nothing, if_pos (by rw [nothing]; rfl)]
    · rw [if_neg nothing, if_neg (by simpa using nothing), joinedUnread]
      congr 1
      rw [← List.map_singleton (f := fun other : CompressedFrame => other.full.1),
        ← List.map_append, List.flatMap_map]
      rfl

/-- Every frame of maximal size is raw and has a raw frame behind it. -/
def Harmless : List CompressedFrame → Prop
  | [] => True
  | frame :: frames =>
      (frame.Maximal → frame.Raw ∧ ∃ next ∈ frames.head?, next.Raw) ∧ Harmless frames

/-- The condition for the rest of a stream behind a run of maximal frames. -/
def HarmlessBehind (unfinished frames : List CompressedFrame) : Prop :=
  (unfinished ≠ [] →
    (∀ frame ∈ unfinished, frame.Raw) ∧ ∃ next ∈ frames.head?, next.Raw) ∧ Harmless frames

/-- Data and calls of the packets are those of the frames. -/
structure Preserved (zlib : Zlib) (unreads : List Bytes) (frames : List CompressedFrame) :
    Prop where
  data : unreads.flatMap (unreadData zlib) = frames.flatMap content
  calls : unreads.filterMap unreadCall = frames.filterMap call

/-- Packets of a stream need no more inflations than its frames. -/
theorem length_calls_le {zlib : Zlib} {frames : List CompressedFrame}
    (wellFormed : ∀ frame ∈ frames, frame.WellFormed zlib) (unfinished : List CompressedFrame) :
    ((presented unfinished frames).filterMap unreadCall).length ≤
      (frames.filterMap call).length := by
  induction frames generalizing unfinished with
  | nil => exact Nat.le_refl 0
  | cons frame frames ih =>
      have here := wellFormed frame List.mem_cons_self
      have later := ih fun other otherMem => wellFormed other (List.mem_cons_of_mem frame otherMem)
      have oneMore : (frames.filterMap call).length ≤
          ((frame :: frames).filterMap call).length := by
        rw [List.filterMap_cons]
        split
        · exact Nat.le_refl _
        · exact Nat.le_succ _
      rw [presented_cons]
      by_cases maximal : frame.Maximal
      · rw [if_pos maximal]
        exact Nat.le_trans (later _) oneMore
      · rw [if_neg maximal]
        by_cases nothing : unfinished = []
        · rw [if_pos nothing, List.filterMap_cons, List.filterMap_cons, here.unreadCall_full]
          cases frame.call with
          | none => exact later []
          | some called => exact Nat.succ_le_succ (later [])
        · rw [if_neg nothing, List.filterMap_cons_none (unreadCall_joined _)]
          exact Nat.le_trans (later []) oneMore

theorem raw_of_call_none {frames : List CompressedFrame} (none : frames.filterMap call = []) :
    ∀ frame ∈ frames, frame.Raw := by
  intro frame frameMem
  have callNone := List.filterMap_eq_nil_iff.mp none frame frameMem
  exact Option.map_eq_none_iff.mp callNone

theorem call_none_of_raw {frames : List CompressedFrame}
    (raw : ∀ frame ∈ frames, frame.Raw) : frames.filterMap call = [] :=
  List.filterMap_eq_nil_iff.mpr fun frame frameMem => (raw frame frameMem).call_eq

theorem bodies_of_raw {frames : List CompressedFrame}
    (raw : ∀ frame ∈ frames, frame.Raw) : frames.flatMap body = frames.flatMap content := by
  rw [List.flatMap_def, List.flatMap_def]
  congr 1
  exact List.map_congr_left fun frame frameMem => (raw frame frameMem).body_eq

/-- A packet joined of all frames of a list, then the packets behind it. -/
private theorem preserved_joined_iff {zlib : Zlib} {joined frames : List CompressedFrame}
    (wellFormed : ∀ frame ∈ frames, frame.WellFormed zlib) :
    Preserved zlib (joinedUnread joined :: presented [] frames) (joined ++ frames) ↔
      (∀ frame ∈ joined, frame.Raw) ∧ Preserved zlib (presented [] frames) frames := by
  constructor
  · rintro ⟨data, calls⟩
    have fewer := length_calls_le wellFormed []
    rw [List.filterMap_cons_none (unreadCall_joined _), List.filterMap_append] at calls
    have noCalls : joined.filterMap call = [] := by
      have lengths := congrArg List.length calls
      rw [List.length_append] at lengths
      exact List.length_eq_zero_iff.mp (by omega)
    have raw := raw_of_call_none noCalls
    rw [noCalls, List.nil_append] at calls
    rw [List.flatMap_cons, unreadData_joined, bodies_of_raw raw, List.flatMap_append] at data
    exact ⟨raw, List.append_cancel_left data, calls⟩
  · rintro ⟨raw, data, calls⟩
    constructor
    · rw [List.flatMap_cons, unreadData_joined, bodies_of_raw raw, List.flatMap_append, data]
    · rw [List.filterMap_cons_none (unreadCall_joined _), List.filterMap_append,
        call_none_of_raw raw, List.nil_append, calls]

/-- A packet of one frame, then the packets behind it. -/
private theorem preserved_single_iff {zlib : Zlib} {frame : CompressedFrame}
    (wellFormed : frame.WellFormed zlib) (unreads : List Bytes)
    (frames : List CompressedFrame) :
    Preserved zlib (frame.full.2 :: unreads) (frame :: frames) ↔
      Preserved zlib unreads frames := by
  constructor
  · rintro ⟨data, calls⟩
    rw [List.flatMap_cons, List.flatMap_cons, wellFormed.unreadData_full] at data
    rw [List.filterMap_cons, List.filterMap_cons, wellFormed.unreadCall_full] at calls
    refine ⟨List.append_cancel_left data, ?_⟩
    cases callEq : frame.call with
    | none => simpa [callEq] using calls
    | some called => simpa [callEq] using calls
  · rintro ⟨data, calls⟩
    constructor
    · rw [List.flatMap_cons, List.flatMap_cons, wellFormed.unreadData_full, data]
    · rw [List.filterMap_cons, List.filterMap_cons, wellFormed.unreadCall_full, calls]

/-- A run of maximal frames with nothing behind it is lost. -/
private theorem not_preserved_unfinished {zlib : Zlib} {unfinished : List CompressedFrame}
    (maximal : ∀ frame ∈ unfinished, frame.Maximal) (nonempty : unfinished ≠ []) :
    ¬Preserved zlib [] unfinished := by
  rintro ⟨data, calls⟩
  have raw := raw_of_call_none calls.symm
  obtain ⟨frame, rest, rfl⟩ := List.exists_cons_of_ne_nil nonempty
  rw [← bodies_of_raw raw, List.flatMap_cons] at data
  have lengthEq : frame.body.length = MAX_PACKET_LENGTH := maximal frame List.mem_cons_self
  have noBody : frame.body = [] := (List.append_eq_nil_iff.mp data.symm).1
  have positive := MAX_PACKET_LENGTH_pos
  rw [noBody] at lengthEq
  exact absurd lengthEq (Nat.ne_of_lt positive)

/-- The packets of a stream preserve data and calls exactly under the condition. -/
theorem preserved_iff {zlib : Zlib} {frames : List CompressedFrame}
    (wellFormed : ∀ frame ∈ frames, frame.WellFormed zlib)
    {unfinished : List CompressedFrame} (maximal : ∀ frame ∈ unfinished, frame.Maximal) :
    Preserved zlib (presented unfinished frames) (unfinished ++ frames) ↔
      HarmlessBehind unfinished frames := by
  induction frames generalizing unfinished with
  | nil =>
      by_cases nothing : unfinished = []
      · subst nothing
        exact ⟨fun _ => ⟨fun nonempty => absurd rfl nonempty, trivial⟩, fun _ => ⟨rfl, rfl⟩⟩
      · rw [List.append_nil]
        constructor
        · intro preserved
          exact absurd preserved (not_preserved_unfinished maximal nothing)
        · rintro ⟨behind, _⟩
          obtain ⟨_, next, nextMem, _⟩ := behind nothing
          exact absurd nextMem (Option.not_mem_none next)
  | cons frame frames ih =>
      have here := wellFormed frame List.mem_cons_self
      have rest : ∀ other ∈ frames, other.WellFormed zlib := fun other otherMem =>
        wellFormed other (List.mem_cons_of_mem frame otherMem)
      rw [presented_cons]
      by_cases isMaximal : frame.Maximal
      · have longer : ∀ other ∈ unfinished ++ [frame], other.Maximal := by
          intro other otherMem
          rcases List.mem_append.mp otherMem with earlier | last
          · exact maximal other earlier
          · rw [List.mem_singleton.mp last]
            exact isMaximal
        have laterIff := ih rest longer
        rw [List.append_assoc, List.singleton_append] at laterIff
        rw [if_pos isMaximal, laterIff]
        constructor
        · rintro ⟨behind, harmless⟩
          obtain ⟨raw, next⟩ := behind (by simp)
          have frameRaw := raw frame (by simp)
          refine ⟨fun _ => ⟨fun other otherMem => raw other (by simp [otherMem]), frame, rfl,
            frameRaw⟩, fun _ => ⟨frameRaw, next⟩, harmless⟩
        · rintro ⟨behind, here', harmless⟩
          obtain ⟨frameRaw, next⟩ := here' isMaximal
          refine ⟨fun _ => ⟨?_, next⟩, harmless⟩
          intro other otherMem
          rcases List.mem_append.mp otherMem with earlier | last
          · exact (behind (List.ne_nil_of_mem earlier)).1 other earlier
          · rw [List.mem_singleton.mp last]
            exact frameRaw
      · have laterIff := ih rest
          (show ∀ other ∈ ([] : List CompressedFrame), other.Maximal from List.forall_mem_nil _)
        rw [List.nil_append] at laterIff
        have harmlessIff : HarmlessBehind [] frames ↔ Harmless (frame :: frames) := by
          constructor
          · rintro ⟨_, harmless⟩
            exact ⟨fun isMaximal' => absurd isMaximal' isMaximal, harmless⟩
          · rintro ⟨_, harmless⟩
            exact ⟨fun nonempty => absurd rfl nonempty, harmless⟩
        rw [if_neg isMaximal]
        by_cases nothing : unfinished = []
        · subst nothing
          rw [if_pos rfl, List.nil_append, preserved_single_iff here, laterIff, harmlessIff]
          exact ⟨fun harmless => ⟨fun nonempty => absurd rfl nonempty, harmless⟩,
            fun behind => behind.2⟩
        · rw [if_neg nothing, List.append_cons unfinished frame frames,
            preserved_joined_iff rest, laterIff, harmlessIff]
          constructor
          · rintro ⟨raw, harmless⟩
            exact ⟨fun _ => ⟨fun other otherMem => raw other (by simp [otherMem]), frame, rfl,
              raw frame (by simp)⟩, harmless⟩
          · rintro ⟨behind, harmless⟩
            obtain ⟨raw, next, nextMem, nextRaw⟩ := behind nothing
            cases nextMem
            refine ⟨?_, harmless⟩
            intro other otherMem
            rcases List.mem_append.mp otherMem with earlier | last
            · exact raw other earlier
            · rw [List.mem_singleton.mp last]
              exact nextRaw

/-! ## Runs on a stream of frames -/

/-- What the inner parser is to be fed in a run that receives the beginning of a
stream of frames: contents in order, each inflated with the length of its own
frame, and all of them once the whole stream has arrived and the queue is at
rest.  No error is reported on the way. -/
structure FedInOrder (frames : List CompressedFrame) (events : List Event)
    (result : CompressedConnection × List Output) : Prop where
  listening : result.1.failed = false
  fed : (executed result.2).flatten <+: frames.flatMap content
  inflated : inflations result.2 <+: frames.filterMap call
  complete : (received events).flatten = frames.flatMap encode →
    result.1.inflateQueue.AtRest →
    (executed result.2).flatten = frames.flatMap content ∧
      inflations result.2 = frames.filterMap call

/-- Every run that receives the beginning of the stream, in any chunks and with
any order of ticks and callbacks, feeds the inner parser in order. -/
def AlwaysFedInOrder (zlib : Zlib) (compressedSequenceId : Nat)
    (frames : List CompressedFrame) : Prop :=
  ∀ events, (∀ chunk ∈ received events, chunk ≠ []) →
    (received events).flatten <+: frames.flatMap encode →
    FedInOrder frames events
      (run (CompressedConnection.step zlib) (.enableCompression compressedSequenceId) events)

/-- The tasks for the packets of the outer parser, which start a stream of
well-formed frames, are those of the presented bytes. -/
theorem exists_presented {zlib : Zlib} {frames : List CompressedFrame}
    (wellFormed : ∀ frame ∈ frames, frame.WellFormed zlib) {chunks : List Bytes}
    (nonempty : ∀ chunk ∈ chunks, chunk ≠ [])
    (isBeginning : chunks.flatten <+: frames.flatMap encode) :
    ∃ arrived, arrived <+: frames ∧
      (chunks.flatten = frames.flatMap encode → arrived = frames) ∧
      (run PacketParser.executeChunk (.new compressedHeader) chunks).2.map Packet.unread =
        presented [] arrived := by
  obtain ⟨-, -, unreadEq⟩ := PacketParser.run_executeChunk_refines nonempty
    (PacketParser.represents_new compressedHeader) (frameReader_read_short (by decide))
  rw [List.nil_append] at unreadEq
  have isPrefix := (fullReader compressedHeader).deframe_isPrefix isBeginning
  rw [deframe_encode wellFormed] at isPrefix
  generalize countEq : ((fullReader compressedHeader).deframe chunks.flatten).1.length = count
    at isPrefix
  have arrivedEq := List.prefix_iff_eq_take.mp isPrefix
  rw [countEq, ← List.map_take] at arrivedEq
  refine ⟨frames.take count, List.take_prefix count frames, ?_, by rw [unreadEq, arrivedEq]; rfl⟩
  intro whole
  rw [whole, deframe_encode wellFormed, List.length_map] at countEq
  rw [← countEq, List.take_length]

/-- Every packet of a stream of well-formed frames can be read and inflated. -/
theorem presented_decodable {zlib : Zlib} {frames : List CompressedFrame}
    (wellFormed : ∀ frame ∈ frames, frame.WellFormed zlib) (unfinished : List CompressedFrame) :
    ∀ unread ∈ presented unfinished frames,
      3 ≤ unread.length ∧ (Inflation.ofUnread 0 unread).Inflates zlib := by
  induction frames generalizing unfinished with
  | nil => exact List.forall_mem_nil _
  | cons frame frames ih =>
      have here := wellFormed frame List.mem_cons_self
      have later := ih fun other otherMem => wellFormed other (List.mem_cons_of_mem frame otherMem)
      rw [presented_cons]
      by_cases maximal : frame.Maximal
      · rw [if_pos maximal]
        exact later _
      · rw [if_neg maximal]
        intro unread unreadMem
        rcases List.mem_cons.mp unreadMem with rfl | laterMem
        · by_cases nothing : unfinished = []
          · rw [if_pos nothing]
            refine ⟨by simp [full, lengthBytes], ?_⟩
            intro deflated
            rw [here.deflatedLength_eq] at deflated
            cases compressedEq : frame.compressed with
            | none =>
                have raw : frame.Raw := compressedEq
                exact absurd raw.uncompressedLength_eq deflated
            | some compressed =>
                obtain ⟨lengthEq, _⟩ := here.uncompressedLength_ne compressedEq
                have bodyEq : frame.body = compressed := by
                  rw [body, compressedEq]
                  rfl
                have dataEq : (Inflation.ofUnread 0 frame.full.2).data zlib = frame.content :=
                  here.unreadData_full
                rw [dataEq, here.deflatedLength_eq, body_ofUnread, lengthEq, bodyEq]
                exact here.inflates compressed compressedEq
          · rw [if_neg nothing]
            refine ⟨by simp [joinedUnread], ?_⟩
            intro deflated
            exact absurd (deflatedLength_joined _) deflated
        · exact later [] unread laterMem

/-- The data and calls of tasks depend on what their packets present. -/
private theorem flatten_data_taskOf (zlib : Zlib) (packets : List Packet) :
    ((packets.map taskOf).map (Inflation.data zlib)).flatten =
      (packets.map Packet.unread).flatMap (unreadData zlib) := by
  rw [List.flatMap_map, List.flatMap_def, List.map_map]
  rfl

private theorem filterMap_call_taskOf (packets : List Packet) :
    (packets.map taskOf).filterMap Inflation.call =
      (packets.map Packet.unread).filterMap unreadCall := by
  rw [List.filterMap_map, List.filterMap_map]
  rfl

/-- What a run on the beginning of a stream has fed, in terms of the frames that
have arrived. -/
theorem run_presented {zlib : Zlib} (deflates : zlib.Deflates) {frames : List CompressedFrame}
    (wellFormed : ∀ frame ∈ frames, frame.WellFormed zlib) (compressedSequenceId : Nat)
    (events : List Event) (nonempty : ∀ chunk ∈ received events, chunk ≠ [])
    (isBeginning : (received events).flatten <+: frames.flatMap encode) :
    let result :=
      run (CompressedConnection.step zlib) (.enableCompression compressedSequenceId) events
    Working zlib result.1.inflateQueue ∧ result.1.failed = false ∧
      ∃ arrived, arrived <+: frames ∧
        ((received events).flatten = frames.flatMap encode → arrived = frames) ∧
        (executed result.2).flatten ++
            (result.1.inflateQueue.pending.map (Inflation.data zlib)).flatten =
          (presented [] arrived).flatMap (unreadData zlib) ∧
        inflations result.2 ++ result.1.inflateQueue.queue.filterMap Inflation.call =
          (presented [] arrived).filterMap unreadCall := by
  intro result
  obtain ⟨arrived, arrivedPrefix, allArrived, unreadEq⟩ :=
    exists_presented wellFormed nonempty isBeginning
  have arrivedWellFormed : ∀ frame ∈ arrived, frame.WellFormed zlib := fun frame frameMem =>
    wellFormed frame (arrivedPrefix.subset frameMem)
  have decodable : CompressedConnection.Decodable zlib
      (run PacketParser.executeChunk (.new compressedHeader) (received events)).2 := by
    intro packet packetMem
    apply presented_decodable arrivedWellFormed [] packet.unread
    rw [← unreadEq]
    exact List.mem_map_of_mem packetMem
  have receives : (CompressedConnection.enableCompression compressedSequenceId).Receives zlib
      (received events) _ :=
    CompressedConnection.run_receives deflates (working_idle zlib) rfl events decodable
  have fed := congrArg List.flatten receives.progress.fed
  have called := receives.progress.called
  refine ⟨receives.progress.working, receives.failed, arrived, arrivedPrefix, allArrived, ?_, ?_⟩
  · rw [← unreadEq, ← flatten_data_taskOf, ← List.flatten_append]
    exact fed.symm
  · rw [← unreadEq, ← filterMap_call_taskOf]
    exact called.symm

/-- Under the condition, a beginning of the stream is fed as a beginning of the
contents. -/
theorem alwaysFedInOrder_of_harmless {zlib : Zlib} (deflates : zlib.Deflates)
    {frames : List CompressedFrame} (wellFormed : ∀ frame ∈ frames, frame.WellFormed zlib)
    (compressedSequenceId : Nat) (harmless : Harmless frames) :
    AlwaysFedInOrder zlib compressedSequenceId frames := by
  intro events nonempty isBeginning
  obtain ⟨working, listening, arrived, ⟨missing, arrivedEq⟩, allArrived, fed, called⟩ :=
    run_presented deflates wellFormed compressedSequenceId events nonempty isBeginning
  have preserved : Preserved zlib (presented [] frames) frames :=
    (preserved_iff wellFormed (List.forall_mem_nil _)).mpr
      ⟨fun nothing => absurd rfl nothing, harmless⟩
  have presentedPrefix : presented [] arrived <+: presented [] frames := by
    rw [← arrivedEq, presented, presented, List.map_append, joinUnread_append]
    exact List.prefix_append _ _
  obtain ⟨later, presentedEq⟩ := presentedPrefix
  constructor
  · exact listening
  · rw [← preserved.data, ← presentedEq, List.flatMap_append, ← fed, List.append_assoc]
    exact List.prefix_append _ _
  · rw [← preserved.calls, ← presentedEq, List.filterMap_append, ← called, List.append_assoc]
    exact List.prefix_append _ _
  · intro whole atRest
    obtain ⟨_, nothingPending⟩ := working.serial.pending_atRest atRest
    have nothingQueued := (List.append_eq_nil_iff.mp nothingPending).2
    rw [allArrived whole, preserved.data, nothingPending, List.map_nil, List.flatten_nil,
      List.append_nil] at fed
    rw [allArrived whole, preserved.calls, nothingQueued, List.filterMap_nil,
      List.append_nil] at called
    exact ⟨fed, called⟩

/-- The condition is necessary: receive the whole stream in one chunk and let the
queue come to rest. -/
theorem harmless_of_alwaysFedInOrder {zlib : Zlib} (deflates : zlib.Deflates)
    {frames : List CompressedFrame} (wellFormed : ∀ frame ∈ frames, frame.WellFormed zlib)
    {compressedSequenceId : Nat} (fedInOrder : AlwaysFedInOrder zlib compressedSequenceId frames) :
    Harmless frames := by
  cases framesEq : frames with
  | nil => trivial
  | cons first rest =>
      rw [← framesEq]
      have streamNonempty : frames.flatMap encode ≠ [] := by
        rw [framesEq, List.flatMap_cons]
        simp [encode, header]
      have afterChunk := run_presented deflates wellFormed compressedSequenceId
        [.data (frames.flatMap encode)]
        (List.forall_mem_singleton.mpr streamNonempty)
        (by rw [received]; exact ⟨[], by simp⟩)
      obtain ⟨events, silent, atRest⟩ := CompressedConnection.exists_atRest afterChunk.1
      have receivedEq : received (.data (frames.flatMap encode) :: events) =
          [frames.flatMap encode] := by
        rw [← List.singleton_append, received_append, silent]
        rfl
      have chunkNonempty : ∀ chunk ∈ received (.data (frames.flatMap encode) :: events),
          chunk ≠ [] := by
        rw [receivedEq]
        exact List.forall_mem_singleton.mpr streamNonempty
      have wholeStream : (received (.data (frames.flatMap encode) :: events)).flatten =
          frames.flatMap encode := by
        rw [receivedEq, List.flatten_singleton]
      have isBeginning : (received (.data (frames.flatMap encode) :: events)).flatten <+:
          frames.flatMap encode :=
        ⟨[], by rw [List.append_nil, wholeStream]⟩
      obtain ⟨data, calls⟩ := (fedInOrder _ chunkNonempty isBeginning).complete wholeStream atRest
      obtain ⟨working, _, arrived, _, allArrived, fed, called⟩ :=
        run_presented deflates wellFormed compressedSequenceId _ chunkNonempty isBeginning
      obtain ⟨_, nothingPending⟩ := working.serial.pending_atRest atRest
      have nothingQueued := (List.append_eq_nil_iff.mp nothingPending).2
      rw [allArrived wholeStream, data, nothingPending, List.map_nil, List.flatten_nil,
        List.append_nil] at fed
      rw [allArrived wholeStream, calls, nothingQueued, List.filterMap_nil,
        List.append_nil] at called
      have preserved : Preserved zlib (presented [] frames) frames := ⟨fed.symm, called.symm⟩
      exact ((preserved_iff wellFormed (List.forall_mem_nil _)).mp preserved).2

/-- For every stream of well-formed frames, whatever the chunks and the order of
ticks, callbacks and writes: the inner parser is fed the contents in frame order,
with no frame dropped, duplicated or inflated with another frame's length, if
and only if every frame of maximal size is raw and has a raw frame behind it. -/
theorem alwaysFedInOrder_iff (zlib : Zlib) (deflates : zlib.Deflates)
    (compressedSequenceId : Nat) (frames : List CompressedFrame)
    (wellFormed : ∀ frame ∈ frames, frame.WellFormed zlib) :
    AlwaysFedInOrder zlib compressedSequenceId frames ↔ Harmless frames :=
  ⟨harmless_of_alwaysFedInOrder deflates wellFormed,
    alwaysFedInOrder_of_harmless deflates wellFormed compressedSequenceId⟩

/-- A raw frame of maximal size. -/
def maximalFrame : CompressedFrame :=
  { sequenceId := 0
    content := List.replicate MAX_PACKET_LENGTH 0
    compressed := none }

/-- A compressed frame. -/
def deflatedFrame : CompressedFrame :=
  { sequenceId := 1
    content := repetitive
    compressed := some repetitiveDeflated }

theorem maximalFrame_wellFormed : maximalFrame.WellFormed repetitiveZlib where
  sequenceId := by decide
  body := Nat.le_of_eq List.length_replicate
  content := Nat.le_of_eq List.length_replicate
  nonempty := fun compressed => absurd compressed Bool.false_ne_true
  inflates := fun _ compressed => absurd compressed (Option.not_mem_none _)

theorem deflatedFrame_wellFormed : deflatedFrame.WellFormed repetitiveZlib where
  sequenceId := by decide
  body := by
    rw [MAX_PACKET_LENGTH_eq]
    decide
  content := by
    rw [MAX_PACKET_LENGTH_eq]
    exact Nat.le_trans (Nat.le_of_eq length_repetitive) (by decide)
  nonempty := fun _ noContent => by
    have lengthEq := length_repetitive
    have empty : repetitive = [] := noContent
    rw [empty] at lengthEq
    exact absurd lengthEq (by decide)
  inflates := by
    intro compressed compressedMem
    cases compressedMem
    simp [repetitiveZlib, deflatedFrame]

/-- A compressed frame with a raw frame of maximal size behind it and another raw
frame at the end. -/
theorem alwaysFedInOrder_iff_deflatedFirst :
    AlwaysFedInOrder repetitiveZlib 0 [deflatedFrame, maximalFrame, maximalFrame] ↔
      Harmless [deflatedFrame, maximalFrame, maximalFrame] :=
  alwaysFedInOrder_iff repetitiveZlib repetitiveZlib_roundTrips.deflates 0
    [deflatedFrame, maximalFrame, maximalFrame]
    (by simp [maximalFrame_wellFormed, deflatedFrame_wellFormed])

/-- A frame of maximal size with a compressed frame behind it, which is fed as it
stands in the stream. -/
theorem maximalFirst_not_fedInOrder :
    (∀ frame ∈ [maximalFrame, deflatedFrame], frame.WellFormed repetitiveZlib) ∧
      ¬AlwaysFedInOrder repetitiveZlib 0 [maximalFrame, deflatedFrame] := by
  have wellFormed : ∀ frame ∈ [maximalFrame, deflatedFrame],
      frame.WellFormed repetitiveZlib := by
    simp [maximalFrame_wellFormed, deflatedFrame_wellFormed]
  refine ⟨wellFormed, ?_⟩
  intro fedInOrder
  have harmless := harmless_of_alwaysFedInOrder repetitiveZlib_roundTrips.deflates wellFormed
    fedInOrder
  obtain ⟨_, next, nextMem, nextRaw⟩ := harmless.1 List.length_replicate
  cases nextMem
  exact absurd nextRaw (Option.some_ne_none _)

end Mysql2.Compression

import Mathlib.Tactic.Common

/-!
# Cutting a stream into frames

A frame reader takes one frame from the front of a stream or reports that the
stream is too short for one.  Iterating it cuts a stream into frames and an
incomplete tail.  Because a reader never changes its mind when more input
arrives, cutting a stream is independent of where the stream itself was cut:
the tail is all that has to be kept.
-/

namespace Mysql2.Stream

universe u v

/-- Reads one frame from the front of a stream.  A successful read consumes
input, and further input behind a complete frame does not affect it. -/
structure FrameReader (α : Type u) (φ : Type v) where
  read : List α → Option (φ × List α)
  shorter : ∀ {stream frame rest}, read stream = some (frame, rest) →
    rest.length < stream.length
  append : ∀ {stream frame rest} (more : List α), read stream = some (frame, rest) →
    read (stream ++ more) = some (frame, rest ++ more)

namespace FrameReader

variable {α : Type u} {φ : Type v} (reader : FrameReader α φ)

/-- All complete frames of a stream, and the incomplete tail behind them. -/
def deframe (stream : List α) : List φ × List α :=
  match _readEq : reader.read stream with
  | none => ([], stream)
  | some (frame, rest) => (frame :: (deframe rest).1, (deframe rest).2)
termination_by stream.length
decreasing_by all_goals exact reader.shorter _readEq

theorem deframe_of_read_none {stream : List α} (readEq : reader.read stream = none) :
    reader.deframe stream = ([], stream) := by
  rw [deframe]
  split
  · rfl
  · rename_i readSome
    rw [readEq] at readSome
    contradiction

theorem deframe_of_read_some {stream rest : List α} {frame : φ}
    (readEq : reader.read stream = some (frame, rest)) :
    reader.deframe stream = (frame :: (reader.deframe rest).1, (reader.deframe rest).2) := by
  rw [deframe]
  split
  · rename_i readNone
    rw [readEq] at readNone
    contradiction
  · rename_i readSome
    rw [readEq] at readSome
    cases readSome
    rfl

/-- Cutting a stream is cutting its first part and then the kept tail followed
by the second part. -/
theorem deframe_append (stream more : List α) :
    reader.deframe (stream ++ more) =
      ((reader.deframe stream).1 ++ (reader.deframe ((reader.deframe stream).2 ++ more)).1,
        (reader.deframe ((reader.deframe stream).2 ++ more)).2) := by
  induction lengthEq : stream.length using Nat.strongRecOn generalizing stream with
  | _ length ih =>
      cases readEq : reader.read stream with
      | none => simp [reader.deframe_of_read_none readEq]
      | some result =>
          obtain ⟨frame, rest⟩ := result
          have restShorter : rest.length < length := lengthEq ▸ reader.shorter readEq
          rw [reader.deframe_of_read_some readEq,
            reader.deframe_of_read_some (reader.append more readEq),
            ih rest.length restShorter rest rfl]
          simp

/-- The frames of the beginning of a stream are the first frames of the stream. -/
theorem deframe_isPrefix {stream whole : List α} (isBeginning : stream <+: whole) :
    (reader.deframe stream).1 <+: (reader.deframe whole).1 := by
  obtain ⟨more, rfl⟩ := isBeginning
  rw [reader.deframe_append]
  exact List.prefix_append _ _

/-- No further frame can be read from the tail. -/
theorem read_deframe_tail (stream : List α) :
    reader.read (reader.deframe stream).2 = none := by
  induction lengthEq : stream.length using Nat.strongRecOn generalizing stream with
  | _ length ih =>
      cases readEq : reader.read stream with
      | none => rwa [reader.deframe_of_read_none readEq]
      | some result =>
          obtain ⟨frame, rest⟩ := result
          rw [reader.deframe_of_read_some readEq]
          exact ih rest.length (lengthEq ▸ reader.shorter readEq) rest rfl

/-- A stream is its frames and its tail: without both it is empty. -/
theorem deframe_eq_nil {stream : List α} (nothing : reader.deframe stream = ([], [])) :
    stream = [] := by
  cases readEq : reader.read stream with
  | none =>
      rw [reader.deframe_of_read_none readEq] at nothing
      exact congrArg Prod.snd nothing
  | some result =>
      rw [reader.deframe_of_read_some readEq] at nothing
      cases congrArg Prod.fst nothing

/-- If every encoded frame is read back, a concatenation of encoded frames is
cut exactly into them. -/
theorem deframe_flatMap_encode (encode : φ → List α) (frames : List φ)
    (readEncode : ∀ frame ∈ frames, reader.read (encode frame) = some (frame, []))
    (readNil : reader.read [] = none) :
    reader.deframe (frames.flatMap encode) = (frames, []) := by
  induction frames with
  | nil => exact reader.deframe_of_read_none readNil
  | cons frame frames ih =>
      have readFirst := reader.append (frames.flatMap encode)
        (readEncode frame List.mem_cons_self)
      rw [List.nil_append] at readFirst
      rw [List.flatMap_cons, reader.deframe_of_read_some readFirst,
        ih fun other otherMem => readEncode other (List.mem_cons_of_mem frame otherMem)]

/-- The reader that also returns something it sees in the bytes it consumes. -/
def withView {ψ : Type*} (view : List α → φ → ψ)
    (stable : ∀ {stream frame rest} (more : List α), reader.read stream = some (frame, rest) →
      view (stream ++ more) frame = view stream frame) : FrameReader α (φ × ψ) where
  read := fun stream =>
    (reader.read stream).map fun result => ((result.1, view stream result.1), result.2)
  shorter := by
    intro stream frame rest readEq
    obtain ⟨⟨plain, rest'⟩, plainEq, resultEq⟩ := Option.map_eq_some_iff.mp readEq
    cases resultEq
    exact reader.shorter plainEq
  append := by
    intro stream frame rest more readEq
    obtain ⟨⟨plain, rest'⟩, plainEq, resultEq⟩ := Option.map_eq_some_iff.mp readEq
    cases resultEq
    rw [reader.append more plainEq, Option.map_some, stable more plainEq]

section WithView

variable {ψ : Type*} {view : List α → φ → ψ}
  (stable : ∀ {stream frame rest} (more : List α), reader.read stream = some (frame, rest) →
    view (stream ++ more) frame = view stream frame)

theorem withView_read_none {stream : List α} (readEq : reader.read stream = none) :
    (reader.withView view stable).read stream = none := by
  simp [withView, readEq]

theorem withView_read_some {stream rest : List α} {frame : φ}
    (readEq : reader.read stream = some (frame, rest)) :
    (reader.withView view stable).read stream = some ((frame, view stream frame), rest) := by
  simp [withView, readEq]

/-- The view does not change the frames and the tail. -/
theorem deframe_withView (stream : List α) :
    reader.deframe stream =
      (((reader.withView view stable).deframe stream).1.map Prod.fst,
        ((reader.withView view stable).deframe stream).2) := by
  induction lengthEq : stream.length using Nat.strongRecOn generalizing stream with
  | _ length ih =>
      cases readEq : reader.read stream with
      | none =>
          rw [reader.deframe_of_read_none readEq,
            deframe_of_read_none _ (reader.withView_read_none stable readEq)]
          rfl
      | some result =>
          obtain ⟨frame, rest⟩ := result
          rw [reader.deframe_of_read_some readEq,
            deframe_of_read_some _ (reader.withView_read_some stable readEq),
            ih rest.length (lengthEq ▸ reader.shorter readEq) rest rfl]
          rfl

end WithView

end FrameReader

end Mysql2.Stream

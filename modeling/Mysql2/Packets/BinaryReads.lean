import Mysql2.Packets.Reads

/-!
# Readers of the binary protocol

The readers of numbers, dates and times take their encodings and no other bytes,
and throw for none of them.
-/

namespace Mysql2.Packets

open Mysql2.Script Packet

variable {α β γ : Type}

/-- The packed form of a date: its length, and the fields that it has. -/
def IsPackedDate (bytes : Bytes) : Prop :=
  ∃ length ∈ [0, 4, 7, 11], ∃ fields : Bytes, bytes = toByte length :: fields ∧
    fields.length = length

/-- The packed form of a time. -/
def IsPackedTime (bytes : Bytes) : Prop :=
  ∃ length ∈ [0, 8, 12], ∃ fields : Bytes, bytes = toByte length :: fields ∧ fields.length = length

namespace Returns

section Rules

variable {reader : Reader β} {next : β → Reader γ} {bytes more : Bytes} {value : β}

theorem pure (value : β) : Returns (pure value) [] :=
  ⟨value, Reads.pure value⟩

theorem bind (first : Reads reader bytes (.ok value)) (second : Returns (next value) more) :
    Returns (reader >>= next) (bytes ++ more) := by
  obtain ⟨result, second⟩ := second
  exact ⟨result, first.bind second⟩

/-- What is computed before takes no bytes. -/
theorem liftBind {result : Except JsError β} (computed : result = .ok value)
    (second : Returns (next value) bytes) : Returns ((liftM result : Reader β) >>= next) bytes := by
  subst computed
  have first : Reads (liftM (Except.ok value : Except JsError β)) [] (.ok value) := by
    intro packet rest aheadEq inside
    rfl
  exact bind first second

/-- A branch for the byte of `NULL`, which a length is not. -/
theorem notNull {byte : UInt8} {null other : Reader γ} (notNull : byte.toNat ≠ 0xfb)
    (returns : Returns other (byte :: bytes)) :
    Returns (do if (← get).peekByte = some 0xfb then null else other) (byte :: bytes) := by
  obtain ⟨value, reads⟩ := returns
  refine ⟨value, fun packet rest aheadEq inside => ?_⟩
  have peeked : packet.peekByte ≠ some 0xfb := by
    rw [peekByte_eq, aheadEq]
    simpa using notNull
  rw [run_get_bind, if_neg peeked]
  exact reads packet rest aheadEq inside

/-- The microseconds, where a length says that there are some. -/
theorem fraction {length : Nat} {tail : Bytes} {next : Nat → Reader γ} {without : Reader γ}
    (tailLength : tail.length = if 10 < length then 4 else 0)
    (withMicros : ∀ micros, Returns (next micros) []) (withoutMicros : Returns without []) :
    Returns (if (some length).any (10 < ·) = true then readInt32 >>= next else without) tail := by
  by_cases long : 10 < length
  · rw [if_pos long] at tailLength
    rw [if_pos (by simpa using long), ← List.append_nil tail]
    exact bind (Reads.readInt32 tailLength) (withMicros _)
  · rw [if_neg long] at tailLength
    obtain rfl := List.length_eq_zero_iff.mp tailLength
    rw [if_neg (by simpa using long)]
    exact withoutMicros

theorem andThen (returns : Returns reader bytes) (second : ∀ value, Returns (next value) []) :
    Returns (reader >>= next) bytes := by
  obtain ⟨value, reads⟩ := returns
  obtain ⟨result, nextReads⟩ := second value
  exact ⟨result, reads.bind_nil nextReads⟩

theorem map (f : β → γ) (returns : Returns reader bytes) :
    Returns (do return f (← reader)) bytes := by
  obtain ⟨value, reads⟩ := returns
  exact ⟨f value, reads.map f⟩

end Rules

end Returns

/-! ## Dates and times -/

/-- The fields of a packed date, of which the fraction of a second is left. -/
theorem readDateTimeFields_reads {bytes : Bytes} (packed : IsPackedDate bytes) :
    ∃ length year month day hours minutes seconds head tail, bytes = head ++ tail ∧
      Reads readDateTimeFields head (.ok (some length,
        ⟨year, some month, some day, some hours, some minutes, some seconds⟩)) ∧
        tail.length = if 10 < length then 4 else 0 := by
  obtain ⟨length, member, content, rfl, lengthEq⟩ := packed
  simp only [List.mem_cons, List.not_mem_nil, or_false] at member
  rcases member with rfl | rfl | rfl | rfl
  · obtain rfl := List.length_eq_zero_iff.mp lengthEq
    refine ⟨0, 0, 0, 0, 0, 0, 0, [0], [], rfl, ?_, rfl⟩
    exact (Reads.readInt8 0).bind_nil (Reads.pure _)
  · match content, lengthEq with
    | [year0, year1, month, day], _ =>
        refine ⟨4, uintLE [year0, year1], month.toNat, day.toNat, 0, 0, 0,
          _, [], (List.append_nil _).symm, ?_, rfl⟩
        have year : Reads readInt16 [year0, year1] _ := Reads.readInt16 rfl
        exact (Reads.readInt8 4).bind (year.bind ((Reads.readInt8 month).bind
          ((Reads.readInt8 day).bind_nil (Reads.pure _))))
  · match content, lengthEq with
    | [year0, year1, month, day, hours, minutes, seconds], _ =>
        refine ⟨7, uintLE [year0, year1], month.toNat, day.toNat, hours.toNat,
          minutes.toNat, seconds.toNat, _, [], (List.append_nil _).symm, ?_, rfl⟩
        have year : Reads readInt16 [year0, year1] _ := Reads.readInt16 rfl
        exact (Reads.readInt8 7).bind (year.bind ((Reads.readInt8 month).bind
          ((Reads.readInt8 day).bind ((Reads.readInt8 hours).bind ((Reads.readInt8 minutes).bind
            ((Reads.readInt8 seconds).bind_nil (Reads.pure _)))))))
  · match content, lengthEq with
    | year0 :: year1 :: month :: day :: hours :: minutes :: seconds :: micros, lengthEq =>
        refine ⟨11, uintLE [year0, year1], month.toNat, day.toNat, hours.toNat,
          minutes.toNat, seconds.toNat,
          [11, year0, year1, month, day, hours, minutes, seconds], micros, rfl, ?_, ?_⟩
        · have year : Reads readInt16 [year0, year1] _ := Reads.readInt16 rfl
          exact (Reads.readInt8 11).bind (year.bind ((Reads.readInt8 month).bind
            ((Reads.readInt8 day).bind ((Reads.readInt8 hours).bind ((Reads.readInt8 minutes).bind
              ((Reads.readInt8 seconds).bind_nil (Reads.pure _)))))))
        · simpa using lengthEq

namespace Returns

theorem readDateTimeString {bytes : Bytes} (packed : IsPackedDate bytes) (decimals : Nat)
    (timeSep : String) (columnType : Option Nat) :
    Returns (Packet.readDateTimeString decimals timeSep columnType) bytes := by
  obtain ⟨length, year, month, day, hours, minutes, seconds, head, tail, rfl, fieldsRead,
    tailLength⟩ := readDateTimeFields_reads packed
  apply Returns.bind fieldsRead
  have last : ∀ (next : Nat → String) (without : String),
      Returns (if (some length).any (10 < ·) = true then
        readInt32 >>= fun micros => Pure.pure (next micros) else Pure.pure without) tail :=
    fun next without => fraction tailLength (fun micros => pure (next micros)) (pure without)
  dsimp only
  split
  · refine liftBind rfl (liftBind rfl ?_)
    split
    · refine liftBind rfl (liftBind rfl (liftBind rfl ?_))
      exact last _ _
    · split <;> exact last _ _
  · split
    · refine liftBind rfl (liftBind rfl (liftBind rfl ?_))
      exact last _ _
    · split <;> exact last _ _

theorem readDateTime {bytes : Bytes} (packed : IsPackedDate bytes) (runtime : Runtime α)
    (timezone : Option JsString) : Returns (Packet.readDateTime runtime timezone) bytes := by
  obtain ⟨count, year, month, day, hours, minutes, seconds, head, tail, bytesEq, fieldsRead,
    tailLength⟩ := readDateTimeFields_reads packed
  rw [Packet.readDateTime]
  split
  · obtain ⟨length, member, content, rfl, -⟩ := packed
    have isLength : (toByte length).toNat ≠ 0xfb := by
      simp only [List.mem_cons, List.not_mem_nil, or_false] at member
      rcases member with rfl | rfl | rfl | rfl <;> decide
    apply notNull isLength
    rw [bytesEq]
    apply bind fieldsRead
    have values : ∀ (fields : DateTimeFields) (micros : Nat),
        Returns (if fields = ⟨0, some 0, some 0, some 0, some 0, some 0⟩ ∧ micros = 0 then
          return .date none else
          let arguments : DateArguments :=
            ⟨some fields.year, fields.month.map (↑), fields.day.map (↑), fields.hours.map (↑),
              fields.minutes.map (↑), fields.seconds.map (↑), some micros⟩
          if isUTC timezone then return .date (runtime.utcTime arguments)
          else return .date (runtime.localTime arguments) : Reader (Value α)) [] := by
      intro fields micros
      repeat first
        | exact pure _
        | split
    exact fraction tailLength (values _) (values _ 0)
  · apply andThen (readDateTimeString packed 6 "T" none)
    intro str
    repeat first
      | exact pure _
      | split

theorem readTimeString {bytes : Bytes} (packed : IsPackedTime bytes) :
    Returns Packet.readTimeString bytes := by
  obtain ⟨length, member, content, rfl, lengthEq⟩ := packed
  simp only [List.mem_cons, List.not_mem_nil, or_false] at member
  rcases member with rfl | rfl | rfl
  · obtain rfl := List.length_eq_zero_iff.mp lengthEq
    exact bind (Reads.readInt8 0) (pure "00:00:00")
  · match content, lengthEq with
    | [sign, d0, d1, d2, d3, hours, minutes, seconds], _ =>
        have days : Reads readInt32 [d0, d1, d2, d3] _ := Reads.readInt32 rfl
        exact bind (Reads.readInt8 8) (bind (Reads.readInt8 sign) (bind days
          (bind (Reads.readInt8 hours) (bind (Reads.readInt8 minutes) (bind (Reads.readInt8 seconds)
            (liftBind rfl (liftBind rfl (pure _))))))))
  · match content, lengthEq with
    | [sign, d0, d1, d2, d3, hours, minutes, seconds, m0, m1, m2, m3], _ =>
        have days : Reads readInt32 [d0, d1, d2, d3] _ := Reads.readInt32 rfl
        have micros : Reads readInt32 [m0, m1, m2, m3] _ := Reads.readInt32 rfl
        exact bind (Reads.readInt8 12) (bind (Reads.readInt8 sign) (bind days
          (bind (Reads.readInt8 hours) (bind (Reads.readInt8 minutes) (bind (Reads.readInt8 seconds)
            (bind micros (liftBind rfl (liftBind rfl (pure _)))))))))

/-! ## Numbers -/

section Numbers

variable {bytes : Bytes}

theorem readInt8 (length : bytes.length = 1) : Returns Packet.readInt8 bytes := by
  match bytes, length with
  | [byte], _ => exact ⟨_, Reads.readInt8 byte⟩

theorem readSInt8 (length : bytes.length = 1) : Returns Packet.readSInt8 bytes := by
  match bytes, length with
  | [byte], _ => exact bind (Reads.readInt8 byte) (pure _)

theorem readInt16 (length : bytes.length = 2) : Returns Packet.readInt16 bytes :=
  ⟨_, Reads.readInt16 length⟩

theorem readInt32 (length : bytes.length = 4) : Returns Packet.readInt32 bytes :=
  ⟨_, Reads.readInt32 length⟩

/-- Two words. -/
theorem words {next : Nat → Nat → Reader γ} (length : bytes.length = 8)
    (second : ∀ word0 word1, Returns (next word0 word1) []) :
    Returns (Packet.readInt32 >>= fun word0 => Packet.readInt32 >>= fun word1 => next word0 word1)
      bytes := by
  have low : (bytes.take 4).length = 4 := by
    rw [List.length_take, length]
    rfl
  have high : (bytes.drop 4).length = 4 := by
    rw [List.length_drop, length]
  rw [← List.take_append_drop 4 bytes]
  exact bind (Reads.readInt32 low) (andThen (readInt32 high) (second _))

theorem readFloat (runtime : Runtime α) (length : bytes.length = 4) :
    Returns (Packet.readFloat runtime) bytes :=
  ⟨_, Reads.readFloat runtime length⟩

theorem readDouble (runtime : Runtime α) (length : bytes.length = 8) :
    Returns (Packet.readDouble runtime) bytes := by
  refine ⟨runtime.readDoubleLE bytes, fun packet rest aheadEq inside => ?_⟩
  rw [readDouble_run runtime aheadEq length, length]
  rfl

end Numbers

end Returns

end Mysql2.Packets

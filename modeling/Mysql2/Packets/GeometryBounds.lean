import Mysql2.Packets.Geometry

/-!
# Parsing arbitrary bytes as a geometry

The parser returns on every byte string.  A nested geometry starts at least nine bytes behind
the one that it is part of, so the stack need not be deeper than the bytes are long, and the
bytes of a header pay for the geometries that its count admits.
-/

namespace Mysql2.Packets.Geometry

open Mysql2.Script

variable {buffer : Bytes} {β γ : Type}

/-! ## Moves through the bytes -/

/-- The cursor with its offset moved. -/
def Cursor.advance (cursor : Cursor) (count : Nat) : Cursor :=
  { cursor with offset := cursor.offset + count }

/-- From one cursor to another, with a number of geometries that the bytes between them do not
pay for. -/
structure Moves (buffer : Bytes) (unpaid : Nat) (before after : Cursor) : Prop where
  forward : before.offset ≤ after.offset
  inside : after.offset ≤ max before.offset buffer.length
  examined : after.examined ≤
    before.examined + unpaid + buffer.length * (after.offset - before.offset)

namespace Moves

variable {unpaid more : Nat} {before between after : Cursor}

theorem refl (cursor : Cursor) : Moves buffer 0 cursor cursor := by
  refine ⟨Nat.le_refl _, Nat.le_max_left _ _, ?_⟩
  rw [Nat.sub_self]
  exact Nat.le_refl _

theorem advance {cursor : Cursor} {count : Nat} (inside : cursor.offset + count ≤ buffer.length) :
    Moves buffer 0 cursor (cursor.advance count) :=
  ⟨Nat.le_add_right _ _, Nat.le_trans inside (Nat.le_max_right _ _), Nat.le_add_right _ _⟩

theorem trans (first : Moves buffer unpaid before between)
    (second : Moves buffer more between after) : Moves buffer (unpaid + more) before after := by
  have forward := first.forward
  have forwardMore := second.forward
  have inside := first.inside
  have insideMore := second.inside
  have sum : buffer.length * (after.offset - before.offset) =
      buffer.length * (between.offset - before.offset) +
        buffer.length * (after.offset - between.offset) := by
    rw [← Nat.mul_add]
    congr 1
    omega
  have examined := first.examined
  have examinedMore := second.examined
  refine ⟨by omega, by omega, ?_⟩
  rw [sum]
  omega

theorem mono (moves : Moves buffer unpaid before after) (le : unpaid ≤ more) :
    Moves buffer more before after := by
  have examined := moves.examined
  exact ⟨moves.forward, moves.inside, by omega⟩

/-- The bytes of a header pay for what follows it. -/
theorem pay {cursor : Cursor} {header : Nat}
    (moves : Moves buffer unpaid (cursor.advance header) after) (positive : 0 < header)
    (inside : cursor.offset + header ≤ buffer.length) (le : unpaid ≤ buffer.length) :
    Moves buffer 0 cursor after := by
  have forward : cursor.offset + header ≤ after.offset := moves.forward
  have insideAfter : after.offset ≤ max (cursor.offset + header) buffer.length := moves.inside
  have examined : after.examined ≤
      cursor.examined + unpaid + buffer.length * (after.offset - (cursor.offset + header)) :=
    moves.examined
  have paid : unpaid ≤ buffer.length * header :=
    Nat.le_trans le (Nat.le_mul_of_pos_right _ positive)
  have sum : buffer.length * (after.offset - cursor.offset) =
      buffer.length * header + buffer.length * (after.offset - (cursor.offset + header)) := by
    rw [← Nat.mul_add]
    congr 1
    omega
  refine ⟨by omega, by omega, ?_⟩
  rw [sum]
  omega

end Moves

/-- A part of the parser returns from a cursor. -/
def Returns (buffer : Bytes) (unpaid : Nat) (parser : Parser β) (cursor : Cursor) : Prop :=
  ∃ value after, parser.run cursor = .ok (value, after) ∧ Moves buffer unpaid cursor after

namespace Returns

variable {unpaid more : Nat} {cursor : Cursor}

theorem pure (value : β) : Returns buffer 0 (Pure.pure value : Parser β) cursor :=
  ⟨value, cursor, rfl, .refl cursor⟩

theorem bind {first : Parser β} {next : β → Parser γ} (returns : Returns buffer unpaid first cursor)
    (later : ∀ value after, Moves buffer unpaid cursor after →
      Returns buffer more (next value) after) :
    Returns buffer (unpaid + more) (first >>= next) cursor := by
  obtain ⟨value, between, runEq, moves⟩ := returns
  obtain ⟨result, after, laterEq, movesLater⟩ := later value between moves
  exact ⟨result, after, (run_bind_of_returns runEq).trans laterEq, moves.trans movesLater⟩

/-- A part whose result is known comes first. -/
theorem behind {first : Parser β} {next : β → Parser γ} {value : β} {between : Cursor}
    (runEq : first.run cursor = .ok (value, between)) (moves : Moves buffer unpaid cursor between)
    (later : Returns buffer more (next value) between) :
    Returns buffer (unpaid + more) (first >>= next) cursor := by
  obtain ⟨result, after, laterEq, movesLater⟩ := later
  exact ⟨result, after, (run_bind_of_returns runEq).trans laterEq, moves.trans movesLater⟩

/-- A part that is paid for comes first. -/
theorem seq {first : Parser β} {next : β → Parser γ} (returns : Returns buffer 0 first cursor)
    (later : ∀ value after, Moves buffer 0 cursor after → Returns buffer more (next value) after) :
    Returns buffer more (first >>= next) cursor := by
  have both := returns.bind later
  rwa [Nat.zero_add] at both

theorem mono {parser : Parser β} (returns : Returns buffer unpaid parser cursor)
    (le : unpaid ≤ more) : Returns buffer more parser cursor := by
  obtain ⟨value, after, runEq, moves⟩ := returns
  exact ⟨value, after, runEq, moves.mono le⟩

end Returns

/-! ## Reads -/

theorem lacks_run (size : Nat) (cursor : Cursor) :
    (lacks buffer size).run cursor = .ok (decide (buffer.length < cursor.offset + size), cursor) :=
  rfl

theorem readBytes_run {size : Nat} {cursor : Cursor}
    (inside : cursor.offset + size ≤ buffer.length) :
    (readBytes buffer size).run cursor =
      .ok (slice buffer cursor.offset (cursor.offset + size), cursor.advance size) := by
  rw [readBytes, run_get_then, if_pos inside]
  rfl

theorem readUInt8_run {cursor : Cursor} (inside : cursor.offset + 1 ≤ buffer.length) :
    (readUInt8 buffer).run cursor =
      .ok (uintLE (slice buffer cursor.offset (cursor.offset + 1)), cursor.advance 1) := by
  rw [readUInt8, run_bind_of_returns (readBytes_run inside)]
  rfl

theorem readUInt32_run (byteOrder : Nat) {cursor : Cursor}
    (inside : cursor.offset + 4 ≤ buffer.length) :
    (readUInt32 buffer byteOrder).run cursor =
      .ok (uintLE (if byteOrder ≠ 0 then slice buffer cursor.offset (cursor.offset + 4)
        else (slice buffer cursor.offset (cursor.offset + 4)).reverse), cursor.advance 4) := by
  rw [readUInt32, run_bind_of_returns (readBytes_run inside)]
  rfl

theorem readDouble_run (byteOrder : Nat) {cursor : Cursor}
    (inside : cursor.offset + 8 ≤ buffer.length) :
    (readDouble buffer byteOrder).run cursor =
      .ok (if byteOrder ≠ 0 then (slice buffer cursor.offset (cursor.offset + 8)).reverse
        else slice buffer cursor.offset (cursor.offset + 8), cursor.advance 8) := by
  rw [readDouble, run_bind_of_returns (readBytes_run inside)]
  rfl

theorem parsePoint_returns (byteOrder : Nat) {cursor : Cursor}
    (inside : cursor.offset + 16 ≤ buffer.length) :
    Returns buffer 0 (parsePoint buffer byteOrder) cursor := by
  have insideFirst : cursor.offset + 8 ≤ buffer.length := by omega
  have insideSecond : (cursor.advance 8).offset + 8 ≤ buffer.length := inside
  have first := readDouble_run byteOrder insideFirst
  generalize (if byteOrder ≠ 0 then _ else _) = x at first
  have second := readDouble_run byteOrder insideSecond
  generalize (if byteOrder ≠ 0 then _ else _) = y at second
  refine ⟨.point x y, cursor.advance 16, ?_, Moves.advance inside⟩
  rw [parsePoint, run_bind_of_returns first, run_bind_of_returns second]
  rfl

/-! ## Loops -/

/-- A test for room, with a part of the parser behind it. -/
theorem returns_unless_lacks {unpaid size : Nat} {none : β} {parser : Parser β} {cursor : Cursor}
    (returns : cursor.offset + size ≤ buffer.length → Returns buffer unpaid parser cursor) :
    Returns buffer unpaid
      (lacks buffer size >>= fun short => if short = true then Pure.pure none else parser) cursor := by
  by_cases short : buffer.length < cursor.offset + size
  · refine (Returns.mono ?_ (Nat.zero_le unpaid))
    refine ⟨none, cursor, ?_, .refl cursor⟩
    rw [run_bind_of_returns (lacks_run size cursor), if_pos (decide_eq_true short)]
    rfl
  · obtain ⟨value, after, runEq, moves⟩ := returns (Nat.le_of_not_lt short)
    refine ⟨value, after, ?_, moves⟩
    rw [run_bind_of_returns (lacks_run size cursor),
      if_neg (by rw [decide_eq_false short]; exact Bool.false_ne_true)]
    exact runEq

theorem parsePoints_returns (byteOrder count : Nat) (cursor : Cursor) :
    Returns buffer 0 (parsePoints buffer byteOrder count) cursor := by
  induction count generalizing cursor with
  | zero => exact .pure []
  | succ count ih =>
      apply returns_unless_lacks
      intro inside
      refine (parsePoint_returns byteOrder inside).seq fun point after _ => ?_
      exact (ih after).seq fun points _ _ => .pure (point :: points)

theorem parseRings_returns (byteOrder count : Nat) (cursor : Cursor) :
    Returns buffer 0 (parseRings buffer byteOrder count) cursor := by
  induction count generalizing cursor with
  | zero => exact .pure []
  | succ count ih =>
      apply returns_unless_lacks
      intro inside
      have numPoints : Returns buffer 0 (readUInt32 buffer byteOrder) cursor :=
        ⟨_, _, readUInt32_run byteOrder inside, .advance inside⟩
      refine numPoints.seq fun numPoints after _ => ?_
      refine (parsePoints_returns byteOrder numPoints after).seq fun line after _ => ?_
      exact (ih after).seq fun rings _ _ => .pure (.array line :: rings)

/-- A loop over geometries that start behind some offset. -/
theorem parseMany_returns {parse : Parser GeometryValue} {start : Nat}
    (each : ∀ cursor, start ≤ cursor.offset → Returns buffer 1 parse cursor) (count : Nat)
    {cursor : Cursor} (behind : start ≤ cursor.offset) :
    Returns buffer count (parseMany parse count) cursor := by
  induction count generalizing cursor with
  | zero => exact .pure []
  | succ count ih =>
      have both : Returns buffer (1 + (count + 0)) (parseMany parse (count + 1)) cursor := by
        refine (each cursor behind).bind fun geometry after moves => ?_
        have behindAfter := Nat.le_trans behind moves.forward
        exact (ih behindAfter).bind fun geometries _ _ => .pure (geometry :: geometries)
      exact both.mono (Nat.le_of_eq (Nat.add_comm 1 count))

/-- A count that is not too large pays for its loop. -/
theorem parseCounted_returns (byteOrder : Nat) {size : Nat} (positive : 0 < size)
    {loop : Nat → Parser (List GeometryValue)} {cursor : Cursor}
    (each : ∀ count, count * size ≤ buffer.length - (cursor.offset + 4) →
      Returns buffer count (loop count) (cursor.advance 4)) :
    Returns buffer 0 (parseCounted buffer byteOrder size loop) cursor := by
  apply returns_unless_lacks
  intro inside
  have read := readUInt32_run byteOrder inside
  generalize uintLE _ = count at read
  rw [Returns]
  simp only [run_bind_of_returns read, run_get_then]
  by_cases large : buffer.length - (cursor.advance 4).offset < count * size
  · rw [if_pos large]
    exact ⟨_, _, rfl, Moves.advance inside⟩
  · have fits := Nat.le_of_not_lt large
    obtain ⟨elements, after, loopEq, moves⟩ := each count fits
    refine ⟨.array elements, after, ?_, ?_⟩
    · rw [if_neg large, run_bind_of_returns loopEq]
      rfl
    · have countLe : count ≤ buffer.length := by
        have product : count ≤ count * size := Nat.le_mul_of_pos_right _ positive
        omega
      exact moves.pay (by decide) inside countLe

/-! ## Geometries -/

/-- The branches for the types, with a loop over nested geometries. -/
theorem parseType_returns (byteOrder wkbType : Nat) {nested : Parser GeometryValue}
    {cursor : Cursor}
    (loop : ∀ count, count * 9 ≤ buffer.length - (cursor.offset + 4) →
      Returns buffer count (parseMany nested count) (cursor.advance 4)) :
    Returns buffer 0 (parseType buffer byteOrder nested wkbType) cursor := by
  have collection : Returns buffer 0 (parseCounted buffer byteOrder 9 (parseMany nested)) cursor :=
    parseCounted_returns byteOrder (by decide) loop
  unfold parseType
  split
  · exact returns_unless_lacks (parsePoint_returns byteOrder)
  · exact parseCounted_returns byteOrder (by decide)
      fun count _ => (parsePoints_returns byteOrder count _).mono (Nat.zero_le _)
  · exact parseCounted_returns byteOrder (by decide)
      fun count _ => (parseRings_returns byteOrder count _).mono (Nat.zero_le _)
  · exact collection
  · exact collection
  · exact collection
  · exact collection
  · exact .pure GeometryValue.null

/-- The parser returns if the stack has a place for every nine bytes that are left. -/
theorem parseGeometry_returns (stack : Nat) {cursor : Cursor}
    (deep : buffer.length - cursor.offset < 9 * stack) :
    Returns buffer 1 (parseGeometry buffer stack) cursor := by
  induction stack generalizing cursor with
  | zero => exact absurd deep (Nat.not_lt_zero _)
  | succ stack ih =>
      let counted : Cursor := { cursor with examined := cursor.examined + 1 }
      have entered : Moves buffer 1 cursor counted := by
        refine ⟨Nat.le_refl _, Nat.le_max_left _ _, ?_⟩
        exact Nat.le_add_right _ _
      have loop : ∀ count, count * 9 ≤ buffer.length - (cursor.offset + 9) →
          Returns buffer count (parseMany (parseGeometry buffer stack) count)
            (counted.advance 9) := by
        intro count fits
        cases count with
        | zero => exact .pure []
        | succ count =>
            have behind : cursor.offset + 9 ≤ (counted.advance 9).offset := Nat.le_refl _
            refine parseMany_returns ?_ (count + 1) behind
            intro child childBehind
            apply ih
            omega
      rw [parseGeometry]
      show Returns buffer (1 + 0) _ cursor
      refine Returns.behind rfl entered ?_
      apply returns_unless_lacks
      intro inside
      have insideOrder : counted.offset + 1 ≤ buffer.length :=
        Nat.le_trans (Nat.le_add_right _ 4) inside
      have insideType : (counted.advance 1).offset + 4 ≤ buffer.length := inside
      have order := readUInt8_run insideOrder
      generalize uintLE _ = byteOrder at order
      have type := readUInt32_run byteOrder insideType
      generalize uintLE _ = wkbType at type
      show Returns buffer (0 + (0 + 0)) _ counted
      refine Returns.behind order (.advance insideOrder) ?_
      refine Returns.behind type (.advance insideType) ?_
      exact parseType_returns byteOrder wkbType loop

/-! ## Deeper stacks -/

/-- One part returns whatever another one returns. -/
def Extends (parser other : Parser β) : Prop :=
  ∀ cursor result, parser.run cursor = .ok result → other.run cursor = .ok result

namespace Extends

theorem refl (parser : Parser β) : Extends parser parser :=
  fun _ _ runEq => runEq

theorem bind {parser other : Parser β} {next following : β → Parser γ}
    (first : Extends parser other) (later : ∀ value, Extends (next value) (following value)) :
    Extends (parser >>= next) (other >>= following) := by
  intro cursor result runEq
  rw [StateT.run_bind] at runEq ⊢
  obtain ⟨⟨value, between⟩, firstEq, laterEq⟩ := bind_eq_ok_iff.mp runEq
  rw [first cursor _ firstEq]
  exact later value between result laterEq

theorem ite {condition : Prop} [Decidable condition] {parser other : Parser β} (none : Parser β)
    (extends_ : Extends parser other) :
    Extends (if condition then none else parser) (if condition then none else other) := by
  split
  · exact refl none
  · exact extends_

theorem parseMany {parse other : Parser GeometryValue} (each : Extends parse other)
    (count : Nat) : Extends (parseMany parse count) (Geometry.parseMany other count) := by
  induction count with
  | zero => exact refl _
  | succ count ih => exact each.bind fun _ => ih.bind fun _ => refl _

theorem parseCounted (byteOrder size : Nat) {loop other : Nat → Parser (List GeometryValue)}
    (each : ∀ count, Extends (loop count) (other count)) :
    Extends (parseCounted buffer byteOrder size loop)
      (Geometry.parseCounted buffer byteOrder size other) :=
  (refl _).bind fun _ => .ite _ <| (refl _).bind fun count => (refl _).bind fun _ =>
    .ite _ ((each count).bind fun _ => refl _)

theorem parseType (byteOrder wkbType : Nat) {parse other : Parser GeometryValue}
    (each : Extends parse other) :
    Extends (parseType buffer byteOrder parse wkbType)
      (Geometry.parseType buffer byteOrder other wkbType) := by
  have collection : Extends (Geometry.parseCounted buffer byteOrder 9 (Geometry.parseMany parse))
      (Geometry.parseCounted buffer byteOrder 9 (Geometry.parseMany other)) :=
    parseCounted byteOrder 9 each.parseMany
  unfold Geometry.parseType
  split
  · exact refl _
  · exact refl _
  · exact refl _
  · exact collection
  · exact collection
  · exact collection
  · exact collection
  · exact refl _

end Extends

theorem parseGeometry_extends_succ (stack : Nat) :
    Extends (parseGeometry buffer stack) (parseGeometry buffer (stack + 1)) := by
  induction stack with
  | zero =>
      intro cursor result runEq
      cases runEq
  | succ stack ih =>
      rw [parseGeometry, parseGeometry]
      refine (Extends.refl _).bind fun _ => (Extends.refl _).bind fun _ => .ite _ ?_
      refine (Extends.refl _).bind fun byteOrder => (Extends.refl _).bind fun wkbType => ?_
      exact ih.parseType byteOrder wkbType

theorem parseGeometry_extends {stack deeper : Nat} (le : stack ≤ deeper) :
    Extends (parseGeometry buffer stack) (parseGeometry buffer deeper) := by
  induction le with
  | refl => exact .refl _
  | step _ ih =>
      intro cursor result runEq
      exact parseGeometry_extends_succ _ cursor result (ih cursor result runEq)

/-! ## Columns -/

theorem exists_parse (buffer : Bytes) :
    ∃ geometry cursor, cursor.examined ≤ 1 + buffer.length * buffer.length ∧
      ∀ stack, buffer.length / 9 < stack → parse buffer stack = .ok (geometry, cursor) := by
  have deep : buffer.length - 4 < 9 * (buffer.length / 9 + 1) := by omega
  obtain ⟨geometry, after, runEq, moves⟩ := parseGeometry_returns (buffer.length / 9 + 1)
    (show buffer.length - (Cursor.mk 4 0).offset < _ from deep)
  refine ⟨geometry, after, ?_, ?_⟩
  · have examined : after.examined ≤ 0 + 1 + buffer.length * (after.offset - 4) := moves.examined
    have inside : after.offset ≤ max 4 buffer.length := moves.inside
    have product : buffer.length * (after.offset - 4) ≤ buffer.length * buffer.length :=
      Nat.mul_le_mul_left _ (by omega)
    omega
  · intro stack large
    exact parseGeometry_extends large _ _ runEq

/-- The value of a column is that of the geometry which its bytes parse to. -/
theorem parseGeometryValue_run {runtime : Runtime GeometryValue} {bytes : Bytes} {stack : Nat}
    {geometry : GeometryValue} {cursor : Cursor}
    (parsed : parse bytes (stack + 1) = .ok (geometry, cursor)) {packet : Packet} {rest : Bytes}
    (aheadEq : packet.ahead = writeLengthCodedBuffer bytes ++ rest)
    (short : bytes.length ≤ kMaxLength) :
    (Packet.parseGeometryValue (runtime.parsingGeometries (stack + 1))).run packet =
      .ok (geometry.toValue, packet.advance (writeLengthCodedBuffer bytes).length) := by
  have safe : bytes.length < 9007199254740992 := Nat.lt_succ_of_le short
  rw [Packet.parseGeometryValue, run_bind_of_ok (Packet.readLengthCodedBuffer_run aheadEq safe)]
  cases bytes with
  | nil =>
      cases parsed
      rfl
  | cons byte bytes =>
      show StateT.run (monadLift ((parse (byte :: bytes) (stack + 1)).map _)) _ = _
      rw [parsed]
      rfl

/-- For every byte string, from some depth of the stack on, the parser returns the same geometry,
after at most as many calls as the square of the length and one more. -/
theorem parseGeometryValue_returns (runtime : Runtime GeometryValue) (bytes : Bytes) :
    ∃ geometry cursor depth, cursor.examined ≤ 1 + bytes.length * bytes.length ∧
      ∀ stack, depth ≤ stack → parse bytes stack = .ok (geometry, cursor) ∧
        ∀ packet rest, packet.ahead = writeLengthCodedBuffer bytes ++ rest →
          bytes.length ≤ kMaxLength →
          (Packet.parseGeometryValue (runtime.parsingGeometries stack)).run packet =
            .ok (geometry.toValue, packet.advance (writeLengthCodedBuffer bytes).length) := by
  obtain ⟨geometry, cursor, examined, parses⟩ := exists_parse bytes
  refine ⟨geometry, cursor, bytes.length / 9 + 1, examined, ?_⟩
  intro stack deep
  obtain ⟨room, rfl⟩ := Nat.exists_eq_add_of_le' deep
  have parsed := parses _ deep
  exact ⟨parsed, fun packet rest aheadEq short => parseGeometryValue_run parsed aheadEq short⟩

end Mysql2.Packets.Geometry

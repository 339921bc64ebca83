import Mysql2.Packets.Dates
import Mysql2.Packets.GeometryBounds

/-!
# Well-known binary

Geometries nested to any depth, each with a byte order of its own, and their encodings.  The
parser makes of an encoding the geometry that it encodes.
-/

namespace Mysql2.Packets.Geometry

open Mysql2.Script

/-! ## Geometries and their encodings -/

/-- The byte order of a geometry. -/
inductive ByteOrder
  | big
  | little
  deriving DecidableEq, Repr

/-- The byte that names an order. -/
def ByteOrder.byte : ByteOrder → UInt8
  | .big => 0
  | .little => 1

/-- Bytes in an order, of bytes that begin with the most significant one. -/
def ByteOrder.arrange : ByteOrder → Bytes → Bytes
  | .big, bytes => bytes
  | .little, bytes => bytes.reverse

/-- The four bytes of a number. -/
def ByteOrder.uint32 (order : ByteOrder) (number : Nat) : Bytes :=
  order.arrange (writeUIntLE number 4).reverse

/-- A coordinate: the eight bytes of a double, the most significant one first. -/
abbrev Coordinate :=
  { bytes : Bytes // bytes.length = 8 }

/-- A point of the plane. -/
structure Point where
  x : Coordinate
  y : Coordinate

/-- The kinds of geometries with parts. -/
inductive CollectionKind
  | multiPoint
  | multiLineString
  | multiPolygon
  | geometryCollection
  deriving DecidableEq, Repr

/-- The code of a kind. -/
def CollectionKind.code : CollectionKind → Nat
  | .multiPoint => 4
  | .multiLineString => 5
  | .multiPolygon => 6
  | .geometryCollection => 7

end Geometry

open Mysql2.Packets.Geometry in
/-- A geometry.  The parts of a collection of any kind are arbitrary geometries. -/
inductive Geometry
  | point (order : ByteOrder) (place : Point)
  | lineString (order : ByteOrder) (points : List Point)
  | polygon (order : ByteOrder) (rings : List (List Point))
  | collection (kind : CollectionKind) (order : ByteOrder) (geometries : List Geometry)

namespace Geometry

open Mysql2.Script

variable {buffer : Bytes} {β γ : Type}

/-- The bytes of a point. -/
def Point.encode (order : ByteOrder) (point : Point) : Bytes :=
  order.arrange point.x.val ++ order.arrange point.y.val

/-- A count and points. -/
def encodePoints (order : ByteOrder) (points : List Point) : Bytes :=
  order.uint32 points.length ++ points.flatMap (Point.encode order)

/-- The byte order and the type. -/
def encodeHeader (order : ByteOrder) (code : Nat) : Bytes :=
  [order.byte] ++ order.uint32 code

mutual

/-- The well-known binary of a geometry. -/
def encode : Geometry → Bytes
  | .point order place => encodeHeader order 1 ++ place.encode order
  | .lineString order points => encodeHeader order 2 ++ encodePoints order points
  | .polygon order rings =>
      encodeHeader order 3 ++ (order.uint32 rings.length ++ rings.flatMap (encodePoints order))
  | .collection kind order geometries =>
      encodeHeader order kind.code ++ (order.uint32 geometries.length ++ encodeAll geometries)

/-- The well-known binary of one geometry after another. -/
def encodeAll : List Geometry → Bytes
  | [] => []
  | geometry :: geometries => geometry.encode ++ encodeAll geometries

end

/-- The object for a point. -/
def Point.value (point : Point) : GeometryValue :=
  .point point.x.val point.y.val

/-- The array for points. -/
def pointsValue (points : List Point) : GeometryValue :=
  .array (points.map Point.value)

mutual

/-- The points and arrays for a geometry. -/
def value : Geometry → GeometryValue
  | .point _ place => place.value
  | .lineString _ points => pointsValue points
  | .polygon _ rings => .array (rings.map pointsValue)
  | .collection _ _ geometries => .array (values geometries)

/-- The points and arrays for geometries. -/
def values : List Geometry → List GeometryValue
  | [] => []
  | geometry :: geometries => geometry.value :: values geometries

end

mutual

/-- All counts have a place in four bytes. -/
def Countable : Geometry → Prop
  | .point _ _ => True
  | .lineString _ points => points.length < 2 ^ 32
  | .polygon _ rings => rings.length < 2 ^ 32 ∧ ∀ ring ∈ rings, ring.length < 2 ^ 32
  | .collection _ _ geometries => geometries.length < 2 ^ 32 ∧ AllCountable geometries

/-- All counts of all geometries have a place in four bytes. -/
def AllCountable : List Geometry → Prop
  | [] => True
  | geometry :: geometries => geometry.Countable ∧ AllCountable geometries

end

/-! ## Reading what was written -/

theorem length_arrange (order : ByteOrder) (bytes : Bytes) :
    (order.arrange bytes).length = bytes.length := by
  cases order with
  | big => rfl
  | little => exact List.length_reverse

theorem length_uint32 (order : ByteOrder) (number : Nat) : (order.uint32 number).length = 4 := by
  rw [ByteOrder.uint32, length_arrange, List.length_reverse, length_writeUIntLE]

theorem uint32_read (order : ByteOrder) {number : Nat} (small : number < 2 ^ 32) :
    uintLE (if order.byte.toNat ≠ 0 then order.uint32 number
      else (order.uint32 number).reverse) = number := by
  have written : uintLE (writeUIntLE number 4) = number := uintLE_writeUIntLE_of_lt small
  cases order with
  | big =>
      show uintLE (writeUIntLE number 4).reverse.reverse = number
      rw [List.reverse_reverse, written]
  | little =>
      show uintLE (writeUIntLE number 4).reverse.reverse = number
      rw [List.reverse_reverse, written]

theorem coordinate_read (order : ByteOrder) (bytes : Bytes) :
    (if order.byte.toNat ≠ 0 then (order.arrange bytes).reverse else order.arrange bytes) =
      bytes := by
  cases order with
  | big => rfl
  | little => exact List.reverse_reverse bytes

/-- A part of the parser makes a value of some bytes, whatever lies behind them, and goes on
behind them. -/
def Parses (buffer : Bytes) (parser : Parser β) (bytes : Bytes) (value : β) : Prop :=
  ∀ cursor rest, buffer.drop cursor.offset = bytes ++ rest →
    ∃ after, parser.run cursor = .ok (value, after) ∧ buffer.drop after.offset = rest

/-- Bytes that are ahead are in the buffer. -/
theorem inside_of_ahead {cursor : Cursor} {bytes rest : Bytes}
    (aheadEq : buffer.drop cursor.offset = bytes ++ rest) {size : Nat} (positive : 0 < size)
    (enough : size ≤ bytes.length) : cursor.offset + size ≤ buffer.length := by
  have lengthEq := congrArg List.length aheadEq
  rw [List.length_drop, List.length_append] at lengthEq
  omega

namespace Parses

variable {bytes more : Bytes} {value : β} {result : γ}

theorem pure (value : β) : Parses buffer (Pure.pure value : Parser β) [] value :=
  fun cursor _ aheadEq => ⟨cursor, rfl, aheadEq⟩

theorem bind {first : Parser β} {next : β → Parser γ} (parses : Parses buffer first bytes value)
    (later : Parses buffer (next value) more result) :
    Parses buffer (first >>= next) (bytes ++ more) result := by
  intro cursor rest aheadEq
  rw [List.append_assoc] at aheadEq
  obtain ⟨between, firstEq, betweenEq⟩ := parses cursor _ aheadEq
  obtain ⟨after, laterEq, afterEq⟩ := later between rest betweenEq
  exact ⟨after, (run_bind_of_returns firstEq).trans laterEq, afterEq⟩

/-- The last part of a parser reads nothing. -/
theorem map {first : Parser β} {next : β → Parser γ} (parses : Parses buffer first bytes value)
    (later : Parses buffer (next value) [] result) :
    Parses buffer (first >>= next) bytes result := by
  have both := parses.bind later
  rwa [List.append_nil] at both

/-- A test for room that the bytes pass. -/
theorem unless_lacks {size : Nat} (positive : 0 < size) (enough : size ≤ bytes.length)
    {none : β} {parser : Parser β} (parses : Parses buffer parser bytes value) :
    Parses buffer
      (lacks buffer size >>= fun short => if short = true then Pure.pure none else parser)
      bytes value := by
  intro cursor rest aheadEq
  have inside := inside_of_ahead aheadEq positive enough
  have room : decide (buffer.length < cursor.offset + size) = false :=
    decide_eq_false (Nat.not_lt.mpr inside)
  rw [run_bind_of_returns (lacks_run size cursor), room, if_neg Bool.false_ne_true]
  exact parses cursor rest aheadEq

end Parses

theorem parses_readBytes {bytes : Bytes} {size : Nat} (positive : 0 < size)
    (lengthEq : bytes.length = size) : Parses buffer (readBytes buffer size) bytes bytes := by
  intro cursor rest aheadEq
  have inside := inside_of_ahead aheadEq positive (Nat.le_of_eq lengthEq.symm)
  have read : slice buffer cursor.offset (cursor.offset + size) = bytes := by
    rw [slice, Nat.add_sub_cancel_left, aheadEq, ← lengthEq, List.take_left]
  refine ⟨cursor.advance size, ?_, ?_⟩
  · rw [readBytes_run inside, read]
  · show buffer.drop (cursor.offset + size) = rest
    rw [← List.drop_drop, aheadEq, ← lengthEq, List.drop_left]

theorem parses_readUInt8 (byte : UInt8) :
    Parses buffer (readUInt8 buffer) [byte] byte.toNat := by
  have number : uintLE [byte] = byte.toNat := by simp [uintLE]
  have read : Parses buffer (readUInt8 buffer) [byte] (uintLE [byte]) :=
    (parses_readBytes Nat.one_pos List.length_singleton).map (.pure _)
  rw [number] at read
  exact read

theorem parses_readUInt32 (order : ByteOrder) {number : Nat} (small : number < 2 ^ 32) :
    Parses buffer (readUInt32 buffer order.byte.toNat) (order.uint32 number) number := by
  have read : Parses buffer (readUInt32 buffer order.byte.toNat) (order.uint32 number)
      (uintLE (if order.byte.toNat ≠ 0 then order.uint32 number
        else (order.uint32 number).reverse)) :=
    (parses_readBytes (show 0 < 4 by decide) (length_uint32 order number)).map (.pure _)
  rw [uint32_read order small] at read
  exact read

theorem parses_readDouble (order : ByteOrder) (coordinate : Coordinate) :
    Parses buffer (readDouble buffer order.byte.toNat) (order.arrange coordinate.val)
      coordinate.val := by
  have lengthEq := (length_arrange order coordinate.val).trans coordinate.property
  have read : Parses buffer (readDouble buffer order.byte.toNat) (order.arrange coordinate.val)
      (if order.byte.toNat ≠ 0 then (order.arrange coordinate.val).reverse
        else order.arrange coordinate.val) :=
    (parses_readBytes (show 0 < 8 by decide) lengthEq).map (.pure _)
  rw [coordinate_read] at read
  exact read

theorem length_point (order : ByteOrder) (place : Point) : (place.encode order).length = 16 := by
  rw [Point.encode, List.length_append, length_arrange, length_arrange, place.x.property,
    place.y.property]

theorem parses_point (order : ByteOrder) (place : Point) :
    Parses buffer (parsePoint buffer order.byte.toNat) (place.encode order) place.value :=
  (parses_readDouble order place.x).bind ((parses_readDouble order place.y).map (.pure _))

theorem length_points (order : ByteOrder) (points : List Point) :
    (points.flatMap (Point.encode order)).length = points.length * 16 := by
  induction points with
  | nil => rfl
  | cons place points ih =>
      rw [List.flatMap_cons, List.length_append, length_point, ih, List.length_cons]
      omega

theorem parses_points (order : ByteOrder) (points : List Point) :
    Parses buffer (parsePoints buffer order.byte.toNat points.length)
      (points.flatMap (Point.encode order)) (points.map Point.value) := by
  induction points with
  | nil => exact .pure []
  | cons place points ih =>
      rw [List.flatMap_cons, List.map_cons]
      refine .unless_lacks (by decide) ?_ ((parses_point order place).bind (ih.map (.pure _)))
      rw [List.length_append, length_point]
      exact Nat.le_add_right _ _

/-- A ring: its count, and its points. -/
theorem parses_ring (order : ByteOrder) {ring : List Point} (small : ring.length < 2 ^ 32)
    {next : List GeometryValue → Parser γ} {more : Bytes} {result : γ}
    (later : Parses buffer (next (ring.map Point.value)) more result) :
    Parses buffer
      (readUInt32 buffer order.byte.toNat >>= fun numPoints =>
        parsePoints buffer order.byte.toNat numPoints >>= next)
      (encodePoints order ring ++ more) result := by
  rw [encodePoints, List.append_assoc]
  exact (parses_readUInt32 order small).bind ((parses_points order ring).bind later)

theorem length_encodePoints (order : ByteOrder) (points : List Point) :
    (encodePoints order points).length = 4 + points.length * 16 := by
  rw [encodePoints, List.length_append, length_uint32, length_points]

theorem length_rings (order : ByteOrder) (rings : List (List Point)) :
    rings.length * 4 ≤ (rings.flatMap (encodePoints order)).length := by
  induction rings with
  | nil => exact Nat.le_refl _
  | cons ring rings ih =>
      rw [List.flatMap_cons, List.length_append, length_encodePoints, List.length_cons]
      omega

theorem parses_rings (order : ByteOrder) {rings : List (List Point)}
    (small : ∀ ring ∈ rings, ring.length < 2 ^ 32) :
    Parses buffer (parseRings buffer order.byte.toNat rings.length)
      (rings.flatMap (encodePoints order)) (rings.map pointsValue) := by
  induction rings with
  | nil => exact .pure []
  | cons ring rings ih =>
      obtain ⟨first, others⟩ := List.forall_mem_cons.mp small
      rw [List.flatMap_cons, List.map_cons]
      refine .unless_lacks (by decide) ?_ (parses_ring order first ((ih others).map (.pure _)))
      rw [List.length_append, length_encodePoints]
      omega

/-- A count that leaves room for its elements. -/
theorem parses_counted (order : ByteOrder) {count size : Nat} (small : count < 2 ^ 32)
    {loop : Nat → Parser (List GeometryValue)} {bytes : Bytes} {elements : List GeometryValue}
    (enough : count * size ≤ bytes.length) (parses : Parses buffer (loop count) bytes elements) :
    Parses buffer (parseCounted buffer order.byte.toNat size loop)
      (order.uint32 count ++ bytes) (.array elements) := by
  refine .unless_lacks (by decide) ?_ ((parses_readUInt32 order small).bind ?_)
  · rw [List.length_append, length_uint32]
    exact Nat.le_add_right _ _
  · intro cursor rest aheadEq
    have lengthEq := congrArg List.length aheadEq
    rw [List.length_drop, List.length_append] at lengthEq
    rw [run_get_then, if_neg (by omega)]
    exact parses.map (.pure (GeometryValue.array elements)) cursor rest aheadEq

/-! ## The round trip -/

theorem length_header (order : ByteOrder) (code : Nat) : (encodeHeader order code).length = 5 := by
  rw [encodeHeader, List.length_append, length_uint32, List.length_singleton]

/-- The smallest encodings have nine bytes. -/
theorem nine_le_encode (geometry : Geometry) : 9 ≤ geometry.encode.length := by
  cases geometry with
  | point order place =>
      rw [encode, List.length_append, length_header, length_point]
      decide
  | lineString order points =>
      rw [encode, List.length_append, length_header, length_encodePoints]
      omega
  | polygon order rings =>
      rw [encode, List.length_append, List.length_append, length_header, length_uint32]
      omega
  | collection kind order geometries =>
      rw [encode, List.length_append, List.length_append, length_header, length_uint32]
      omega

theorem nine_mul_le_encodeAll (geometries : List Geometry) :
    geometries.length * 9 ≤ (encodeAll geometries).length := by
  induction geometries with
  | nil => exact Nat.le_refl _
  | cons geometry geometries ih =>
      have nine := nine_le_encode geometry
      rw [encodeAll, List.length_append, List.length_cons]
      omega

/-- The header of a geometry, and the branch for its type. -/
theorem parses_header (order : ByteOrder) {code stack : Nat} (small : code < 2 ^ 32)
    {bytes : Bytes} {result : GeometryValue}
    (parses : Parses buffer
      (parseType buffer order.byte.toNat (parseGeometry buffer stack) code) bytes result) :
    Parses buffer (parseGeometry buffer (stack + 1)) (encodeHeader order code ++ bytes) result := by
  intro cursor rest aheadEq
  have enough : 5 ≤ (encodeHeader order code ++ bytes).length := by
    rw [List.length_append, length_header]
    exact Nat.le_add_right _ _
  have parts : Parses buffer
      (readUInt8 buffer >>= fun byteOrder => readUInt32 buffer byteOrder >>= fun wkbType =>
        parseType buffer byteOrder (parseGeometry buffer stack) wkbType)
      (encodeHeader order code ++ bytes) result := by
    rw [encodeHeader, List.append_assoc]
    refine (parses_readUInt8 order.byte).bind ?_
    exact (parses_readUInt32 order small).bind parses
  exact (Parses.unless_lacks (show 0 < 5 by decide) enough parts)
    { cursor with examined := cursor.examined + 1 } rest aheadEq

mutual

theorem parses_encode (buffer : Bytes) (stack : Nat) : ∀ (geometry : Geometry), geometry.Countable →
    geometry.encode.length ≤ 9 * stack →
      Parses buffer (parseGeometry buffer stack) geometry.encode geometry.value
  | geometry, countable, deep => by
      have nine := nine_le_encode geometry
      obtain ⟨stack, rfl⟩ : ∃ below, stack = below + 1 := ⟨stack - 1, by omega⟩
      cases geometry with
      | point order place =>
          rw [encode, value]
          refine parses_header order (by decide) ?_
          exact .unless_lacks (by decide) (Nat.le_of_eq (length_point order place).symm)
            (parses_point order place)
      | lineString order points =>
          rw [encode, value]
          refine parses_header order (by decide) ?_
          rw [Countable] at countable
          exact parses_counted order countable (Nat.le_of_eq (length_points order points).symm)
            (parses_points order points)
      | polygon order rings =>
          rw [encode, value]
          refine parses_header order (by decide) ?_
          rw [Countable] at countable
          exact parses_counted order countable.1 (length_rings order rings)
            (parses_rings order countable.2)
      | collection kind order geometries =>
          rw [encode, List.length_append, List.length_append, length_header, length_uint32] at deep
          rw [Countable] at countable
          have parts := parses_encodeAll buffer stack geometries countable.2 (by omega)
          have counted := parses_counted order countable.1 (nine_mul_le_encodeAll geometries) parts
          rw [encode, value]
          cases kind with
          | multiPoint => exact parses_header order (by decide) counted
          | multiLineString => exact parses_header order (by decide) counted
          | multiPolygon => exact parses_header order (by decide) counted
          | geometryCollection => exact parses_header order (by decide) counted

theorem parses_encodeAll (buffer : Bytes) (stack : Nat) : ∀ (geometries : List Geometry),
    AllCountable geometries → (encodeAll geometries).length ≤ 9 * stack →
      Parses buffer (parseMany (parseGeometry buffer stack) geometries.length)
        (encodeAll geometries) (values geometries)
  | [], _, _ => .pure []
  | geometry :: geometries, countable, deep => by
      rw [AllCountable] at countable
      rw [encodeAll, List.length_append] at deep
      rw [encodeAll, values]
      have first := parses_encode buffer stack geometry countable.1 (by omega)
      have others := parses_encodeAll buffer stack geometries countable.2 (by omega)
      exact first.bind (others.map (.pure _))

end

theorem parse_encode {geometry : Geometry} (countable : geometry.Countable) {srid : Bytes}
    (sridLength : srid.length = 4) {stack : Nat} (deep : geometry.encode.length ≤ 9 * stack) :
    ∃ cursor, parse (srid ++ geometry.encode) stack = .ok (geometry.value, cursor) := by
  have behind : (srid ++ geometry.encode).drop 4 = geometry.encode ++ [] := by
    rw [List.append_nil, ← sridLength, List.drop_left]
  obtain ⟨cursor, runEq, -⟩ :=
    parses_encode (srid ++ geometry.encode) stack geometry countable deep ⟨4, 0⟩ [] behind
  exact ⟨cursor, runEq⟩

/-- A column with the encoding of a geometry behind an SRID gives the points and arrays of that
geometry, whatever the order of bytes in each of its parts. -/
theorem parseGeometryValue_encode (runtime : Runtime GeometryValue) (geometry : Geometry)
    (countable : geometry.Countable) {srid : Bytes} (sridLength : srid.length = 4) {stack : Nat}
    (deep : geometry.encode.length ≤ 9 * stack) {packet : Packet} {rest : Bytes}
    (aheadEq : packet.ahead = writeLengthCodedBuffer (srid ++ geometry.encode) ++ rest)
    (short : (srid ++ geometry.encode).length ≤ kMaxLength) :
    (Packet.parseGeometryValue (runtime.parsingGeometries stack)).run packet =
      .ok (geometry.value.toValue,
        packet.advance (writeLengthCodedBuffer (srid ++ geometry.encode)).length) := by
  obtain ⟨cursor, parsed⟩ := parse_encode countable sridLength deep
  have nine := nine_le_encode geometry
  obtain ⟨below, rfl⟩ : ∃ below, stack = below + 1 := ⟨stack - 1, by omega⟩
  exact parseGeometryValue_run parsed aheadEq short

/-- A runtime that reads no values but geometries. -/
def geometryRuntime : Runtime GeometryValue where
  decode _ bytes := .ok (latin1 bytes)
  errorCodeToName _ := none
  charsetToEncoding _ := none
  decode_binary := utcRuntime.decode_binary
  toNumber _ := .nan
  decimal _ := .nan
  readFloatLE _ := .null
  readDoubleLE _ := .null
  geometry _ := .ok .null
  jsonParse _ _ := .ok .null
  jsonParse_null _ := rfl
  jsonSourceAccessSupported := true
  localTime _ := none
  utcTime _ := none
  dateParse _ := none
  isObject _ := true
  truthy _ := true

theorem length_coordinate (byte : UInt8) : [0, 0, 0, 0, 0, 0, 0, byte].length = 8 :=
  rfl

/-- A collection of a point and an empty collection, in two byte orders. -/
def mixedCollection : Geometry :=
  .collection .geometryCollection .big
    [.point .little ⟨⟨_, length_coordinate 1⟩, ⟨_, length_coordinate 2⟩⟩,
      .collection .multiPoint .little []]

/-- A packet with that collection as its only column. -/
def mixedPacket : Packet :=
  .new 0 ([44, 0, 0, 0] ++ writeLengthCodedBuffer ([0, 0, 0, 0] ++ mixedCollection.encode)) 0 48

theorem parseGeometryValue_encode_mixed :
    (Packet.parseGeometryValue (geometryRuntime.parsingGeometries 5)).run mixedPacket =
      .ok (.other (.array [.point [0, 0, 0, 0, 0, 0, 0, 1] [0, 0, 0, 0, 0, 0, 0, 2], .array []]),
        mixedPacket.advance 44) := by
  have srid : [0, 0, 0, 0].length = 4 := rfl
  have deep : mixedCollection.encode.length ≤ 9 * 5 := by decide
  have short : ([0, 0, 0, 0] ++ mixedCollection.encode).length ≤ kMaxLength := by decide
  exact parseGeometryValue_encode geometryRuntime mixedCollection
    ⟨by decide, trivial, ⟨by decide, trivial⟩, trivial⟩ srid deep
    (List.append_nil _).symm short

end Mysql2.Packets.Geometry

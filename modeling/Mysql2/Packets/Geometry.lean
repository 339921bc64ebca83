import Mysql2.Packets.Values
import Mysql2.Script.Throwing

/-!
# Geometries

`parseGeometryValue`: the parser of well-known binary in a column.  Counts, byte orders and
nesting come from the bytes.  Its reads from the buffer check their range and throw, its loops
and its recursion are bounded by what is left of the bytes.
-/

namespace Mysql2.Packets

open Mysql2.Script

/-- What the parser returns.  The coordinates of a point are eight bytes each, the most
significant one first. -/
inductive GeometryValue
  | null
  | point (x y : Bytes)
  | array (elements : List GeometryValue)
  deriving Repr

namespace Geometry

/-- The variable `offset`, and the number of calls of `parseGeometry` so far, which the source
does not count. -/
structure Cursor where
  offset : Nat
  examined : Nat
  deriving DecidableEq, Repr

/-- A part of the parser. -/
abbrev Parser :=
  StateT Cursor (Except JsError)

/-- The error of a call when the stack is full. -/
def stackError : JsError :=
  .new "Maximum call stack size exceeded"

variable (buffer : Bytes)

/-- `buffer.readX(offset)` for a number of some bytes, and `offset += size`. -/
def readBytes (size : Nat) : Parser Bytes := do
  let cursor ← get
  if cursor.offset + size ≤ buffer.length then
    set { cursor with offset := cursor.offset + size }
    return slice buffer cursor.offset (cursor.offset + size)
  else
    throw .rangeError

/-- `offset + size > bufferLength`. -/
def lacks (size : Nat) : Parser Bool := do
  return buffer.length < (← get).offset + size

/-- `buffer.readUInt8(offset)`. -/
def readUInt8 : Parser Nat := do
  return uintLE (← readBytes buffer 1)

/-- `byteOrder ? buffer.readUInt32LE(offset) : buffer.readUInt32BE(offset)`. -/
def readUInt32 (byteOrder : Nat) : Parser Nat := do
  let bytes ← readBytes buffer 4
  return uintLE (if byteOrder ≠ 0 then bytes else bytes.reverse)

/-- `byteOrder ? buffer.readDoubleLE(offset) : buffer.readDoubleBE(offset)`. -/
def readDouble (byteOrder : Nat) : Parser Bytes := do
  let bytes ← readBytes buffer 8
  return if byteOrder ≠ 0 then bytes.reverse else bytes

/-- `{ x: x, y: y }`. -/
def parsePoint (byteOrder : Nat) : Parser GeometryValue := do
  let x ← readDouble buffer byteOrder
  let y ← readDouble buffer byteOrder
  return .point x y

/-- The loop over the points of a line. -/
def parsePoints (byteOrder : Nat) : Nat → Parser (List GeometryValue)
  | 0 => return []
  | count + 1 => do
      if ← lacks buffer 16 then
        return []
      else
        let point ← parsePoint buffer byteOrder
        return point :: (← parsePoints byteOrder count)

/-- The loop over the rings of a polygon. -/
def parseRings (byteOrder : Nat) : Nat → Parser (List GeometryValue)
  | 0 => return []
  | count + 1 => do
      if ← lacks buffer 4 then
        return []
      else
        let numPoints ← readUInt32 buffer byteOrder
        let line ← parsePoints buffer byteOrder numPoints
        return .array line :: (← parseRings byteOrder count)

omit buffer in
/-- The loop over nested geometries. -/
def parseMany (parse : Parser GeometryValue) : Nat → Parser (List GeometryValue)
  | 0 => return []
  | count + 1 => do
      let geometry ← parse
      return geometry :: (← parseMany parse count)

/-- A count, and a loop if it is not more than what is left has room for elements of a size. -/
def parseCounted (byteOrder size : Nat) (loop : Nat → Parser (List GeometryValue)) :
    Parser GeometryValue := do
  if ← lacks buffer 4 then
    return .null
  else
    let count ← readUInt32 buffer byteOrder
    if buffer.length - (← get).offset < count * size then
      return .null
    else
      return .array (← loop count)

/-- `switch (wkbType)`, with the parser of nested geometries. -/
def parseType (byteOrder : Nat) (nested : Parser GeometryValue) : Nat → Parser GeometryValue
  | 1 => do
      if ← lacks buffer 16 then
        return .null
      else
        parsePoint buffer byteOrder
  | 2 => parseCounted buffer byteOrder 16 (parsePoints buffer byteOrder)
  | 3 => parseCounted buffer byteOrder 4 (parseRings buffer byteOrder)
  | 4 | 5 | 6 | 7 => parseCounted buffer byteOrder 9 (parseMany nested)
  | _ => return .null

/-- `parseGeometry()`, with a number of calls that the stack has room for. -/
def parseGeometry : Nat → Parser GeometryValue
  | 0 => throw stackError
  | stack + 1 => do
      modify fun cursor => { cursor with examined := cursor.examined + 1 }
      if ← lacks buffer 5 then
        return .null
      else
        let byteOrder ← readUInt8 buffer
        let wkbType ← readUInt32 buffer byteOrder
        parseType buffer byteOrder (parseGeometry stack) wkbType

/-- The call of `parseGeometry` in `parseGeometryValue`, behind the four bytes of an SRID. -/
def parse (stack : Nat) : Except JsError (GeometryValue × Cursor) :=
  (parseGeometry buffer stack).run { offset := 4, examined := 0 }

end Geometry

/-- The value of a column. -/
def GeometryValue.toValue : GeometryValue → Value GeometryValue
  | .null => .null
  | geometry => .other geometry

/-- A runtime whose geometries are parsed from their bytes. -/
def Runtime.parsingGeometries (runtime : Runtime GeometryValue) (stack : Nat) :
    Runtime GeometryValue :=
  { runtime with
    geometry := fun buffer => (Geometry.parse buffer stack).map fun parsed => parsed.1.toValue }

end Mysql2.Packets

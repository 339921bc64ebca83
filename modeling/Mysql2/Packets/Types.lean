import Mathlib.Tactic.Common

/-!
# Types of columns and parameters
-/

namespace Mysql2.Packets

/-- `constants/types.js`.  `other` is a code without a name. -/
inductive Types
  | DECIMAL
  | TINY
  | SHORT
  | LONG
  | FLOAT
  | DOUBLE
  | NULL
  | TIMESTAMP
  | LONGLONG
  | INT24
  | DATE
  | TIME
  | DATETIME
  | YEAR
  | NEWDATE
  | VARCHAR
  | BIT
  | VECTOR
  | JSON
  | NEWDECIMAL
  | ENUM
  | SET
  | TINY_BLOB
  | MEDIUM_BLOB
  | LONG_BLOB
  | BLOB
  | VAR_STRING
  | STRING
  | GEOMETRY
  | other (code : Nat)
  deriving DecidableEq, Repr

/-- The code of a type. -/
def Types.toNat : Types → Nat
  | .DECIMAL => 0x00
  | .TINY => 0x01
  | .SHORT => 0x02
  | .LONG => 0x03
  | .FLOAT => 0x04
  | .DOUBLE => 0x05
  | .NULL => 0x06
  | .TIMESTAMP => 0x07
  | .LONGLONG => 0x08
  | .INT24 => 0x09
  | .DATE => 0x0a
  | .TIME => 0x0b
  | .DATETIME => 0x0c
  | .YEAR => 0x0d
  | .NEWDATE => 0x0e
  | .VARCHAR => 0x0f
  | .BIT => 0x10
  | .VECTOR => 0xf2
  | .JSON => 0xf5
  | .NEWDECIMAL => 0xf6
  | .ENUM => 0xf7
  | .SET => 0xf8
  | .TINY_BLOB => 0xf9
  | .MEDIUM_BLOB => 0xfa
  | .LONG_BLOB => 0xfb
  | .BLOB => 0xfc
  | .VAR_STRING => 0xfd
  | .STRING => 0xfe
  | .GEOMETRY => 0xff
  | .other code => code

/-- The types that have a name. -/
def Types.named : List Types :=
  [.DECIMAL, .TINY, .SHORT, .LONG, .FLOAT, .DOUBLE, .NULL, .TIMESTAMP, .LONGLONG, .INT24, .DATE,
    .TIME, .DATETIME, .YEAR, .NEWDATE, .VARCHAR, .BIT, .VECTOR, .JSON, .NEWDECIMAL, .ENUM, .SET,
    .TINY_BLOB, .MEDIUM_BLOB, .LONG_BLOB, .BLOB, .VAR_STRING, .STRING, .GEOMETRY]

/-- The type with a code. -/
def Types.ofNat (code : Nat) : Types :=
  (Types.named.find? (·.toNat = code)).getD (.other code)

/-- `Types[code]`: the name of a type. -/
def Types.name : Types → Option String
  | .DECIMAL => some "DECIMAL"
  | .TINY => some "TINY"
  | .SHORT => some "SHORT"
  | .LONG => some "LONG"
  | .FLOAT => some "FLOAT"
  | .DOUBLE => some "DOUBLE"
  | .NULL => some "NULL"
  | .TIMESTAMP => some "TIMESTAMP"
  | .LONGLONG => some "LONGLONG"
  | .INT24 => some "INT24"
  | .DATE => some "DATE"
  | .TIME => some "TIME"
  | .DATETIME => some "DATETIME"
  | .YEAR => some "YEAR"
  | .NEWDATE => some "NEWDATE"
  | .VARCHAR => some "VARCHAR"
  | .BIT => some "BIT"
  | .VECTOR => some "VECTOR"
  | .JSON => some "JSON"
  | .NEWDECIMAL => some "NEWDECIMAL"
  | .ENUM => some "ENUM"
  | .SET => some "SET"
  | .TINY_BLOB => some "TINY_BLOB"
  | .MEDIUM_BLOB => some "MEDIUM_BLOB"
  | .LONG_BLOB => some "LONG_BLOB"
  | .BLOB => some "BLOB"
  | .VAR_STRING => some "VAR_STRING"
  | .STRING => some "STRING"
  | .GEOMETRY => some "GEOMETRY"
  | .other _ => none

theorem Types.ofNat_toNat : ∀ type ∈ Types.named, Types.ofNat type.toNat = type := by
  decide

end Mysql2.Packets

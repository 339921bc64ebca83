import Mysql2.Parsers.ColumnNames

/-!
# Rows of the binary protocol and their columns

A parser that takes the names of all columns reads a row to its end.
-/

namespace Mysql2.Parsers

open Mysql2.Packets Mysql2.Packets.Packet Mysql2.Script

variable {α φ : Type}

/-- What a parser reads a column of the binary protocol with. -/
def RowParser.reader (parser : RowParser) (runtime : Runtime α) (fields : List Field)
    (options : Options (TypeCastFunction α)) (config : Config (TypeCastFunction α)) (index : Nat)
    (field : Field) : Reader (Value α) :=
  match parser with
  | .compiled => compiledReader runtime fields options config index field
  | .static => staticReader runtime fields options config index field

/-- A parser reads a row to the end of the packet: `null` where the row has `NULL`, and every
other value. -/
def RowParser.ReadsRow (parser : RowParser) (runtime : Runtime α) (fields : List Field)
    (options : Options (TypeCastFunction α)) (config : Config (TypeCastFunction α))
    (cells : List (Cell α)) (packet : Packet) : Prop :=
  ∃ after, parser.row runtime fields options config .binary packet =
    .ok (cells.map Cell.value, after) ∧ after.offset = packet.endOffset

/-- A number and two vectors, the first of which is `NULL`. -/
def mixedFields : List Field :=
  [{ dateField with columnType := Types.LONG.toNat }, vectorField, vectorField]

def mixedCells : List (Cell Unit) :=
  [some ([1, 0, 0, 0], .number 1), none, some ([0], .array [])]

theorem isNullBitmap_mixed : IsNullBitmap [8] mixedCells := by
  refine ⟨rfl, fun index cell found => ?_⟩
  rcases index with _ | _ | _ | index
  · cases found; rfl
  · cases found; rfl
  · cases found; rfl
  · cases found

theorem isRow_mixed : IsRow (compiledReader utcRuntime mixedFields noOptions noConfig)
    (Field.EncodesWith (noOptions : Options (TypeCastFunction Unit))) mixedFields
      mixedCells := by
  refine ⟨rfl, fun index field cell fieldAt cellAt => ?_⟩
  rcases index with _ | _ | _ | index
  · cases fieldAt
    cases cellAt
    exact ⟨⟨rfl, by rintro ⟨⟩⟩, _, rfl⟩
  · cases cellAt
    exact trivial
  · cases fieldAt
    cases cellAt
    exact ⟨⟨⟨[], ⟨[0], .inl ⟨by decide, rfl⟩, rfl⟩, Nat.dvd_zero 4⟩, by rintro ⟨⟩⟩, _, rfl⟩
  · cases cellAt

/-- A column that is called like the prototype of its row. -/
def protoColumn : Field :=
  { dateField with
    columnType := Types.TINY.toNat
    name := protoKey }

/-- The number of such a column. -/
def protoCells : List (Cell Unit) :=
  [some ([1], .number 1)]

theorem isRow_proto (parser : RowParser) :
    IsRow (parser.reader utcRuntime [protoColumn] noOptions noConfig)
      (Field.EncodesWith (noOptions : Options (TypeCastFunction Unit))) [protoColumn]
      protoCells := by
  refine ⟨rfl, fun index field cell fieldAt cellAt => ?_⟩
  cases index with
  | zero =>
      cases fieldAt
      cases cellAt
      cases parser with
      | compiled => exact ⟨⟨rfl, by rintro ⟨⟩⟩, _, rfl⟩
      | static => exact ⟨⟨rfl, by rintro ⟨⟩⟩, _, rfl⟩
  | succ index => cases cellAt

theorem isNullBitmap_proto : IsNullBitmap [0] protoCells := by
  refine ⟨rfl, fun index cell found => ?_⟩
  cases index with
  | zero => cases found; rfl
  | succ index => cases found

end Mysql2.Parsers

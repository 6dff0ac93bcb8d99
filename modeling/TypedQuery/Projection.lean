import TypedQuery.Model

/-!
# Shapes of rows

A query is read as rows of a shape: one column, a whole record of a model, or a
tuple of shapes. The leaves of a shape are its columns in the order of the
cells, however the tuples are nested.
-/

namespace TypedQuery

/-- What a row consists of. -/
inductive RowShape where
  | column (source : Column)
  | model (table : Model)
  | tuple (parts : List RowShape)

/-- A row that was read. -/
inductive Row where
  | attribute (source : Column) (attr : Attribute source.kind)
  | record (table : Model) (entry : Record table.fields)
  | tuple (parts : List Row)

/-- The value of one column of a row. -/
structure Leaf where
  column : Column
  attr : Attribute column.kind
  deriving DecidableEq

namespace RowShape

/-- The columns of a shape, from left to right. -/
def columns : RowShape → List Column
  | .column source => [source]
  | .model table => table.columns
  | .tuple parts => columnsOf parts
where
  /-- The columns of shapes in a row. -/
  columnsOf : List RowShape → List Column
    | [] => []
    | part :: parts => part.columns ++ columnsOf parts

def columnRefs (shape : RowShape) : List ColumnRef :=
  shape.columns.map Column.ref

/-- How one cell is read: with or without its place in the message when it is
not of the column's kind. -/
inductive CellMode where
  | located
  | bare
  deriving DecidableEq, Repr

def readColumn : CellMode → (column : Column) → RowReader.Read (Attribute column.kind)
  | .located, source => Column.readAttribute source.name source.kind
  | .bare, source => Column.readValue source.kind

def read (mode : CellMode) : RowShape → RowReader.Read Row
  | .column source => return .attribute source (← readColumn mode source)
  | .model table => return .record table (← Record.read table.fields)
  | .tuple parts => return .tuple (← readAll parts)
where
  /-- Reads the next cells as rows of several shapes, one after the other. -/
  readAll : List RowShape → RowReader.Read (List Row)
    | [] => return []
    | part :: parts => do
      let row ← read mode part
      let rows ← readAll parts
      return row :: rows

end RowShape

namespace Record

def leaves (table : String) : {fields : List Field} → Record fields → List Leaf
  | _, .nil => []
  | field :: _, .cons attr rest =>
    ⟨⟨table, field.name, field.kind⟩, attr⟩ :: rest.leaves table

end Record

namespace Row

/-- The values of a row, from left to right. -/
def leaves : Row → List Leaf
  | .attribute source attr => [⟨source, attr⟩]
  | .record table entry => entry.leaves table.table
  | .tuple parts => leavesOf parts
where
  /-- The values of rows one after the other. -/
  leavesOf : List Row → List Leaf
    | [] => []
    | part :: parts => part.leaves ++ leavesOf parts

/-- The record that a row consists of, when it is one of the model. -/
def record? (model : Model) : Row → Option (Record model.fields)
  | .record table entry =>
    if h : table = model then some (h ▸ entry) else none
  | _ => none

/-- Equality of rows of one shape: the leaves hold equal values. -/
def sameLeaves (a b : Row) : Bool :=
  a.leaves == b.leaves

end Row

namespace Rows

/-- Reads every row of a result set, each to its last cell. -/
def decodeWith (mode : RowShape.CellMode) (result : Rows) (shape : RowShape) :
    Result (List Row) :=
  result.rows.mapM (RowReader.readRow (shape.read mode))

/-- Reads every row; messages say where a cell stands. -/
def decode (result : Rows) (shape : RowShape) : Result (List Row) :=
  result.decodeWith .located shape

def values (result : Rows) (shape : RowShape) : Result (List Row) :=
  result.decodeWith .bare shape

end Rows

end TypedQuery

import TypedQuery.Error
import TypedQuery.Value

/-!
# Result sets

What a query answers: column names and rows of cells, all in memory. A row is
read from left to right, one cell at a time.
-/

namespace TypedQuery

/-- A result set. -/
structure Rows where
  columns : List String
  rows : List (List Value)
  deriving DecidableEq

namespace Rows

/-- The first cell of the first row; null when there is none. -/
def scalar (result : Rows) : Value :=
  match result.rows with
  | (cell :: _) :: _ => cell
  | _ => .null

end Rows

/-- The cells of a row that are still to be read, and the index of the next. -/
structure RowReader where
  cells : List Value
  position : Nat
  deriving DecidableEq

namespace RowReader

/-- A computation that reads cells and may fail. What was read stays read after
a failure. -/
abbrev Read (α : Type) : Type := ExceptT Error (StateM RowReader) α

def start (cells : List Value) : RowReader :=
  ⟨cells, 0⟩

/-- Fails because a row has fewer cells than were asked for. -/
def tooShort (position : Nat) : Error :=
  ⟨.query, "row has " ++ Digits.naturalText position ++ " columns, more were expected"⟩

/-- Fails because a row has more cells than were asked for. -/
def tooLong (position left : Nat) : Error :=
  ⟨.query, "row has " ++ Digits.naturalText left ++ " unread columns after column "
    ++ Digits.naturalText position⟩

/-- Takes the next cell. -/
def next : Read Value := fun reader =>
  match reader.cells with
  | [] => (.error (tooShort reader.position), reader)
  | cell :: cells => (.ok cell, ⟨cells, reader.position + 1⟩)

/-- Fails when cells are left. -/
def finish : Read Unit := fun reader =>
  match reader.cells with
  | [] => (.ok (), reader)
  | cells => (.error (tooLong reader.position cells.length), reader)

/-- Reads a whole row, to its last cell. -/
def readRow {α : Type} (read : Read α) (cells : List Value) : Result α :=
  let all : Read α := do
    let value ← read
    finish
    return value
  (all.run (start cells)).1

end RowReader

end TypedQuery

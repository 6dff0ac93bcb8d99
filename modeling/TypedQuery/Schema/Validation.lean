import TypedQuery.Error
import TypedQuery.Schema.Basic

/-!
# Checking values against a schema

A row is checked column by column before it is sent, by the constraints that
the table definition would declare.
-/

namespace TypedQuery

namespace Value

/-- The length that a bound on lengths applies to; values that have no length
count as empty. -/
def boundedLength : Value → Nat
  | text s => s.length
  | blob bytes => bytes.length
  | _ => 0

end Value

namespace ColumnDef

/-- Fails because a column that must have a value has none. -/
def missingValue (column : ColumnDef) : Error :=
  ⟨.domain, "`" ++ column.name ++ "` must not be null"⟩

/-- Fails because a value is longer than its column allows. -/
def tooLong (column : ColumnDef) (length max : Nat) : Error :=
  ⟨.domain, "`" ++ column.name ++ "` is " ++ Digits.naturalText length
    ++ " long, longer than the allowed " ++ Digits.naturalText max⟩

/-- True when a row must bring a value for the column: the database does not
fill it in, and it may not be null. -/
def requiresValue (column : ColumnDef) : Bool :=
  (column.constraints.notNull || column.constraints.primaryKey) &&
    !column.constraints.isGenerated

def validate (column : ColumnDef) (value : Value) : Result Unit :=
  if value.isNull then
    if column.requiresValue then .error column.missingValue else .ok ()
  else
    match column.constraints.maxLength with
    | none => .ok ()
    | some max =>
      if max < value.boundedLength then .error (column.tooLong value.boundedLength max)
      else .ok ()

end ColumnDef

namespace Schema

/-- Checks values against columns in order, as long as there are both. -/
def validateColumns : List ColumnDef → List Value → Result Unit
  | column :: columns, value :: values => do
    column.validate value
    validateColumns columns values
  | _, _ => .ok ()

/-- Checks the values of a row, given in the order of the columns; the first
column that refuses its value decides. -/
def validate (schema : Schema) (values : List Value) : Result Unit :=
  validateColumns schema.columns values

end Schema

end TypedQuery

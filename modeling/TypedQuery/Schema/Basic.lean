import TypedQuery.Fragment
import TypedQuery.Kind.Basic

/-!
# Schemas

A schema describes a table for its definition: the columns in order, each with
a type and constraints.
-/

namespace TypedQuery

/-- The type of a column in a table definition. -/
inductive ColumnType where
  | binary
  | boolean
  | dateTime
  | decimal
  /-- An integer that refers to the primary key of another table. -/
  | foreignKey (target : Reference)
  | integer (bits : Nat) (signed : Bool)
  | text
  deriving DecidableEq, Repr

/-- What the values of a column must satisfy. -/
structure Constraints where
  primaryKey : Bool := false
  notNull : Bool := false
  unique : Bool := false
  autoIncrement : Bool := false
  /-- The greatest length of a text in characters, or of a byte string. -/
  maxLength : Option Nat := none
  deriving DecidableEq, Repr

/-- A column of a table definition. -/
structure ColumnDef where
  name : String
  type : ColumnType
  constraints : Constraints
  deriving DecidableEq, Repr

/-- A table with its columns in order. -/
structure Schema where
  table : String
  columns : List ColumnDef
  deriving DecidableEq, Repr

def Kind.columnType : Kind → ColumnType
  | .integer type => .integer type.bits type.signed
  | .foreignKey target => .foreignKey target
  | .decimal => .decimal
  | .boolean => .boolean
  | .text => .text
  | .binary => .binary
  | .dateTime => .dateTime

namespace ColumnType

def hasLength : ColumnType → Bool
  | text | binary => true
  | _ => false

/-- Equality of types; foreign keys are equal when they refer to tables of one
name. -/
def same : ColumnType → ColumnType → Bool
  | foreignKey a, foreignKey b => a.table == b.table
  | a, b => a == b

/-- The integer types of a dialect that has several, with their counting
variants, by the width that a signed number needs. -/
def integerWord (bits : Nat) (signed counting : Bool) : String :=
  if bits = 8 ∨ (bits = 16 ∧ signed) then if counting then "SMALLSERIAL" else "SMALLINT"
  else if bits = 16 ∨ (bits = 32 ∧ signed) then if counting then "SERIAL" else "INTEGER"
  else if counting then "BIGSERIAL" else "BIGINT"

/-- The name of a type in a table definition. -/
def word (dialect : Dialect) (constraints : Constraints) (type : ColumnType) : String :=
  match dialect, type with
  | .sqlite, binary => "BLOB"
  | .sqlite, boolean | .sqlite, foreignKey _ | .sqlite, integer .. => "INTEGER"
  | .sqlite, dateTime | .sqlite, text => "TEXT"
  | .sqlite, decimal => "REAL"
  | .postgresql, binary => "BYTEA"
  | .postgresql, boolean => "BOOLEAN"
  | .postgresql, dateTime => "TIMESTAMP"
  | .postgresql, decimal => "DOUBLE PRECISION"
  | .postgresql, foreignKey _ => "BIGINT"
  | .postgresql, integer bits signed => integerWord bits signed constraints.autoIncrement
  | .postgresql, text => "TEXT"

end ColumnType

/-- True when the database fills the column in. -/
def Constraints.isGenerated (constraints : Constraints) : Bool :=
  constraints.primaryKey && constraints.autoIncrement

/-- Equality of columns, with types compared by what they mean. -/
def ColumnDef.same (a b : ColumnDef) : Bool :=
  a.name == b.name && a.type.same b.type && a.constraints == b.constraints

namespace Schema

def primaryKey? (schema : Schema) : Option ColumnDef :=
  schema.columns.find? (·.constraints.primaryKey)

def column? (schema : Schema) (name : String) : Option ColumnDef :=
  schema.columns.find? (·.name == name)

/-- The columns in order, qualified with the table. -/
def columnRefs (schema : Schema) : List ColumnRef :=
  schema.columns.map fun column => ⟨schema.table, column.name⟩

def reference (schema : Schema) : Reference :=
  ⟨schema.table, schema.primaryKey?.map (·.name)⟩

/-- Equality of schemas, with types compared by what they mean. -/
def same (a b : Schema) : Bool :=
  a.table == b.table && a.columns.length == b.columns.length &&
    (a.columns.zip b.columns).all fun (x, y) => x.same y

end Schema

end TypedQuery

import TypedQuery.Column
import TypedQuery.Rows
import TypedQuery.Schema.Validation

/-!
# Models and records

A model is a table whose columns have kinds. A record of it holds one attribute
for each field, in order; it can be read from a row, and its attributes can be
read and written as text by the names of their columns.
-/

namespace TypedQuery

/-- A column of a model. -/
structure Field where
  name : String
  kind : Kind
  constraints : Constraints
  deriving DecidableEq, Repr

/-- A table with typed columns. -/
structure Model where
  name : String
  table : String
  fields : List Field
  deriving DecidableEq, Repr

/-- One attribute for each field. -/
inductive Record : List Field → Type where
  | nil : Record []
  | cons {field : Field} {fields : List Field} (attr : Attribute field.kind)
      (rest : Record fields) : Record (field :: fields)
  deriving DecidableEq

/-- The column of a field in a table definition. -/
def Field.columnDef (field : Field) : ColumnDef :=
  ⟨field.name, field.kind.columnType, field.constraints⟩

namespace Model

def columns (model : Model) : List Column :=
  model.fields.map fun field => ⟨model.table, field.name, field.kind⟩

def schema (model : Model) : Schema :=
  ⟨model.table, model.fields.map Field.columnDef⟩

def column? (model : Model) (name : String) : Option Column :=
  model.columns.find? (·.name == name)

def primaryKey? (model : Model) : Option Column :=
  (model.fields.find? (·.constraints.primaryKey)).map fun field =>
    ⟨model.table, field.name, field.kind⟩

end Model

/-! ## Reading cells -/

namespace Column

/-- Where a cell stands, for messages about it. -/
def cellContext (position : Nat) (name : String) : String :=
  "column " ++ Digits.naturalText position ++ " (`" ++ name ++ "`): "

/-- Reads the next cell as a value of a column, which messages name. -/
def readAttribute (name : String) (kind : Kind) : RowReader.Read (Attribute kind) := do
  let position := (← get).position
  let cell ← RowReader.next
  match Attribute.ofCell cell with
  | .ok attr => return attr
  | .error error => throw (error.withContext (cellContext position name))

def readValue (kind : Kind) : RowReader.Read (Attribute kind) := do
  let cell ← RowReader.next
  match kind.read cell with
  | .ok value => return ⟨value⟩
  | .error error => throw error

end Column

namespace Record

def empty : (fields : List Field) → Record fields
  | [] => .nil
  | _ :: fields => .cons .null (empty fields)

/-- Reads a record from the next cells, one for each field. -/
def read : (fields : List Field) → RowReader.Read (Record fields)
  | [] => return .nil
  | field :: fields => do
    let attr ← Column.readAttribute field.name field.kind
    let rest ← read fields
    return .cons attr rest

/-- The bound values in the order of the fields. -/
def cells : {fields : List Field} → Record fields → List Value
  | _, .nil => []
  | _, .cons attr rest => attr.toCell :: rest.cells

/-- The text of the field with a name, if there is one. -/
def text? : {fields : List Field} → Record fields → String → Option String
  | _, .nil, _ => none
  | field :: _, .cons attr rest, name =>
    if name = field.name then some attr.display else rest.text? name

def texts {fields : List Field} (record : Record fields) : List (String × String) :=
  fields.filterMap fun field => (record.text? field.name).map fun text => (field.name, text)

/-- Replaces the value of the field with a name by the one that a text denotes.
There is no result when no field has the name. -/
def setText? : {fields : List Field} → Record fields → String → String →
    Option (Result (Record fields))
  | _, .nil, _, _ => none
  | field :: _, .cons attr rest, name, text =>
    if name = field.name then
      some ((Attribute.ofText text).map fun (new : Attribute field.kind) => .cons new rest)
    else
      (rest.setText? name text).map fun result => result.map fun rest => .cons attr rest

/-- Equality of records; decimals are compared as numbers. -/
def same : {fields : List Field} → Record fields → Record fields → Bool
  | _, .nil, .nil => true
  | _, .cons a as, .cons b bs => a.same b && as.same bs

end Record

namespace Model

/-- Fails because a model has no column with a name. -/
def unknownColumn (model : Model) (name : String) : Error :=
  ⟨.usage, "`" ++ model.table ++ "` has no column `" ++ name ++ "`"⟩

/-- Writes a text into the column with a name. The record stays as it is when
that fails. -/
def setText (model : Model) (record : Record model.fields) (name text : String) :
    Result (Record model.fields) :=
  (record.setText? name text).getD (.error (model.unknownColumn name))

/-- Checks a record against the constraints of its columns. -/
def validate (model : Model) (record : Record model.fields) : Result Unit :=
  model.schema.validate record.cells

end Model

end TypedQuery

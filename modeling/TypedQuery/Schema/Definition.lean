import TypedQuery.Error
import TypedQuery.Schema.Basic

/-!
# Table definitions

`CREATE TABLE` and `DROP TABLE` for a schema. A column is defined by its type
and a list of clauses; a foreign key can only be defined when its target has a
primary key.
-/

namespace TypedQuery

/-- A clause after the type of a column. -/
inductive ColumnClause where
  | primaryKey
  /-- The database counts upwards, in the dialect that says so by a word. -/
  | autoIncrement
  | notNull
  | unique
  | lengthCheck (column : String) (max : Nat)
  | references (table key : String)
  deriving DecidableEq, Repr

/-- A clause as SQL, with the blank that precedes it. -/
def ColumnClause.fragment : ColumnClause → Fragment
  | primaryKey => Fragment.text " PRIMARY KEY"
  | autoIncrement => Fragment.text " AUTOINCREMENT"
  | notNull => Fragment.text " NOT NULL"
  | unique => Fragment.text " UNIQUE"
  | lengthCheck column max =>
    Fragment.text " CHECK(length(" ++ Fragment.ident column
      ++ Fragment.text (") <= " ++ Digits.naturalText max ++ ")")
  | references table key =>
    Fragment.text " REFERENCES " ++ Fragment.ident table ++ Fragment.text " ("
      ++ Fragment.ident key ++ Fragment.text ")"

namespace ColumnDef

/-- The clauses on the key and on null. A primary key is not null and unique
without saying so. -/
def keyClauses (column : ColumnDef) (dialect : Dialect) : List ColumnClause :=
  let constraints := column.constraints
  if constraints.primaryKey then
    if constraints.autoIncrement && dialect == .sqlite then [.primaryKey, .autoIncrement]
    else [.primaryKey]
  else
    (if constraints.notNull then [.notNull] else []) ++
      (if constraints.unique then [.unique] else [])

/-- The clause that bounds the length, for types that have one. -/
def lengthClauses (column : ColumnDef) : List ColumnClause :=
  match column.constraints.maxLength with
  | some max => if column.type.hasLength then [.lengthCheck column.name max] else []
  | none => []

/-- Fails because a foreign key has no key to refer to. -/
def danglingReference (column : ColumnDef) (table : String) : Error :=
  ⟨.schema, "`" ++ column.name ++ "` references `" ++ table ++ "`, which has no primary key"⟩

/-- The clause that names the target of a foreign key. -/
def referenceClauses (column : ColumnDef) : Result (List ColumnClause) :=
  match column.type with
  | .foreignKey ⟨table, some key⟩ => .ok [.references table key]
  | .foreignKey ⟨table, none⟩ => .error (column.danglingReference table)
  | _ => .ok []

def clauses (column : ColumnDef) (dialect : Dialect) : Result (List ColumnClause) := do
  let references ← column.referenceClauses
  return column.keyClauses dialect ++ column.lengthClauses ++ references

/-- Name, type and clauses of a column. -/
def fragment (column : ColumnDef) (dialect : Dialect) : Result Fragment := do
  let clauses ← column.clauses dialect
  let head := Fragment.ident column.name
    ++ Fragment.text (" " ++ column.type.word dialect column.constraints)
  return clauses.foldl (fun sql clause => sql ++ clause.fragment) head

end ColumnDef

/-- What happens when the table to create exists already. -/
inductive CreateMode where
  | abortIfExists
  | ifNotExists
  deriving DecidableEq, Repr

namespace Schema

/-- Fails because a table without columns cannot be defined. -/
def noColumns (schema : Schema) : Error :=
  ⟨.schema, "`" ++ schema.table ++ "` has no columns"⟩

/-- The words that open a table definition. -/
def createWords : CreateMode → String
  | .abortIfExists => "CREATE TABLE "
  | .ifNotExists => "CREATE TABLE IF NOT EXISTS "

/-- The definition of the table. The first column that cannot be defined
decides. -/
def createFragment (schema : Schema) (dialect : Dialect) (mode : CreateMode) :
    Result Fragment := do
  if schema.columns.isEmpty then throw schema.noColumns
  let columns ← schema.columns.mapM (·.fragment dialect)
  return Fragment.text (createWords mode) ++ Fragment.ident schema.table ++ Fragment.text " ("
    ++ Fragment.join ", " columns ++ Fragment.text ")"

def createText (schema : Schema) (dialect : Dialect) (mode : CreateMode) : Result String := do
  let fragment ← schema.createFragment dialect mode
  return (fragment.render dialect).sql

def dropText (schema : Schema) (dialect : Dialect) : String :=
  ((Fragment.text "DROP TABLE " ++ Fragment.ident schema.table).render dialect).sql

end Schema

end TypedQuery

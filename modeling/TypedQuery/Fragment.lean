import TypedQuery.Dialect
import TypedQuery.Identifier
import TypedQuery.Value

/-!
# Fragments of SQL

A fragment is a list of chunks that names identifiers and carries values
without saying how a dialect writes them. Rendering fixes the dialect: it
quotes the identifiers, numbers the values from left to right and sets them
aside as the parameters of a statement.
-/

namespace TypedQuery

/-- A column of a table, both by name. -/
structure ColumnRef where
  table : String
  name : String
  deriving DecidableEq, Repr

/-- A part of a statement. -/
inductive Chunk where
  /-- Keywords and punctuation, written as they are. -/
  | text (words : String)
  /-- A quoted identifier. -/
  | ident (name : String)
  /-- A column, qualified with its table. -/
  | column (ref : ColumnRef)
  /-- A value, written as the next placeholder. -/
  | param (value : Value)
  /-- The bounds on the number of rows. -/
  | limit (count offset : Option UInt64)
  deriving DecidableEq

/-- SQL text with the values of its placeholders, in order. -/
structure Statement where
  sql : String
  params : List Value
  deriving DecidableEq

def Statement.raw (sql : String) : Statement :=
  ⟨sql, []⟩

/-- Chunks in the order in which they are written. -/
structure Fragment where
  chunks : List Chunk
  deriving DecidableEq

namespace Chunk

def value? : Chunk → Option Value
  | param value => some value
  | _ => none

/-- The text of a chunk for a dialect, when `index` values came before it. -/
def render (dialect : Dialect) (index : Nat) : Chunk → String
  | text words => words
  | ident name => Identifier.quote name
  | column ref => Identifier.quote ref.table ++ "." ++ Identifier.quote ref.name
  | param _ => dialect.placeholder (index + 1)
  | limit count offset => dialect.limitClause count offset

/-- Equality of chunks, comparing values as values. -/
def equal : Chunk → Chunk → Bool
  | param a, param b => a.equal b
  | param _, _ => false
  | _, param _ => false
  | a, b => a == b

end Chunk

namespace Fragment

def empty : Fragment :=
  ⟨[]⟩

def text (words : String) : Fragment :=
  ⟨[.text words]⟩

def ident (name : String) : Fragment :=
  ⟨[.ident name]⟩

def column (ref : ColumnRef) : Fragment :=
  ⟨[.column ref]⟩

def param (value : Value) : Fragment :=
  ⟨[.param value]⟩

/-- The bounds on the number of rows; nothing when there are none. -/
def limit (count offset : Option UInt64) : Fragment :=
  if count.isSome || offset.isSome then ⟨[.limit count offset]⟩ else empty

def append (first second : Fragment) : Fragment :=
  ⟨first.chunks ++ second.chunks⟩

instance : Append Fragment := ⟨append⟩

def parens (fragment : Fragment) : Fragment :=
  text "(" ++ fragment ++ text ")"

/-- Fragments in order, with `separator` between neighbours. -/
def join (separator : String) : List Fragment → Fragment
  | [] => empty
  | [last] => last
  | first :: rest => first ++ text separator ++ join separator rest

def isEmpty (fragment : Fragment) : Bool :=
  fragment.chunks.isEmpty

/-- The values in the order of their placeholders. -/
def params (fragment : Fragment) : List Value :=
  fragment.chunks.filterMap Chunk.value?

def paramCount (fragment : Fragment) : Nat :=
  fragment.params.length

/-- The text of chunks when `index` values came before them. -/
def renderFrom (dialect : Dialect) (index : Nat) : List Chunk → String
  | [] => ""
  | chunk :: rest =>
    chunk.render dialect index ++
      renderFrom dialect (index + if chunk.value?.isSome then 1 else 0) rest

/-- The statement that a fragment stands for in a dialect. -/
def render (fragment : Fragment) (dialect : Dialect) : Statement :=
  ⟨renderFrom dialect 0 fragment.chunks, fragment.params⟩

/-- Equality of fragments, comparing values as values. -/
def equal (first second : Fragment) : Bool :=
  first.chunks.length == second.chunks.length &&
    (first.chunks.zip second.chunks).all fun (a, b) => a.equal b

@[simp]
theorem chunks_append (first second : Fragment) :
    (first ++ second).chunks = first.chunks ++ second.chunks :=
  rfl

@[simp]
theorem params_append (first second : Fragment) :
    (first ++ second).params = first.params ++ second.params := by
  simp [params]

@[simp]
theorem params_empty : empty.params = [] :=
  rfl

@[simp]
theorem params_text (words : String) : (text words).params = [] :=
  rfl

@[simp]
theorem params_ident (name : String) : (ident name).params = [] :=
  rfl

@[simp]
theorem params_column (ref : ColumnRef) : (column ref).params = [] :=
  rfl

@[simp]
theorem params_param (value : Value) : (param value).params = [value] :=
  rfl

@[simp]
theorem params_limit (count offset : Option UInt64) :
    (limit count offset).params = [] := by
  rw [limit]
  split <;> rfl

@[simp]
theorem params_parens (fragment : Fragment) :
    fragment.parens.params = fragment.params := by
  simp [parens]

@[simp]
theorem params_join (separator : String) (fragments : List Fragment) :
    (join separator fragments).params = fragments.flatMap params := by
  induction fragments with
  | nil => rfl
  | cons first rest ih =>
      cases rest with
      | nil => simp [join]
      | cons second rest => simp [join, ih]

@[simp]
theorem flatMap_params_map_param (values : List Value) :
    (values.map param).flatMap params = values := by
  rw [List.flatMap_map]
  exact List.flatMap_singleton' values

end Fragment

end TypedQuery

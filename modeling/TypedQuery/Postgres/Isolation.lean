import TypedQuery.Setting

/-!
# Isolation levels

What a transaction of PostgreSQL sees of others that run beside it.
-/

namespace TypedQuery.Postgres

/-- An isolation level. -/
inductive Isolation where
  | readUncommitted
  | readCommitted
  | repeatableRead
  | serializable
  deriving DecidableEq, Repr

namespace Isolation

/-- The level when none is given, which is that of the server. -/
instance : Inhabited Isolation := ⟨readCommitted⟩

def name : Isolation → String
  | readUncommitted => "read_uncommitted"
  | readCommitted => "read_committed"
  | repeatableRead => "repeatable_read"
  | serializable => "serializable"

def ofName? : String → Option Isolation
  | "read_uncommitted" => some readUncommitted
  | "read_committed" => some readCommitted
  | "repeatable_read" => some repeatableRead
  | "serializable" => some serializable
  | _ => none

/-- Reads a level from configuration. -/
def ofSetting? (setting : Setting) : Option Isolation :=
  setting.variant?.bind ofName?

def words : Isolation → String
  | readUncommitted => "READ UNCOMMITTED"
  | readCommitted => "READ COMMITTED"
  | repeatableRead => "REPEATABLE READ"
  | serializable => "SERIALIZABLE"

/-- The statement that begins a transaction. -/
def beginSql (level : Isolation) : String :=
  "BEGIN ISOLATION LEVEL " ++ level.words

end Isolation

end TypedQuery.Postgres

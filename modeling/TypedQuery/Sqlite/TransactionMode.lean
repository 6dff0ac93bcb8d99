import TypedQuery.Setting

/-!
# Transaction modes of SQLite

When a transaction takes its locks.
-/

namespace TypedQuery.Sqlite

/-- When a transaction takes its locks. -/
inductive TransactionMode where
  /-- At the first read or write. -/
  | deferred
  /-- The lock for writing at once. -/
  | immediate
  /-- A lock against everyone at once. -/
  | exclusive
  deriving DecidableEq, Repr

namespace TransactionMode

/-- The mode when none is given. -/
instance : Inhabited TransactionMode := ⟨deferred⟩

def name : TransactionMode → String
  | deferred => "deferred"
  | immediate => "immediate"
  | exclusive => "exclusive"

def ofName? : String → Option TransactionMode
  | "deferred" => some deferred
  | "immediate" => some immediate
  | "exclusive" => some exclusive
  | _ => none

def ofSetting? (setting : Setting) : Option TransactionMode :=
  setting.variant?.bind ofName?

def beginSql : TransactionMode → String
  | deferred => "BEGIN DEFERRED"
  | immediate => "BEGIN IMMEDIATE"
  | exclusive => "BEGIN EXCLUSIVE"

end TransactionMode

end TypedQuery.Sqlite

import TypedQuery.Sqlite.Storage

/-!
# Engines

What a connection to SQLite needs of the engine behind it: running statements,
knowing whether a transaction is open, and letting go of it. Failures are
messages.
-/

namespace TypedQuery.Sqlite

/-- A result set as the engine stores it. -/
structure StoredRows where
  columns : List String
  rows : List (List Storage)
  deriving DecidableEq

/-- A computation on an engine that may fail; what it did stays done. -/
abbrev EngineAction (ε α : Type) : Type := ExceptT String (StateM ε) α

/-- An engine with one database. -/
class Engine (ε : Type) where
  /-- Runs a statement with values and answers its rows. -/
  query : String → List Storage → EngineAction ε StoredRows
  /-- Runs a statement with values and answers the number of affected rows. -/
  execute : String → List Storage → EngineAction ε UInt64
  /-- Runs statements in order, up to the first that fails. -/
  batch : String → EngineAction ε Unit
  /-- True outside of transactions. -/
  autocommit : ε → Bool
  version : String
  versionNumber : Int64
  /-- Ends the use of the engine; the text tells why that is refused. -/
  stop : ε → Except String Unit

end TypedQuery.Sqlite

import TypedQuery.Adaptor.Transaction
import TypedQuery.Sqlite.Engine
import TypedQuery.Sqlite.OpenFlags
import TypedQuery.Sqlite.TransactionMode

/-!
# Connections to SQLite

A connection holds its engine until it is closed. Whether a transaction is open
is asked of the engine, so statements that begin or end transactions behind the
connection's back are noticed.
-/

namespace TypedQuery.Sqlite

/-- A connection, with its engine while it is open. -/
structure Connection (ε : Type) where
  engine : Option ε
  target : String
  /-- What was reported, in order. -/
  traces : List Trace

namespace Connection

def driver : String := "sqlite"

variable {ε : Type} {α : Type}

def emit (trace : Trace) (connection : Connection ε) : Connection ε :=
  { connection with traces := connection.traces ++ [trace] }

def ofEngine (engine : ε) (target : String) : Connection ε :=
  emit (.connection .opened driver target) ⟨some engine, target, []⟩

/-- Runs something on the engine; its failures are query errors. -/
def onEngine (action : EngineAction ε α) : Action (Connection ε) α := fun connection =>
  match connection.engine with
  | none => (.error (Adaptor.closedConnection connection.target), connection)
  | some engine =>
    match action engine with
    | (.ok value, engine) => (.ok value, { connection with engine := some engine })
    | (.error message, engine) =>
      (.error ⟨.query, message⟩, { connection with engine := some engine })

def traced (trace : Trace) (action : Action (Connection ε) α) : Action (Connection ε) α :=
  fun connection => action (connection.emit trace)

variable [Engine ε]

/-- True while the engine has a transaction open. -/
def inTransaction (connection : Connection ε) : Bool :=
  match connection.engine with
  | some engine => !Engine.autocommit engine
  | none => false

def query (statement : Statement) : Action (Connection ε) Rows :=
  traced (.statement statement.sql statement.params.length) do
    let stored ← onEngine (Engine.query statement.sql (statement.params.map Storage.ofValue))
    return ⟨stored.columns, stored.rows.map fun row => row.map Storage.toValue⟩

def execute (statement : Statement) : Action (Connection ε) UInt64 :=
  traced (.statement statement.sql statement.params.length)
    (onEngine (Engine.execute statement.sql (statement.params.map Storage.ofValue)))

/-- Runs statements without values. -/
def executeBatch (sql : String) : Action (Connection ε) Unit :=
  onEngine (Engine.batch sql)

/-- Begins a transaction that takes its locks in a given way. -/
def beginWith (mode : TransactionMode) : Action (Connection ε) Unit := fun connection =>
  if connection.inTransaction then (.error Adaptor.transactionOpen, connection)
  else traced (.transaction .begin driver) (executeBatch mode.beginSql) connection

/-- Ends the transaction by keeping its work. -/
def commit : Action (Connection ε) Unit :=
  traced (.transaction .commit driver) (executeBatch "COMMIT")

/-- Ends the transaction by undoing its work. -/
def rollback : Action (Connection ε) Unit :=
  traced (.transaction .rollback driver) (executeBatch "ROLLBACK")

/-- Releases the engine, if that has not been done. An engine that refuses stays,
and the connection with it. -/
def close : Action (Connection ε) Unit := fun connection =>
  match connection.engine with
  | none => (.ok (), connection)
  | some engine =>
    let reported := connection.emit (.connection .closed driver connection.target)
    match Engine.stop engine with
    | .ok () => (.ok (), { reported with engine := none })
    | .error message => (.error ⟨.connection, message⟩, reported)

def tableQuery (table : String) : Statement :=
  ⟨"SELECT count(*) FROM sqlite_master WHERE type = 'table' AND name = ?1", [.text table]⟩

def tableExists (table : String) : Action (Connection ε) Bool := do
  let count := (← query (tableQuery table)).scalar.asInteger?.getD 0
  return decide (0 < count)

/-- The version of the engine's library, while the connection is open. -/
def serverVersion : Action (Connection ε) String :=
  onEngine (pure (Engine.version ε))

/-- The version as a number, while the connection is open. -/
def versionNumber : Action (Connection ε) Int64 :=
  onEngine (pure (Engine.versionNumber ε))

instance : Adaptor (Connection ε) where
  dialect _ := .sqlite
  query := query
  execute := execute
  executeBatch := executeBatch
  begin := beginWith default
  commit := commit
  rollback := rollback
  inTransaction := inTransaction
  close := close
  isClosed connection := connection.engine.isNone
  serverVersion := serverVersion
  versionNumber := versionNumber
  tableExists := tableExists
  emit := emit

/-- Runs a body in a transaction that takes its locks in a given way. -/
def transactionWith {φ : Type} (mode : TransactionMode) (lift : Error → φ)
    (body : Body (Connection ε) φ α) : Body (Connection ε) φ α :=
  Adaptor.transactionFrom (beginWith mode) lift body

end Connection

end TypedQuery.Sqlite

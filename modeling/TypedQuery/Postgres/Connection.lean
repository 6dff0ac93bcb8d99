import TypedQuery.Adaptor.Transaction
import TypedQuery.Postgres.Cell
import TypedQuery.Postgres.Isolation
import TypedQuery.Postgres.Server

/-!
# Connections to PostgreSQL

A connection holds its server until it is closed, and it remembers itself
whether a transaction is open: a beginning that succeeds opens one, and an end
closes it whether it succeeds or not.
-/

namespace TypedQuery.Postgres

/-- A connection, with its server while it is open. -/
structure Connection (ς : Type) where
  server : Option ς
  target : String
  inTransaction : Bool
  /-- What was reported, in order. -/
  traces : List Trace

namespace Connection

def driver : String := "postgresql"

def protocolVersion : Nat := 3

variable {ς : Type} {α : Type}

def emit (trace : Trace) (connection : Connection ς) : Connection ς :=
  { connection with traces := connection.traces ++ [trace] }

def ofServer (server : ς) (target : String) : Connection ς :=
  emit (.connection .opened driver target) ⟨some server, target, false, []⟩

def inspect (connection : Connection ς) : Inspected :=
  .fields "PostgresAdaptor" [("target", .quoted connection.target),
    ("closed", .bool connection.server.isNone),
    ("in_transaction", .bool connection.inTransaction)]

/-! ## Opening -/

/-- Opens a session on the server that answers at a target. -/
def connect [Server ς] (network : Network ς) (target : Target) : Except ConnectFault ς :=
  if !target.isConsistent then .error .inconsistent
  else
    match network target with
    | none => .error .unreachable
    | some server =>
      match Server.start target server with
      | (.ok (), server) => .ok server
      | (.error fault, _) => .error fault

def openSettings [Server ς] (network : Network ς) (endpoint : Endpoint) (auth : Option Auth)
    (options : Option Options) : Result (Connection ς) :=
  match connect network (Target.ofSettings endpoint auth options) with
  | .ok server => .ok (ofServer server endpoint.target)
  | .error fault => .error ⟨.connection, endpoint.target ++ ": " ++ fault.message⟩

def openText [Server ς] (network : Network ς) (text : String) : Result (Connection ς) :=
  let connected : Except ConnectFault ς := match Target.ofText? text with
    | none => .error .unreadable
    | some target => connect network target
  match connected with
  | .ok server => .ok (ofServer server "conninfo")
  | .error fault => .error ⟨.connection, fault.message⟩

/-! ## Statements -/

/-- Runs something on the server; what it refuses is a query error. -/
def onServer (action : ServerAction ς α) : Action (Connection ς) α := fun connection =>
  match connection.server with
  | none => (.error (Adaptor.closedConnection connection.target), connection)
  | some server =>
    match action server with
    | (.ok value, server) => (.ok value, { connection with server := some server })
    | (.error fault, server) =>
      (.error fault.toError, { connection with server := some server })

def traced (trace : Trace) (action : Action (Connection ς) α) : Action (Connection ς) α :=
  fun connection => action (connection.emit trace)

variable [Server ς]

def run (statement : Statement) : Action (Connection ς) (Prepared × Response) :=
  traced (.statement statement.sql statement.params.length) do
    let prepared ← onServer (Server.prepare statement.sql)
    match Parameter.encodeAll prepared.params statement.params with
    | .error fault => throw ⟨.query, fault.message⟩
    | .ok bytes =>
      let response ← onServer (Server.run prepared bytes)
      return (prepared, response)

def query (statement : Statement) : Action (Connection ς) Rows := do
  let (prepared, response) ← run statement
  let types := prepared.columns.map Prod.snd
  match response.rows.mapM (Cell.readFrom 0 types) with
  | .ok rows => return ⟨prepared.columns.map Prod.fst, rows⟩
  | .error error => throw error

def execute (statement : Statement) : Action (Connection ς) UInt64 := do
  let (_, response) ← run statement
  return response.affected

/-- Runs statements without values. -/
def executeBatch (sql : String) : Action (Connection ς) Unit :=
  onServer (Server.simple sql)

/-! ## Transactions -/

def beginWith (level : Isolation) : Action (Connection ς) Unit := fun connection =>
  if connection.inTransaction then (.error Adaptor.transactionOpen, connection)
  else
    match traced (.transaction .begin driver) (executeBatch level.beginSql) connection with
    | (.ok (), connection) => (.ok (), { connection with inTransaction := true })
    | (.error error, connection) => (.error error, connection)

/-- Ends the transaction by a statement, which need not succeed. A closed
connection sends nothing and has no transaction to end. -/
def finish (sql : String) : Action (Connection ς) Unit := fun connection =>
  if connection.server.isNone then executeBatch sql connection
  else
    let (result, connection) := executeBatch sql connection
    (result, { connection with inTransaction := false })

/-- Ends the transaction by keeping its work. -/
def commit : Action (Connection ς) Unit :=
  traced (.transaction .commit driver) (finish "COMMIT")

/-- Ends the transaction by undoing its work. -/
def rollback : Action (Connection ς) Unit :=
  traced (.transaction .rollback driver) (finish "ROLLBACK")

/-- Releases the server, if that has not been done. The connection is closed also
when the session does not end well. -/
def close : Action (Connection ς) Unit := fun connection =>
  match connection.server with
  | none => (.ok (), connection)
  | some server =>
    ((Server.stop server).mapError (Error.mk .connection),
      { connection.emit (.connection .closed driver connection.target) with
        server := none
        inTransaction := false })

/-! ## Asking the server -/

def showSetting (setting : String) : Action (Connection ς) String := do
  match (← query ⟨"SHOW " ++ setting, []⟩).scalar with
  | .text value => return value
  | other => throw ⟨.query, "SHOW " ++ setting ++ " returned " ++ other.typeName⟩

def serverVersion : Action (Connection ς) String :=
  showSetting "server_version"

/-- The number that a text denotes, blanks around it apart. -/
def readVersionNumber? (text : String) : Option Int64 :=
  let trimmed := ((text.toList.dropWhile isBlank).reverse.dropWhile isBlank).reverse
  match Digits.readInteger? trimmed with
  | some i => if BigEndian.fits 8 i then some (Int64.ofInt i) else none
  | none => none

def versionNumber : Action (Connection ς) Int64 := do
  let text ← showSetting "server_version_num"
  match readVersionNumber? text with
  | some number => return number
  | none => throw ⟨.query, "unexpected server_version_num `" ++ text ++ "`"⟩

/-- The query for the number of tables with a name. -/
def tableQuery (table : String) : Statement :=
  ⟨"SELECT count(*) FROM pg_catalog.pg_tables "
    ++ "WHERE schemaname = current_schema() AND tablename = $1::text", [.text table]⟩

def tableExists (table : String) : Action (Connection ς) Bool := do
  let count := (← query (tableQuery table)).scalar.asInteger?.getD 0
  return decide (0 < count)

instance : Adaptor (Connection ς) where
  dialect _ := .postgresql
  query := query
  execute := execute
  executeBatch := executeBatch
  begin := beginWith default
  commit := commit
  rollback := rollback
  inTransaction := Connection.inTransaction
  close := close
  isClosed connection := connection.server.all Server.hasEnded
  serverVersion := serverVersion
  versionNumber := versionNumber
  tableExists := tableExists
  emit := emit

def transactionWith {φ : Type} (level : Isolation) (lift : Error → φ)
    (body : Body (Connection ς) φ α) : Body (Connection ς) φ α :=
  Adaptor.transactionFrom (beginWith level) lift body

end Connection

end TypedQuery.Postgres

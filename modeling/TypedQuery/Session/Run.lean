import TypedQuery.Adaptor.Trace
import TypedQuery.Adaptor.Scripted
import TypedQuery.Adaptor.Table
import TypedQuery.Inspect
import TypedQuery.Postgres.Connection
import TypedQuery.Postgres.ScriptedServer
import TypedQuery.Session.Call
import TypedQuery.Sqlite.Connection
import TypedQuery.Store

/-!
# Running programs

A session is a connection together with the relations that a program has named.
Every call is reported, with what reached the backend and what was traced since
the call before it ended. An error ends no more than the body that propagates
it.
-/

namespace TypedQuery.Session

/-- A connection whose traffic can be looked at, and that begins transactions
in several ways. -/
class Observed (σ : Type) (μ ε : outParam Type) extends Adaptor σ where
  beginWith : μ → Action σ Unit
  /-- What reached the backend, in order. -/
  sent : σ → List ε
  /-- What was traced, in order. -/
  traces : σ → List Trace

instance : Observed Scripted Unit Sent where
  beginWith _ := Adaptor.begin
  sent := Scripted.sent
  traces := Scripted.traces

instance {ε : Type} [Sqlite.Engine ε] :
    Observed (Sqlite.Connection ε) Sqlite.TransactionMode Empty where
  beginWith := Sqlite.Connection.beginWith
  sent _ := []
  traces := Sqlite.Connection.traces

instance : Observed (Postgres.Connection Postgres.ScriptedServer) Postgres.Isolation
    Postgres.ServerEvent where
  beginWith := Postgres.Connection.beginWith
  sent connection := (connection.server.map Postgres.ScriptedServer.sent).getD []
  traces := Postgres.Connection.traces

/-- A connection in use. -/
structure State (σ ε : Type) where
  connection : σ
  relations : List (String × Relation)
  /-- How much of the traffic has been reported. -/
  sentSeen : Nat
  /-- How many of the traces have been reported. -/
  tracesSeen : Nat
  /-- The reports on the calls of the program that is running. -/
  reports : List (Report ε)

namespace State

variable {σ μ ε α : Type}

/-- A connection that all has been reported of. -/
def start [Observed σ μ ε] (connection : σ) : State σ ε :=
  ⟨connection, [], (Observed.sent connection).length, (Observed.traces connection).length, []⟩

def onConnection (action : Action σ α) : Action (State σ ε) α := fun state =>
  let (result, connection) := action state.connection
  (result, { state with connection })

/-- A session is used like its connection. -/
instance [Adaptor σ] : Adaptor (State σ ε) where
  dialect state := Adaptor.dialect state.connection
  query statement := onConnection (Adaptor.query statement)
  execute statement := onConnection (Adaptor.execute statement)
  executeBatch sql := onConnection (Adaptor.executeBatch sql)
  begin := onConnection Adaptor.begin
  commit := onConnection Adaptor.commit
  rollback := onConnection Adaptor.rollback
  inTransaction state := Adaptor.inTransaction state.connection
  close := onConnection Adaptor.close
  isClosed state := Adaptor.isClosed state.connection
  serverVersion := onConnection Adaptor.serverVersion
  versionNumber := onConnection Adaptor.versionNumber
  tableExists table := onConnection (Adaptor.tableExists table)
  emit trace state := { state with connection := Adaptor.emit trace state.connection }

def keep (name : String) (relation : Relation) (state : State σ ε) : State σ ε :=
  { state with relations := (name, relation) :: state.relations.filter (·.1 != name) }

/-- Begins a transaction, in some way or in the usual one. -/
def beginBy [Observed σ μ ε] (mode : Option μ) : Action (State σ ε) Unit :=
  onConnection (match mode with
    | some mode => Observed.beginWith mode
    | none => Adaptor.begin)

/-- Reports on a call; all that has not been reported becomes part of it. -/
def finish [Observed σ μ ε] (outcome : Outcome Failure Reply) (phase : Option Phase)
    (body : Option (List (Report ε))) (state : State σ ε) : Report ε × State σ ε :=
  let sent := Observed.sent state.connection
  let traces := Observed.traces state.connection
  (.mk outcome phase body (sent.drop state.sentSeen) (traces.drop state.tracesSeen),
    { state with sentSeen := sent.length, tracesSeen := traces.length })

end State

namespace Operation

variable {σ μ ε α : Type} [Observed σ μ ε]

/-- Fails because no relation has a name. -/
def unknownRelation (name : String) : Error :=
  ⟨.usage, "no relation is named `" ++ name ++ "`"⟩

def relation (name : String) : Action (State σ ε) Relation := do
  match (← get).relations.lookup name with
  | some relation => return relation
  | none => throw (unknownRelation name)

/-- Adds clauses one by one and keeps the relation; answers its phases. -/
def extendBy (name : String) (relation : Relation) (clauses : List Clause) :
    Action (State σ ε) Reply := do
  let phaseAfter (count : Nat) := (relation.addAll (clauses.take count)).phase
  modify (State.keep name (relation.addAll clauses))
  return .phases ((List.range (clauses.length + 1)).map phaseAfter)

def act : Operation μ → Action (State σ ε) Reply
  | define name start clauses => extendBy name start clauses
  | extend name clauses => do extendBy name (← relation name) clauses
  | render name language => do
    match (← relation name).toStatement language with
    | .ok statement => return .statement statement
    | .error error => throw error
  | phase name => return .words (← relation name).phase.name
  | inspect name => return .words (← relation name).inspect.text
  | execute name terminal => do
    let (result, relation, state) := (← relation name).run terminal (← get)
    set (state.keep name relation)
    match result with
    | .ok answer => return .answer answer
    | .error error => throw error
  | insertAll model records => .affected <$> model.insertAll records
  | destroy model condition => .affected <$> model.destroy condition
  | destroyAll model => .affected <$> model.destroyAll
  | first model => .record model <$> model.first
  | find model key => .record model <$> model.find key
  | createTable model mode => done (model.createTable mode)
  | dropTable model => done model.dropTable
  | existsTable model => .flag <$> model.existsTable
  | tableExists table => .flag <$> Adaptor.tableExists table
  | query statement => .table <$> Adaptor.query statement
  | run statement => .affected <$> Adaptor.execute statement
  | batch sql => done (Adaptor.executeBatch sql)
  | begin mode => done (State.beginBy mode)
  | commit => done Adaptor.commit
  | rollback => done Adaptor.rollback
  | close => done Adaptor.close
  | inTransaction => return .flag (Adaptor.inTransaction (← get))
  | isClosed => return .flag (Adaptor.isClosed (← get))
  | dialect => return .words (Adaptor.dialect (← get)).name
  | serverVersion => .version <$> Adaptor.serverVersion
  | versionNumber => .versionNumber <$> Adaptor.versionNumber
where
  /-- Answers that an action was done. -/
  done (action : Action (State σ ε) Unit) : Action (State σ ε) Reply :=
    action *> pure .done

def executedPhase (state : State σ ε) : Operation μ → Option Phase
  | execute name _ => (state.relations.lookup name).map Relation.phase
  | _ => none

end Operation

def outcomeOf {α : Type} : Result α → Outcome Failure α
  | .ok value => .done value
  | .error error => .failed (.library error)

/-- The outcome of a body as that of a call. -/
def replyOf : Outcome Failure Unit → Outcome Failure Reply
  | .done () => .done .done
  | .failed failure => .failed failure
  | .panicked message => .panicked message

variable {σ μ ε : Type} [Observed σ μ ε]

/-- Runs a body by itself, and reports on the call that it belongs to. -/
def enclosed (run : Body (State σ ε) Failure Unit) (state : State σ ε) :
    Report ε × State σ ε :=
  let (outcome, after) := run { state with reports := [] }
  { after with reports := state.reports }.finish (replyOf outcome) none (some after.reports)

mutual

def Call.run : Call μ → State σ ε → Report ε × State σ ε
  | .operation operation, state =>
    let (result, state) := operation.act state
    state.finish (outcomeOf result) (operation.executedPhase state) none
  | .transaction mode body ending, state =>
    enclosed (Adaptor.transactionFrom (State.beginBy mode) .library (body.run ending)) state
  | .continuation body ending, state =>
    enclosed (Adaptor.runInTransaction .library (body.run ending)) state

/-- Runs calls in order and keeps the reports on them. Ends as given, or with
the first error that propagates. -/
def Program.run : Program μ → Outcome Failure Unit → Body (State σ ε) Failure Unit
  | .done, ending, state => (ending, state)
  | .step call propagates rest, ending, state =>
    let (report, state) := call.run state
    let state := { state with reports := state.reports ++ [report] }
    match report.error?, propagates with
    | some error, true => (.failed (.library error), state)
    | _, _ => rest.run ending state

end

/-- Runs a program on a connection. Answers the reports and the connection. -/
def runProgram (program : Program μ) (connection : σ) : List (Report ε) × σ :=
  let (_, state) := program.run (.done ()) (State.start connection)
  (state.reports, state.connection)

end TypedQuery.Session

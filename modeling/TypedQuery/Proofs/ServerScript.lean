import TypedQuery.Postgres.Connection

/-!
# Programs on a connection to a server

A finite program makes requests and starts transactions with further programs as
their bodies, goes on with whatever these answer, and ends with a value, an error
or a panic.  It runs on a connection, and on whatever is used like one.
-/

namespace TypedQuery.Postgres

/-- A connection whose transactions begin with an isolation level. -/
class Leveled (σ : Type) extends Adaptor σ where
  beginWith : Isolation → Action σ Unit

instance {ς : Type} [Server ς] : Leveled (Connection ς) where
  beginWith := Connection.beginWith

/-- A request to a connection.  Where no level is given the connection chooses. -/
inductive Request where
  | begin (level : Option Isolation)
  | commit
  | rollback
  | close
  | query (statement : Statement)
  | execute (statement : Statement)
  | batch (sql : String)
  deriving DecidableEq

/-- What a request answers. -/
inductive Reply where
  | rows (rows : Rows)
  | count (n : UInt64)
  | finished

/-- A finite program, with errors and values of given types. -/
inductive Script : Type → Type → Type 1 where
  | finish {φ α : Type} (outcome : Outcome φ α) : Script φ α
  | ask {φ α : Type} (request : Request) (next : Result Reply → Script φ α) : Script φ α
  | transaction {φ α ψ β : Type} (level : Option Isolation) (lift : Error → ψ)
      (body : Script ψ β) (next : Outcome ψ β → Script φ α) : Script φ α

section Running

variable {σ : Type} [Leveled σ]

def Leveled.beginBy : Option Isolation → Action σ Unit
  | none => Adaptor.begin
  | some level => beginWith level

/-- Runs a body in a transaction, at a level if one is given. -/
def Leveled.transactionBy {φ α : Type} (level : Option Isolation) (lift : Error → φ)
    (body : Body σ φ α) : Body σ φ α :=
  Adaptor.transactionFrom (beginBy level) lift body

namespace Request

def perform : Request → Action σ Reply
  | begin level => (fun _ => .finished) <$> Leveled.beginBy level
  | commit => (fun _ => .finished) <$> Adaptor.commit
  | rollback => (fun _ => .finished) <$> Adaptor.rollback
  | close => (fun _ => .finished) <$> Adaptor.close
  | query statement => .rows <$> Adaptor.query statement
  | execute statement => .count <$> Adaptor.execute statement
  | batch sql => (fun _ => .finished) <$> Adaptor.executeBatch sql

end Request

namespace Script

def run {φ α : Type} : Script φ α → Body σ φ α
  | finish outcome => fun state => (outcome, state)
  | ask request next => fun state =>
    (next (request.perform state).1).run (request.perform state).2
  | transaction level lift body next => fun state =>
    (next (Leveled.transactionBy level lift body.run state).1).run
      (Leveled.transactionBy level lift body.run state).2

/-- A program passes through a state when it goes on from there, in the bodies of
transactions too. -/
inductive Visits : {φ α : Type} → Script φ α → σ → σ → Prop where
  | here {φ α : Type} (script : Script φ α) (state : σ) : Visits script state state
  | ask {φ α : Type} {request : Request} {next : Result Reply → Script φ α}
      {state visited : σ}
      (hnext : Visits (next (request.perform state).1) (request.perform state).2 visited) :
      Visits (.ask request next) state visited
  | inside {φ α ψ β : Type} {level : Option Isolation} {lift : Error → ψ}
      {body : Script ψ β} {next : Outcome ψ β → Script φ α} {state started visited : σ}
      (hbegin : Leveled.beginBy level state = (.ok (), started))
      (hbody : Visits body started visited) :
      Visits (.transaction level lift body next) state visited
  | after {φ α ψ β : Type} {level : Option Isolation} {lift : Error → ψ}
      {body : Script ψ β} {next : Outcome ψ β → Script φ α} {state visited : σ}
      (hnext : Visits (next (Leveled.transactionBy level lift body.run state).1)
        (Leveled.transactionBy level lift body.run state).2 visited) :
      Visits (.transaction level lift body next) state visited

end Script

end Running

theorem Connection.beginBy_eq {ς : Type} [Server ς] (level : Option Isolation) :
    (Leveled.beginBy level : Action (Connection ς) Unit) =
      Connection.beginWith (level.getD default) := by
  cases level <;> rfl

end TypedQuery.Postgres

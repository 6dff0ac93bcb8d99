import TypedQuery.Fragment
import TypedQuery.Rows

/-!
# Adaptors

An adaptor is one open connection to a backend, as a state that every operation
moves on. An operation may fail and still have changed the state. Connections
report what they do as traces.
-/

namespace TypedQuery

/-- A computation on a connection that may fail; what it did stays done. -/
abbrev Action (σ : Type) (α : Type) : Type := ExceptT Error (StateM σ) α

namespace Action

variable {σ α β : Type}

/-- An action goes on with its value, or ends with its error. -/
theorem bind_apply (action : Action σ α) (next : α → Action σ β) (state : σ) :
    (action >>= next) state =
      match action state with
      | (.ok value, state) => next value state
      | (.error error, state) => (.error error, state) := by
  have hbind : (action >>= next) state =
      ExceptT.bindCont next (action state).1 (action state).2 := rfl
  rw [hbind]
  obtain ⟨result, after⟩ := action state
  cases result with
  | ok value => rfl
  | error error => rfl

/-- A function of the value of an action changes neither its errors nor what it
does. -/
theorem map_apply (f : α → β) (action : Action σ α) (state : σ) :
    (f <$> action) state = ((action state).1.map f, (action state).2) := by
  rw [← bind_pure_comp, bind_apply]
  obtain ⟨result, after⟩ := action state
  cases result with
  | ok value => rfl
  | error error => rfl

theorem get_apply (state : σ) : (get : Action σ σ) state = (.ok state, state) :=
  rfl

end Action

/-- A step in the life of a transaction. -/
inductive TransactionEvent where
  | begin
  | commit
  | rollback
  deriving DecidableEq, Repr

/-- A step in the life of a connection. -/
inductive ConnectionEvent where
  | opened
  | closed
  deriving DecidableEq, Repr

/-- What a connection reports. -/
inductive Trace where
  /-- A statement is about to be run. -/
  | statement (sql : String) (paramCount : Nat)
  | transaction (event : TransactionEvent) (driver : String)
  /-- Undoing a failed transaction failed too. -/
  | rollbackFailed (driver : String) (error : Error)
  | connection (event : ConnectionEvent) (driver target : String)
  deriving DecidableEq, Repr

/-- A connection to a backend. -/
class Adaptor (σ : Type) where
  /-- The dialect that statements are rendered in. -/
  dialect : σ → Dialect
  /-- Runs a statement that answers rows. -/
  query : Statement → Action σ Rows
  /-- Runs a statement and answers the number of rows it affected. -/
  execute : Statement → Action σ UInt64
  /-- Runs statements without values. -/
  executeBatch : String → Action σ Unit
  begin : Action σ Unit
  commit : Action σ Unit
  rollback : Action σ Unit
  inTransaction : σ → Bool
  /-- Releases the connection; closing again does nothing. -/
  close : Action σ Unit
  isClosed : σ → Bool
  /-- The version of the backend, as it gives it. -/
  serverVersion : Action σ String
  /-- The version as one number that can be compared. -/
  versionNumber : Action σ Int64
  tableExists : String → Action σ Bool
  /-- Reports a trace. -/
  emit : Trace → σ → σ

namespace Adaptor

def transactionOpen : Error :=
  ⟨.usage, "transaction already open"⟩

/-- Fails because the connection to `target` was closed. -/
def closedConnection (target : String) : Error :=
  ⟨.connection, target ++ " is closed"⟩

variable {σ : Type}

/-- Changes the error of a failed action. -/
def mapError {α : Type} (f : Error → Error) (action : Action σ α) : Action σ α :=
  fun state => match action state with
  | (.ok value, state) => (.ok value, state)
  | (.error error, state) => (.error (f error), state)

/-- Renders a fragment in the connection's dialect and runs it for rows. -/
def queryFragment [Adaptor σ] (fragment : Fragment) : Action σ Rows := do
  query (fragment.render (dialect (← get)))

/-- Renders a fragment in the connection's dialect and runs it for its effect. -/
def executeFragment [Adaptor σ] (fragment : Fragment) : Action σ UInt64 := do
  execute (fragment.render (dialect (← get)))

end Adaptor

end TypedQuery

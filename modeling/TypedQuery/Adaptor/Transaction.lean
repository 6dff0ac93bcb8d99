import TypedQuery.Adaptor.Basic

/-!
# Transactions

A body runs between the beginning and the end of a transaction. When it
succeeds the transaction is committed, and otherwise it is rolled back and the
outcome of the body is passed on unchanged. A commit that fails is the outcome
instead, and the transaction is rolled back if the failure left it open.
-/

namespace TypedQuery

/-- How a body ends. -/
inductive Outcome (ε α : Type) where
  | done (value : α)
  | failed (error : ε)
  /-- The body was aborted and nobody may answer in its place. -/
  | panicked (message : String)
  deriving DecidableEq, Repr

/-- A body of a transaction: a computation on the connection, with errors of
the caller's own choosing. -/
abbrev Body (σ ε α : Type) : Type := σ → Outcome ε α × σ

namespace Adaptor

variable {σ ε α : Type} [Adaptor σ]

/-- Rolls back; a failure to do so is reported and goes no further. -/
def abandon (state : σ) : σ :=
  match rollback state with
  | (.ok (), state) => state
  | (.error error, state) => emit (.rollbackFailed (dialect state).name error) state

/-- Runs a body in a transaction that is open, and ends the transaction.
`lift` makes the library's errors errors of the caller. -/
def runInTransaction (lift : Error → ε) (body : Body σ ε α) : Body σ ε α := fun state =>
  match body state with
  | (.done value, state) =>
    match commit state with
    | (.ok (), state) => (.done value, state)
    | (.error error, state) =>
      (.failed (lift error), if inTransaction state then abandon state else state)
  | (.failed error, state) => (.failed error, abandon state)
  | (.panicked message, state) => (.panicked message, abandon state)

def transactionFrom (start : Action σ Unit) (lift : Error → ε) (body : Body σ ε α) :
    Body σ ε α := fun state =>
  match start state with
  | (.ok (), state) => runInTransaction lift body state
  | (.error error, state) => (.failed (lift error), state)

/-- Runs a body in a transaction of its own. -/
def transaction (lift : Error → ε) (body : Body σ ε α) : Body σ ε α :=
  transactionFrom begin lift body

end Adaptor

end TypedQuery

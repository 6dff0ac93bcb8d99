import TypedQuery.Adaptor.Transaction
import TypedQuery.Relation.Run
import TypedQuery.Schema.Definition

/-!
# Programs

A program is a list of calls on one connection. Relations are kept under names,
so that a later call can go on with an earlier relation. A call may be a
transaction, whose body is again a program.
-/

namespace TypedQuery.Session

/-- Why the body of a transaction fails: an error of the library, or one of the
caller's own. -/
inductive Failure where
  | library (error : Error)
  | own (text : String)
  deriving DecidableEq

/-- A call that is no transaction. The connection has ways to begin a
transaction, of type `μ`. -/
inductive Operation (μ : Type) where
  /-- Keeps a relation under a name and adds clauses to it. -/
  | define (name : String) (relation : Relation) (clauses : List Clause)
  /-- Adds clauses to the relation with a name. -/
  | extend (name : String) (clauses : List Clause)
  /-- The statement of a relation. -/
  | render (name : String) (dialect : Dialect)
  | phase (name : String)
  /-- The structural text of a relation. -/
  | inspect (name : String)
  /-- Executes the relation with a name. -/
  | execute (name : String) (terminal : Terminal)
  | insertAll (model : Model) (records : List (Record model.fields))
  | destroy (model : Model) (condition : Condition)
  | destroyAll (model : Model)
  | first (model : Model)
  | find (model : Model) (key : Value)
  | createTable (model : Model) (mode : CreateMode)
  | dropTable (model : Model)
  | existsTable (model : Model)
  | tableExists (table : String)
  /-- Runs a statement for its rows. -/
  | query (statement : Statement)
  /-- Runs a statement for its effect. -/
  | run (statement : Statement)
  | batch (sql : String)
  | begin (mode : Option μ)
  | commit
  | rollback
  | close
  | inTransaction
  | isClosed
  | dialect
  | serverVersion
  | versionNumber

mutual

/-- An operation or a transaction. -/
inductive Call (μ : Type) where
  | operation (operation : Operation μ)
  /-- Begins a transaction, in some way or in the usual one, and runs a body in
  it that ends as given unless an error ends it before. -/
  | transaction (mode : Option μ) (body : Program μ) (ending : Outcome Failure Unit)
  /-- Runs a body in the transaction that is open. -/
  | continuation (body : Program μ) (ending : Outcome Failure Unit)

/-- Calls in order. Where a call `propagates`, its error ends the program. -/
inductive Program (μ : Type) where
  | done
  | step (call : Call μ) (propagates : Bool) (rest : Program μ)

end

/-- What a call answers when it succeeds. -/
inductive Reply where
  | done
  | flag (b : Bool)
  | words (text : String)
  | affected (count : UInt64)
  | statement (statement : Statement)
  /-- The phases that a relation went through. -/
  | phases (phases : List Phase)
  | table (rows : Rows)
  | record (model : Model) (entry : Option (Record model.fields))
  /-- What executing a relation answered. -/
  | answer (answer : Answer)
  | version (text : String)
  | versionNumber (number : Int64)

/-- What became of a call, and the traffic of type `ε` and the traces since the
end of the last call. -/
inductive Report (ε : Type) where
  | mk (outcome : Outcome Failure Reply) (phase : Option Phase) (body : Option (List (Report ε)))
    (sent : List ε) (traces : List Trace)

namespace Report

variable {ε : Type}

/-- How the call ended. -/
def outcome : Report ε → Outcome Failure Reply
  | mk outcome .. => outcome

/-- The error of the library that the call answered. -/
def error? (report : Report ε) : Option Error :=
  match report.outcome with
  | .failed (.library error) => some error
  | _ => none

end Report

end TypedQuery.Session

import TypedQuery.Adaptor.Transaction

/-!
# Scripted adaptors

A connection without a backend: its answers are prepared in advance, one list
for each operation, and it keeps what it was sent. When a list runs out the
operation succeeds with an empty answer.
-/

namespace TypedQuery

/-- What a scripted connection was sent. -/
inductive Sent where
  | query (statement : Statement)
  | execute (statement : Statement)
  | batch (sql : String)
  | begin
  | commit
  | rollback
  | exists (table : String)
  deriving DecidableEq

/-- A prepared end of a transaction: it may fail, and it may leave the
transaction open. -/
structure CommitReply where
  fault : Option Error
  staysOpen : Bool
  deriving DecidableEq

/-- A connection with prepared answers. -/
structure Scripted where
  dialect : Dialect
  queries : List (Result Rows) := []
  executions : List (Result UInt64) := []
  batches : List (Result Unit) := []
  begins : List (Result Unit) := []
  commits : List CommitReply := []
  rollbacks : List (Result Unit) := []
  tables : List (Result Bool) := []
  inTransaction : Bool := false
  closed : Bool := false
  /-- What was sent, in order. -/
  sent : List Sent := []
  /-- What was reported, in order. -/
  traces : List Trace := []

namespace Scripted

def note (script : Scripted) (sent : Sent) : Scripted :=
  { script with sent := script.sent ++ [sent] }

/-- The first prepared answer, or the one for a list that ran out. -/
def next {α : Type} (exhausted : α) : List α → α × List α
  | [] => (exhausted, [])
  | reply :: replies => (reply, replies)

/-- Sends a statement and takes the next rows. -/
def query (statement : Statement) : Action Scripted Rows := fun script =>
  let (reply, rest) := next (.ok ⟨[], []⟩) script.queries
  (reply, { script.note (.query statement) with queries := rest })

/-- Sends a statement and takes the next number of rows. -/
def execute (statement : Statement) : Action Scripted UInt64 := fun script =>
  let (reply, rest) := next (.ok 0) script.executions
  (reply, { script.note (.execute statement) with executions := rest })

/-- Sends statements without values. -/
def executeBatch (sql : String) : Action Scripted Unit := fun script =>
  let (reply, rest) := next (.ok ()) script.batches
  (reply, { script.note (.batch sql) with batches := rest })

/-- Opens a transaction, unless one is open or the next answer refuses. -/
def begin : Action Scripted Unit := fun script =>
  if script.inTransaction then (.error Adaptor.transactionOpen, script)
  else
    let (reply, rest) := next (.ok ()) script.begins
    (reply, { script.note .begin with
      begins := rest
      inTransaction := reply.toOption.isSome })

/-- Ends the transaction, unless the next answer leaves it open. -/
def commit : Action Scripted Unit := fun script =>
  let (reply, rest) := next ⟨none, false⟩ script.commits
  let result := match reply.fault with
    | some error => .error error
    | none => .ok ()
  (result, { script.note .commit with
    commits := rest
    inTransaction := script.inTransaction && reply.staysOpen })

/-- Ends the transaction, also when the next answer is a failure. -/
def rollback : Action Scripted Unit := fun script =>
  let (reply, rest) := next (.ok ()) script.rollbacks
  (reply, { script.note .rollback with
    rollbacks := rest
    inTransaction := false })

def tableExists (table : String) : Action Scripted Bool := fun script =>
  let (reply, rest) := next (.ok false) script.tables
  (reply, { script.note (.exists table) with tables := rest })

/-- Closes the connection, which matters to nothing but `closed`. -/
def close : Action Scripted Unit := fun script =>
  (.ok (), { script with closed := true })

def emit (trace : Trace) (script : Scripted) : Scripted :=
  { script with traces := script.traces ++ [trace] }

instance : Adaptor Scripted where
  dialect := Scripted.dialect
  query := query
  execute := execute
  executeBatch := executeBatch
  begin := begin
  commit := commit
  rollback := rollback
  inTransaction := Scripted.inTransaction
  close := close
  isClosed := Scripted.closed
  serverVersion := pure "scripted"
  versionNumber := pure 0
  tableExists := tableExists
  emit := emit

end Scripted

end TypedQuery

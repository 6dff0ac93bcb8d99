import TypedQuery.Postgres.Server

/-!
# Scripted servers

A server whose answers are prepared in advance, one for each statement and one
for each batch, and which keeps what it was sent. When its answers run out
statements affect nothing and batches succeed.
-/

namespace TypedQuery.Postgres

/-- What a server was sent. -/
inductive ServerEvent where
  | startup (params : List (String × String))
  | password (password : Bytes)
  | prepare (sql : String)
  | bind (values : List (Option Bytes))
  | simple (sql : String)
  deriving DecidableEq

/-- The answer to one statement. -/
structure StatementReply where
  params : List WireType := []
  columns : List (String × WireType) := []
  rows : List (List (Option Bytes)) := []
  /-- The words that the server ends its answer with. -/
  tag : String := "SELECT 0"
  /-- Refuses to prepare the statement. -/
  refusal : Option ServerFault := none
  /-- Refuses to run the statement. -/
  failure : Option ServerFault := none
  deriving DecidableEq

/-- A server with prepared answers. -/
structure ScriptedServer where
  statements : List StatementReply := []
  batches : List (Option ServerFault) := []
  asksPassword : Bool := false
  refusal : Option ServerFault := none
  /-- The answer to the statement that was prepared last. -/
  current : StatementReply := {}
  /-- What was sent, in order. -/
  sent : List ServerEvent := []

namespace ScriptedServer

def note (event : ServerEvent) (server : ScriptedServer) : ScriptedServer :=
  { server with sent := server.sent ++ [event] }

/-- The settings that open a session. -/
def startupParams (target : Target) : List (String × String) :=
  [("client_encoding", "UTF8")] ++
    [("user", target.user), ("database", target.database), ("options", target.options),
      ("application_name", target.applicationName)].filterMap fun (key, value) =>
        value.map (key, ·)

/-- Opens a session, after a password if one is asked for. -/
def start (target : Target) : ExceptT ConnectFault (StateM ScriptedServer) Unit := fun server =>
  let server := server.note (.startup (startupParams target))
  match server.asksPassword, target.password with
  | true, none => (.error .inconsistent, server)
  | true, some password => admitted (server.note (.password password))
  | false, _ => admitted server
where
  /-- Refuses the session if that is the prepared answer. -/
  admitted (server : ScriptedServer) : Except ConnectFault Unit × ScriptedServer :=
    match server.refusal with
    | some fault => (.error (.refused fault), server)
    | none => (.ok (), server)

/-- Prepares a statement by taking the next answer. -/
def prepare (sql : String) : ServerAction ScriptedServer Prepared := fun server =>
  let server := server.note (.prepare sql)
  let reply := server.statements.headD {}
  let server := { server with statements := server.statements.tail, current := reply }
  match reply.refusal with
  | some fault => (.error fault, server)
  | none => (.ok ⟨reply.params, reply.columns⟩, server)

/-- The number that ends a tag; zero when it ends otherwise. -/
def affectedCount (tag : String) : UInt64 :=
  match (tag.splitOn " ").getLast?.bind fun word => Digits.readInteger? word.toList with
  | some i => UInt64.ofNat i.toNat
  | none => 0

/-- Runs the statement that was prepared last. -/
def run (_ : Prepared) (values : List (Option Bytes)) : ServerAction ScriptedServer Response :=
  fun server =>
    let server := server.note (.bind values)
    match server.current.failure with
    | some fault => (.error fault, server)
    | none => (.ok ⟨server.current.rows, affectedCount server.current.tag⟩, server)

/-- Runs statements without values by taking the next answer. -/
def simple (sql : String) : ServerAction ScriptedServer Unit := fun server =>
  let server := server.note (.simple sql)
  let reply := server.batches.headD none
  let server := { server with batches := server.batches.tail }
  match reply with
  | some fault => (.error fault, server)
  | none => (.ok (), server)

instance : Server ScriptedServer where
  start := start
  prepare := prepare
  run := run
  simple := simple
  stop _ := .ok ()
  hasEnded _ := false

end ScriptedServer

end TypedQuery.Postgres

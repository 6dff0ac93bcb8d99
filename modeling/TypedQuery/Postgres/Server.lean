import TypedQuery.Adaptor.Basic
import TypedQuery.Postgres.Target
import TypedQuery.Postgres.WireType

/-!
# Servers

What a connection to PostgreSQL needs of the server behind it. A statement is
prepared first, which tells the types of its parameters and columns, and then
run with the bytes of its values.
-/

namespace TypedQuery.Postgres

/-- A statement as the server understood it. -/
structure Prepared where
  params : List WireType
  /-- The name and the type of each column. -/
  columns : List (String × WireType)
  deriving DecidableEq

/-- What running a statement answers. -/
structure Response where
  rows : List (List (Option Bytes))
  affected : UInt64
  deriving DecidableEq

/-- What the server refuses something with. -/
structure ServerFault where
  code : String
  message : String
  deriving DecidableEq, Repr

namespace ServerFault

def toError (fault : ServerFault) : Error :=
  ⟨.query, fault.message ++ " (" ++ fault.code ++ ")"⟩

end ServerFault

/-- Why no session was opened. -/
inductive ConnectFault where
  /-- The connection string cannot be read. -/
  | unreadable
  /-- What is known about the connection does not fit together. -/
  | inconsistent
  /-- No server answers. -/
  | unreachable
  /-- The server answered and refused. -/
  | refused (fault : ServerFault)
  deriving DecidableEq, Repr

namespace ConnectFault

/-- The fault in words. What a server says when it refuses is not quoted. -/
def message : ConnectFault → String
  | unreadable => "invalid connection string"
  | inconsistent => "invalid configuration"
  | unreachable => "error connecting to server"
  | refused _ => "db error"

end ConnectFault

/-- A computation on a server that may fail; what it did stays done. -/
abbrev ServerAction (ς α : Type) : Type := ExceptT ServerFault (StateM ς) α

/-- A server that one session is open on, or may be opened on. -/
class Server (ς : Type) where
  /-- Opens a session. -/
  start : Target → ExceptT ConnectFault (StateM ς) Unit
  prepare : String → ServerAction ς Prepared
  /-- Runs a prepared statement with the bytes of its values. -/
  run : Prepared → List (Option Bytes) → ServerAction ς Response
  /-- Runs statements without values. -/
  simple : String → ServerAction ς Unit
  /-- Ends the session; the text tells what went wrong with that. -/
  stop : ς → Except String Unit
  /-- True when the session has ended by itself. -/
  hasEnded : ς → Bool

/-- The servers that can be reached: what answers at a target, if anything. -/
abbrev Network (ς : Type) : Type := Target → Option ς

end TypedQuery.Postgres

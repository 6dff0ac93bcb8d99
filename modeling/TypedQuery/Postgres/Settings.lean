import TypedQuery.Inspect
import TypedQuery.Setting

/-!
# Settings of a connection

Where a server is, who connects and how. Passwords are kept out of structural
texts.
-/

namespace TypedQuery.Postgres

/-- Where a database is. -/
structure Endpoint where
  host : String
  port : Nat
  database : String
  deriving DecidableEq, Repr

/-- Who connects. -/
structure Auth where
  user : String
  password : Option String
  deriving DecidableEq, Repr

/-- How a session is set up. -/
structure Options where
  /-- Options of the server's command line. -/
  options : Option String
  applicationName : Option String
  /-- In seconds. -/
  connectTimeout : Option Nat
  deriving DecidableEq, Repr

def optionalTextSetting : Option String → Setting
  | none => .null
  | some s => .text s

namespace Endpoint

/-- The port of a server when none is given. -/
def defaultPort : Nat := 5432

def portBound : Nat := 2 ^ (16 : Nat)

/-- A database on the default port. -/
def of (host database : String) : Endpoint :=
  ⟨host, defaultPort, database⟩

/-- Reads an endpoint; only the port may be missing, and only in a table. -/
def ofSetting? (setting : Setting) : Option Endpoint := do
  match ← setting.fullEntries? ["host", "port", "db_name"] with
  | [host, port, database] =>
    return ⟨← Setting.text? host, ← Setting.natural? defaultPort portBound port,
      ← Setting.text? database⟩
  | _ => none

def toSetting (endpoint : Endpoint) : Setting :=
  .table [("host", .text endpoint.host), ("port", .integer endpoint.port),
    ("db_name", .text endpoint.database)]

def inspect (endpoint : Endpoint) : Inspected :=
  .fields "Endpoint" [("host", .quoted endpoint.host), ("port", .natural endpoint.port),
    ("db_name", .quoted endpoint.database)]

def target (endpoint : Endpoint) : String :=
  endpoint.host ++ ":" ++ Digits.naturalText endpoint.port ++ "/" ++ endpoint.database

end Endpoint

namespace Auth

/-- Reads who connects; only the password may be missing, and only in a
table. -/
def ofSetting? (setting : Setting) : Option Auth := do
  match ← setting.fullEntries? ["user", "password"] with
  | [user, password] => return ⟨← Setting.text? user, ← Setting.optionalText? password⟩
  | _ => none

/-- Writes who connects. -/
def toSetting (auth : Auth) : Setting :=
  .table [("user", .text auth.user), ("password", optionalTextSetting auth.password)]

/-- Who connects, with stars for a password. -/
def inspect (auth : Auth) : Inspected :=
  .fields "Auth" [("user", .quoted auth.user),
    ("password", .option (fun _ => .quoted "***") auth.password)]

end Auth

namespace Options

def timeoutBound : Nat := 2 ^ (64 : Nat)

/-- Reads options; each may be missing. -/
def ofSetting? (setting : Setting) : Option Options := do
  match ← setting.entries? ["options", "application_name", "connect_timeout"] with
  | [options, name, timeout] =>
    return ⟨← Setting.optionalText? options, ← Setting.optionalText? name,
      ← Setting.optionalNatural? timeoutBound timeout⟩
  | _ => none

def toSetting (options : Options) : Setting :=
  .table [("options", optionalTextSetting options.options),
    ("application_name", optionalTextSetting options.applicationName),
    ("connect_timeout", match options.connectTimeout with
      | none => .null
      | some seconds => .integer seconds)]

def inspect (options : Options) : Inspected :=
  .fields "Options" [("options", .option .quoted options.options),
    ("application_name", .option .quoted options.applicationName),
    ("connect_timeout", .option .natural options.connectTimeout)]

end Options

end TypedQuery.Postgres

import TypedQuery.Bytes
import TypedQuery.Timestamp.Text
import TypedQuery.Postgres.Settings

/-!
# Connection strings

Where and how to connect can also be given by one text: pairs of keywords and
values, or a URL. Keywords are checked one by one; what they add up to is
checked when the connection is made.
-/

namespace TypedQuery.Postgres

/-- A host: a name, or the path of a socket, which may be any bytes. -/
inductive Host where
  | named (name : String)
  | socket (path : Bytes)
  deriving DecidableEq, Repr

/-- The host that bytes denote: a path from the root, or a name in UTF-8. -/
def Host.ofBytes? (bytes : Bytes) : Option Host :=
  if bytes.head? = some '/'.toUInt8 then some (.socket bytes)
  else (Utf8.decode bytes).toOption.map .named

def Host.ofText (text : String) : Host :=
  if text.startsWith "/" then .socket (Utf8.encode text) else .named text

/-- What is known about a connection to make. -/
structure Target where
  user : Option String := none
  password : Option Bytes := none
  database : Option String := none
  options : Option String := none
  applicationName : Option String := none
  hosts : List Host := []
  /-- Addresses that stand in for host names. -/
  addresses : List String := []
  ports : List Nat := []
  deriving DecidableEq, Repr

namespace Target

/-- The connection that settings describe. -/
def ofSettings (endpoint : Endpoint) (auth : Option Auth) (options : Option Options) : Target :=
  { user := auth.map Auth.user
    password := (auth.bind Auth.password).map Utf8.encode
    database := some endpoint.database
    options := options.bind Options.options
    applicationName := options.bind Options.applicationName
    hosts := [Host.ofText endpoint.host]
    ports := [endpoint.port] }

/-- True when the hosts, addresses and ports fit each other. -/
def isConsistent (target : Target) : Bool :=
  let hostCount := if target.hosts.isEmpty then target.addresses.length else target.hosts.length
  hostCount ≠ 0 &&
    (target.hosts.isEmpty || target.addresses.isEmpty ||
      target.hosts.length == target.addresses.length) &&
    (target.ports.length ≤ 1 || target.ports.length == hostCount)

/-! ## Values of keywords -/

/-- A number from zero up to a bound, with an optional plus sign. -/
def readBounded? (bound : Nat) (text : String) : Option Nat :=
  match Digits.readInteger? text.toList with
  | some i => if 0 ≤ i ∧ i < bound ∧ !text.startsWith "-" then some i.toNat else none
  | none => none

/-- A number of sixty-four bits with a sign. -/
def isLong (text : String) : Bool :=
  match Digits.readInteger? text.toList with
  | some i => -2 ^ (63 : Nat) ≤ i && i < 2 ^ (63 : Nat)
  | none => false

/-- A byte in decimal, without leading zeros. -/
def isOctet (text : String) : Bool :=
  let digits := text.toList
  !digits.isEmpty && digits.all Char.isDigit && Digits.value digits < 256 &&
    Digits.natural (Digits.value digits) == digits

/-- An address of four bytes. -/
def isAddress4 (text : String) : Bool :=
  let parts := text.splitOn "."
  parts.length == 4 && parts.all isOctet

/-- Up to four hexadecimal digits. -/
def isGroup (text : String) : Bool :=
  !text.isEmpty && text.length ≤ 4 &&
    text.toList.all fun c => c.isDigit || ('a' ≤ c.toLower && c.toLower ≤ 'f')

/-- The number of groups that parts of an address stand for; the last part may
be an address of four bytes, which stands for two. -/
def groupCount? (parts : List String) : Option Nat :=
  match parts.reverse with
  | [] => some 0
  | last :: earlier =>
    if !earlier.all isGroup then none
    else if isGroup last then some parts.length
    else if isAddress4 last then some (parts.length + 1)
    else none

/-- An address of eight groups, of which one run of zeros may be left out. -/
def isAddress6 (text : String) : Bool :=
  let count (part : String) : Option Nat :=
    if part.isEmpty then some 0 else groupCount? (part.splitOn ":")
  match text.splitOn "::" with
  | [whole] => count whole == some 8
  | [before, after] =>
    match count before, count after with
    | some a, some b => a + b ≤ 7 && !(before.splitOn ":").any isAddress4
    | _, _ => false
  | _ => false

def isAddress (text : String) : Bool :=
  isAddress4 text || isAddress6 text

/-- The words that keywords of a closed choice accept. -/
def choices : List (String × List String) :=
  [("sslmode", ["disable", "prefer", "require"]),
    ("sslnegotiation", ["postgres", "direct"]),
    ("target_session_attrs", ["any", "read-write", "read-only"]),
    ("channel_binding", ["disable", "prefer", "require"]),
    ("load_balance_hosts", ["disable", "random"])]

/-- The keywords whose values are numbers that matter to nothing here. -/
def numeric : List (String × (String → Bool)) :=
  [("connect_timeout", isLong), ("tcp_user_timeout", isLong),
    ("keepalives", fun text => (readBounded? (2 ^ (64 : Nat)) text).isSome),
    ("keepalives_idle", isLong), ("keepalives_interval", isLong),
    ("keepalives_retries", fun text => (readBounded? (2 ^ (32 : Nat)) text).isSome)]

/-- The port that a text denotes; an empty one stands for the default. -/
def readPort? (text : String) : Option Nat :=
  if text.isEmpty then some Endpoint.defaultPort else readBounded? Endpoint.portBound text

/-- Adds a keyword with its value; `none` for unknown keywords and for values
that the keyword does not accept. -/
def add? (target : Target) (keyword value : String) : Option Target :=
  match keyword with
  | "user" => some { target with user := some value }
  | "password" => some { target with password := some (Utf8.encode value) }
  | "dbname" => some { target with database := some value }
  | "options" => some { target with options := some value }
  | "application_name" => some { target with applicationName := some value }
  | "host" => some { target with hosts := target.hosts ++ (value.splitOn ",").map Host.ofText }
  | "hostaddr" =>
    let addresses := value.splitOn ","
    if addresses.all isAddress then
      some { target with addresses := target.addresses ++ addresses }
    else none
  | "port" => do
    let ports ← (value.splitOn ",").mapM readPort?
    return { target with ports := target.ports ++ ports }
  | _ =>
    match choices.lookup keyword, numeric.lookup keyword with
    | some words, _ => if words.contains value then some target else none
    | _, some accepts => if accepts value then some target else none
    | none, none => none

/-! ## Keywords and values -/

/-- The characters of a value up to a character that ends it; a backslash takes
the next character as it is. Gives the value and the rest, which starts with
the end. -/
def readValue (ends : Char → Bool) : List Char → List Char × List Char
  | [] => ([], [])
  | '\\' :: c :: rest =>
    let (value, after) := readValue ends rest
    (c :: value, after)
  | ['\\'] => ([], [])
  | c :: rest =>
    if ends c then ([], c :: rest)
    else
      let (value, after) := readValue ends rest
      (c :: value, after)

/-- Reads the pairs of a text; `fuel` bounds their number. -/
def readPairs? (target : Target) (chars : List Char) : Nat → Option Target
  | 0 => none
  | fuel + 1 =>
    let chars := chars.dropWhile isBlank
    let keyword := chars.takeWhile fun c => !isBlank c && c != '='
    if keyword.isEmpty then some target
    else
      match (chars.drop keyword.length).dropWhile isBlank with
      | '=' :: rest =>
        match rest.dropWhile isBlank with
        | '\'' :: quoted =>
          match readValue (· == '\'') quoted with
          | (value, '\'' :: after) => do
            let target ← target.add? (String.ofList keyword) (String.ofList value)
            target.readPairs? after fuel
          | _ => none
        | plain =>
          match readValue isBlank plain with
          | ([], _) => none
          | (value, after) => do
            let target ← target.add? (String.ofList keyword) (String.ofList value)
            target.readPairs? after fuel
      | _ => none

/-! ## URLs -/

/-- Replaces each percent sign and two hexadecimal digits by the byte they
denote. -/
def percentDecode : Bytes → Bytes
  | 0x25 :: high :: low :: rest =>
    match Hex.digitValue? high, Hex.digitValue? low with
    | some h, some l => (h <<< 4 ||| l) :: percentDecode rest
    | _, _ => 0x25 :: percentDecode (high :: low :: rest)
  | byte :: rest => byte :: percentDecode rest
  | [] => []

/-- The bytes that a part of a URL stands for. -/
def unescapeBytes (chars : List Char) : Bytes :=
  percentDecode (Utf8.encode (String.ofList chars))

/-- The text that a part of a URL stands for. -/
def unescape? (chars : List Char) : Option String :=
  (Utf8.decode (unescapeBytes chars)).toOption

/-- The characters before the first that passes a test, and the rest from it
on, if there is one. -/
def splitAt? (test : Char → Bool) (chars : List Char) : Option (List Char × List Char) :=
  let before := chars.takeWhile fun c => !test c
  if before.length < chars.length then some (before, chars.drop before.length) else none

/-- Adds a host of a URL. It is one host, also when it holds commas. -/
def addHost? (target : Target) (chars : List Char) : Option Target :=
  (Host.ofBytes? (unescapeBytes chars)).map fun host =>
    { target with hosts := target.hosts ++ [host] }

def splitHost? (chars : List Char) : Option (List Char × Option (List Char)) :=
  match chars with
  | '[' :: rest => do
    match ← splitAt? (· == ']') rest with
    | (host, _ :: ':' :: port) => return (host, some port)
    | (host, [_]) => return (host, none)
    | _ => none
  | _ =>
    match splitAt? (· == ':') chars with
    | some (host, _ :: port) => some (host, some port)
    | _ => some (chars, none)

def addHosts? (target : Target) : List String → Option Target
  | [] => some target
  | part :: parts => do
    let (host, port) ← splitHost? part.toList
    let target ← target.addHost? host
    let port ← match port with
      | some port => unescape? port
      | none => some (Digits.naturalText Endpoint.defaultPort)
    let target ← target.add? "port" port
    target.addHosts? parts

/-- Adds the parameters of a URL; `fuel` bounds their number. -/
def addParameters? (target : Target) (chars : List Char) : Nat → Option Target
  | 0 => none
  | fuel + 1 =>
    if chars.isEmpty then some target
    else do
      let (keyword, rest) ← splitAt? (· == '=') chars
      let keyword ← unescape? keyword
      let rest := rest.drop 1
      let (value, after) := (splitAt? (· == '&') rest).getD (rest, [])
      let target ←
        if keyword = "host" then target.addHost? value
        else target.add? keyword (← unescape? value)
      target.addParameters? (after.drop 1) fuel

/-- Takes the user and the password in front of an at sign, if there is one. -/
def takeCredentials? (target : Target) (chars : List Char) : Option (Target × List Char) :=
  match splitAt? (· == '@') chars with
  | none => some (target, chars)
  | some (credentials, rest) => do
    let (user, password) := (splitAt? (· == ':') credentials).getD (credentials, [])
    let user ← unescape? user
    let password := match password with
      | [] => none
      | _ :: password => some (unescapeBytes password)
    return ({ target with user := some user, password }, rest.drop 1)

/-- Takes the hosts in front of a slash or a question mark. -/
def takeHosts? (target : Target) (chars : List Char) : Option (Target × List Char) :=
  let (hosts, rest) := (splitAt? (fun c => c == '/' || c == '?') chars).getD (chars, [])
  if hosts.isEmpty then some (target, rest)
  else (target.addHosts? ((String.ofList hosts).splitOn ",")).map (·, rest)

/-- Takes the database after a slash, if there is one. -/
def takeDatabase? (target : Target) : List Char → Option (Target × List Char)
  | '/' :: chars =>
    let (database, rest) := (splitAt? (· == '?') chars).getD (chars, [])
    if database.isEmpty then some (target, rest)
    else (unescape? database).map fun database =>
      ({ target with database := some database }, rest)
  | chars => some (target, chars)

/-- Reads a URL after its scheme: credentials, hosts, database and
parameters. -/
def readUrl? (chars : List Char) : Option Target := do
  let (target, chars) ← takeCredentials? {} chars
  let (target, chars) ← target.takeHosts? chars
  let (target, chars) ← target.takeDatabase? chars
  match chars with
  | '?' :: rest => target.addParameters? rest (rest.length + 1)
  | _ => some target

/-- The schemes of URLs. -/
def schemes : List String := ["postgres://", "postgresql://"]

def ofText? (text : String) : Option Target :=
  match schemes.find? fun scheme => text.startsWith scheme with
  | some scheme => readUrl? (text.toList.drop scheme.length)
  | none => ({} : Target).readPairs? text.toList (text.length + 1)

end Target

end TypedQuery.Postgres

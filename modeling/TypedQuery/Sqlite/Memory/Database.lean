import TypedQuery.Sqlite.Engine
import TypedQuery.Sqlite.Memory.Command
import TypedQuery.Sqlite.Memory.RealText

/-!
# An engine in memory

A database of tables held in memory, with transactions by keeping the database
as it was when one began. Statements are checked against the tables before they
do anything, so a statement that fails has no effect.
-/

namespace TypedQuery.Sqlite.Memory

/-- A table and its rows. -/
structure Table where
  name : String
  columns : List String
  rows : List (List Storage)
  deriving DecidableEq

/-- The tables in the order of their creation. -/
structure Database where
  tables : List Table
  deriving DecidableEq

/-- An engine: the database, how it was when the open transaction began, and
the number of rows that the last change affected. -/
structure State where
  current : Database
  saved : Option Database
  changes : UInt64
  deriving DecidableEq

namespace Database

/-- Equality of names: ASCII letters are equal in both cases. -/
def sameName (a b : String) : Bool :=
  a.toList.map Char.toLower == b.toList.map Char.toLower

def catalogue (database : Database) : Table :=
  ⟨"sqlite_master", ["type", "name"],
    database.tables.map fun table =>
      [.text (Utf8.encode "table"), .text (Utf8.encode table.name)]⟩

def table? (database : Database) (name : String) : Option Table :=
  (database.catalogue :: database.tables).find? fun table => sameName table.name name

def create (database : Database) (table : Table) : Database :=
  ⟨database.tables ++ [table]⟩

def drop (database : Database) (name : String) : Database :=
  ⟨database.tables.filter fun table => !sameName table.name name⟩

def setRows (database : Database) (name : String) (rows : List (List Storage)) : Database :=
  ⟨database.tables.map fun table =>
    if sameName table.name name then { table with rows } else table⟩

end Database

/-- The table in which counting columns keep their numbers. -/
def sequenceTable : Table :=
  ⟨"sqlite_sequence", ["name", "seq"], []⟩

/-! ## Messages -/

/-- A message about a place in a statement. -/
def located (message : String) (source : List Char) (start : Nat) : String :=
  message ++ " in " ++ String.ofList source ++ " at offset "
    ++ Digits.naturalText (String.ofList (source.take start)).utf8ByteSize

def noSuchTable (name : String) : String :=
  "no such table: " ++ name

/-- The message for a statement that cannot be read from `rest` on. -/
def syntaxMessage (source : List Char) (rest : List Token) : String :=
  match rest with
  | token :: _ => located ("near \"" ++ token.text ++ "\": syntax error") source token.start
  | [] => located "incomplete input" source source.length

/-- A statement got another number of values than it takes. -/
def wrongCount (given needed : Nat) : String :=
  "Wrong number of parameters passed to query. Got " ++ Digits.naturalText given
    ++ ", needed " ++ Digits.naturalText needed

/-! ## Evaluating -/

def cell (columns : List String) (row : List Storage) (name : String) : Storage :=
  (((columns.zip row).find? fun (column, _) => Database.sameName column name).map
    Prod.snd).getD .null

def eval (values : List Storage) (count : Nat) (columns : List String) (row : List Storage) :
    Expr → Storage
  | .placeholder index => values.getD (index - 1) .null
  | .literal value => value
  | .column name => cell columns row name
  | .countRows => .integer (Int64.ofNat count)
  | .castText value =>
    match eval values count columns row value with
    | .null => .null
    | .integer i => .text (Utf8.encode (Digits.integerText i.toInt))
    | .real r => .text (Utf8.encode (realText r))
    | .text bytes => .text bytes
    | .blob bytes => .text bytes

/-- True when a row has the values that filters ask for. -/
def satisfies (values : List Storage) (columns : List String) (filters : Filters)
    (row : List Storage) : Bool :=
  filters.all fun (name, expr) =>
    let wanted := eval values 0 columns row expr
    wanted ≠ .null && cell columns row name == wanted

/-- A result from checking or running a statement. -/
abbrev Checked (α : Type) : Type := Except String α

def find (database : Database) (name : String) : Checked Table :=
  match database.table? name with
  | some table => .ok table
  | none => .error (noSuchTable name)

def checkOutputs (source : List Char) (columns : List String) : List Output → Checked Unit
  | [] => .ok ()
  | output :: outputs =>
    match output.expr with
    | .column name =>
      if columns.any (Database.sameName name) then checkOutputs source columns outputs
      else .error (located ("no such column: " ++ name) source output.start)
    | _ => checkOutputs source columns outputs

def outputTitle (columns : List String) (output : Output) : String :=
  match output.expr with
  | .column name =>
    if Database.sameName output.title name then
      (columns.find? (Database.sameName name)).getD output.title
    else output.title
  | _ => output.title

/-- Computes the columns of a query over the rows of a table. Counting rows
makes one row of them all. -/
def project (values : List Storage) (table : Table) (outputs : List Output) : StoredRows :=
  let titles := outputs.map (outputTitle table.columns)
  let count := table.rows.length
  let evalRow := fun row =>
    outputs.map fun output => eval values count table.columns row output.expr
  if outputs.any fun output => output.expr == .countRows then ⟨titles, [evalRow []]⟩
  else ⟨titles, table.rows.map evalRow⟩

def select (database : Database) (source : List Char) (values : List Storage)
    (outputs : Option (List Output)) (table : Option String) (filters : Filters) :
    Checked StoredRows := do
  let drawn ← match table with
    | some name => find database name
    | none => pure ⟨"", [], [[]]⟩
  let rows := drawn.rows.filter (satisfies values drawn.columns filters)
  match outputs with
  | none => return ⟨drawn.columns, rows⟩
  | some outputs =>
    checkOutputs source drawn.columns outputs
    return project values { drawn with rows } outputs

def createTable (database : Database) (source : List Char) (table : TableText) :
    Checked Database :=
  if (database.table? table.name).isSome then
    if table.ifNotExists then .ok database
    else
      .error (located ("table " ++ table.written ++ " already exists") source table.start)
  else if 1 < table.primaryKeys then
    .error ("table \"" ++ table.name ++ "\" has more than one primary key")
  else
    let created := database.create ⟨table.name, table.columns, []⟩
    .ok (if table.counting && (created.table? sequenceTable.name).isNone then
      created.create sequenceTable else created)

/-- Checks that every row of values fits a table. -/
def checkWidths (table : Table) (rows : List (List Storage)) : Checked Unit :=
  match rows.find? fun row => row.length ≠ table.columns.length with
  | none => .ok ()
  | some row =>
    .error ("table " ++ table.name ++ " has " ++ Digits.naturalText table.columns.length
      ++ " columns but " ++ Digits.naturalText row.length ++ " values were supplied")

/-- A value as it is taken over: what is not a number becomes null. -/
def intake : Storage → Storage
  | .real r => if r.isNaN then .null else .real r
  | value => value

/-- What running a command leads to: the rows it answers, if it answers rows,
and the state after it. -/
abbrev Effect : Type := Option StoredRows × State

def runCommand (state : State) (source : List Char) (values : List Storage) :
    Command → Checked Effect
  | .begin =>
    if state.saved.isSome then .error "cannot start a transaction within a transaction"
    else .ok (none, { state with saved := some state.current })
  | .commit =>
    if state.saved.isNone then .error "cannot commit - no transaction is active"
    else .ok (none, { state with saved := none })
  | .rollback =>
    match state.saved with
    | none => .error "cannot rollback - no transaction is active"
    | some saved => .ok (none, { state with current := saved, saved := none })
  | .createTable table => do
    let database ← createTable state.current source table
    return (none, { state with current := database })
  | .dropTable name => do
    let _ ← find state.current name
    return (none, { state with current := state.current.drop name })
  | .insert name rows => do
    let table ← find state.current name
    let new := rows.map fun row => row.map (eval values 0 [] [])
    checkWidths table new
    return (none, { state with
      current := state.current.setRows name (table.rows ++ new)
      changes := UInt64.ofNat new.length })
  | .delete name filters => do
    let table ← find state.current name
    let (gone, kept) := table.rows.partition (satisfies values table.columns filters)
    return (none, { state with
      current := state.current.setRows name kept
      changes := UInt64.ofNat gone.length })
  | .select outputs table filters => do
    let rows ← select state.current source values outputs table filters
    return (some rows, state)

/-- Checks that a command names existing tables and columns, by trying it
without values. -/
def prepare (state : State) (source : List Char) (command : Command) : Checked Unit :=
  match command with
  | .begin | .commit | .rollback => .ok ()
  | _ => do
    let _ ← runCommand state source [] command

/-- The first statement of a text and the text after it; statements end at a
semicolon. There is no statement when there is nothing but blanks. -/
def splitStatement (source : List Char) : List Token × List Char :=
  let all := tokensFrom 0 source
  let statement := all.takeWhile fun token => !token.isMark ';'
  match all.drop statement.length with
  | semicolon :: _ => (statement, source.drop semicolon.stop)
  | [] => (statement, [])

/-- Reads and checks the first statement of a text. -/
def readStatement (state : State) (source : List Char) (statement : List Token) :
    Checked Command :=
  match Parser.run source statement with
  | .error rest => .error (syntaxMessage source rest)
  | .ok command => do
    prepare state source command
    return command

/-- Runs the first statement of a text with exactly the values it takes. -/
def runOne (state : State) (source : List Char) (values : List Storage) : Checked Effect :=
  match splitStatement source with
  | ([], _) => .ok (none, state)
  | (statement, _) => do
    let command ← readStatement state source statement
    let needed := command.placeholders
    if values.length ≠ needed then throw (wrongCount (min values.length (needed + 1)) needed)
    runCommand state source (values.map intake) command

/-- Runs the statements of a text in order; `fuel` bounds their number. The
state is kept up to the first failure. -/
def runAll (state : State) (source : List Char) : Nat → Checked Unit × State
  | 0 => (.ok (), state)
  | fuel + 1 =>
    match splitStatement source with
    | ([], []) => (.ok (), state)
    | ([], rest) => runAll state rest fuel
    | (statement, rest) =>
      match readStatement state source statement >>= runCommand state source [] with
      | .error message => (.error message, state)
      | .ok (_, state) => runAll state rest fuel

def query (sql : String) (values : List Storage) : EngineAction State StoredRows := fun state =>
  match runOne state sql.toList values with
  | .error message => (.error message, state)
  | .ok (some rows, state) => (.ok rows, state)
  | .ok (none, state) => (.ok ⟨[], []⟩, state)

/-- Runs a statement that answers no rows; the number of affected rows is that
of the last change. -/
def execute (sql : String) (values : List Storage) : EngineAction State UInt64 := fun state =>
  match runOne state sql.toList values with
  | .error message => (.error message, state)
  | .ok (some _, state) =>
    (.error "Execute returned results - did you mean to call query?", state)
  | .ok (none, state) => (.ok state.changes, state)

def batch (sql : String) : EngineAction State Unit := fun state =>
  runAll state sql.toList (sql.length + 1)

def State.empty : State :=
  ⟨⟨[]⟩, none, 0⟩

instance : Engine State where
  query := query
  execute := execute
  batch := batch
  autocommit state := state.saved.isNone
  version := "3.50.2"
  versionNumber := 3050002
  stop _ := .ok ()

end TypedQuery.Sqlite.Memory

import TypedQuery.Sqlite.Memory.Token
import TypedQuery.Sqlite.Storage

/-!
# Commands of the engine in memory

The statements that the engine in memory runs, read from their tokens.
-/

namespace TypedQuery.Sqlite.Memory

/-- What a query computes. -/
inductive Expr where
  | placeholder (index : Nat)
  | literal (value : Storage)
  | column (name : String)
  /-- The number of rows. -/
  | countRows
  /-- The text of a value. -/
  | castText (value : Expr)
  deriving DecidableEq

/-- A column of the answer. -/
structure Output where
  expr : Expr
  /-- The name of the column, when it is not that of a column of the table. -/
  title : String
  /-- Where the expression starts in the statement. -/
  start : Nat
  deriving DecidableEq

/-- Columns and the values that they must have. -/
abbrev Filters : Type := List (String × Expr)

/-- A definition of a table, as far as the engine looks at it. -/
structure TableText where
  name : String
  /-- The name as it is written, and where. -/
  written : String
  start : Nat
  ifNotExists : Bool
  columns : List String
  /-- How many primary keys are declared. -/
  primaryKeys : Nat
  /-- True when some column counts upwards by itself. -/
  counting : Bool
  deriving DecidableEq

/-- A statement. -/
inductive Command where
  | begin
  | commit
  | rollback
  | createTable (table : TableText)
  | dropTable (name : String)
  | insert (table : String) (rows : List (List Expr))
  | delete (table : String) (filters : Filters)
  /-- `none` for the outputs stands for all columns. -/
  | select (outputs : Option (List Output)) (table : Option String) (filters : Filters)
  deriving DecidableEq

/-! ## Reading commands -/

/-- A reader of tokens. When it fails, the tokens left start where it failed. -/
abbrev Parser (α : Type) : Type := ExceptT Unit (StateM (List Token)) α

namespace Parser

/-- True when the next token passes a test; it is then taken. -/
def accept (test : Token → Bool) : Parser Bool := fun tokens =>
  match tokens with
  | token :: rest => if test token then (.ok true, rest) else (.ok false, tokens)
  | [] => (.ok false, tokens)

/-- Takes the next token, which must pass a test. -/
def expect (test : Token → Bool) : Parser Token := fun tokens =>
  match tokens with
  | token :: rest => if test token then (.ok token, rest) else (.error (), tokens)
  | [] => (.error (), tokens)

def word (text : String) : Parser Unit := do
  let _ ← expect (·.isWord text)

/-- True when the next token is a given word; it is then taken. -/
def acceptWord (text : String) : Parser Bool :=
  accept (·.isWord text)

def mark (c : Char) : Parser Unit := do
  let _ ← expect (·.isMark c)

def name : Parser (String × Token) := do
  let token ← expect (·.name?.isSome)
  return (token.name?.getD "", token)

/-- One or more items with commas between them; `fuel` bounds their number. -/
def commaList {α : Type} (item : Parser α) : Nat → Parser (List α)
  | 0 => throw ()
  | fuel + 1 => do
    let first ← item
    if ← accept (·.isMark ',') then
      let rest ← commaList item fuel
      return first :: rest
    else return [first]

/-- The number of a placeholder as it is written. -/
def placeholderIndex (token : Token) : Nat :=
  Digits.value (token.text.toList.drop 1)

/-- Reads an expression; `fuel` bounds its depth. -/
def expr : Nat → Parser Expr
  | 0 => throw ()
  | fuel + 1 => do
    if ← acceptWord "CAST" then
      mark '('
      let value ← expr fuel
      word "AS"
      word "TEXT"
      mark ')'
      return .castText value
    else if ← acceptWord "COUNT" then
      mark '('
      mark '*'
      mark ')'
      return .countRows
    else if ← acceptWord "NULL" then return .literal .null
    else
      let token ← expect fun token => token.kind ≠ .mark
      match token.kind with
      | .placeholder => return .placeholder (placeholderIndex token)
      | .number =>
        return .literal (.integer (Int64.ofNat (Digits.value token.text.toList)))
      | .literal text => return .literal (.text (Utf8.encode text))
      | .quotedName column => return .column column
      | _ => return .column token.text

/-- The place after the last token taken since `before`. -/
def stopSince (before : List Token) (after : List Token) : Nat :=
  match before[before.length - after.length - 1]? with
  | some token => token.stop
  | none => 0

/-- Reads a column of the answer of the statement `source`. -/
def output (source : List Char) : Parser Output := do
  let before ← get
  let value ← expr before.length
  let after ← get
  let start := match before with
    | token :: _ => token.start
    | [] => 0
  if ← acceptWord "AS" then
    let (title, _) ← name
    return ⟨value, title, start⟩
  else
    let written := (source.take (stopSince before after)).drop start
    return ⟨value, String.ofList written, start⟩

/-- Reads the conditions after `WHERE`, joined by `AND`. -/
def conditions : Nat → Parser Filters
  | 0 => throw ()
  | fuel + 1 => do
    let (column, _) ← name
    mark '='
    let value ← expr fuel
    if ← acceptWord "AND" then
      let rest ← conditions fuel
      return (column, value) :: rest
    else return [(column, value)]

def filters : Parser Filters := do
  if ← acceptWord "WHERE" then conditions (← get).length else return []

def select (source : List Char) : Parser Command := do
  let outputs ←
    if ← accept (·.isMark '*') then pure none
    else some <$> commaList (output source) (← get).length
  if ← acceptWord "FROM" then
    let (table, _) ← name
    return .select outputs (some table) (← filters)
  else return .select outputs none []

/-- The tokens of the definitions in the body of a table, cut at the commas that
no inner parentheses enclose. -/
def bodyParts (depth : Nat) : List Token → List (List Token)
  | [] => [[]]
  | token :: rest =>
    if depth = 0 && token.isMark ',' then [] :: bodyParts 0 rest
    else
      let depth :=
        if token.isMark '(' then depth + 1
        else if token.isMark ')' then depth - 1
        else depth
      match bodyParts depth rest with
      | part :: parts => (token :: part) :: parts
      | [] => [[token]]

/-- How often a word stands before another one. -/
def countPairs (first second : String) : List Token → Nat
  | a :: b :: rest =>
    (if a.isWord first && b.isWord second then 1 else 0) + countPairs first second (b :: rest)
  | _ => 0

/-- The tokens between an opening parenthesis that was taken and the one that
closes it, and the tokens after that. -/
def enclosed (depth : Nat) : List Token → Option (List Token × List Token)
  | [] => none
  | token :: rest =>
    if token.isMark ')' && depth = 0 then some ([], rest)
    else
      let depth :=
        if token.isMark '(' then depth + 1
        else if token.isMark ')' then depth - 1
        else depth
      (enclosed depth rest).map fun (body, after) => (token :: body, after)

/-- Reads the rest of a table definition. -/
def createTable : Parser Command := do
  word "TABLE"
  let ifNotExists ← acceptWord "IF"
  if ifNotExists then
    word "NOT"
    word "EXISTS"
  let (table, token) ← name
  mark '('
  match enclosed 0 (← get) with
  | none =>
    set ([] : List Token)
    throw ()
  | some (body, after) =>
    set after
    let columns := (bodyParts 0 body).filterMap fun part => part.head?.bind Token.name?
    return .createTable
      { name := table, written := token.text, start := token.start, ifNotExists, columns
        primaryKeys := countPairs "PRIMARY" "KEY" body
        counting := body.any (·.isWord "AUTOINCREMENT") }

/-- Reads a row of values in parentheses. -/
def valueRow : Parser (List Expr) := do
  mark '('
  let fuel := (← get).length
  let row ← commaList (expr fuel) fuel
  mark ')'
  return row

def command (source : List Char) : Parser Command := do
  if ← acceptWord "SELECT" then select source
  else if ← acceptWord "BEGIN" then
    if ← acceptWord "DEFERRED" then return .begin
    else if ← acceptWord "IMMEDIATE" then return .begin
    else if ← acceptWord "EXCLUSIVE" then return .begin
    else return .begin
  else if ← acceptWord "COMMIT" then return .commit
  else if ← acceptWord "ROLLBACK" then return .rollback
  else if ← acceptWord "CREATE" then createTable
  else if ← acceptWord "DROP" then
    word "TABLE"
    return .dropTable (← name).1
  else if ← acceptWord "INSERT" then
    word "INTO"
    let (table, _) ← name
    word "VALUES"
    return .insert table (← commaList valueRow (← get).length)
  else
    word "DELETE"
    word "FROM"
    let (table, _) ← name
    return .delete table (← filters)

/-- Reads one statement, which nothing follows. Fails with the tokens at which
the reading stopped. -/
def run (source : List Char) (tokens : List Token) : Except (List Token) Command :=
  match command source tokens with
  | (.ok command, []) => .ok command
  | (_, rest) => .error rest

end Parser

namespace Expr

/-- The greatest number of a placeholder in an expression. -/
def placeholders : Expr → Nat
  | placeholder index => index
  | castText value => value.placeholders
  | _ => 0

end Expr

namespace Command

def exprs : Command → List Expr
  | insert _ rows => rows.flatten
  | delete _ filters => filters.map Prod.snd
  | select outputs _ filters => (outputs.getD []).map Output.expr ++ filters.map Prod.snd
  | _ => []

/-- The number of values that a statement takes. -/
def placeholders (command : Command) : Nat :=
  (command.exprs.map Expr.placeholders).foldl max 0

end Command

end TypedQuery.Sqlite.Memory

/-!
# Failures

Every failure of the library has a category, which callers branch on, and a
message, which people read. The message may quote what failed underneath: a
reader, a backend, a server.
-/

namespace TypedQuery

/-- What kind of thing went wrong. -/
inductive ErrorKind where
  /-- Text or a cell is not a value of the expected kind. -/
  | conversion
  /-- A value is well formed but outside its domain. -/
  | domain
  /-- Calls were made in an order that is not allowed. -/
  | usage
  /-- Opening, using or closing a connection failed. -/
  | connection
  /-- The backend refused a statement, or its answer cannot be read. -/
  | query
  /-- A table could not be defined, dropped or looked up. -/
  | schema
  deriving DecidableEq, Repr

namespace ErrorKind

/-- The category as it opens a displayed error. -/
def title : ErrorKind → String
  | conversion => "Conversion"
  | domain => "Domain"
  | usage => "Usage"
  | connection => "Connection"
  | query => "Query"
  | schema => "Schema"

def ofTitle? : String → Option ErrorKind
  | "Conversion" => some conversion
  | "Domain" => some domain
  | "Usage" => some usage
  | "Connection" => some connection
  | "Query" => some query
  | "Schema" => some schema
  | _ => none

theorem ofTitle?_title (kind : ErrorKind) : ofTitle? kind.title = some kind := by
  cases kind <;> rfl

end ErrorKind

/-- A category and the text that explains it. -/
structure Error where
  kind : ErrorKind
  message : String
  deriving DecidableEq, Repr

namespace Error

/-- The whole error as one line: the category, then the message. -/
def display (error : Error) : String :=
  error.kind.title ++ " error: " ++ error.message

/-- A statement failure met while defining tables is a schema failure; every
other failure keeps its category. -/
def inSchema (error : Error) : Error :=
  if error.kind = .query then { error with kind := .schema } else error

/-- Puts `context` in front of the message of a value that could not be read;
failures of any other category are left alone. -/
def withContext (context : String) (error : Error) : Error :=
  if error.kind = .conversion ∨ error.kind = .domain then
    { error with message := context ++ error.message }
  else
    error

theorem withContext_kind (context : String) (error : Error) :
    (error.withContext context).kind = error.kind := by
  unfold withContext
  split <;> rfl

end Error

/-- A value or the failure met on the way to it. -/
abbrev Result (α : Type) : Type := Except Error α

@[simp]
theorem ok_bind {ε α β : Type} (value : α) (next : α → Except ε β) :
    (Except.ok value >>= next) = next value := by
  simp only [bind, Except.bind]

/-- Two steps succeed when the first succeeds and then the second. -/
theorem bind_eq_ok_iff {ε α β : Type} {action : Except ε α} {next : α → Except ε β}
    {result : β} :
    (action >>= next) = .ok result ↔
      ∃ value, action = .ok value ∧ next value = .ok result := by
  cases action with
  | error error => simp [bind, Except.bind]
  | ok value => simp

/-- Two steps fail when the first fails, or else the second. -/
theorem bind_eq_error_iff {ε α β : Type} {action : Except ε α} {next : α → Except ε β}
    {error : ε} :
    (action >>= next) = .error error ↔
      action = .error error ∨ ∃ value, action = .ok value ∧ next value = .error error := by
  cases action with
  | error error => simp [bind, Except.bind]
  | ok value => simp

/-- A function of the value of a step succeeds when the step does. -/
theorem map_eq_ok_iff {ε α β : Type} {f : α → β} {action : Except ε α} {result : β} :
    f <$> action = .ok result ↔ ∃ value, action = .ok value ∧ f value = result := by
  cases action with
  | error error => simp [Functor.map, Except.map]
  | ok value => simp [Functor.map, Except.map]

/-- A function of the value of a step fails as the step does. -/
theorem map_eq_error_iff {ε α β : Type} {f : α → β} {action : Except ε α} {error : ε} :
    f <$> action = .error error ↔ action = .error error := by
  cases action with
  | error error => simp [Functor.map, Except.map]
  | ok value => simp [Functor.map, Except.map]

end TypedQuery

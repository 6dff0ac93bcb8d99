import TypedQuery.Digits

/-!
# Dialects

The two dialects of SQL differ in three places only: the sign of a placeholder,
an offset without a limit, and the column types of a table definition.
-/

namespace TypedQuery

/-- A dialect of SQL. -/
inductive Dialect where
  | sqlite
  | postgresql
  deriving DecidableEq, Repr

namespace Dialect

instance : Inhabited Dialect := ⟨sqlite⟩

def name : Dialect → String
  | sqlite => "sqlite"
  | postgresql => "postgresql"

def ofName? : String → Option Dialect
  | "sqlite" => some sqlite
  | "postgresql" => some postgresql
  | _ => none

/-- The dialect that a user may mean by a name, in any case. -/
def parse? (text : String) : Option Dialect :=
  let word := String.ofList (text.toList.map Char.toLower)
  if word = "sqlite" ∨ word = "sqlite3" then some sqlite
  else if word = "postgresql" ∨ word = "postgres" ∨ word = "pg" then some postgresql
  else none

/-- The message for a name that means no dialect. -/
def unknownMessage (text : String) : String :=
  "unknown dialect `" ++ text ++ "`"

def placeholderSign : Dialect → Char
  | sqlite => '?'
  | postgresql => '$'

/-- The placeholder of the parameter with a number, the first being one. -/
def placeholder (dialect : Dialect) (index : Nat) : String :=
  String.ofList (dialect.placeholderSign :: Digits.natural index)

/-- The clause that bounds the rows, with a blank before it. In one dialect an
offset must follow a limit, so a bare offset gets the limit that bounds
nothing. -/
def limitClause (dialect : Dialect) : Option UInt64 → Option UInt64 → String
  | none, none => ""
  | some limit, none => " LIMIT " ++ Digits.naturalText limit.toNat
  | some limit, some offset =>
    " LIMIT " ++ Digits.naturalText limit.toNat ++ " OFFSET " ++ Digits.naturalText offset.toNat
  | none, some offset =>
    match dialect with
    | sqlite => " LIMIT -1 OFFSET " ++ Digits.naturalText offset.toNat
    | postgresql => " OFFSET " ++ Digits.naturalText offset.toNat

theorem limitClause_some_none (dialect : Dialect) (limit : UInt64) :
    dialect.limitClause (some limit) none = " LIMIT " ++ Digits.naturalText limit.toNat :=
  rfl

theorem limitClause_some_some (dialect : Dialect) (limit offset : UInt64) :
    dialect.limitClause (some limit) (some offset) =
      " LIMIT " ++ Digits.naturalText limit.toNat ++ " OFFSET " ++
        Digits.naturalText offset.toNat :=
  rfl

theorem limitClause_sqlite (offset : UInt64) :
    sqlite.limitClause none (some offset) =
      " LIMIT -1 OFFSET " ++ Digits.naturalText offset.toNat :=
  rfl

theorem limitClause_postgresql (offset : UInt64) :
    postgresql.limitClause none (some offset) =
      " OFFSET " ++ Digits.naturalText offset.toNat :=
  rfl

end Dialect

end TypedQuery

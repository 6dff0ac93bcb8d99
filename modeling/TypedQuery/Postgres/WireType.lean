/-!
# Types of the server

The types that parameters and columns have for the server. Types that values
are never converted to or from are known by their names only.
-/

namespace TypedQuery.Postgres

/-- A type of the server. -/
inductive WireType where
  | bool
  | int2
  | int4
  | int8
  | float4
  | float8
  | numeric
  | text
  | varchar
  | bpchar
  | name
  | unknown
  | bytea
  | timestamp
  | timestamptz
  | date
  | other (typeName : String)
  deriving DecidableEq, Repr

namespace WireType

def typeName : WireType → String
  | bool => "bool"
  | int2 => "int2"
  | int4 => "int4"
  | int8 => "int8"
  | float4 => "float4"
  | float8 => "float8"
  | numeric => "numeric"
  | text => "text"
  | varchar => "varchar"
  | bpchar => "bpchar"
  | name => "name"
  | unknown => "unknown"
  | bytea => "bytea"
  | timestamp => "timestamp"
  | timestamptz => "timestamptz"
  | date => "date"
  | other typeName => typeName

def ofTypeName (typeName : String) : WireType :=
  let known := [bool, int2, int4, int8, float4, float8, numeric, text, varchar, bpchar, name,
    unknown, bytea, timestamp, timestamptz, date]
  (known.find? fun type => type.typeName == typeName).getD (other typeName)

/-- True for the types whose values are sent as plain text. -/
def isText : WireType → Bool
  | text | varchar | bpchar | name | unknown => true
  | _ => false

end WireType

end TypedQuery.Postgres

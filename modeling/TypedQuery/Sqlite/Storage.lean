import TypedQuery.Value

/-!
# Storage classes

The five shapes that SQLite stores. It has neither truth values nor timestamps:
truth values are stored as zero and one, and timestamps as text whose order is
that of time. Text read back that is not UTF-8 is kept as a byte string.
-/

namespace TypedQuery.Sqlite

/-- A value as SQLite stores it. Text is bytes that need not be UTF-8. -/
inductive Storage where
  | null
  | integer (i : Int64)
  | real (r : Binary64)
  | text (bytes : Bytes)
  | blob (bytes : Bytes)
  deriving DecidableEq

namespace Storage

def ofValue : Value → Storage
  | .null => null
  | .boolean b => integer (if b then 1 else 0)
  | .integer i => integer i
  | .real r => real r
  | .text s => text (Utf8.encode s)
  | .blob bytes => blob bytes
  | .timestamp t => text (Utf8.encode t.format)

/-- The value that a stored one is read as. -/
def toValue : Storage → Value
  | null => .null
  | integer i => .integer i
  | real r => .real r
  | text bytes =>
    match Utf8.decode bytes with
    | .ok s => .text s
    | .error _ => .blob bytes
  | blob bytes => .blob bytes

end Storage

end TypedQuery.Sqlite

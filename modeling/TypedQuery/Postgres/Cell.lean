import TypedQuery.Error
import TypedQuery.Postgres.Parameter

/-!
# Cells

A cell of a result set is read by the type of its column. Exact decimals are
integers when they have no places, and real numbers otherwise.
-/

namespace TypedQuery.Postgres.Cell

def integer? (width : Nat) (bytes : Bytes) : Option Value :=
  if bytes.length = width then some (.integer (Int64.ofInt (BigEndian.decodeInt bytes)))
  else none

def ofNumeric (numeric : Numeric) : Value :=
  match numeric.toInt64? with
  | some i => .integer i
  | none => .real numeric.toReal

/-- The timestamp of a number of microseconds since the epoch. -/
def timestamp? (bytes : Bytes) : Option Value :=
  if bytes.length = 8 then
    (Timestamp.addNanos? epoch (BigEndian.decodeInt bytes * nanosPerMicro)).map .timestamp
  else none

/-- The midnight that starts a day, given by its number since the epoch. -/
def date? (bytes : Bytes) : Option Value :=
  if bytes.length = 4 then
    (Date.ofDayNumber? (epoch.dayNumber + BigEndian.decodeInt bytes)).map fun date =>
      .timestamp ⟨date, .midnight⟩
  else none

def text? (bytes : Bytes) : Option Value :=
  (Utf8.decode bytes).toOption.map .text

/-- How the cells of a type are read; `none` for types that are not. -/
def reader? : WireType → Option (Bytes → Option Value)
  | .bool => some fun
    | [byte] => some (.boolean (byte != 0))
    | _ => none
  | .int2 => some (integer? 2)
  | .int4 => some (integer? 4)
  | .int8 => some (integer? 8)
  | .float4 => some fun bytes =>
    if bytes.length = 4 then
      some (.real (Binary32.toBinary64 ⟨UInt32.ofNat (BigEndian.decode bytes)⟩))
    else none
  | .float8 => some fun bytes =>
    if bytes.length = 8 then some (.real ⟨UInt64.ofNat (BigEndian.decode bytes)⟩) else none
  | .numeric => some fun bytes => (Numeric.decode? bytes).map ofNumeric
  | .text | .varchar | .bpchar | .name => some text?
  | .bytea => some fun bytes => some (.blob bytes)
  | .timestamp | .timestamptz => some timestamp?
  | .date => some date?
  | .unknown | .other _ => none

/-- Fails because the bytes of a cell are not of its type. -/
def malformed (index : Nat) : Error :=
  let place := Digits.naturalText index
  ⟨.conversion, "column " ++ place ++ ": error deserializing column " ++ place⟩

/-- Fails because cells of a type are not read. -/
def unsupported (index : Nat) (type : WireType) : Error :=
  ⟨.conversion,
    "column " ++ Digits.naturalText index ++ " has unsupported type " ++ type.typeName⟩

/-- Reads a cell of a type at a place of its row. -/
def read (index : Nat) (type : WireType) (cell : Option Bytes) : Result Value :=
  match reader? type, cell with
  | none, _ => .error (unsupported index type)
  | some _, none => .ok .null
  | some reader, some bytes =>
    match reader bytes with
    | some value => .ok value
    | none => .error (malformed index)

/-- Reads the cells of a row from a place on, from left to right. -/
def readFrom (index : Nat) : List WireType → List (Option Bytes) → Result (List Value)
  | type :: types, cell :: cells => do
    let value ← read index type cell
    let values ← readFrom (index + 1) types cells
    return value :: values
  | _, _ => .ok []

end TypedQuery.Postgres.Cell

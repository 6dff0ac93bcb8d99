import TypedQuery.Value
import TypedQuery.Postgres.Numeric
import TypedQuery.Postgres.WireType

/-!
# Parameters

A bound value is sent as the type that the server inferred for its
placeholder. A value that has no form in that type is not sent at all.
-/

namespace TypedQuery.Postgres

/-- The day that the server counts days and microseconds from. -/
def epoch : Date :=
  ⟨2000, 1, 1, by decide⟩

def nanosPerMicro : Nat := 1000

namespace Parameter

/-- The bytes of an integer, if it fits. -/
def integer? (width : Nat) (i : Int) : Option Bytes :=
  if BigEndian.fits width i then some (BigEndian.encodeInt width i) else none

/-- The bytes of a single precision number. -/
def single (x : Binary32) : Bytes :=
  BigEndian.encode 4 x.bits.toNat

/-- The bytes of a double precision number. -/
def double (x : Binary64) : Bytes :=
  BigEndian.encode 8 x.bits.toNat

/-- Microseconds since the epoch; what is below a microsecond is cut off towards
the epoch. -/
def micros (timestamp : Timestamp) : Int :=
  (timestamp.nanosSince epoch).tdiv nanosPerMicro

def boolean? (b : Bool) : WireType → Option Bytes
  | .bool => some [if b then 1 else 0]
  | .int2 => integer? 2 (if b then 1 else 0)
  | .int4 => integer? 4 (if b then 1 else 0)
  | .int8 => integer? 8 (if b then 1 else 0)
  | type => if type.isText then some (Utf8.encode (Value.booleanText b)) else none

def ofInteger? (i : Int64) : WireType → Option Bytes
  | .int2 => integer? 2 i.toInt
  | .int4 => integer? 4 i.toInt
  | .int8 => integer? 8 i.toInt
  | .float4 => some (single (Binary32.ofInt i.toInt))
  | .float8 => some (double (Binary64.ofInt i.toInt))
  | .numeric => some (Numeric.ofInt i.toInt).encode
  | .bool => some [if i = 0 then 0 else 1]
  | type => if type.isText then some (Utf8.encode (Digits.integerText i.toInt)) else none

def ofReal? (r : Binary64) : WireType → Option Bytes
  | .float4 => some (single (Binary32.ofBinary64 r))
  | .float8 => some (double r)
  | .numeric => (Numeric.ofReal? r).map Numeric.encode
  | type => if type.isText then some (Utf8.encode r.display) else none

def ofTimestamp? (timestamp : Timestamp) : WireType → Option Bytes
  | .timestamp | .timestamptz => integer? 8 (micros timestamp)
  | .date => integer? 4 (timestamp.date.dayNumber - epoch.dayNumber)
  | type => if type.isText then some (Utf8.encode timestamp.format) else none

/-- The bytes of a value in a type: `none` when it has none, `some none` for the
absent value, which every type has. -/
def encode? (type : WireType) : Value → Option (Option Bytes)
  | .null => some none
  | .boolean b => (boolean? b type).map some
  | .integer i => (ofInteger? i type).map some
  | .real r => (ofReal? r type).map some
  | .text s =>
    if type = .bytea ∨ type.isText then some (some (Utf8.encode s)) else none
  | .blob bytes => if type = .bytea then some (some bytes) else none
  | .timestamp t => (ofTimestamp? t type).map some

end Parameter

/-- Why the values of a statement cannot be sent. -/
inductive BindFault where
  | count (expected given : Nat)
  /-- The value at a position has no form in the type of its placeholder. -/
  | value (index : Nat)
  deriving DecidableEq, Repr

namespace BindFault

def message : BindFault → String
  | count expected given =>
    "expected " ++ Digits.naturalText expected ++ " parameters but got "
      ++ Digits.naturalText given
  | value index => "error serializing parameter " ++ Digits.naturalText index

end BindFault

namespace Parameter

/-- The bytes of values from a position on, each in the type of its
placeholder. -/
def encodeFrom (index : Nat) :
    List WireType → List Value → Except BindFault (List (Option Bytes))
  | type :: types, value :: values =>
    match encode? type value with
    | none => .error (.value index)
    | some bytes => (encodeFrom (index + 1) types values).map (bytes :: ·)
  | _, _ => .ok []

/-- The bytes of all values of a statement. Their number is checked first. -/
def encodeAll (types : List WireType) (values : List Value) :
    Except BindFault (List (Option Bytes)) :=
  if types.length = values.length then encodeFrom 0 types values
  else .error (.count types.length values.length)

end Parameter

end TypedQuery.Postgres

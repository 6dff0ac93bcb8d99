import TypedQuery.Value

/-!
# Kinds of columns

A kind says which values a column holds. Its *carrier* is the type of those
values; integers carry their bounds in the type, so only decimals have values
outside the domain that columns accept.
-/

namespace TypedQuery

/-- The machine integers that a column can hold; all fit into sixty-four bits
with a sign. -/
inductive IntegerType where
  | int8
  | int16
  | int32
  | int64
  | uint8
  | uint16
  | uint32
  deriving DecidableEq, Repr

namespace IntegerType

def bits : IntegerType → Nat
  | int8 | uint8 => 8
  | int16 | uint16 => 16
  | int32 | uint32 => 32
  | int64 => 64

/-- True when negative numbers belong to the type. -/
def signed : IntegerType → Bool
  | int8 | int16 | int32 | int64 => true
  | uint8 | uint16 | uint32 => false

def lower (type : IntegerType) : Int :=
  if type.signed then -2 ^ (type.bits - 1) else 0

def upper (type : IntegerType) : Int :=
  if type.signed then 2 ^ (type.bits - 1) - 1 else 2 ^ type.bits - 1

def name (type : IntegerType) : String :=
  (if type.signed then "i" else "u") ++ Digits.naturalText type.bits

def all : List IntegerType :=
  [int8, int16, int32, int64, uint8, uint16, uint32]

def ofName? (name : String) : Option IntegerType :=
  all.find? (·.name == name)

/-- A number of the type. -/
structure Number (type : IntegerType) where
  val : Int
  lower_le : type.lower ≤ val
  le_upper : val ≤ type.upper
  deriving DecidableEq

/-- The number of the type with a given value, if it is in range. -/
def number? (type : IntegerType) (i : Int) : Option type.Number :=
  if h : type.lower ≤ i ∧ i ≤ type.upper then some ⟨i, h.1, h.2⟩ else none

theorem number?_eq_some_iff {type : IntegerType} {i : Int} {n : type.Number} :
    type.number? i = some n ↔ n.val = i := by
  obtain ⟨val, lower_le, le_upper⟩ := n
  unfold number?
  constructor
  · intro h
    split at h
    · simp only [Option.some.injEq, Number.mk.injEq] at h
      exact h.symm
    · simp at h
  · rintro rfl
    simp [lower_le, le_upper]

end IntegerType

/-- The table that a foreign key refers to, and the column of its primary key
if it has one. -/
structure Reference where
  table : String
  key : Option String
  deriving DecidableEq, Repr

/-- What a column holds. -/
inductive Kind where
  | integer (type : IntegerType)
  /-- The primary key of a row of another table. -/
  | foreignKey (target : Reference)
  /-- Double precision numbers. -/
  | decimal
  | boolean
  | text
  | binary
  | dateTime
  deriving DecidableEq, Repr

namespace Kind

@[reducible]
def Carrier : Kind → Type
  | integer type => type.Number
  | foreignKey _ => IntegerType.int64.Number
  | decimal => Binary64
  | boolean => Bool
  | text => String
  | binary => Bytes
  | dateTime => Timestamp

instance : (kind : Kind) → DecidableEq kind.Carrier
  | integer _ => inferInstance
  | foreignKey _ => inferInstance
  | decimal => inferInstance
  | boolean => inferInstance
  | text => inferInstance
  | binary => inferInstance
  | dateTime => inferInstance

/-- Equality of values of a kind; decimals are compared as numbers. -/
def same : (kind : Kind) → kind.Carrier → kind.Carrier → Bool
  | decimal, a, b => a.sameNumber b
  | _, a, b => decide (a = b)

/-- The values that a column of the kind accepts: every value but infinite
decimals and what is not a number. -/
def InDomain : (kind : Kind) → kind.Carrier → Prop
  | decimal, value => value.isFinite = true
  | _, _ => True

end Kind

end TypedQuery

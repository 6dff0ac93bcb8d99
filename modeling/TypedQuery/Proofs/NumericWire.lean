import TypedQuery.Postgres.Numeric

/-!
# Decimals on the wire

The bytes of an exact decimal determine its sign, its places and its coefficient,
but for zero, which has one form for all signs and places.  The fields of the form
have fixed widths, and the groups of digits are found again from the groups that are
kept and the power of the first one.
-/

namespace TypedQuery

namespace BigEndian

end BigEndian

namespace Postgres.Numeric

/-- The library holds the decimal: it has few enough places and digits. -/
def IsHeld (numeric : Numeric) : Prop :=
  numeric.coefficient < coefficientBound ∧ numeric.scale ≤ maxScale

def groupsAfterPoint (numeric : Numeric) : Nat :=
  (numeric.scale + 3) / 4

/-- The groups of a decimal, the lowest first. -/
def groups (numeric : Numeric) : List Nat :=
  lowGroups (numeric.coefficient *
    10 ^ (4 * numeric.groupsAfterPoint - numeric.scale)) groupFuel

/-- What is written about a decimal. -/
structure Fields where
  weight : Int
  sign : Nat
  scale : Nat
  kept : List Nat

def fields (numeric : Numeric) : Fields :=
  if numeric.coefficient = 0 then ⟨0, 0, 0, [0]⟩
  else ⟨(numeric.groups.length : Int) - numeric.groupsAfterPoint - 1,
    if numeric.negative then negativeSign else 0, numeric.scale,
    (numeric.groups.dropWhile (· == 0)).reverse⟩

def Fields.bytes (fields : Fields) : Bytes :=
  BigEndian.encode 2 fields.kept.length ++ BigEndian.encodeInt 2 fields.weight ++
    BigEndian.encode 2 fields.sign ++ BigEndian.encode 2 fields.scale ++
    fields.kept.flatMap (BigEndian.encode 2)

/-- Every field has room in its two bytes. -/
structure Fields.HasRoom (fields : Fields) : Prop where
  weight : BigEndian.fits 2 fields.weight
  sign : fields.sign < 256 ^ (2 : Nat)
  scale : fields.scale < 256 ^ (2 : Nat)
  kept : ∀ group ∈ fields.kept, group < 256 ^ (2 : Nat)

end Postgres.Numeric

end TypedQuery

import TypedQuery.Binary64.Format

/-!
# Double precision numbers

A number is its sixty-four bits. Arithmetic on it is exact arithmetic on the
significand and exponent that the bits denote, rounded once where a format
cannot hold the result.
-/

namespace TypedQuery

/-- A double precision number, as its bits. Two numbers are the same value of
this type when all bits agree. -/
structure Binary64 where
  bits : UInt64
  deriving DecidableEq, Repr

/-- A single precision number, as its bits. -/
structure Binary32 where
  bits : UInt32
  deriving DecidableEq, Repr

/-- What the bits of a number denote. -/
inductive Magnitude where
  | nan
  | infinite
  | finite (significand : Nat) (exponent : Int)
  deriving DecidableEq, Repr

def FloatFormat.magnitude (format : FloatFormat) (code : Nat) : Magnitude :=
  if format.infinityCode < code then .nan
  else if code = format.infinityCode then .infinite
  else .finite (format.significand code) (format.exponent code)

namespace Binary64

/-- True when the sign bit is set; zero has a sign too. -/
def isNegative (x : Binary64) : Bool :=
  FloatFormat.double.signPlace ≤ x.bits.toNat

/-- The bits without the sign. -/
def code (x : Binary64) : Nat :=
  x.bits.toNat % FloatFormat.double.signPlace

/-- What the number denotes, apart from its sign. -/
def magnitude (x : Binary64) : Magnitude :=
  FloatFormat.double.magnitude x.code

/-- The number with a given sign and magnitude code. -/
def ofCode (negative : Bool) (code : Nat) : Binary64 :=
  ⟨UInt64.ofNat (code + if negative then FloatFormat.double.signPlace else 0)⟩

/-- The one spelling of "not a number" that computations give. -/
def nan : Binary64 :=
  ⟨0x7FF8000000000000⟩

/-- True unless the number is infinite or not a number. -/
def isFinite (x : Binary64) : Bool :=
  x.code < FloatFormat.double.infinityCode

/-- True for every spelling of "not a number". -/
def isNaN (x : Binary64) : Bool :=
  FloatFormat.double.infinityCode < x.code

/-- Equality of the numbers denoted: both zeros are equal, and what is not a
number equals nothing. -/
def sameNumber (x y : Binary64) : Bool :=
  !x.isNaN && !y.isNaN && (x.bits == y.bits || (x.code == 0 && y.code == 0))

/-- Where a number stands in the order of all numbers; both zeros stand in one place. -/
def place (x : Binary64) : Int :=
  if x.isNegative then -(x.code : Int) else x.code

/-- Numbers are compared as what they denote, and what is not a number compares
with nothing. -/
instance : LE Binary64 where
  le x y := x.isNaN = false ∧ y.isNaN = false ∧ x.place ≤ y.place

instance : LT Binary64 where
  lt x y := x.isNaN = false ∧ y.isNaN = false ∧ x.place < y.place

instance (x y : Binary64) : Decidable (x ≤ y) :=
  inferInstanceAs (Decidable (_ ∧ _ ∧ _))

instance (x y : Binary64) : Decidable (x < y) :=
  inferInstanceAs (Decidable (_ ∧ _ ∧ _))

/-- The double nearest to an integer. -/
def ofInt (i : Int) : Binary64 :=
  ofCode (i < 0) (FloatFormat.double.roundRatio i.natAbs 1)

/-- The integer that a finite number without a fractional part denotes. -/
def toInt? (x : Binary64) : Option Int :=
  match x.magnitude with
  | .finite significand exponent =>
    let numerator := significand * 2 ^ exponent.toNat
    let denominator := 2 ^ (-exponent).toNat
    if numerator % denominator = 0 then
      let whole : Int := (numerator / denominator : Nat)
      some (if x.isNegative then -whole else whole)
    else
      none
  | _ => none

/-- True for a finite number without a fractional part. -/
def isWhole (x : Binary64) : Bool :=
  x.toInt?.isSome

end Binary64

namespace Binary32

/-- True when the sign bit is set. -/
def isNegative (x : Binary32) : Bool :=
  FloatFormat.single.signPlace ≤ x.bits.toNat

/-- The bits without the sign. -/
def code (x : Binary32) : Nat :=
  x.bits.toNat % FloatFormat.single.signPlace

/-- The number with a given sign and magnitude code. -/
def ofCode (negative : Bool) (code : Nat) : Binary32 :=
  ⟨UInt32.ofNat (code + if negative then FloatFormat.single.signPlace else 0)⟩

/-- The one spelling of "not a number" that computations give. -/
def nan : Binary32 :=
  ⟨0x7FC00000⟩

/-- The single nearest to an integer. -/
def ofInt (i : Int) : Binary32 :=
  ofCode (i < 0) (FloatFormat.single.roundRatio i.natAbs 1)

/-- The single nearest to a double. -/
def ofBinary64 (x : Binary64) : Binary32 :=
  match x.magnitude with
  | .nan => nan
  | .infinite => ofCode x.isNegative FloatFormat.single.infinityCode
  | .finite significand exponent =>
    ofCode x.isNegative (FloatFormat.single.roundDyadic significand exponent)

/-- The double that denotes the same number; every single has one. -/
def toBinary64 (x : Binary32) : Binary64 :=
  match FloatFormat.single.magnitude x.code with
  | .nan => Binary64.nan
  | .infinite => Binary64.ofCode x.isNegative FloatFormat.double.infinityCode
  | .finite significand exponent =>
    Binary64.ofCode x.isNegative (FloatFormat.double.roundDyadic significand exponent)

end Binary32

end TypedQuery

import TypedQuery.Binary64.Arithmetic

/-!
# Pairs of doubles

Two doubles stand for their sum: the second one holds what rounding took from the
first. A product of pairs costs a few operations on doubles and is nearly twice
as exact as a product of doubles, though not always rounded to nearest.
-/

namespace TypedQuery.Binary64

/-- How many of the lowest bits of the fraction are cut off to make a number of
which products lose little. -/
def cutBits : Nat := 26

/-- The number without the lowest bits of its fraction. -/
def coarse (x : Binary64) : Binary64 :=
  ofCode x.isNegative (x.code - x.code % 2 ^ cutBits)

/-- What the coarse number leaves out. -/
def residue (x : Binary64) : Binary64 :=
  x - x.coarse

/-- The sum of two doubles. -/
structure Pair where
  high : Binary64
  low : Binary64
  deriving DecidableEq, Repr

namespace Pair

def ofDouble (x : Binary64) : Pair :=
  ⟨x, ofCode false 0⟩

/-- The product of two doubles as a pair. The parts of the factors are multiplied
crosswise, and what the sum of the greater products loses goes to the second
double. -/
def product (x y : Binary64) : Pair :=
  let greatest := x.coarse * y.coarse
  let cross := x.coarse * y.residue + x.residue * y.coarse
  let high := greatest + cross
  ⟨high, greatest - high + cross + x.residue * y.residue⟩

/-- The product of two pairs; the product of their second doubles is left out. -/
def mul (x y : Pair) : Pair :=
  let leading := product x.high y.high
  let rest := x.high * y.low + x.low * y.high + leading.low
  let high := leading.high + rest
  ⟨high, leading.high - high + rest⟩

instance : Mul Pair where
  mul := mul

/-- The pair nearest to a power of ten: the nearest double, and the double nearest
to what is missing. -/
def tenTo (power : Int) : Pair :=
  let code := FloatFormat.double.roundDecimal 1 power
  let exponent := FloatFormat.double.exponent code
  let numerator : Int := (10 ^ power.toNat * 2 ^ (-exponent).toNat : Nat)
  let denominator := 10 ^ (-power).toNat
  let reached : Int :=
    (FloatFormat.double.significand code * 2 ^ exponent.toNat * denominator : Nat)
  ⟨ofCode false code, ofRatio (numerator - reached) (denominator * 2 ^ (-exponent).toNat)⟩

/-- The sum without the fractional parts of the two doubles. -/
def truncate (x : Pair) : Int :=
  x.high.truncate + x.low.truncate

end Pair

end TypedQuery.Binary64

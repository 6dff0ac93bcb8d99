import TypedQuery.Binary64.Basic

/-!
# Arithmetic on doubles

The sum, the difference and the product of finite doubles are the doubles nearest
to the exact results. Exact numbers are whole numbers divided by a power of two,
so each operation rounds once.
-/

namespace TypedQuery.Binary64

/-- The exact number that the bits denote. A number that is not finite counts as
if exponents went on beyond the greatest. -/
def exact (x : Binary64) : Dyadic :=
  let magnitude := Dyadic.ofIntWithPrec (FloatFormat.double.significand x.code)
    (-FloatFormat.double.exponent x.code)
  if x.isNegative then -magnitude else magnitude

/-- The double nearest to an exact number; a tie goes to the even significand. -/
def nearest : Dyadic → Binary64
  | .zero => ofCode false 0
  | .ofOdd coefficient places _ =>
    ofCode (coefficient < 0) (FloatFormat.double.roundDyadic coefficient.natAbs (-places))

instance : Add Binary64 where
  add x y := nearest (x.exact + y.exact)

instance : Sub Binary64 where
  sub x y := nearest (x.exact - y.exact)

instance : Mul Binary64 where
  mul x y := nearest (x.exact * y.exact)

/-- The number without its fractional part. -/
def truncate (x : Binary64) : Int :=
  let exponent := FloatFormat.double.exponent x.code
  let whole : Int :=
    (FloatFormat.double.significand x.code * 2 ^ exponent.toNat / 2 ^ (-exponent).toNat : Nat)
  if x.isNegative then -whole else whole

/-- The number without its fractional part, in sixty-four bits: beyond them it is
the nearest integer that they hold, and what is not a number becomes zero. -/
def toInt64 (x : Binary64) : Int64 :=
  if x.isNaN then 0 else Int64.ofIntClamp x.truncate

/-- The double nearest to a ratio of a whole number to a positive one. -/
def ofRatio (numerator : Int) (denominator : Nat) : Binary64 :=
  ofCode (numerator < 0) (FloatFormat.double.roundRatio numerator.natAbs denominator)

end TypedQuery.Binary64

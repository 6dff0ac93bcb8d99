import TypedQuery.Digits

/-!
# Binary floating point formats

A format stores a magnitude as one number, the *magnitude code*: the exponent
field followed by the fraction field. Codes are ordered as the magnitudes are,
and successive codes are successive representable magnitudes, so rounding a
ratio to nearest is a computation of a code; a carry out of the fraction moves
to the next exponent by itself.
-/

namespace TypedQuery

/-- The nearest whole number to `numerator / denominator`; a tie goes to the
even neighbour. -/
def roundHalfEven (numerator denominator : Nat) : Nat :=
  let quotient := numerator / denominator
  let twice := 2 * (numerator % denominator)
  if twice < denominator then quotient
  else if denominator < twice then quotient + 1
  else if quotient % 2 = 0 then quotient
  else quotient + 1

/-- The exponent of the greatest power of two that is at most
`numerator / denominator`. -/
def floorLog2 (numerator denominator : Nat) : Int :=
  let estimate : Int := (numerator.log2 : Int) - denominator.log2
  if denominator * 2 ^ estimate.toNat ≤ numerator * 2 ^ (-estimate).toNat then estimate
  else estimate - 1

/-- A binary format, given by the sizes of its two fields. -/
structure FloatFormat where
  fractionBits : Nat
  exponentBits : Nat
  deriving DecidableEq, Repr

namespace FloatFormat

/-- Sixty-four bits in all. -/
def double : FloatFormat := ⟨52, 11⟩

/-- Thirty-two bits in all. -/
def single : FloatFormat := ⟨23, 8⟩

/-- The exponent of the least positive magnitude. -/
def leastExponent (format : FloatFormat) : Int :=
  2 - (2 ^ (format.exponentBits - 1) : Nat) - format.fractionBits

/-- The number of values of the fraction field. -/
def fractionCount (format : FloatFormat) : Nat :=
  2 ^ format.fractionBits

/-- The code of infinity: the greatest exponent field and no fraction. Greater
codes are not numbers. -/
def infinityCode (format : FloatFormat) : Nat :=
  (2 ^ format.exponentBits - 1) * format.fractionCount

def signPlace (format : FloatFormat) : Nat :=
  2 ^ (format.fractionBits + format.exponentBits)

def significand (format : FloatFormat) (code : Nat) : Nat :=
  if code < format.fractionCount then code
  else format.fractionCount + code % format.fractionCount

/-- The exponent of two that the significand of `code` is multiplied by. -/
def exponent (format : FloatFormat) (code : Nat) : Int :=
  if code < format.fractionCount then format.leastExponent
  else format.leastExponent + (code / format.fractionCount : Nat) - 1

/-- The code of the representable magnitude nearest to
`numerator / denominator`; a tie goes to the even significand, and magnitudes
beyond the greatest finite one become infinity. -/
def roundRatio (format : FloatFormat) (numerator denominator : Nat) : Nat :=
  if numerator = 0 then 0 else
    let unit := max format.leastExponent
      (floorLog2 numerator denominator - format.fractionBits)
    let significand :=
      roundHalfEven (numerator * 2 ^ (-unit).toNat) (denominator * 2 ^ unit.toNat)
    min format.infinityCode
      ((unit - format.leastExponent).toNat * format.fractionCount + significand)

/-- The code nearest to `coefficient * 2 ^ exponent`. -/
def roundDyadic (format : FloatFormat) (coefficient : Nat) (exponent : Int) : Nat :=
  format.roundRatio (coefficient * 2 ^ exponent.toNat) (2 ^ (-exponent).toNat)

/-- The code nearest to `coefficient * 10 ^ exponent`. -/
def roundDecimal (format : FloatFormat) (coefficient : Nat) (exponent : Int) : Nat :=
  format.roundRatio (coefficient * 10 ^ exponent.toNat) (10 ^ (-exponent).toNat)

end FloatFormat

end TypedQuery

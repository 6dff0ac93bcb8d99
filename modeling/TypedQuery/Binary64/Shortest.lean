import TypedQuery.Digits
import TypedQuery.Binary64.Basic

/-!
# Shortest decimals

The decimal written for a finite double is the one with the fewest digits that
reads back as the same double, and among those the nearest. For each number of
digits only the two neighbours of the value on that decimal grid can qualify,
so the search looks at two candidates a grid.
-/

namespace TypedQuery

/-- A decimal magnitude: `coefficient * 10 ^ exponent`. -/
structure Scientific where
  coefficient : Nat
  exponent : Int
  deriving DecidableEq, Repr

namespace Scientific

/-- True when the double with magnitude code `code` is the one nearest to the
decimal. -/
def readsAs (code : Nat) (decimal : Scientific) : Bool :=
  FloatFormat.double.roundDecimal decimal.coefficient decimal.exponent == code

/-- The exact decimal for `significand * 2 ^ exponent`: halving is multiplying
by five and moving the point. -/
def ofDyadic (significand : Nat) (exponent : Int) : Scientific :=
  if 0 ≤ exponent then ⟨significand * 2 ^ exponent.toNat, 0⟩
  else ⟨significand * 5 ^ (-exponent).toNat, exponent⟩

/-- The number of digits before the point of `numerator / denominator`; zero or
negative when there are none, counting the zeros after the point. -/
def pointPosition (numerator denominator : Nat) : Int :=
  if denominator ≤ numerator then
    (Digits.natural (numerator / denominator)).length
  else
    let digits := (Digits.natural (denominator / numerator)).length
    if denominator = numerator * 10 ^ (digits - 1) then 2 - (digits : Int)
    else 1 - (digits : Int)

/-- Of the two neighbours of `numerator / denominator` on the grid of
`10 ^ exponent`, the nearest that reads as `code`; a tie goes to the upper. -/
def onGrid? (code numerator denominator : Nat) (exponent : Int) : Option Scientific :=
  let scaledNumerator := numerator * 10 ^ (-exponent).toNat
  let scaledDenominator := denominator * 10 ^ exponent.toNat
  let lower : Scientific := ⟨scaledNumerator / scaledDenominator, exponent⟩
  let upper : Scientific := ⟨scaledNumerator / scaledDenominator + 1, exponent⟩
  let lowerIsNearer := 2 * (scaledNumerator % scaledDenominator) < scaledDenominator
  let candidates := if lowerIsNearer then [lower, upper] else [upper, lower]
  candidates.find? (readsAs code)

/-- Seventeen digits always suffice for a double. -/
def maxDigits : Nat := 17

/-- The shortest decimal that reads as the magnitude with code `code`, which is
not zero. -/
def shortest (code : Nat) : Scientific :=
  let significand := FloatFormat.double.significand code
  let exponent := FloatFormat.double.exponent code
  let numerator := significand * 2 ^ exponent.toNat
  let denominator := 2 ^ (-exponent).toNat
  let position := pointPosition numerator denominator
  let found := (List.range maxDigits).findSome? fun (extra : Nat) =>
    onGrid? code numerator denominator (position - 1 - extra)
  found.getD (ofDyadic significand exponent)

/-- The digits without trailing zeros, and the exponent of the last one kept. -/
def strip (decimal : Scientific) : List Char × Int :=
  let digits := Digits.natural decimal.coefficient
  let zeros := (digits.reverse.takeWhile (· == '0')).length
  (digits.take (digits.length - zeros), decimal.exponent + zeros)

end Scientific

end TypedQuery

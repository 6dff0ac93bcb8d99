import TypedQuery.Binary64.Basic
import TypedQuery.BigEndian

/-!
# Exact decimals

The server's exact decimals, as whole numbers of units of a power of ten. The
library holds those of at most twenty-eight places whose units fit ninety-six
bits. On the wire a decimal is a list of groups of four digits.
-/

namespace TypedQuery.Postgres

/-- The decimal `±coefficient / 10 ^ scale`. -/
structure Numeric where
  negative : Bool
  coefficient : Nat
  scale : Nat
  deriving DecidableEq, Repr

namespace Numeric

def coefficientBound : Nat := 2 ^ (96 : Nat)

/-- The greatest number of places. -/
def maxScale : Nat := 28

/-- Doubles are taken to be exact up to coefficients below this number. -/
def doubleBound : Nat := 2 ^ (51 : Nat)

/-- An integer without places. -/
def ofInt (i : Int) : Numeric :=
  ⟨i < 0, i.natAbs, 0⟩

/-- Drops places, a half going up, as long as there are more than
`maxScale` of them or the coefficient reaches `bound`. -/
def shorten (bound : Nat) (coefficient : Nat) : Nat → Nat × Nat
  | 0 => (coefficient, 0)
  | scale + 1 =>
    if maxScale < scale + 1 ∨ bound ≤ coefficient then
      shorten bound (coefficient / 10 + if 5 ≤ coefficient % 10 then 1 else 0) scale
    else
      (coefficient, scale + 1)

/-- Drops places that are zero. -/
def strip (coefficient : Nat) : Nat → Nat × Nat
  | 0 => (coefficient, 0)
  | scale + 1 =>
    if coefficient % 10 = 0 then strip (coefficient / 10) scale else (coefficient, scale + 1)

/-- The decimal of a double, to as many places as doubles are taken to be
exact; `none` when it is too large or not a number. -/
def ofReal? (r : Binary64) : Option Numeric :=
  match r.magnitude with
  | .finite significand exponent =>
    let places := (-exponent).toNat
    let exact := significand * 2 ^ exponent.toNat * 5 ^ places
    let (coefficient, scale) := shorten doubleBound exact places
    let (coefficient, scale) := strip coefficient scale
    if coefficient < coefficientBound then some ⟨r.isNegative, coefficient, scale⟩ else none
  | _ => none

/-- The integer of sixty-four bits that a decimal without places is. -/
def toInt64? (numeric : Numeric) : Option Int64 :=
  let i : Int := if numeric.negative then -numeric.coefficient else numeric.coefficient
  if numeric.scale = 0 ∧ BigEndian.fits 8 i then some (Int64.ofInt i) else none

/-- The double nearest to a decimal. -/
def toReal (numeric : Numeric) : Binary64 :=
  Binary64.ofCode numeric.negative
    (FloatFormat.double.roundDecimal numeric.coefficient (-(numeric.scale : Int)))

/-! ## On the wire -/

/-- The sign field of a negative decimal. -/
def negativeSign : Nat := 0x4000

/-- The groups of four digits of a number, the lowest first; `fuel` bounds
their number. -/
def lowGroups (n : Nat) : Nat → List Nat
  | 0 => []
  | fuel + 1 => if n = 0 then [] else n % 10000 :: lowGroups (n / 10000) fuel

/-- Enough groups for every coefficient, with the zeros that fill up its last
group. -/
def groupFuel : Nat := 8

/-- The fields of a decimal: the number of groups, the power of ten thousand of
the first, the sign, the places, and the groups without trailing zeros. -/
def encode (numeric : Numeric) : Bytes :=
  let groupsAfterPoint := (numeric.scale + 3) / 4
  let filled := numeric.coefficient * 10 ^ (4 * groupsAfterPoint - numeric.scale)
  let groups := lowGroups filled groupFuel
  let kept := (groups.dropWhile (· == 0)).reverse
  let (weight, sign, scale, kept) : Int × Nat × Nat × List Nat :=
    if numeric.coefficient = 0 then (0, 0, 0, [0])
    else ((groups.length : Int) - groupsAfterPoint - 1,
      if numeric.negative then negativeSign else 0, numeric.scale, kept)
  BigEndian.encode 2 kept.length ++ BigEndian.encodeInt 2 weight ++
    BigEndian.encode 2 sign ++ BigEndian.encode 2 scale ++
    kept.flatMap (BigEndian.encode 2)

/-- Reads as many groups as there should be. -/
def readGroups? : Nat → Bytes → Option (List Nat)
  | 0, _ => some []
  | count + 1, high :: low :: rest =>
    (readGroups? count rest).map (BigEndian.decode [high, low] :: ·)
  | _ + 1, _ => none

/-- The decimal of groups, the first of which counts powers of ten thousand up
to `weight`, given to `scale` places; `none` when it does not fit. -/
def ofGroups? (negative : Bool) (weight : Int) (scale : Nat) (groups : List Nat) :
    Option Numeric :=
  let whole := groups.foldl (fun n group => n * 10000 + group) 0
  let shift := 4 * (weight + 1 - groups.length) + scale
  let divisor := 10 ^ (-shift).toNat
  let units := whole * 10 ^ shift.toNat
  let rounded := units / divisor + if divisor ≤ 2 * (units % divisor) then 1 else 0
  let (coefficient, scale) := shorten coefficientBound rounded scale
  if coefficient < coefficientBound then some ⟨negative, coefficient, scale⟩ else none

/-- Reads a decimal; `none` when bytes are missing or it does not fit. -/
def decode? : Bytes → Option Numeric
  | c₁ :: c₂ :: w₁ :: w₂ :: s₁ :: s₂ :: p₁ :: p₂ :: rest => do
    let groups ← readGroups? (BigEndian.decode [c₁, c₂]) rest
    ofGroups? (BigEndian.decode [s₁, s₂] = negativeSign) (BigEndian.decodeInt [w₁, w₂])
      (BigEndian.decode [p₁, p₂]) groups
  | _ => none

end Numeric

end TypedQuery.Postgres

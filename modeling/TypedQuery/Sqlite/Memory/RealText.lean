import TypedQuery.Binary64.Pair
import TypedQuery.Binary64.Text

/-!
# Real numbers as text of the engine

Where the engine makes text of a real number itself, it keeps fifteen digits and
at least one place after the point. Very large and very small numbers have an
exponent of at least two digits.

The digits come from the number multiplied by powers of ten, as pairs of doubles,
until it has eighteen or nineteen digits before the point. This is not exact: near
the middle between two texts of fifteen digits either of them may be written.
-/

namespace TypedQuery.Sqlite.Memory

def realDigits : Nat := 15

/-! ## Scaling -/

/-- A magnitude times a power of ten. -/
structure Scaled where
  value : Binary64.Pair
  power : Int
  deriving DecidableEq, Repr

namespace Scaled

/-- The code of the greatest double below two to the sixty-third times a power of
ten. -/
def limit (power : Int) : Nat :=
  FloatFormat.double.roundDecimal (2 ^ (63 : Nat) - 2 ^ (10 : Nat)) power

/-- Takes a power of ten out of the value. -/
def shift (scaled : Scaled) (power : Int) : Scaled :=
  ⟨scaled.value * Binary64.Pair.tenTo (-power), scaled.power + power⟩

/-- More shifts by one power of ten than any double takes. -/
def shiftBound : Nat := 32

/-- Takes out a power of ten while the value is above a limit; `fuel` bounds how
often. -/
def lower (power limit : Int) (scaled : Scaled) : Nat → Scaled
  | 0 => scaled
  | fuel + 1 =>
    if Scaled.limit limit < scaled.value.high.code then
      lower power limit (scaled.shift power) fuel
    else scaled

/-- Puts in a power of ten while the value is below a limit; `fuel` bounds how
often. -/
def raise (power limit : Int) (scaled : Scaled) : Nat → Scaled
  | 0 => scaled
  | fuel + 1 =>
    if scaled.value.high.code < Scaled.limit limit then
      raise power limit (scaled.shift (-power)) fuel
    else scaled

/-- Brings a magnitude near two to the sixty-third, by ever smaller powers of ten
so that no shift goes too far. -/
def normalize (scaled : Scaled) : Scaled :=
  if limit 0 < scaled.value.high.code then
    [(100, 100), (10, 10), (1, 0)].foldl (fun scaled (power, limit) =>
      scaled.lower power limit shiftBound) scaled
  else
    [(100, -101), (10, -11), (1, -1)].foldl (fun scaled (power, limit) =>
      scaled.raise power limit shiftBound) scaled

/-- The whole part of the value rounded to `places` digits; a half goes up. -/
def rounded (places : Nat) (scaled : Scaled) : Scientific :=
  let whole := scaled.value.truncate.toNat
  let unit := 10 ^ ((Digits.natural whole).length - places)
  ⟨(2 * whole + unit) / (2 * unit),
    scaled.power + ((Digits.natural whole).length - places : Nat)⟩

end Scaled

/-- The decimal of `places` digits for the magnitude with code `code`, which is
not zero. -/
def roundedDecimal (places code : Nat) : Scientific :=
  (Scaled.normalize ⟨.ofDouble (.ofCode false code), 0⟩).rounded places

/-! ## Writing -/

/-- Digits and the exponent of the last one with at least one place after the
point, and with an exponent where there would be too many zeros. -/
def writeReal (digits : List Char) (exponent : Int) : List Char :=
  let leading := digits.length + exponent - 1
  if -4 ≤ leading ∧ leading < realDigits then
    Scientific.positional digits exponent ++ (if 0 ≤ exponent then ['.', '0'] else [])
  else
    digits.take 1 ++ '.' :: (if digits.length ≤ 1 then ['0'] else digits.drop 1) ++
      ['e', if leading < 0 then '-' else '+'] ++ Digits.padded 2 leading.natAbs

def realText (x : Binary64) : String :=
  let sign := if x.isNegative && x.code != 0 then "-" else ""
  match x.magnitude with
  | .nan => ""
  | .infinite => sign ++ "Inf"
  | .finite .. =>
    if x.code = 0 then "0.0"
    else
      let (digits, exponent) := (roundedDecimal realDigits x.code).strip
      sign ++ String.ofList (writeReal digits exponent)

end TypedQuery.Sqlite.Memory

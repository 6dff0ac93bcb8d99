import TypedQuery.Binary64.Shortest

/-!
# Doubles as text

A double is displayed with its shortest digits and without an exponent.
Structural output shows that a number is a double, by a point or an exponent.
Reading takes the usual decimal notations and rounds to the nearest double.
-/

namespace TypedQuery

namespace Scientific

def zeros (n : Nat) : List Char :=
  List.replicate n '0'

/-- Digits and the exponent of the last one, written without an exponent. -/
def positional (digits : List Char) (exponent : Int) : List Char :=
  let position := digits.length + exponent
  if 0 ≤ exponent then digits ++ zeros exponent.toNat
  else if 0 < position then digits.take position.toNat ++ '.' :: digits.drop position.toNat
  else '0' :: '.' :: (zeros (-position).toNat ++ digits)

/-- Digits and the exponent of the last one, written with one digit before the
point and an exponent. -/
def withExponent (digits : List Char) (exponent : Int) : List Char :=
  let fraction := if digits.length ≤ 1 then [] else '.' :: digits.drop 1
  digits.take 1 ++ fraction ++ 'e' :: Digits.integer (digits.length + exponent - 1)

end Scientific

namespace Binary64

/-- How many digits before the point structural output still writes out. -/
def structuralPlaces : Int := 16

/-- How many zeros after the point structural output still writes out. -/
def structuralZeros : Int := 3

/-- Writes a number, given the notations of its zero and of a nonzero finite
magnitude. -/
def write (zero : List Char) (finite : List Char → Int → List Char) (x : Binary64) : String :=
  let sign := if x.isNegative && !x.isNaN then ['-'] else []
  match x.magnitude with
  | .nan => "NaN"
  | .infinite => String.ofList (sign ++ ['i', 'n', 'f'])
  | .finite .. =>
    if x.code = 0 then String.ofList (sign ++ zero)
    else
      let (digits, exponent) := (Scientific.shortest x.code).strip
      String.ofList (sign ++ finite digits exponent)

/-- The displayed form: shortest digits, never an exponent. -/
def display : Binary64 → String :=
  write ['0'] Scientific.positional

/-- The form in structural output: whole numbers keep a `.0`, and numbers from
ten to the sixteenth on and below a ten-thousandth have an exponent. -/
def structural : Binary64 → String :=
  write ['0', '.', '0'] fun digits exponent =>
    let position := digits.length + exponent
    if structuralPlaces < position ∨ position < -structuralZeros then
      Scientific.withExponent digits exponent
    else if 0 ≤ exponent then Scientific.positional digits exponent ++ ['.', '0']
    else Scientific.positional digits exponent

/-- Beyond these positions of the point a decimal is certainly infinite, or
certainly zero, as a double. -/
def pointBounds : Int × Int := (-330, 310)

/-- The code nearest to a decimal of any size. -/
def codeOfDecimal (coefficient : Nat) (exponent : Int) : Nat :=
  let position := (Digits.natural coefficient).length + exponent
  if coefficient = 0 then 0
  else if pointBounds.2 < position then FloatFormat.double.infinityCode
  else if position < pointBounds.1 then 0
  else FloatFormat.double.roundDecimal coefficient exponent

/-- An exponent part: nothing, or `e` and a signed numeral. -/
def readExponent? : List Char → Option Int
  | [] => some 0
  | c :: rest => if c == 'e' || c == 'E' then Digits.readInteger? rest else none

/-- Digits with an optional point and an optional exponent; at least one digit
stands before the exponent. Gives the coefficient and the exponent of ten. -/
def readDecimal? (chars : List Char) : Option (Nat × Int) :=
  let whole := chars.takeWhile Char.isDigit
  let afterWhole := chars.dropWhile Char.isDigit
  let (fraction, tail) := match afterWhole with
    | '.' :: rest => (rest.takeWhile Char.isDigit, rest.dropWhile Char.isDigit)
    | rest => ([], rest)
  if whole.isEmpty && fraction.isEmpty then none
  else (readExponent? tail).map fun exponent =>
    (Digits.value (whole ++ fraction), exponent - fraction.length)

/-- An unsigned number: a decimal, an infinity or "not a number", the words in
any case. -/
def readUnsigned? (negative : Bool) (chars : List Char) : Option Binary64 :=
  match readDecimal? chars with
  | some (coefficient, exponent) => some (ofCode negative (codeOfDecimal coefficient exponent))
  | none =>
    let word := String.ofList (chars.map Char.toLower)
    if word = "inf" ∨ word = "infinity" then
      some (ofCode negative FloatFormat.double.infinityCode)
    else if word = "nan" then some nan
    else none

/-- Reads a number with an optional sign. Nothing may stand around it. -/
def read? (text : String) : Option Binary64 :=
  match text.toList with
  | '-' :: rest => readUnsigned? true rest
  | '+' :: rest => readUnsigned? false rest
  | chars => readUnsigned? false chars

end Binary64

end TypedQuery

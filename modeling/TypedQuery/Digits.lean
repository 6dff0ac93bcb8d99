/-!
# Decimal numerals

Writing and reading whole numbers in base ten, as lists of characters. Only
the ten ASCII digits count as digits.
-/

namespace TypedQuery

-- Powers and sums of numbers are those of the core library in every module,
-- whatever else it imports.
attribute [instance (2000)] instPowNat

instance (priority := 2000) instZeroNat : Zero Nat := Zero.ofOfNat0

namespace Digits

/-- The numeral of a natural number, without leading zeros. -/
def natural (n : Nat) : List Char :=
  Nat.toDigits 10 n

/-- The numeral of an integer, with a sign only when it is negative. -/
def integer (i : Int) : List Char :=
  if i < 0 then '-' :: natural i.natAbs else natural i.natAbs

/-- The numeral of `n`, filled up with zeros on the left to `width` places. -/
def padded (width n : Nat) : List Char :=
  List.replicate (width - (natural n).length) '0' ++ natural n

/-- The number that a list of digits denotes. -/
def value (digits : List Char) : Nat :=
  Nat.ofDigitChars 10 digits 0

/-- An optional sign, then one or more digits and nothing else. -/
def readInteger? : List Char → Option Int
  | '-' :: digits => unsigned? digits |>.map fun n => -(n : Int)
  | '+' :: digits => unsigned? digits |>.map Int.ofNat
  | digits => unsigned? digits |>.map Int.ofNat
where
  /-- One or more digits and nothing else. -/
  unsigned? (digits : List Char) : Option Nat :=
    if !digits.isEmpty && digits.all Char.isDigit then some (value digits) else none

@[simp]
theorem value_natural (n : Nat) : value (natural n) = n :=
  Nat.ofDigitChars_ten_toDigits

theorem isDigit_of_mem_natural {n : Nat} {c : Char} (h : c ∈ natural n) : c.isDigit :=
  Nat.isDigit_of_mem_toDigits (by decide) (by decide) h

def naturalText (n : Nat) : String :=
  String.ofList (natural n)

def integerText (i : Int) : String :=
  String.ofList (integer i)

end Digits

end TypedQuery

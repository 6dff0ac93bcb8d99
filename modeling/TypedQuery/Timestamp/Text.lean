import TypedQuery.Digits
import TypedQuery.Timestamp.Basic

/-!
# Timestamps as text

A timestamp is written `YYYY-MM-DD hh:mm:ss` with a fraction of three, six or
nine digits when there is one. Years outside four digits carry a sign. Reading
accepts a blank or the letter `T` between date and time, blanks before each
number, and fractions of any length, and it says why a text is refused.
-/

namespace TypedQuery

/-- The characters that count as blank: the white space of Unicode. -/
def isBlank (c : Char) : Bool :=
  let n := c.toNat
  (0x09 ≤ n && n ≤ 0x0D) || n == 0x20 || n == 0x85 || n == 0xA0 || n == 0x1680 ||
    (0x2000 ≤ n && n ≤ 0x200A) || n == 0x2028 || n == 0x2029 || n == 0x202F ||
    n == 0x205F || n == 0x3000

namespace Timestamp

/-! ## Writing -/

/-- A year: four digits, or a sign and at least four digits. -/
def writeYear (year : Int) : List Char :=
  if 0 ≤ year ∧ year ≤ 9999 then Digits.padded 4 year.toNat
  else (if year < 0 then '-' else '+') :: Digits.padded 4 year.natAbs

/-- A fraction of a second: absent, or the least of three, six and nine digits
that is exact. -/
def writeFraction (nano : Nat) : List Char :=
  if nano = 0 then []
  else if nano % 1000000 = 0 then '.' :: Digits.padded 3 (nano / 1000000)
  else if nano % 1000 = 0 then '.' :: Digits.padded 6 (nano / 1000)
  else '.' :: Digits.padded 9 nano

def writeDate (date : Date) : List Char :=
  writeYear date.year ++ '-' :: Digits.padded 2 date.month ++ '-' :: Digits.padded 2 date.day

/-- A time of day. A leap second is written as the second after the one that it
follows, which is second sixty at the end of a minute. -/
def writeTime (time : TimeOfDay) : List Char :=
  Digits.padded 2 time.hour ++ ':' :: Digits.padded 2 time.minute ++
    ':' :: Digits.padded 2 (time.second + time.nano / nanosPerSecond) ++
    writeFraction (time.nano % nanosPerSecond)

/-- Date and time with `separator` between them. -/
def write (separator : Char) (timestamp : Timestamp) : String :=
  String.ofList (writeDate timestamp.date ++ separator :: writeTime timestamp.time)

def format (timestamp : Timestamp) : String :=
  timestamp.write ' '

/-! ## Reading -/

/-- Why a text is not a timestamp. -/
inductive Fault where
  | invalidCharacter
  | prematureEnd
  | outOfRange
  | trailingInput
  deriving DecidableEq, Repr

def Fault.message : Fault → String
  | .invalidCharacter => "input contains invalid characters"
  | .prematureEnd => "premature end of input"
  | .outOfRange => "input is out of range"
  | .trailingInput => "trailing input"

/-- The characters after leading blanks. -/
def skipBlanks (chars : List Char) : List Char :=
  chars.dropWhile isBlank

/-- A number of one digit or more and the characters after it; of a longer run
of digits only the first `width` are taken. -/
def readNumber (width : Nat) (chars : List Char) : Except Fault (Nat × List Char) :=
  match chars with
  | [] => .error .prematureEnd
  | first :: _ =>
    if first.isDigit then
      let digits := (chars.take width).takeWhile Char.isDigit
      .ok (Digits.value digits, chars.drop digits.length)
    else .error .invalidCharacter

/-- A number of up to two digits after blanks, within bounds. -/
def readPart (least greatest : Nat) (chars : List Char) : Except Fault (Nat × List Char) := do
  let (n, rest) ← readNumber 2 (skipBlanks chars)
  if least ≤ n ∧ n ≤ greatest then return (n, rest) else throw .outOfRange

/-- The bound on the size of a year while it is read. -/
def yearBound : Int := 2 ^ (31 : Nat)

/-- A year after blanks: up to four digits, or a sign and any number of them. -/
def readYear (chars : List Char) : Except Fault (Int × List Char) := do
  let (year, rest) ← match skipBlanks chars with
    | '-' :: rest => (readNumber rest.length rest).map fun (n, rest) => (-(n : Int), rest)
    | '+' :: rest => (readNumber rest.length rest).map fun (n, rest) => ((n : Int), rest)
    | rest => (readNumber 4 rest).map fun (n, rest) => ((n : Int), rest)
  if -yearBound ≤ year ∧ year < yearBound then return (year, rest) else throw .outOfRange

def readMark (mark : Char) : List Char → Except Fault (Unit × List Char)
  | [] => .error .prematureEnd
  | c :: rest => if c = mark then .ok ((), rest) else .error .invalidCharacter

/-- What stands between the date and the time. -/
inductive Separator where
  /-- Any number of blanks, also none. -/
  | blank
  /-- The letter `T`. -/
  | letter
  deriving DecidableEq, Repr

def readSeparator : Separator → List Char → Except Fault (Unit × List Char)
  | .blank, chars => .ok ((), skipBlanks chars)
  | .letter, chars => readMark 'T' chars

/-- An optional point and fraction, in nanoseconds; digits after the ninth are
read and ignored. -/
def readFraction : List Char → Except Fault (Nat × List Char)
  | '.' :: rest => do
    let (n, after) ← readNumber 9 rest
    let places := rest.length - after.length
    return (n * 10 ^ (9 - places), after.dropWhile Char.isDigit)
  | chars => .ok (0, chars)

/-- The timestamp of the parts read; second sixty is a leap second. -/
def ofParts (year : Int) (month day hour minute second nano : Nat) : Except Fault Timestamp :=
  let timestamp :=
    if second = 60 then of? year month day hour minute 59 (nano + nanosPerSecond)
    else of? year month day hour minute second nano
  match timestamp with
  | some timestamp => .ok timestamp
  | none => .error .outOfRange

/-- Reads the layout with the given separator, to the end of the text. -/
def readWith (separator : Separator) (chars : List Char) : Except Fault Timestamp := do
  let (year, chars) ← readYear chars
  let (_, chars) ← readMark '-' chars
  let (month, chars) ← readPart 1 12 chars
  let (_, chars) ← readMark '-' chars
  let (day, chars) ← readPart 1 31 chars
  let (_, chars) ← readSeparator separator chars
  let (hour, chars) ← readPart 0 23 chars
  let (_, chars) ← readMark ':' chars
  let (minute, chars) ← readPart 0 59 chars
  let (_, chars) ← readMark ':' chars
  let (second, chars) ← readPart 0 60 chars
  let (nano, chars) ← readFraction chars
  if chars.isEmpty then ofParts year month day hour minute second nano
  else throw .trailingInput

/-- Reads a timestamp with either separator. When both layouts fail, the fault
is that of the layout with the letter. -/
def parse (text : String) : Except Fault Timestamp :=
  match readWith .blank text.toList with
  | .ok timestamp => .ok timestamp
  | .error _ => readWith .letter text.toList

end Timestamp

end TypedQuery

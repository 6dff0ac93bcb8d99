import TypedQuery.Bytes
import TypedQuery.Binary64.Text
import TypedQuery.Timestamp.Text

/-!
# Bound values

A value as it is bound to a statement or read back from a row. Every backend
translates these seven shapes into its own parameter and cell types.
-/

namespace TypedQuery

/-- A value as it is bound to a statement or found in a row. -/
inductive Value where
  | null
  | boolean (b : Bool)
  | integer (i : Int64)
  | real (r : Binary64)
  | text (s : String)
  | blob (bytes : Bytes)
  | timestamp (t : Timestamp)
  deriving DecidableEq

namespace Value

instance : Inhabited Value := ⟨null⟩

/-- The word for a value's shape in messages. -/
def typeName : Value → String
  | null => "null"
  | boolean _ => "boolean"
  | integer _ => "integer"
  | real _ => "real"
  | text _ => "text"
  | blob _ => "blob"
  | timestamp _ => "timestamp"

def isNull : Value → Bool
  | null => true
  | _ => false

/-- The value as an integer; booleans count as zero and one. -/
def asInteger? : Value → Option Int64
  | integer i => some i
  | boolean b => some (if b then 1 else 0)
  | _ => none

/-- The value as a real; an integer goes to the nearest one. -/
def asReal? : Value → Option Binary64
  | real r => some r
  | integer i => some (Binary64.ofInt i.toInt)
  | _ => none

def asText? : Value → Option String
  | text s => some s
  | _ => none

/-- The value as bytes; text gives its UTF-8 bytes. -/
def asBytes? : Value → Option Bytes
  | blob bytes => some bytes
  | text s => some (Utf8.encode s)
  | _ => none

/-- A text between single quotes, with every quote inside written twice. -/
def quoteText (s : String) : String :=
  String.ofList ('\'' :: (s.toList.flatMap fun c => if c = '\'' then ['\'', '\''] else [c])
    ++ ['\''])

def booleanText (b : Bool) : String :=
  if b then "true" else "false"

/-- The value written as a literal, for people to read. -/
def display : Value → String
  | null => "NULL"
  | boolean b => booleanText b
  | integer i => Digits.integerText i.toInt
  | real r => r.display
  | text s => quoteText s
  | blob bytes => "X'" ++ Hex.encodeUpper bytes ++ "'"
  | timestamp t => "'" ++ t.format ++ "'"

/-- Equality of values. Reals are compared as numbers, so the two zeros are
equal and what is not a number differs from itself. -/
def equal : Value → Value → Bool
  | real a, real b => a.sameNumber b
  | real _, _ => false
  | _, real _ => false
  | a, b => a == b

/-- Equality of lists of values, place by place. -/
def equalAll : List Value → List Value → Bool
  | [], [] => true
  | a :: as, b :: bs => a.equal b && equalAll as bs
  | _, _ => false

end Value

end TypedQuery

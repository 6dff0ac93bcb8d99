import TypedQuery.Binary64.Arithmetic
import TypedQuery.Error
import TypedQuery.Kind.Basic

/-!
# Encoding kinds

Each kind has two codings: the value bound to a statement, and a text. Reading
either one back names what was found when it is not of the kind, and reading a
cell also checks the domain.
-/

namespace TypedQuery

namespace Kind

/-- Fails because a cell of the wrong shape was found. -/
def mismatch (expected : String) (found : Value) : Error :=
  ⟨.conversion, "expected " ++ expected ++ ", found " ++ found.typeName⟩

/-- Fails because a text is not of the kind. -/
def unreadable (text what : String) : Error :=
  ⟨.conversion, "`" ++ text ++ "` is not " ++ what⟩

/-- Fails because a number, as spelled, is beyond the bounds of a type. -/
def outOfRange (spelling : String) (type : IntegerType) : Error :=
  ⟨.domain, spelling ++ " is out of range for " ++ type.name⟩

/-- Fails because a decimal is infinite or not a number. -/
def notFinite (value : Binary64) : Error :=
  ⟨.domain, value.display ++ " is not a finite decimal"⟩

/-! ## Integers -/

def narrow (type : IntegerType) (i : Int) : Result type.Number :=
  match type.number? i with
  | some n => .ok n
  | none => .error (outOfRange (Digits.integerText i) type)

/-- The greatest size of a numeral that is read as a number at all, in bits
with the sign. -/
def numeralBits : Nat := 128

/-- Reads a numeral. One too long for `numeralBits` is not a number; one that
does not fit sixty-four bits is out of range as it is spelled. -/
def parseInteger (type : IntegerType) (text : String) : Result type.Number :=
  match Digits.readInteger? text.toList with
  | none => .error (unreadable text "an integer")
  | some i =>
    if ¬(-2 ^ (numeralBits - 1) ≤ i ∧ i < 2 ^ (numeralBits - 1)) then
      .error (unreadable text "an integer")
    else if ¬(IntegerType.int64.lower ≤ i ∧ i ≤ IntegerType.int64.upper) then
      .error (outOfRange text type)
    else narrow type i

/-- The double nearest to the least integer of sixty-four bits: that integer. -/
def wordStart : Binary64 :=
  .ofInt IntegerType.int64.lower

/-- The double nearest to the greatest integer of sixty-four bits: the one after it. -/
def wordEnd : Binary64 :=
  .ofInt IntegerType.int64.upper

/-- Reads an integer from a cell: an integer, a truth value, a real without a
fractional part that fits sixty-four bits, or a numeral. -/
def decodeInteger (type : IntegerType) : Value → Result (Option type.Number)
  | .null => .ok none
  | .integer i => some <$> narrow type i.toInt
  | .boolean b => some <$> narrow type (if b then 1 else 0)
  | .real r =>
    if r.isWhole = true ∧ wordStart ≤ r ∧ r < wordEnd then
      some <$> narrow type r.toInt64.toInt
    else .error (mismatch type.name (.real r))
  | .text s => some <$> parseInteger type s
  | found => .error (mismatch type.name found)

/-! ## Decimals -/

def checkDecimal (value : Binary64) : Result Unit :=
  if value.isFinite then .ok () else .error (notFinite value)

def parseDecimal (text : String) : Result Binary64 :=
  match Binary64.read? text with
  | none => .error (unreadable text "a decimal")
  | some value => do
    checkDecimal value
    return value

/-! ## Other kinds -/

/-- Reads a truth value: the words in any case, or a digit. -/
def parseBoolean (text : String) : Result Bool :=
  let word := String.ofList (text.toList.map Char.toLower)
  if word = "true" ∨ text = "1" then .ok true
  else if word = "false" ∨ text = "0" then .ok false
  else .error (unreadable text "a boolean")

def parseBinary (text : String) : Result Bytes :=
  match Hex.decode text with
  | .ok bytes => .ok bytes
  | .error fault => .error ⟨.conversion, fault.message⟩

def parseDateTime (text : String) : Result Timestamp :=
  match Timestamp.parse text with
  | .ok timestamp => .ok timestamp
  | .error fault => .error (unreadable text ("a datetime: " ++ fault.message))

def textOfBytes (bytes : Bytes) : Result String :=
  match Utf8.decode bytes with
  | .ok s => .ok s
  | .error fault => .error ⟨.conversion, "invalid UTF-8 in text column: " ++ fault.message⟩

/-! ## All kinds -/

def encode : (kind : Kind) → kind.Carrier → Value
  | integer _, n => .integer (Int64.ofInt n.val)
  | foreignKey _, n => .integer (Int64.ofInt n.val)
  | decimal, value => .real value
  | boolean, value => .boolean value
  | text, value => .text value
  | binary, value => .blob value
  | dateTime, value => .timestamp value

/-- Reads a value back from a cell, without a check of the domain. Null is no
value. -/
def decode : (kind : Kind) → Value → Result (Option kind.Carrier)
  | integer type, cell => decodeInteger type cell
  | foreignKey _, cell => decodeInteger .int64 cell
  | decimal, .null => .ok none
  | decimal, .real r => .ok (some r)
  | decimal, .integer i => .ok (some (Binary64.ofInt i.toInt))
  | decimal, .text s => some <$> parseDecimal s
  | decimal, found => .error (mismatch "decimal" found)
  | boolean, .null => .ok none
  | boolean, .boolean b => .ok (some b)
  | boolean, .integer i => .ok (some (i != 0))
  | boolean, .text s => some <$> parseBoolean s
  | boolean, found => .error (mismatch "boolean" found)
  | text, .null => .ok none
  | text, .text s => .ok (some s)
  | text, .blob bytes => some <$> textOfBytes bytes
  | text, found => .error (mismatch "text" found)
  | binary, .null => .ok none
  | binary, .blob bytes => .ok (some bytes)
  | binary, .text s => .ok (some (Utf8.encode s))
  | binary, found => .error (mismatch "binary" found)
  | dateTime, .null => .ok none
  | dateTime, .timestamp t => .ok (some t)
  | dateTime, .text s => some <$> parseDateTime s
  | dateTime, found => .error (mismatch "datetime" found)

def format : (kind : Kind) → kind.Carrier → String
  | integer _, n => Digits.integerText n.val
  | foreignKey _, n => Digits.integerText n.val
  | decimal, value => value.display
  | boolean, value => Value.booleanText value
  | text, value => value
  | binary, value => Hex.encode value
  | dateTime, value => value.format

/-- Reads the text form of a value. -/
def parse : (kind : Kind) → String → Result kind.Carrier
  | integer type, s => parseInteger type s
  | foreignKey _, s => parseInteger .int64 s
  | decimal, s => parseDecimal s
  | boolean, s => parseBoolean s
  | text, s => .ok s
  | binary, s => parseBinary s
  | dateTime, s => parseDateTime s

/-- Fails on a value outside the domain. -/
def check : (kind : Kind) → kind.Carrier → Result Unit
  | decimal, value => checkDecimal value
  | _, _ => .ok ()

/-- Checks a value that may be absent; absence is always in the domain. -/
def checkOption (kind : Kind) : Option kind.Carrier → Result (Option kind.Carrier)
  | none => .ok none
  | some value => do
    kind.check value
    return some value

def read (kind : Kind) (cell : Value) : Result (Option kind.Carrier) := do
  kind.checkOption (← kind.decode cell)

/-- Checks the domain and gives the bound form. -/
def bind (kind : Kind) (value : kind.Carrier) : Result Value := do
  kind.check value
  return kind.encode value

end Kind

end TypedQuery

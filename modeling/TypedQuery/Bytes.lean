import TypedQuery.Digits

/-!
# Byte strings

Byte strings are lists of bytes. Two codings connect them with text: UTF-8,
whose reader says where malformed input stops being text, and hexadecimal
digits, two to a byte.
-/

namespace TypedQuery

abbrev Bytes : Type := List UInt8

namespace Utf8

def encode (text : String) : Bytes :=
  text.toByteArray.data.toList

/-- Where a byte string stops being text. -/
inductive Fault where
  /-- `length` bytes from `index` on can start no character. -/
  | invalid (length index : Nat)
  /-- The input ends inside a character that starts at `index`. -/
  | incomplete (index : Nat)
  deriving DecidableEq, Repr

def Fault.message : Fault → String
  | .invalid length index =>
      "invalid utf-8 sequence of " ++ Digits.naturalText length ++ " bytes from index "
        ++ Digits.naturalText index
  | .incomplete index =>
      "incomplete utf-8 byte sequence from index " ++ Digits.naturalText index

/-- A byte that continues a character. -/
def isContinuation (byte : UInt8) : Bool :=
  0x80 ≤ byte && byte ≤ 0xBF

/-- The tests that the bytes after `lead` must pass, in order; `none` when no
character starts with `lead`. The first test is narrower where a longer form
would be overlong, a surrogate, or beyond the last code point. -/
def followers (lead : UInt8) : Option (List (UInt8 → Bool)) :=
  if lead ≤ 0x7F then some []
  else if 0xC2 ≤ lead && lead ≤ 0xDF then some [isContinuation]
  else if lead = 0xE0 then some [fun b => 0xA0 ≤ b && b ≤ 0xBF, isContinuation]
  else if lead = 0xED then some [fun b => 0x80 ≤ b && b ≤ 0x9F, isContinuation]
  else if 0xE1 ≤ lead && lead ≤ 0xEF then some [isContinuation, isContinuation]
  else if lead = 0xF0 then
    some [fun b => 0x90 ≤ b && b ≤ 0xBF, isContinuation, isContinuation]
  else if 0xF1 ≤ lead && lead ≤ 0xF3 then
    some [isContinuation, isContinuation, isContinuation]
  else if lead = 0xF4 then
    some [fun b => 0x80 ≤ b && b ≤ 0x8F, isContinuation, isContinuation]
  else none

/-- How the bytes after a lead byte fare against the tests on them. -/
inductive Continuation where
  | complete (rest : Bytes)
  | broken (accepted : Nat)
  | ended

/-- Runs the tests on the bytes that follow a lead byte. -/
def continuation (accepted : Nat) : List (UInt8 → Bool) → Bytes → Continuation
  | [], rest => .complete rest
  | _ :: _, [] => .ended
  | test :: tests, byte :: rest =>
      if test byte then continuation (accepted + 1) tests rest else .broken accepted

theorem length_continuation {accepted : Nat} {tests : List (UInt8 → Bool)}
    {bytes rest : Bytes} (h : continuation accepted tests bytes = .complete rest) :
    rest.length ≤ bytes.length := by
  induction tests generalizing accepted bytes with
  | nil =>
    simp only [continuation, Continuation.complete.injEq] at h
    simp [h]
  | cons test tests ih =>
    cases bytes with
    | nil => simp [continuation] at h
    | cons byte bytes =>
      simp only [continuation] at h
      split at h
      · exact Nat.le_succ_of_le (ih h)
      · simp at h

/-- The first fault of a byte string that starts at `index` of the whole. -/
def fault? (index : Nat) : Bytes → Option Fault
  | [] => none
  | lead :: bytes =>
    match followers lead with
    | none => some (.invalid 1 index)
    | some tests =>
      match h : continuation 0 tests bytes with
      | .complete rest => fault? (index + 1 + tests.length) rest
      | .broken accepted => some (.invalid (accepted + 1) index)
      | .ended => some (.incomplete index)
termination_by bytes => bytes.length
decreasing_by
  have := length_continuation h
  simp only [List.length_cons]
  omega

/-- Reads bytes as text, or says where they stop being text. -/
def decode (bytes : Bytes) : Except Fault String :=
  match String.fromUTF8? ⟨bytes.toArray⟩ with
  | some text => .ok text
  | none => .error ((fault? 0 bytes).getD (.incomplete bytes.length))

end Utf8

namespace Hex

/-- The lowercase digit of a number below sixteen. -/
def digit (n : Nat) : Char :=
  Nat.digitChar n

/-- The uppercase digit of a number below sixteen. -/
def upperDigit (n : Nat) : Char :=
  (digit n).toUpper

/-- The number that an ASCII byte denotes as a digit of either case. -/
def digitValue? (byte : UInt8) : Option UInt8 :=
  if 0x30 ≤ byte && byte ≤ 0x39 then some (byte - 0x30)
  else if 0x61 ≤ byte && byte ≤ 0x66 then some (byte - 0x61 + 10)
  else if 0x41 ≤ byte && byte ≤ 0x46 then some (byte - 0x41 + 10)
  else none

/-- Two digits to a byte, the high half first. -/
def encodeWith (digit : Nat → Char) (bytes : Bytes) : String :=
  String.ofList (bytes.flatMap fun byte => [digit (byte.toNat / 16), digit (byte.toNat % 16)])

def encode (bytes : Bytes) : String :=
  encodeWith digit bytes

def encodeUpper (bytes : Bytes) : String :=
  encodeWith upperDigit bytes

/-- Why a text is not a byte string in hexadecimal. -/
inductive Fault where
  | oddLength (length : Nat)
  | notADigit (byte : UInt8)
  deriving DecidableEq, Repr

/-- The fault in words. A byte that is no digit is shown as the character of
that number. -/
def Fault.message : Fault → String
  | .oddLength length => "hex string has odd length " ++ Digits.naturalText length
  | .notADigit byte => "`" ++ String.singleton (Char.ofNat byte.toNat) ++ "` is not a hex digit"

def digitValue (byte : UInt8) : Except Fault UInt8 :=
  match digitValue? byte with
  | some value => .ok value
  | none => .error (.notADigit byte)

/-- Reads pairs of digits from left to right. -/
def pairs : Bytes → Except Fault Bytes
  | high :: low :: rest => do
      let high ← digitValue high
      let low ← digitValue low
      let bytes ← pairs rest
      return (high <<< 4 ||| low) :: bytes
  | _ => .ok []

/-- Reads a text of an even number of digits. The length is that of the UTF-8
bytes, and it is checked first. -/
def decode (text : String) : Except Fault Bytes :=
  let bytes := Utf8.encode text
  if bytes.length % 2 ≠ 0 then .error (.oddLength bytes.length) else pairs bytes

end Hex

end TypedQuery

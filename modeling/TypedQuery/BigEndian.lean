import TypedQuery.Bytes

/-!
# Big-endian integers

Integers of a fixed number of bytes, the most significant byte first. Negative
integers are written in two's complement.
-/

namespace TypedQuery.BigEndian

/-- The byte of a natural number at a place, counted from the least
significant one. -/
def byteAt (n place : Nat) : UInt8 :=
  UInt8.ofNat (n / 256 ^ place % 256)

/-- The bytes of a natural number at the places below `width`. -/
def encode : Nat → Nat → Bytes
  | 0, _ => []
  | place + 1, n => byteAt n place :: encode place n

/-- The natural number that bytes denote. -/
def decode : Bytes → Nat
  | [] => 0
  | byte :: rest => byte.toNat * 256 ^ rest.length + decode rest

/-- The bytes of an integer in two's complement. -/
def encodeInt (width : Nat) (i : Int) : Bytes :=
  encode width (i % (256 ^ width : Nat)).toNat

/-- The integer that bytes denote in two's complement. -/
def decodeInt (bytes : Bytes) : Int :=
  let n := decode bytes
  let bound := 256 ^ bytes.length
  if 2 * n < bound then n else (n : Int) - bound

/-- True when an integer has a two's complement of `width` bytes. -/
def fits (width : Nat) (i : Int) : Bool :=
  -(256 ^ width : Nat) ≤ 2 * i && 2 * i < (256 ^ width : Nat)

theorem toNat_byteAt (n place : Nat) : (byteAt n place).toNat = n / 256 ^ place % 256 := by
  simp [byteAt]

@[simp]
theorem length_encode (width n : Nat) : (encode width n).length = width := by
  induction width with
  | zero => rfl
  | succ place ih => simp [encode, ih]

theorem decode_encode (width n : Nat) : decode (encode width n) = n % 256 ^ width := by
  induction width with
  | zero => simp [encode, decode, Nat.mod_one]
  | succ place ih =>
    simp only [encode, decode, length_encode, toNat_byteAt, ih]
    rw [Nat.pow_succ, Nat.mod_mul, Nat.mul_comm, Nat.add_comm]

theorem decodeInt_encodeInt {width : Nat} {i : Int} (h : fits width i) :
    decodeInt (encodeInt width i) = i := by
  simp only [fits, Bool.and_eq_true, decide_eq_true_eq] at h
  obtain ⟨hlow, hhigh⟩ := h
  have hpos : 0 < 256 ^ width := Nat.pow_pos (by decide)
  simp only [decodeInt, encodeInt, length_encode, decode_encode]
  generalize 256 ^ width = bound at *
  have hmod : ((i % (bound : Int)).toNat : Int) = i % (bound : Int) :=
    Int.toNat_of_nonneg (Int.emod_nonneg _ (by omega))
  have hlt : (i % (bound : Int)).toNat < bound := by
    have := Int.emod_lt_of_pos i (b := (bound : Int)) (by omega)
    omega
  rw [Nat.mod_eq_of_lt hlt]
  by_cases hneg : i < 0
  · have : i % (bound : Int) = i + bound := by
      rw [← Int.add_emod_right, Int.emod_eq_of_lt] <;> omega
    split <;> omega
  · have : i % (bound : Int) = i := Int.emod_eq_of_lt (by omega) (by omega)
    split <;> omega

theorem length_encodeInt (width : Nat) (i : Int) : (encodeInt width i).length = width :=
  length_encode width _

theorem encode_inj {width a b : Nat} (ha : a < 256 ^ width) (hb : b < 256 ^ width)
    (h : encode width a = encode width b) : a = b := by
  have hdecode := congrArg decode h
  rwa [decode_encode, decode_encode, Nat.mod_eq_of_lt ha, Nat.mod_eq_of_lt hb] at hdecode

end TypedQuery.BigEndian

import TypedQuery.Proofs.ColumnStorage
import TypedQuery.Proofs.NumberText
import TypedQuery.Proofs.NumericWire

/-!
# What is kept of a value that is sent

The bytes that are sent for a value are compared with those of another value of its
shape.  They are the same exactly when the values agree in what the type keeps.
Most coercions keep everything and fail otherwise.  Integers and doubles that are
sent as narrower numbers are rounded, integers that are sent as truth values are
compared with zero, and timestamps lose what is below a microsecond, or the time of
day, or as a text the leap seconds inside a minute.  So the values that such a type
holds exactly are told apart, and the others are not.
-/

namespace TypedQuery

/-! ## Numbers that a format holds -/

namespace Binary64

theorem eq_of_ofInt_eq {i j : Int} (hi : FloatFormat.double.Represents i.natAbs 1)
    (hj : FloatFormat.double.Represents j.natAbs 1) (h : ofInt i = ofInt j) : i = j := by
  obtain ⟨hsign, hround⟩ :=
    ofCode_inj (FloatFormat.roundRatio_le ..) (FloatFormat.roundRatio_le ..) h
  exact hi.int_eq hj hsign hround

theorem sameNumber_self {x : Binary64} (h : x.isFinite = true) :
    x.sameNumber x = true := by
  have hlt : x.code < FloatFormat.double.infinityCode := of_decide_eq_true h
  have hnan : x.isNaN = false := decide_eq_false (Nat.lt_asymm hlt)
  rw [sameNumber, hnan, beq_self_eq_true]
  rfl

theorem sameNumber_of_code_eq_zero {x y : Binary64} (hx : x.code = 0) (hy : y.code = 0) :
    x.sameNumber y = true := by
  have hnan : ∀ z : Binary64, z.code = 0 → z.isNaN = false := by
    intro z hz
    rw [isNaN, hz]
    rfl
  rw [sameNumber, hnan x hx, hnan y hy, hx, hy]
  exact Bool.or_true _

/-- The number is one of single precision. -/
def IsSingle (x : Binary64) : Prop :=
  FloatFormat.single.Represents
    (FloatFormat.double.significand x.code *
      2 ^ (FloatFormat.double.exponent x.code).toNat)
    (2 ^ (-FloatFormat.double.exponent x.code).toNat)

end Binary64

namespace Binary32

theorem eq_of_ofInt_eq {i j : Int} (hi : FloatFormat.single.Represents i.natAbs 1)
    (hj : FloatFormat.single.Represents j.natAbs 1) (h : ofInt i = ofInt j) : i = j := by
  obtain ⟨hsign, hround⟩ :=
    ofCode_inj (FloatFormat.roundRatio_le ..) (FloatFormat.roundRatio_le ..) h
  exact hi.int_eq hj hsign hround

theorem ofBinary64_of_isFinite {x : Binary64} (h : x.isFinite = true) :
    ofBinary64 x = ofCode x.isNegative
      (FloatFormat.single.roundDyadic (FloatFormat.double.significand x.code)
        (FloatFormat.double.exponent x.code)) := by
  rw [ofBinary64, Binary64.magnitude_of_isFinite h]

theorem eq_of_ofBinary64_eq
    {x y : Binary64} (hx : x.isFinite = true) (hy : y.isFinite = true)
    (hsingle : x.IsSingle) (hsingle' : y.IsSingle)
    (h : ofBinary64 x = ofBinary64 y) : x = y := by
  have hlt : x.code < FloatFormat.double.infinityCode := of_decide_eq_true hx
  have hlt' : y.code < FloatFormat.double.infinityCode := of_decide_eq_true hy
  have hunit : ∀ exponent : Int, 2 ^ (-exponent).toNat ≠ 0 :=
    fun _ => Nat.ne_of_gt (Nat.two_pow_pos _)
  rw [ofBinary64_of_isFinite hx, ofBinary64_of_isFinite hy] at h
  obtain ⟨hsign, hround⟩ :=
    ofCode_inj (FloatFormat.roundRatio_le ..) (FloatFormat.roundRatio_le ..) h
  have hratio := hsingle.eq_of_roundRatio_eq hsingle' (hunit _) (hunit _) hround
  -- Both doubles are what rounding their common magnitude gives.
  have hcode : x.code = y.code := by
    rw [← FloatFormat.double.roundDyadic_magnitude hlt,
      ← FloatFormat.double.roundDyadic_magnitude hlt']
    exact FloatFormat.double.roundRatio_congr (hunit _) (hunit _) hratio
  exact Binary64.ext_sign_code hsign hcode

end Binary32

namespace Value

/-- The value is not a real number, or it is a finite one. -/
def IsFinite (value : Value) : Prop :=
  ∀ r, value = .real r → r.isFinite = true

theorem equal_self {value : Value} (h : value.IsFinite) : value.equal value = true := by
  cases value with
  | real r => exact Binary64.sameNumber_self (h r rfl)
  | null | boolean | integer | text | blob | timestamp => exact beq_self_eq_true _

end Value

theorem Utf8.encode_inj {s t : String} : encode s = encode t ↔ s = t := by
  constructor
  · intro h
    have hdecode := congrArg decode h
    rwa [decode_encode, decode_encode, Except.ok.injEq] at hdecode
  · intro h
    rw [h]

namespace Postgres.Parameter

/-! ## Agreement in what a type keeps -/

/-- Integers agree in what a type keeps of them. -/
def AgreeInteger (i j : Int64) : WireType → Prop
  | .float4 => Binary32.ofInt i.toInt = Binary32.ofInt j.toInt
  | .float8 => Binary64.ofInt i.toInt = Binary64.ofInt j.toInt
  | .bool => i = 0 ↔ j = 0
  | _ => i = j

/-- Real numbers agree in what a type keeps of them.  A decimal that is zero has
neither a sign nor places. -/
def AgreeReal (r s : Binary64) : WireType → Prop
  | .float4 => Binary32.ofBinary64 r = Binary32.ofBinary64 s
  | .numeric =>
    ∃ a b, Numeric.ofReal? r = some a ∧ Numeric.ofReal? s = some b ∧
      (a = b ∨ (a.coefficient = 0 ∧ b.coefficient = 0))
  | _ => r = s

def AgreeTimestamp (a b : Timestamp) : WireType → Prop
  | .timestamp | .timestamptz => micros a = micros b
  | .date => a.date = b.date
  | _ => a.civil = b.civil

/-- Values of one shape agree in what a type keeps of them. -/
def Agree (type : WireType) : Value → Value → Prop
  | .integer i, .integer j => AgreeInteger i j type
  | .real r, .real s => AgreeReal r s type
  | .timestamp a, .timestamp b => AgreeTimestamp a b type
  | value, value' => value = value'

/-! ## Equal bytes -/

/-- A type holds the integer: it is a number of the type, and as a truth value it is
zero or one. -/
def HoldsInteger (i : Int64) : WireType → Prop
  | .float4 => FloatFormat.single.Represents i.toInt.natAbs 1
  | .float8 => FloatFormat.double.Represents i.toInt.natAbs 1
  | .bool => i = 0 ∨ i = 1
  | _ => True

/-- A type holds the real number.  A decimal does when the number is the one that it
is nearest to. -/
def HoldsReal (r : Binary64) : WireType → Prop
  | .float4 => r.IsSingle
  | .numeric => ∀ decimal, Numeric.ofReal? r = some decimal → decimal.toReal = r
  | _ => True

/-- A type holds the timestamp: it is one of whole microseconds or, as a date, a
midnight or, as a text, one that clocks show. -/
def HoldsTimestamp (t : Timestamp) : WireType → Prop
  | .timestamp | .timestamptz => t.IsWholeMicros
  | .date => t.time = .midnight
  | _ => t.IsCivil

/-- A type holds the value without a loss. -/
def Holds (type : WireType) : Value → Prop
  | .integer i => HoldsInteger i type
  | .real r => HoldsReal r type
  | .timestamp t => HoldsTimestamp t type
  | _ => True

theorem AgreeInteger.eq
    {type : WireType} {i j : Int64} (h : AgreeInteger i j type)
    (hi : HoldsInteger i type) (hj : HoldsInteger j type) : i = j := by
  cases type with
  | float4 => exact Int64.toInt_inj.mp (Binary32.eq_of_ofInt_eq hi hj h)
  | float8 => exact Int64.toInt_inj.mp (Binary64.eq_of_ofInt_eq hi hj h)
  | bool =>
      have hone : (1 : Int64) ≠ 0 := by decide
      rcases hi with rfl | rfl
      · exact (h.mp rfl).symm
      · rcases hj with rfl | rfl
        · exact h.mpr rfl
        · rfl
  | int2 | int4 | int8 | numeric | text | varchar | bpchar | name | unknown | bytea
  | timestamp | timestamptz | date | other => exact h

theorem AgreeReal.sameNumber
    {type : WireType} {r s : Binary64} (hr : r.isFinite = true) (hs : s.isFinite = true)
    (h : AgreeReal r s type) (hheld : HoldsReal r type) (hheld' : HoldsReal s type) :
    r.sameNumber s = true := by
  have hself : r = s → r.sameNumber s = true := by
    rintro rfl
    exact Binary64.sameNumber_self hr
  cases type with
  | float4 => exact hself (Binary32.eq_of_ofBinary64_eq hr hs hheld hheld' h)
  | numeric =>
      obtain ⟨a, b, ha, hb, hsame⟩ := h
      have htoReal := hheld a ha
      have htoReal' := hheld' b hb
      -- The sign of a decimal that is zero is not sent, so here the doubles may differ.
      rcases hsame with rfl | ⟨hzero, hzero'⟩
      · exact hself (htoReal.symm.trans htoReal')
      · have hcode : ∀ decimal : Numeric, decimal.coefficient = 0 →
            decimal.toReal.code = 0 := by
          intro decimal hdecimal
          have hround : FloatFormat.double.roundDecimal 0 (-(decimal.scale : Int)) = 0 := by
            rw [FloatFormat.roundDecimal, Nat.zero_mul]
            rfl
          rw [Numeric.toReal, hdecimal, hround,
            Binary64.code_ofCode (Nat.zero_le _)]
        apply Binary64.sameNumber_of_code_eq_zero
        · rw [← htoReal, hcode a hzero]
        · rw [← htoReal', hcode b hzero']
  | bool | int2 | int4 | int8 | float8 | text | varchar | bpchar | name | unknown | bytea
  | timestamp | timestamptz | date | other => exact hself h

theorem AgreeTimestamp.eq
    {type : WireType} {a b : Timestamp} (h : AgreeTimestamp a b type)
    (ha : HoldsTimestamp a type) (hb : HoldsTimestamp b type) : a = b := by
  cases type with
  | timestamp | timestamptz =>
      have hnanos : a.nanosSince epoch = b.nanosSince epoch := by
        rw [← micros_mul ha, ← micros_mul hb]
        exact congrArg (· * _) h
      have hread := Timestamp.addNanos?_nanosSince ha.1 epoch
      rw [hnanos, Timestamp.addNanos?_nanosSince hb.1, Option.some.injEq] at hread
      exact hread.symm
  | date =>
      have htime : a.time = b.time := ha.trans hb.symm
      cases a
      cases b
      rw [Timestamp.mk.injEq]
      exact ⟨h, htime⟩
  | bool | int2 | int4 | int8 | float4 | float8 | numeric | text | varchar | bpchar | name
  | unknown | bytea | other =>
      rw [← Timestamp.civil_eq_self_iff.mpr ha, ← Timestamp.civil_eq_self_iff.mpr hb]
      exact h

theorem Agree.equal
    {type : WireType} {value value' : Value}
    (hfinite : value.IsFinite) (hfinite' : value'.IsFinite)
    (h : Agree type value value') (hheld : Holds type value) (hheld' : Holds type value') :
    value.equal value' = true := by
  have hself : value = value' → value.equal value' = true := by
    rintro rfl
    exact Value.equal_self hfinite
  unfold Agree at h
  split at h
  · exact hself (congrArg Value.integer (h.eq hheld hheld'))
  · exact h.sameNumber (hfinite _ rfl) (hfinite' _ rfl) hheld hheld'
  · exact hself (congrArg Value.timestamp (h.eq hheld hheld'))
  · exact hself h

/-- A moment of the first day of the year 2000. -/
def moment (second nano : Nat) (h : IsTime 12 30 second nano) : Value :=
  .timestamp ⟨epoch, ⟨12, 30, second, nano, h⟩⟩

/-- For every condition on what a type holds, two values that differ in what is not
held. -/
def lossyPairs : List (WireType × Value × Value) :=
  [(.float4, .integer 16777216, .integer 16777217),
    (.float8, .integer 9007199254740992, .integer 9007199254740993),
    (.bool, .integer 1, .integer 2),
    (.float4, .real ⟨0x3FB999999999999A⟩, .real ⟨0x3FB99999A0000000⟩),
    (.numeric, .real ⟨0x3FD3333333333333⟩, .real ⟨0x3FD3333333333334⟩),
    (.timestamp, moment 0 0 (by decide), moment 0 999 (by decide)),
    (.timestamptz, moment 59 1000000000 (by decide), moment 59 1000000999 (by decide)),
    (.date, moment 0 0 (by decide), moment 1 0 (by decide)),
    (.text, moment 30 1500000000 (by decide), moment 31 500000000 (by decide))]

/-- They are sent, as the same bytes, although they are not equal. -/
theorem same_bytes_lossyPairs :
    ∀ pair ∈ lossyPairs,
      pair.2.1.typeName = pair.2.2.typeName ∧
      (encode? pair.1 pair.2.1).join.isSome ∧
      encode? pair.1 pair.2.1 = encode? pair.1 pair.2.2 ∧
      pair.2.1.equal pair.2.2 = false := by
  decide +kernel

end Postgres.Parameter

end TypedQuery

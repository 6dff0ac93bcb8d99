import TypedQuery.Proofs.NumberText
import TypedQuery.Proofs.WholeReals

/-!
# The numbers that values denote

Floating point numbers, numerals and decimals are ratios.  A single is widened to a
double without a change of its ratio, and rounding a ratio to a double changes it
unless the ratio is a magnitude of the format.  An integer that is decoded is the
number that the decoded value denotes.
-/

namespace TypedQuery

/-! ## Ratios -/

def wholeRatio (n : Int) : Rat :=
  mkRat n 1

/-- A ratio of natural numbers with a sign. -/
def signedRatio (negative : Bool) (numerator denominator : Nat) : Rat :=
  mkRat (if negative then -(numerator : Int) else numerator) denominator

def scaledRatio (negative : Bool) (base coefficient : Nat) (exponent : Int) : Rat :=
  signedRatio negative (coefficient * base ^ exponent.toNat) (base ^ (-exponent).toNat)

theorem wholeRatio_inj {n m : Int} : wholeRatio n = wholeRatio m ↔ n = m := by
  rw [wholeRatio, wholeRatio, Rat.mkRat_eq_iff (by decide) (by decide)]
  omega

theorem signedRatio_eq_whole_iff
    {negative : Bool} {numerator denominator : Nat} {n : Int} (h : denominator ≠ 0) :
    signedRatio negative numerator denominator = wholeRatio n ↔
      (if negative then -(numerator : Int) else numerator) = n * denominator := by
  rw [signedRatio, wholeRatio, Rat.mkRat_eq_iff h (by decide)]
  simp

/-- Ratios of one sign are compared crosswise. -/
theorem signedRatio_eq_iff
    {negative : Bool} {numerator denominator numerator' denominator' : Nat}
    (h : denominator ≠ 0) (h' : denominator' ≠ 0) :
    signedRatio negative numerator denominator =
        signedRatio negative numerator' denominator' ↔
      numerator * denominator' = numerator' * denominator := by
  rw [signedRatio, signedRatio, Rat.mkRat_eq_iff h h']
  cases negative with
  | true =>
      simp only [if_true, Int.neg_mul, Int.neg_inj]
      norm_cast
  | false =>
      simp only [Bool.false_eq_true, if_false]
      norm_cast

/-! ## Ratios that a format holds -/

namespace FloatFormat

variable {format : FloatFormat}

theorem Represents.congr
    {numerator denominator numerator' denominator' : Nat}
    (h : format.Represents numerator denominator) (hdenominator : denominator ≠ 0)
    (hratio : numerator * denominator' = numerator' * denominator) :
    format.Represents numerator' denominator' := by
  obtain ⟨code, hcode, hself⟩ := h
  refine ⟨code, hcode, ?_⟩
  apply Nat.eq_of_mul_eq_mul_right (Nat.pos_of_ne_zero hdenominator)
  rw [Nat.mul_right_comm, hself, Nat.mul_right_comm, hratio, Nat.mul_right_comm]

theorem represents_of_full {significand binade : Nat} {exponent : Int}
    (hlow : format.fractionCount ≤ significand)
    (hhigh : significand < 2 * format.fractionCount)
    (hexponent : exponent = format.leastExponent + binade)
    (hbinade : binade + 2 < 2 ^ format.exponentBits) :
    format.Represents (significand * 2 ^ exponent.toNat) (2 ^ (-exponent).toNat) := by
  obtain ⟨hself, hplace⟩ := format.magnitude_of_full binade hlow hhigh
  refine ⟨binade * format.fractionCount + significand, ?_, ?_⟩
  · calc binade * format.fractionCount + significand
        < binade * format.fractionCount + 2 * format.fractionCount :=
          Nat.add_lt_add_left hhigh _
      _ = (binade + 2) * format.fractionCount := (Nat.add_mul _ _ _).symm
      _ ≤ format.infinityCode := Nat.mul_le_mul_right _ (by omega)
  · rw [hself, hplace, ← hexponent]

/-- A format holds what has few enough bits, if it is neither too far below nor too far
above one. -/
theorem represents_dyadic {significand binade : Nat} {exponent : Int}
    (hsignificand : significand < 2 * format.fractionCount)
    (hexponent : exponent = format.leastExponent + binade)
    (hbinade : binade + 2 < 2 ^ format.exponentBits) :
    format.Represents (significand * 2 ^ exponent.toNat) (2 ^ (-exponent).toNat) := by
  induction binade generalizing significand exponent with
  | zero =>
      by_cases hfull : format.fractionCount ≤ significand
      · exact represents_of_full hfull hsignificand hexponent hbinade
      · have hsmall : significand < format.fractionCount := Nat.not_le.mp hfull
        refine ⟨significand, ?_, ?_⟩
        · exact Nat.lt_of_lt_of_le hsmall (Nat.le_mul_of_pos_left _ (by omega))
        · have hplace : exponent = format.leastExponent := by omega
          rw [FloatFormat.significand, FloatFormat.exponent, if_pos hsmall, if_pos hsmall,
            hplace]
  | succ binade ih =>
      by_cases hfull : format.fractionCount ≤ significand
      · exact represents_of_full hfull hsignificand hexponent hbinade
      · -- Twice the significand in the binade below is the same magnitude.
        have hbelow : format.Represents (2 * significand * 2 ^ (exponent - 1).toNat)
            (2 ^ (-(exponent - 1)).toNat) :=
          ih (by omega) (by omega) (by omega)
        apply hbelow.congr (Nat.ne_of_gt (Nat.two_pow_pos _))
        have hpowers : 1 + (exponent - 1).toNat + (-exponent).toNat =
            exponent.toNat + (-(exponent - 1)).toNat := by
          omega
        calc 2 * significand * 2 ^ (exponent - 1).toNat * 2 ^ (-exponent).toNat
            = significand * 2 ^ (1 + (exponent - 1).toNat + (-exponent).toNat) := by
              rw [Nat.pow_add, Nat.pow_add, Nat.pow_one]
              simp only [Nat.mul_assoc, Nat.mul_left_comm]
          _ = significand * 2 ^ exponent.toNat * 2 ^ (-(exponent - 1)).toNat := by
              rw [hpowers, Nat.pow_add, Nat.mul_assoc]

end FloatFormat

/-! ## Floating point numbers -/

namespace Binary64

/-- The number that a double denotes, if it is finite. -/
def number? (x : Binary64) : Option Rat :=
  match x.magnitude with
  | .finite significand exponent => some (scaledRatio x.isNegative 2 significand exponent)
  | _ => none

theorem number?_ofCode {code : Nat} (h : code < FloatFormat.double.infinityCode)
    (negative : Bool) :
    (ofCode negative code).number? =
      some (scaledRatio negative 2 (FloatFormat.double.significand code)
        (FloatFormat.double.exponent code)) := by
  have hle := Nat.le_of_lt h
  have hfinite : (ofCode negative code).isFinite = true := by
    rw [isFinite, code_ofCode hle]
    exact decide_eq_true h
  rw [number?, magnitude_of_isFinite hfinite, code_ofCode hle, isNegative_ofCode hle]

theorem number?_ofCode_infinity (negative : Bool) :
    (ofCode negative FloatFormat.double.infinityCode).number? = none := by
  cases negative <;> rfl

/-- A rounded ratio is the ratio if doubles hold it, and another number if not. -/
theorem number?_ofCode_roundRatio_iff
    {numerator denominator : Nat} (h : denominator ≠ 0) (negative : Bool) :
    (ofCode negative (FloatFormat.double.roundRatio numerator denominator)).number? =
        some (signedRatio negative numerator denominator) ↔
      FloatFormat.double.Represents numerator denominator := by
  have hunit : ∀ exponent : Int, 2 ^ (-exponent).toNat ≠ 0 :=
    fun _ => Nat.ne_of_gt (Nat.two_pow_pos _)
  constructor
  · intro hnumber
    by_cases hcode : FloatFormat.double.roundRatio numerator denominator <
        FloatFormat.double.infinityCode
    · rw [number?_ofCode hcode, Option.some.injEq, scaledRatio,
        signedRatio_eq_iff (hunit _) h] at hnumber
      exact ⟨_, hcode, hnumber⟩
    · have hinfinite := Nat.le_antisymm
        (FloatFormat.double.roundRatio_le numerator denominator) (Nat.not_lt.mp hcode)
      rw [hinfinite, number?_ofCode_infinity] at hnumber
      cases hnumber
  · intro hrepresents
    obtain ⟨hcode, hratio⟩ := hrepresents.magnitude_roundRatio h
    rw [number?_ofCode hcode, Option.some.injEq, scaledRatio,
      signedRatio_eq_iff (hunit _) h]
    exact hratio

/-- A ratio without a remainder is a whole number. -/
theorem wholeQuotient_eq_some_iff
    {numerator denominator : Nat} (h : 0 < denominator) (negative : Bool) {n : Int} :
    (if numerator % denominator = 0 then
        some (if negative then -((numerator / denominator : Nat) : Int)
          else (numerator / denominator : Nat))
      else none) = some n ↔
      (if negative then -(numerator : Int) else numerator) = n * denominator := by
  have hdenominator : (denominator : Int) ≠ 0 := Int.natCast_ne_zero.mpr (Nat.ne_of_gt h)
  by_cases hwhole : numerator % denominator = 0
  · have hnumerator : numerator = numerator / denominator * denominator := by
      have hsplit := Nat.div_add_mod' numerator denominator
      omega
    have hsigned : (if negative then -(numerator : Int) else numerator) =
        (if negative then -((numerator / denominator : Nat) : Int)
          else (numerator / denominator : Nat)) * denominator := by
      cases negative with
      | true => rw [if_pos rfl, if_pos rfl, Int.neg_mul, ← Int.natCast_mul, ← hnumerator]
      | false =>
          rw [if_neg Bool.false_ne_true, if_neg Bool.false_ne_true, ← Int.natCast_mul,
            ← hnumerator]
    rw [if_pos hwhole, hsigned, Option.some.injEq, Int.mul_eq_mul_right_iff hdenominator]
  · rw [if_neg hwhole]
    constructor
    · intro hnone
      cases hnone
    · intro hsigned
      have hnumerator : numerator = n.natAbs * denominator := by
        rw [← Int.natAbs_natCast denominator, ← Int.natAbs_mul, ← hsigned]
        split <;> simp
      rw [hnumerator, Nat.mul_mod_left] at hwhole
      exact absurd rfl hwhole

/-- The whole number of a double is the number that it denotes. -/
theorem toInt?_eq_some_iff {x : Binary64} {n : Int} :
    x.toInt? = some n ↔ x.number? = some (wholeRatio n) := by
  rw [toInt?, number?]
  cases x.magnitude with
  | nan => simp
  | infinite => simp
  | finite significand exponent =>
      have hdenominator : 0 < 2 ^ (-exponent).toNat := Nat.two_pow_pos _
      simp only [scaledRatio, Option.some.injEq,
        signedRatio_eq_whole_iff (Nat.ne_of_gt hdenominator)]
      exact wholeQuotient_eq_some_iff hdenominator x.isNegative

end Binary64

namespace Binary32

/-- The number that a single denotes, if it is finite. -/
def number? (x : Binary32) : Option Rat :=
  match FloatFormat.single.magnitude x.code with
  | .finite significand exponent => some (scaledRatio x.isNegative 2 significand exponent)
  | _ => none

/-- Doubles hold the magnitudes of singles. -/
theorem represents_single {code : Nat} (h : code < FloatFormat.single.infinityCode) :
    FloatFormat.double.Represents
      (FloatFormat.single.significand code * 2 ^ (FloatFormat.single.exponent code).toNat)
      (2 ^ (-FloatFormat.single.exponent code).toNat) := by
  have hcount : FloatFormat.single.fractionCount = 8388608 := by decide
  have hinfinity : FloatFormat.single.infinityCode = 2139095040 := by decide
  have hleast : FloatFormat.single.leastExponent = -149 := by decide
  have hleast' : FloatFormat.double.leastExponent = -1074 := by decide
  have hcount' : FloatFormat.double.fractionCount = 4503599627370496 := by decide
  have hbits' : 2 ^ FloatFormat.double.exponentBits = 2048 := by decide
  have hsignificand : FloatFormat.single.significand code < 16777216 := by
    rw [FloatFormat.significand, hcount]
    split <;> omega
  have hexponent : -149 ≤ FloatFormat.single.exponent code ∧
      FloatFormat.single.exponent code ≤ 104 := by
    rw [FloatFormat.exponent, hcount, hleast]
    split <;> omega
  have hbinade : FloatFormat.single.exponent code = FloatFormat.double.leastExponent +
      ((FloatFormat.single.exponent code + 1074).toNat : Nat) := by
    omega
  exact FloatFormat.represents_dyadic (by omega) hbinade (by omega)

/-- Widening a single keeps its number. -/
theorem number?_toBinary64 (x : Binary32) : x.toBinary64.number? = x.number? := by
  rw [toBinary64, number?]
  unfold FloatFormat.magnitude
  by_cases hnan : FloatFormat.single.infinityCode < x.code
  · rw [if_pos hnan]
    rfl
  · by_cases hinfinite : x.code = FloatFormat.single.infinityCode
    · rw [if_neg hnan, if_pos hinfinite]
      exact Binary64.number?_ofCode_infinity x.isNegative
    · rw [if_neg hnan, if_neg hinfinite]
      have hcode : x.code < FloatFormat.single.infinityCode := by omega
      have hunit := Nat.ne_of_gt (Nat.two_pow_pos (-FloatFormat.single.exponent x.code).toNat)
      exact (Binary64.number?_ofCode_roundRatio_iff hunit x.isNegative).mpr
        (represents_single hcode)

end Binary32

/-! ## Texts and values -/

/-- The number that a text denotes: digits with an optional sign, an optional point and
an optional exponent. -/
def numberOfText? (text : String) : Option Rat :=
  signed? text.toList
where
  /-- The number of a text with an optional sign. -/
  signed? : List Char → Option Rat
    | '-' :: rest => unsigned? true rest
    | '+' :: rest => unsigned? false rest
    | chars => unsigned? false chars
  /-- The number of a text without a sign. -/
  unsigned? (negative : Bool) (chars : List Char) : Option Rat :=
    (Binary64.readDecimal? chars).map fun decimal =>
      scaledRatio negative 10 decimal.1 decimal.2

theorem numberOfText?_digits {chars : List Char} {n : Nat}
    (h : Digits.readInteger?.unsigned? chars = some n) (negative : Bool) :
    numberOfText?.unsigned? negative chars = some (signedRatio negative n 1) := by
  rw [Digits.readInteger?.unsigned?] at h
  split at h
  · rename_i hdigits
    rw [Bool.and_eq_true, Bool.not_eq_true', List.isEmpty_eq_false_iff,
      List.all_eq_true] at hdigits
    rw [numberOfText?.unsigned?, Binary64.readDecimal?_whole hdigits.2 hdigits.1,
      Option.map_some, Option.some.inj h, scaledRatio]
    rw [Int.toNat_zero, Int.neg_zero, Int.toNat_zero, Nat.pow_zero, Nat.mul_one]
  · cases h

/-- A numeral denotes the integer that it is read as. -/
theorem numberOfText?_of_readInteger? {text : String} {n : Int}
    (h : Digits.readInteger? text.toList = some n) :
    numberOfText? text = some (wholeRatio n) := by
  rw [numberOfText?]
  unfold Digits.readInteger? at h
  generalize text.toList = chars at h ⊢
  split at h
  · rename_i digits
    cases hdigits : Digits.readInteger?.unsigned? digits with
    | none =>
        rw [hdigits] at h
        cases h
    | some k =>
        rw [hdigits] at h
        cases h
        exact numberOfText?_digits hdigits true
  · obtain ⟨k, hk, rfl⟩ := Option.map_eq_some_iff.mp h
    exact numberOfText?_digits hk false
  · rename_i hminus hplus
    obtain ⟨k, hk, rfl⟩ := Option.map_eq_some_iff.mp h
    rw [numberOfText?.signed?]
    · exact numberOfText?_digits hk false
    · exact hminus
    · exact hplus

namespace Value

/-- The number that a value denotes.  Truth values count as zero and one. -/
def number? : Value → Option Rat
  | integer i => some (wholeRatio i.toInt)
  | boolean b => some (wholeRatio (if b then 1 else 0))
  | real r => r.number?
  | text s => numberOfText? s
  | _ => none

end Value

theorem IntegerType.fits_int64 (type : IntegerType) :
    int64.lower ≤ type.lower ∧ type.upper ≤ int64.upper := by
  cases type <;> decide

namespace Kind

def isInteger : Kind → Bool
  | integer _ | foreignKey _ => true
  | _ => false

/-- The integer that a value of a kind is, and zero if it is none. -/
def wholeOf : (kind : Kind) → kind.Carrier → Int
  | integer _, n => n.val
  | foreignKey _, n => n.val
  | _, _ => 0

theorem narrow_eq_ok_iff {type : IntegerType} {i : Int} {n : type.Number} :
    narrow type i = .ok n ↔ n.val = i := by
  rw [narrow, ← IntegerType.number?_eq_some_iff]
  cases type.number? i with
  | none => simp
  | some m => simp

/-- Narrowing keeps an integer that the type has, and gives no other. -/
theorem exists_narrow_eq_ok_iff {type : IntegerType} {i j : Int} :
    (∃ n, narrow type i = .ok n ∧ n.val = j) ↔
      j = i ∧ type.lower ≤ j ∧ j ≤ type.upper := by
  constructor
  · rintro ⟨n, hn, rfl⟩
    exact ⟨narrow_eq_ok_iff.mp hn, n.lower_le, n.le_upper⟩
  · rintro ⟨rfl, hlow, hhigh⟩
    exact ⟨⟨j, hlow, hhigh⟩, narrow_eq_ok_iff.mpr rfl, rfl⟩

theorem narrow_eq_error_iff {type : IntegerType} {i : Int} {error : Error} :
    narrow type i = .error error ↔
      ¬(type.lower ≤ i ∧ i ≤ type.upper) ∧
        error = outOfRange (Digits.integerText i) type := by
  rw [narrow, IntegerType.number?]
  by_cases hrange : type.lower ≤ i ∧ i ≤ type.upper
  · rw [dif_pos hrange]
    constructor
    · intro h
      cases h
    · intro h
      exact absurd hrange h.1
  · rw [dif_neg hrange]
    constructor
    · intro h
      exact ⟨hrange, (Except.error.inj h).symm⟩
    · rintro ⟨-, rfl⟩
      rfl

theorem readInteger?_of_parseInteger {type : IntegerType} {text : String}
    {n : type.Number} (h : parseInteger type text = .ok n) :
    Digits.readInteger? text.toList = some n.val := by
  rw [parseInteger] at h
  cases hread : Digits.readInteger? text.toList with
  | none =>
      rw [hread] at h
      cases h
  | some i =>
      rw [hread] at h
      dsimp only at h
      split at h
      · cases h
      · split at h
        · cases h
        · rw [narrow_eq_ok_iff.mp h]

theorem number?_of_decodeInteger {type : IntegerType} {value : Value}
    {outcome : Option type.Number} (hvalue : value ≠ .null)
    (h : decodeInteger type value = .ok outcome) :
    ∃ n, outcome = some n ∧ value.number? = some (wholeRatio n.val) := by
  cases value with
  | null => exact absurd rfl hvalue
  | integer i =>
      obtain ⟨n, hn, rfl⟩ := map_eq_ok_iff.mp h
      exact ⟨n, rfl, by rw [Value.number?, narrow_eq_ok_iff.mp hn]⟩
  | boolean b =>
      obtain ⟨n, hn, rfl⟩ := map_eq_ok_iff.mp h
      exact ⟨n, rfl, by rw [Value.number?, narrow_eq_ok_iff.mp hn]⟩
  | real r =>
      obtain ⟨i, hwhole, hreal⟩ | hreal := decodeInteger_real_cases type r
      · rw [hreal] at h
        obtain ⟨n, hn, rfl⟩ := map_eq_ok_iff.mp h
        refine ⟨n, rfl, ?_⟩
        rw [Value.number?, narrow_eq_ok_iff.mp hn]
        exact Binary64.toInt?_eq_some_iff.mp hwhole
      · rw [hreal] at h
        cases h
  | text s =>
      obtain ⟨n, hn, rfl⟩ := map_eq_ok_iff.mp h
      exact ⟨n, rfl, numberOfText?_of_readInteger? (readInteger?_of_parseInteger hn)⟩
  | blob bytes => cases h
  | timestamp t => cases h

theorem decodeInteger_of_number? {type : IntegerType} {value : Value}
    (htext : ∀ s, value ≠ .text s) {n : type.Number}
    (h : value.number? = some (wholeRatio n.val)) :
    decodeInteger type value = .ok (some n) := by
  have hnarrow : narrow type n.val = .ok n := narrow_eq_ok_iff.mpr rfl
  cases value with
  | null => cases h
  | integer i =>
      have hi : i.toInt = n.val := wholeRatio_inj.mp (Option.some.inj h)
      rw [decodeInteger, hi, hnarrow]
      rfl
  | boolean b =>
      have hb : (if b then 1 else 0) = n.val := wholeRatio_inj.mp (Option.some.inj h)
      rw [decodeInteger, hb, hnarrow]
      rfl
  | real r =>
      have hr : r.toInt? = some n.val := Binary64.toInt?_eq_some_iff.mpr h
      have hbounds := type.fits_int64
      have hlow := n.lower_le
      have hhigh := n.le_upper
      rw [decodeInteger_real_of_word hr (by omega), hnarrow]
      rfl
  | text s => exact absurd rfl (htext s)
  | blob bytes => cases h
  | timestamp t => cases h

/-! ## Kinds of integers -/

/-- The kinds of integers, each with the type of its values. -/
inductive Integral : Kind → IntegerType → Prop where
  | integer (type : IntegerType) : Integral (.integer type) type
  | foreignKey (target : Reference) : Integral (.foreignKey target) .int64

namespace Integral

variable {kind : Kind} {type : IntegerType}

theorem wholeOf_bounds (h : kind.Integral type) (value : kind.Carrier) :
    type.lower ≤ kind.wholeOf value ∧ kind.wholeOf value ≤ type.upper := by
  cases h with
  | integer => exact ⟨value.lower_le, value.le_upper⟩
  | foreignKey => exact ⟨value.lower_le, value.le_upper⟩

theorem wholeOf_inj (h : kind.Integral type) {value value' : kind.Carrier}
    (hwhole : kind.wholeOf value = kind.wholeOf value') : value = value' := by
  cases h with
  | integer =>
      cases value
      cases value'
      obtain rfl := hwhole
      rfl
  | foreignKey =>
      cases value
      cases value'
      obtain rfl := hwhole
      rfl

theorem format_eq (h : kind.Integral type) (value : kind.Carrier) :
    kind.format value = Digits.integerText (kind.wholeOf value) := by
  cases h with
  | integer => rfl
  | foreignKey => rfl

theorem parse_eq_ok_iff (h : kind.Integral type) {text : String} {i : Int} :
    (∃ value, kind.parse text = .ok value ∧ kind.wholeOf value = i) ↔
      ∃ n, parseInteger type text = .ok n ∧ n.val = i := by
  cases h with
  | integer => exact Iff.rfl
  | foreignKey => exact Iff.rfl

theorem parse_eq_error_iff (h : kind.Integral type) {text : String} {error : Error} :
    kind.parse text = .error error ↔ parseInteger type text = .error error := by
  cases h with
  | integer => exact Iff.rfl
  | foreignKey => exact Iff.rfl

theorem decode_eq_ok_iff (h : kind.Integral type) {cell : Value} {i : Int} :
    (∃ value, kind.decode cell = .ok (some value) ∧ kind.wholeOf value = i) ↔
      ∃ n, decodeInteger type cell = .ok (some n) ∧ n.val = i := by
  cases h with
  | integer => exact Iff.rfl
  | foreignKey => exact Iff.rfl

theorem decode_eq_error_iff (h : kind.Integral type) {cell : Value} {error : Error} :
    kind.decode cell = .error error ↔ decodeInteger type cell = .error error := by
  cases h with
  | integer => exact Iff.rfl
  | foreignKey => exact Iff.rfl

end Integral

end Kind

end TypedQuery

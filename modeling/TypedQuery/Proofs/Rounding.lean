import TypedQuery.Binary64.Basic

/-!
# Rounding

Rounding depends on the ratio alone, and a ratio that is a magnitude of the format
is rounded to the code of that magnitude.  Both facts rest on the exponent of a
ratio, which is the greatest one whose power of two does not exceed the ratio.  So
ratios that the format holds are told apart after rounding, and so are the numbers
that are made of the codes.
-/

namespace TypedQuery

/-! ## The exponent of a ratio -/

/-- The power of two with an exponent is at most a ratio. -/
def PowerLE (numerator denominator : Nat) (exponent : Int) : Prop :=
  denominator * 2 ^ exponent.toNat ≤ numerator * 2 ^ (-exponent).toNat

theorem PowerLE.of_le
    {numerator denominator : Nat} {small great : Int} (hle : small ≤ great)
    (h : PowerLE numerator denominator great) :
    PowerLE numerator denominator small := by
  have hplus : small.toNat ≤ great.toNat := by omega
  have hminus : (-great).toNat ≤ (-small).toNat := by omega
  calc denominator * 2 ^ small.toNat
      ≤ denominator * 2 ^ great.toNat :=
        Nat.mul_le_mul_left _ (Nat.pow_le_pow_right (by decide) hplus)
    _ ≤ numerator * 2 ^ (-great).toNat := h
    _ ≤ numerator * 2 ^ (-small).toNat :=
        Nat.mul_le_mul_left _ (Nat.pow_le_pow_right (by decide) hminus)

theorem powerLE_mul_iff
    {numerator denominator factor : Nat} (hfactor : 0 < factor) (exponent : Int) :
    PowerLE (numerator * factor) (denominator * factor) exponent ↔
      PowerLE numerator denominator exponent := by
  unfold PowerLE
  rw [Nat.mul_right_comm, Nat.mul_right_comm numerator]
  exact Nat.mul_le_mul_right_iff hfactor

theorem powerLE_log2_sub
    {numerator : Nat} (hnumerator : numerator ≠ 0) (denominator : Nat) :
    PowerLE numerator denominator
      ((numerator.log2 : Int) - denominator.log2 - 1) := by
  have hlow : 2 ^ numerator.log2 ≤ numerator := Nat.log2_self_le hnumerator
  have hhigh : denominator < 2 ^ (denominator.log2 + 1) := Nat.lt_log2_self
  generalize hplus : ((numerator.log2 : Int) - denominator.log2 - 1).toNat = plus
  generalize hminus : (-((numerator.log2 : Int) - denominator.log2 - 1)).toNat = minus
  have hsum : denominator.log2 + 1 + plus = numerator.log2 + minus := by omega
  unfold PowerLE
  rw [hplus, hminus]
  calc denominator * 2 ^ plus
      ≤ 2 ^ (denominator.log2 + 1) * 2 ^ plus :=
        Nat.mul_le_mul_right _ (Nat.le_of_lt hhigh)
    _ = 2 ^ numerator.log2 * 2 ^ minus := by rw [← Nat.pow_add, hsum, Nat.pow_add]
    _ ≤ numerator * 2 ^ minus := Nat.mul_le_mul_right _ hlow

theorem not_powerLE_log2_sub
    (numerator : Nat) {denominator : Nat} (hdenominator : denominator ≠ 0) :
    ¬ PowerLE numerator denominator
      ((numerator.log2 : Int) - denominator.log2 + 1) := by
  have hlow : 2 ^ denominator.log2 ≤ denominator := Nat.log2_self_le hdenominator
  have hhigh : numerator < 2 ^ (numerator.log2 + 1) := Nat.lt_log2_self
  generalize hplus : ((numerator.log2 : Int) - denominator.log2 + 1).toNat = plus
  generalize hminus : (-((numerator.log2 : Int) - denominator.log2 + 1)).toNat = minus
  have hsum : numerator.log2 + 1 + minus = denominator.log2 + plus := by omega
  unfold PowerLE
  rw [hplus, hminus, Nat.not_le]
  calc numerator * 2 ^ minus
      < 2 ^ (numerator.log2 + 1) * 2 ^ minus :=
        Nat.mul_lt_mul_of_pos_right hhigh (Nat.two_pow_pos _)
    _ = 2 ^ denominator.log2 * 2 ^ plus := by rw [← Nat.pow_add, hsum, Nat.pow_add]
    _ ≤ denominator * 2 ^ plus := Nat.mul_le_mul_right _ hlow

theorem floorLog2_spec
    {numerator denominator : Nat} (hnumerator : numerator ≠ 0)
    (hdenominator : denominator ≠ 0) :
    PowerLE numerator denominator (floorLog2 numerator denominator) ∧
      ¬ PowerLE numerator denominator (floorLog2 numerator denominator + 1) := by
  have hlow := powerLE_log2_sub hnumerator denominator
  have hhigh := not_powerLE_log2_sub numerator hdenominator
  unfold floorLog2
  by_cases h : PowerLE numerator denominator ((numerator.log2 : Int) - denominator.log2)
  · simp only [if_pos (show _ ≤ _ from h)]
    exact ⟨h, hhigh⟩
  · simp only [if_neg (show ¬ _ ≤ _ from h), Int.sub_add_cancel]
    exact ⟨hlow, h⟩

theorem floorLog2_eq
    {numerator denominator : Nat} (hnumerator : numerator ≠ 0)
    (hdenominator : denominator ≠ 0) {exponent : Int}
    (h : PowerLE numerator denominator exponent)
    (hnext : ¬ PowerLE numerator denominator (exponent + 1)) :
    floorLog2 numerator denominator = exponent := by
  obtain ⟨hfloor, habove⟩ := floorLog2_spec hnumerator hdenominator
  have hle : exponent ≤ floorLog2 numerator denominator := by
    apply Int.not_lt.mp
    intro hlt
    exact habove (h.of_le hlt)
  have hge : floorLog2 numerator denominator ≤ exponent := by
    apply Int.not_lt.mp
    intro hlt
    exact hnext (hfloor.of_le hlt)
  omega

theorem floorLog2_mul
    {numerator denominator factor : Nat} (hnumerator : numerator ≠ 0)
    (hdenominator : denominator ≠ 0) (hfactor : 0 < factor) :
    floorLog2 (numerator * factor) (denominator * factor) =
      floorLog2 numerator denominator := by
  obtain ⟨hfloor, habove⟩ := floorLog2_spec hnumerator hdenominator
  apply floorLog2_eq
  · exact Nat.mul_ne_zero hnumerator (by omega)
  · exact Nat.mul_ne_zero hdenominator (by omega)
  · exact (powerLE_mul_iff hfactor _).mpr hfloor
  · rw [powerLE_mul_iff hfactor]
    exact habove

/-! ## Rounding a ratio -/

theorem roundHalfEven_mul
    {numerator denominator factor : Nat} (hfactor : 0 < factor) :
    roundHalfEven (numerator * factor) (denominator * factor) =
      roundHalfEven numerator denominator := by
  have hremainder : 2 * (numerator % denominator * factor) =
      2 * (numerator % denominator) * factor := by
    rw [Nat.mul_assoc]
  simp only [roundHalfEven, Nat.mul_div_mul_right _ _ hfactor, Nat.mul_mod_mul_right,
    hremainder, Nat.mul_lt_mul_right hfactor]

theorem roundHalfEven_mul_self {n denominator : Nat} (h : 0 < denominator) :
    roundHalfEven (n * denominator) denominator = n := by
  simp only [roundHalfEven, Nat.mul_div_cancel n h, Nat.mul_mod_left, Nat.mul_zero,
    if_pos h]

namespace FloatFormat

variable (format : FloatFormat)

theorem roundRatio_mul
    (numerator : Nat) {denominator factor : Nat} (hdenominator : denominator ≠ 0)
    (hfactor : 0 < factor) :
    format.roundRatio (numerator * factor) (denominator * factor) =
      format.roundRatio numerator denominator := by
  by_cases hzero : numerator = 0
  · rw [hzero, Nat.zero_mul]
    rfl
  · have hne : numerator * factor ≠ 0 := Nat.mul_ne_zero hzero (by omega)
    have hround : ∀ a b, roundHalfEven (numerator * factor * a) (denominator * factor * b) =
        roundHalfEven (numerator * a) (denominator * b) := by
      intro a b
      rw [Nat.mul_right_comm, Nat.mul_right_comm denominator, roundHalfEven_mul hfactor]
    simp only [roundRatio, if_neg hzero, if_neg hne, floorLog2_mul hzero hdenominator hfactor,
      hround]

/-- Equal ratios are rounded alike. -/
theorem roundRatio_congr
    {numerator denominator numerator' denominator' : Nat}
    (hdenominator : denominator ≠ 0) (hdenominator' : denominator' ≠ 0)
    (h : numerator * denominator' = numerator' * denominator) :
    format.roundRatio numerator denominator =
      format.roundRatio numerator' denominator' := by
  rw [← format.roundRatio_mul numerator hdenominator (Nat.pos_of_ne_zero hdenominator'), h,
    Nat.mul_comm denominator,
    format.roundRatio_mul numerator' hdenominator' (Nat.pos_of_ne_zero hdenominator)]

theorem roundDecimal_congr
    {coefficient coefficient' : Nat} {exponent exponent' : Int}
    (h : coefficient * 10 ^ exponent.toNat * 10 ^ (-exponent').toNat =
      coefficient' * 10 ^ exponent'.toNat * 10 ^ (-exponent).toNat) :
    format.roundDecimal coefficient exponent =
      format.roundDecimal coefficient' exponent' :=
  format.roundRatio_congr (Nat.pos_iff_ne_zero.mp (Nat.pow_pos (by decide)))
    (Nat.pos_iff_ne_zero.mp (Nat.pow_pos (by decide))) h

/-! ## Magnitudes of the format -/

/-- A magnitude reaches a power of two, counted from its exponent, when its
significand does. -/
theorem powerLE_dyadic_iff (significand place : Nat) (exponent : Int) :
    PowerLE (significand * 2 ^ exponent.toNat) (2 ^ (-exponent).toNat)
        (place + exponent) ↔
      2 ^ place ≤ significand := by
  generalize hplus : (place + exponent).toNat = plus
  generalize hminus : (-(place + exponent)).toNat = minus
  have hsum : (-exponent).toNat + plus = place + (exponent.toNat + minus) := by omega
  have hpositive : 0 < 2 ^ (exponent.toNat + minus) := Nat.two_pow_pos _
  unfold PowerLE
  rw [hplus, hminus, Nat.mul_assoc, ← Nat.pow_add, ← Nat.pow_add, hsum,
    Nat.pow_add 2 place]
  exact Nat.mul_le_mul_right_iff hpositive

theorem fractionCount_pos : 0 < format.fractionCount :=
  Nat.two_pow_pos _

theorem significand_ne_zero {code : Nat} (h : code ≠ 0) :
    format.significand code ≠ 0 := by
  have hcount := format.fractionCount_pos
  unfold significand
  split
  · exact h
  · omega

/-- The exponent and the significand give the code back: whole binades first. -/
theorem code_eq (code : Nat) :
    (format.exponent code - format.leastExponent).toNat * format.fractionCount +
      format.significand code = code := by
  by_cases hsmall : code < format.fractionCount
  · rw [exponent, significand, if_pos hsmall, if_pos hsmall, Int.sub_self, Int.toNat_zero,
      Nat.zero_mul, Nat.zero_add]
  · have hdiv := Nat.div_pos (Nat.not_lt.mp hsmall) format.fractionCount_pos
    have hbinades : (format.leastExponent + (code / format.fractionCount : Nat) - 1 -
        format.leastExponent).toNat = code / format.fractionCount - 1 := by
      omega
    have hone : format.fractionCount ≤
        code / format.fractionCount * format.fractionCount :=
      Nat.le_mul_of_pos_left _ hdiv
    have hsplit := Nat.div_add_mod' code format.fractionCount
    rw [exponent, significand, if_neg hsmall, if_neg hsmall, hbinades, Nat.sub_mul,
      Nat.one_mul]
    omega

/-- The code of a significand that fills its place, counted in binades from the least. -/
theorem magnitude_of_full (binade : Nat) {significand : Nat}
    (hlow : format.fractionCount ≤ significand)
    (hhigh : significand < 2 * format.fractionCount) :
    format.significand (binade * format.fractionCount + significand) = significand ∧
      format.exponent (binade * format.fractionCount + significand) =
        format.leastExponent + binade := by
  have hpos := format.fractionCount_pos
  have hsplit : binade * format.fractionCount + significand =
      (significand - format.fractionCount) + format.fractionCount * (binade + 1) := by
    rw [Nat.mul_succ, Nat.mul_comm]
    omega
  have hmod : (binade * format.fractionCount + significand) % format.fractionCount =
      significand - format.fractionCount := by
    rw [hsplit, Nat.add_mul_mod_self_left, Nat.mod_eq_of_lt (by omega)]
  have hdiv : (binade * format.fractionCount + significand) / format.fractionCount =
      binade + 1 := by
    rw [hsplit, Nat.add_mul_div_left _ _ hpos, Nat.div_eq_of_lt (by omega), Nat.zero_add]
  have hlarge : ¬binade * format.fractionCount + significand < format.fractionCount := by
    omega
  rw [FloatFormat.significand, FloatFormat.exponent, if_neg hlarge, if_neg hlarge, hmod, hdiv]
  constructor
  · omega
  · omega

/-- The unit that a magnitude is counted in when it is rounded is that of its own
exponent, so nothing of it is cut off. -/
theorem unit_magnitude {code : Nat} (h : code ≠ 0) :
    max format.leastExponent
        (floorLog2 (format.significand code * 2 ^ (format.exponent code).toNat)
          (2 ^ (-format.exponent code).toNat) - format.fractionBits) =
      format.exponent code := by
  have hdenominator : (2 : Nat) ^ (-format.exponent code).toNat ≠ 0 :=
    Nat.ne_of_gt (Nat.two_pow_pos _)
  have hnumerator : format.significand code * 2 ^ (format.exponent code).toNat ≠ 0 :=
    Nat.mul_ne_zero (format.significand_ne_zero h) (Nat.ne_of_gt (Nat.two_pow_pos _))
  have hreach := powerLE_dyadic_iff (format.significand code) format.fractionBits
    (format.exponent code)
  by_cases hsmall : code < format.fractionCount
  · have hsignificand : format.significand code = code := if_pos hsmall
    have hexponent : format.exponent code = format.leastExponent := if_pos hsmall
    have hbelow : floorLog2 (format.significand code * 2 ^ (format.exponent code).toNat)
        (2 ^ (-format.exponent code).toNat) <
          format.fractionBits + format.exponent code := by
      apply Int.not_le.mp
      intro hge
      have hpower := hreach.mp ((floorLog2_spec hnumerator hdenominator).1.of_le hge)
      rw [hsignificand] at hpower
      exact absurd hsmall (Nat.not_lt.mpr hpower)
    omega
  · have hsignificand : format.significand code =
        format.fractionCount + code % format.fractionCount := if_neg hsmall
    have hexponent : format.exponent code =
        format.leastExponent + (code / format.fractionCount : Nat) - 1 := if_neg hsmall
    have hmod := Nat.mod_lt code format.fractionCount_pos
    have hdiv := Nat.div_pos (Nat.not_lt.mp hsmall) format.fractionCount_pos
    have hdouble : 2 ^ (format.fractionBits + 1) = 2 * format.fractionCount := by
      rw [Nat.pow_succ, Nat.mul_comm]
      rfl
    have hlog : floorLog2 (format.significand code * 2 ^ (format.exponent code).toNat)
        (2 ^ (-format.exponent code).toNat) =
          format.fractionBits + format.exponent code := by
      apply floorLog2_eq hnumerator hdenominator
      · apply hreach.mpr
        rw [hsignificand]
        exact Nat.le_add_right _ _
      · have hplace : (format.fractionBits : Int) + format.exponent code + 1 =
            (format.fractionBits + 1 : Nat) + format.exponent code := by
          omega
        rw [hplace, powerLE_dyadic_iff, hdouble]
        omega
    omega

/-- Every finite magnitude is rounded to its own code. -/
theorem roundDyadic_magnitude {code : Nat} (h : code < format.infinityCode) :
    format.roundDyadic (format.significand code) (format.exponent code) = code := by
  by_cases hzero : code = 0
  · have hsignificand : format.significand code = 0 := by
      rw [significand, if_pos (by rw [hzero]; exact format.fractionCount_pos), hzero]
    rw [roundDyadic, hsignificand, Nat.zero_mul, hzero]
    rfl
  · have hnumerator : format.significand code * 2 ^ (format.exponent code).toNat ≠ 0 :=
      Nat.mul_ne_zero (format.significand_ne_zero hzero)
        (Nat.ne_of_gt (Nat.two_pow_pos _))
    have hexact : roundHalfEven
        (format.significand code * 2 ^ (format.exponent code).toNat *
          2 ^ (-format.exponent code).toNat)
        (2 ^ (-format.exponent code).toNat * 2 ^ (format.exponent code).toNat) =
          format.significand code := by
      rw [Nat.mul_assoc, Nat.mul_comm (2 ^ (format.exponent code).toNat)]
      exact roundHalfEven_mul_self (Nat.mul_pos (Nat.two_pow_pos _) (Nat.two_pow_pos _))
    simp only [roundDyadic, roundRatio, if_neg hnumerator, format.unit_magnitude hzero,
      hexact, format.code_eq]
    exact Nat.min_eq_right (Nat.le_of_lt h)

/-! ## Ratios that the format holds -/

/-- The ratio is a finite magnitude of the format. -/
def Represents (numerator denominator : Nat) : Prop :=
  ∃ code < format.infinityCode,
    format.significand code * 2 ^ (format.exponent code).toNat * denominator =
      numerator * 2 ^ (-format.exponent code).toNat

theorem roundRatio_le (numerator denominator : Nat) :
    format.roundRatio numerator denominator ≤ format.infinityCode := by
  unfold roundRatio
  split
  · exact Nat.zero_le _
  · exact Nat.min_le_left _ _

variable {format}

theorem Represents.magnitude_roundRatio
    {numerator denominator : Nat} (h : format.Represents numerator denominator)
    (hdenominator : denominator ≠ 0) :
    format.roundRatio numerator denominator < format.infinityCode ∧
      format.significand (format.roundRatio numerator denominator) *
          2 ^ (format.exponent (format.roundRatio numerator denominator)).toNat *
          denominator =
        numerator * 2 ^ (-format.exponent (format.roundRatio numerator denominator)).toNat := by
  obtain ⟨code, hcode, hratio⟩ := h
  have hunit : 2 ^ (-format.exponent code).toNat ≠ 0 := Nat.ne_of_gt (Nat.two_pow_pos _)
  have hself : format.roundRatio numerator denominator = code := by
    rw [← format.roundRatio_congr hunit hdenominator hratio]
    exact format.roundDyadic_magnitude hcode
  rw [hself]
  exact ⟨hcode, hratio⟩

/-- Rounding tells apart the ratios that the format holds. -/
theorem Represents.eq_of_roundRatio_eq
    {numerator denominator numerator' denominator' : Nat}
    (h : format.Represents numerator denominator)
    (h' : format.Represents numerator' denominator')
    (hdenominator : denominator ≠ 0) (hdenominator' : denominator' ≠ 0)
    (hround : format.roundRatio numerator denominator =
      format.roundRatio numerator' denominator') :
    numerator * denominator' = numerator' * denominator := by
  have hratio := (h.magnitude_roundRatio hdenominator).2
  have hratio' := (h'.magnitude_roundRatio hdenominator').2
  rw [← hround] at hratio'
  generalize format.roundRatio numerator denominator = code at hratio hratio'
  apply Nat.eq_of_mul_eq_mul_right (Nat.two_pow_pos (-format.exponent code).toNat)
  rw [Nat.mul_right_comm, ← hratio, Nat.mul_right_comm numerator', ← hratio',
    Nat.mul_right_comm]

theorem Represents.int_eq
    {i j : Int} (hi : format.Represents i.natAbs 1) (hj : format.Represents j.natAbs 1)
    (hsign : decide (i < 0) = decide (j < 0))
    (hround : format.roundRatio i.natAbs 1 = format.roundRatio j.natAbs 1) : i = j := by
  have hsize := hi.eq_of_roundRatio_eq hj (by decide) (by decide) hround
  rw [decide_eq_decide] at hsign
  omega

end FloatFormat

/-! ## Codes of numbers -/

section Words

variable {place code : Nat}

/-- A sign that is placed above a code can be taken away. -/
theorem word_mod (h : code < place) (negative : Bool) :
    (code + if negative then place else 0) % place = code := by
  cases negative with
  | true => rw [if_pos rfl, Nat.add_mod_right, Nat.mod_eq_of_lt h]
  | false => exact Nat.mod_eq_of_lt h

theorem decide_le_word (h : code < place) (negative : Bool) :
    decide (place ≤ code + if negative then place else 0) = negative := by
  cases negative with
  | true => exact decide_eq_true (Nat.le_add_left _ _)
  | false => exact decide_eq_false (Nat.not_le.mpr h)

theorem word_lt (h : code < place) (negative : Bool) :
    (code + if negative then place else 0) < 2 * place := by
  split <;> omega

end Words

namespace Binary64

variable {code code' : Nat}

theorem lt_signPlace (h : code ≤ FloatFormat.double.infinityCode) :
    code < FloatFormat.double.signPlace :=
  Nat.lt_of_le_of_lt h (by decide)

theorem toNat_bits_ofCode
    (h : code ≤ FloatFormat.double.infinityCode) (negative : Bool) :
    (ofCode negative code).bits.toNat =
      code + if negative then FloatFormat.double.signPlace else 0 :=
  Nat.mod_eq_of_lt (word_lt (lt_signPlace h) negative)

theorem code_ofCode (h : code ≤ FloatFormat.double.infinityCode) (negative : Bool) :
    (ofCode negative code).code = code := by
  rw [Binary64.code, toNat_bits_ofCode h, word_mod (lt_signPlace h)]

theorem isNegative_ofCode (h : code ≤ FloatFormat.double.infinityCode) (negative : Bool) :
    (ofCode negative code).isNegative = negative := by
  rw [isNegative, toNat_bits_ofCode h, decide_le_word (lt_signPlace h)]

/-- The sign and the code are found again. -/
theorem ofCode_inj
    {negative negative' : Bool} (hcode : code ≤ FloatFormat.double.infinityCode)
    (hcode' : code' ≤ FloatFormat.double.infinityCode)
    (h : ofCode negative code = ofCode negative' code') :
    negative = negative' ∧ code = code' := by
  constructor
  · rw [← isNegative_ofCode hcode negative, h, isNegative_ofCode hcode']
  · rw [← code_ofCode hcode negative, h, code_ofCode hcode']

theorem ext_sign_code {x y : Binary64} (hsign : x.isNegative = y.isNegative)
    (hcode : x.code = y.code) : x = y := by
  have hplace : FloatFormat.double.signPlace = 9223372036854775808 := by decide
  have hx := x.bits.toNat_lt
  have hy := y.bits.toNat_lt
  simp only [isNegative, Binary64.code, hplace, decide_eq_decide] at hsign hcode
  have hbits : x.bits = y.bits := by
    apply UInt64.toNat_inj.mp
    omega
  cases x
  cases y
  rw [Binary64.mk.injEq]
  exact hbits

theorem magnitude_of_isFinite {x : Binary64} (h : x.isFinite = true) :
    x.magnitude = .finite (FloatFormat.double.significand x.code)
      (FloatFormat.double.exponent x.code) := by
  have hlt : x.code < FloatFormat.double.infinityCode := of_decide_eq_true h
  rw [magnitude, FloatFormat.magnitude, if_neg (Nat.lt_asymm hlt),
    if_neg (Nat.ne_of_lt hlt)]

end Binary64

namespace Binary32

variable {code code' : Nat}

theorem lt_signPlace (h : code ≤ FloatFormat.single.infinityCode) :
    code < FloatFormat.single.signPlace :=
  Nat.lt_of_le_of_lt h (by decide)

theorem toNat_bits_ofCode
    (h : code ≤ FloatFormat.single.infinityCode) (negative : Bool) :
    (ofCode negative code).bits.toNat =
      code + if negative then FloatFormat.single.signPlace else 0 :=
  Nat.mod_eq_of_lt (word_lt (lt_signPlace h) negative)

theorem code_ofCode (h : code ≤ FloatFormat.single.infinityCode) (negative : Bool) :
    (ofCode negative code).code = code := by
  rw [Binary32.code, toNat_bits_ofCode h, word_mod (lt_signPlace h)]

theorem isNegative_ofCode (h : code ≤ FloatFormat.single.infinityCode) (negative : Bool) :
    (ofCode negative code).isNegative = negative := by
  rw [isNegative, toNat_bits_ofCode h, decide_le_word (lt_signPlace h)]

/-- The sign and the code are found again. -/
theorem ofCode_inj
    {negative negative' : Bool} (hcode : code ≤ FloatFormat.single.infinityCode)
    (hcode' : code' ≤ FloatFormat.single.infinityCode)
    (h : ofCode negative code = ofCode negative' code') :
    negative = negative' ∧ code = code' := by
  constructor
  · rw [← isNegative_ofCode hcode negative, h, isNegative_ofCode hcode']
  · rw [← code_ofCode hcode negative, h, code_ofCode hcode']

end Binary32

end TypedQuery

import Mathlib.Data.Nat.Dist
import TypedQuery.Proofs.WholeReals

/-!
# Rounding to nearest

A ratio lies between two neighbouring magnitudes of a format.  Rounding takes the
nearer one, and of two that are equally near the one with the even code.  As codes are
in the order of their magnitudes, no other magnitude is nearer, so rounding is what it
is meant to be: the one nearest code of all, where infinity counts as the magnitude
that would follow the greatest one.
-/

namespace TypedQuery

/-! ## Rounding to whole numbers -/

/-- Equal ratios have the same nearest whole number. -/
theorem roundHalfEven_congr {numerator denominator numerator' denominator' : Nat}
    (hdenominator : 0 < denominator) (hdenominator' : 0 < denominator')
    (h : numerator * denominator' = numerator' * denominator) :
    roundHalfEven numerator denominator = roundHalfEven numerator' denominator' := by
  rw [← roundHalfEven_mul hdenominator', h, Nat.mul_comm denominator,
    roundHalfEven_mul hdenominator]

/-- The nearest whole number is the quotient or the one after it. -/
theorem roundHalfEven_cases (numerator denominator : Nat) :
    (roundHalfEven numerator denominator = numerator / denominator ∧
      (2 * (numerator % denominator) < denominator ∨
        2 * (numerator % denominator) = denominator ∧ numerator / denominator % 2 = 0)) ∨
    (roundHalfEven numerator denominator = numerator / denominator + 1 ∧
      (denominator < 2 * (numerator % denominator) ∨
        2 * (numerator % denominator) = denominator ∧ numerator / denominator % 2 = 1)) := by
  dsimp only [roundHalfEven]
  by_cases hless : 2 * (numerator % denominator) < denominator
  · rw [if_pos hless]
    exact .inl ⟨rfl, .inl hless⟩
  · by_cases hmore : denominator < 2 * (numerator % denominator)
    · rw [if_neg hless, if_pos hmore]
      exact .inr ⟨rfl, .inl hmore⟩
    · have htie : 2 * (numerator % denominator) = denominator := by omega
      rw [if_neg hless, if_neg hmore]
      by_cases heven : numerator / denominator % 2 = 0
      · rw [if_pos heven]
        exact .inl ⟨rfl, .inr ⟨htie, heven⟩⟩
      · rw [if_neg heven]
        exact .inr ⟨rfl, .inr ⟨htie, Nat.mod_two_ne_zero.mp heven⟩⟩

namespace FloatFormat

variable (format : FloatFormat)

/-! ## Ratios in units of the least magnitude

A ratio has `parts` of which `partsOfUnit` make one unit. -/

/-- The numerator of a ratio that is counted in units of the least magnitude. -/
def parts (numerator : Nat) : Nat :=
  numerator * 2 ^ (-format.leastExponent).toNat

/-- The denominator of a ratio that is counted in units of the least magnitude. -/
def partsOfUnit (denominator : Nat) : Nat :=
  denominator * 2 ^ format.leastExponent.toNat

theorem partsOfUnit_pos {denominator : Nat} (h : denominator ≠ 0) :
    0 < format.partsOfUnit denominator :=
  Nat.mul_pos (Nat.pos_of_ne_zero h) (Nat.two_pow_pos _)

/-- A ratio and its units differ by the least exponent. -/
theorem powerLE_least_iff (numerator denominator place : Nat) :
    PowerLE numerator denominator (format.leastExponent + place) ↔
      format.partsOfUnit denominator * 2 ^ place ≤ format.parts numerator := by
  generalize hexponent : format.leastExponent + place = exponent
  have hsum : exponent.toNat + (-format.leastExponent).toNat =
      format.leastExponent.toNat + place + (-exponent).toNat := by
    omega
  have hleft : denominator * 2 ^ exponent.toNat * 2 ^ (-format.leastExponent).toNat =
      format.partsOfUnit denominator * 2 ^ place * 2 ^ (-exponent).toNat := by
    rw [partsOfUnit, Nat.mul_assoc, ← Nat.pow_add, hsum, Nat.pow_add, Nat.pow_add]
    simp only [Nat.mul_assoc]
  have hright : numerator * 2 ^ (-exponent).toNat * 2 ^ (-format.leastExponent).toNat =
      format.parts numerator * 2 ^ (-exponent).toNat :=
    Nat.mul_right_comm _ _ _
  rw [PowerLE, ← Nat.mul_le_mul_right_iff (Nat.two_pow_pos (-format.leastExponent).toNat),
    hleft, hright, Nat.mul_le_mul_right_iff (Nat.two_pow_pos _)]

/-- The binade in which a ratio is rounded, counted from the lowest. -/
def binade (numerator denominator : Nat) : Nat :=
  (max format.leastExponent (floorLog2 numerator denominator - format.fractionBits) -
    format.leastExponent).toNat

section Binades

variable {numerator denominator : Nat}

/-- A ratio is rounded to a whole number of steps of its binade. -/
theorem roundRatio_eq (hnumerator : numerator ≠ 0) (hdenominator : denominator ≠ 0) :
    format.roundRatio numerator denominator =
      min format.infinityCode
        (format.binade numerator denominator * format.fractionCount +
          roundHalfEven (format.parts numerator)
            (format.partsOfUnit denominator * 2 ^ format.binade numerator denominator)) := by
  simp only [roundRatio, if_neg hnumerator, binade]
  generalize hunit :
    max format.leastExponent (floorLog2 numerator denominator - format.fractionBits) = unit
  generalize hbinade : (unit - format.leastExponent).toNat = binade
  have hsum : (-unit).toNat + (format.leastExponent.toNat + binade) =
      (-format.leastExponent).toNat + unit.toNat := by
    omega
  have hratio : numerator * 2 ^ (-unit).toNat * (format.partsOfUnit denominator * 2 ^ binade) =
      format.parts numerator * (denominator * 2 ^ unit.toNat) := by
    calc numerator * 2 ^ (-unit).toNat * (format.partsOfUnit denominator * 2 ^ binade)
        = numerator * denominator *
            2 ^ ((-unit).toNat + (format.leastExponent.toNat + binade)) := by
          simp only [partsOfUnit, Nat.pow_add, Nat.mul_assoc, Nat.mul_left_comm]
      _ = format.parts numerator * (denominator * 2 ^ unit.toNat) := by
          rw [hsum]
          simp only [parts, Nat.pow_add, Nat.mul_assoc, Nat.mul_left_comm]
  rw [roundHalfEven_congr (Nat.mul_pos (Nat.pos_of_ne_zero hdenominator) (Nat.two_pow_pos _))
    (Nat.mul_pos (format.partsOfUnit_pos hdenominator) (Nat.two_pow_pos _)) hratio]

/-- Above the lowest binade the ratio fills the significand. -/
theorem fractionCount_le_quotient (hnumerator : numerator ≠ 0) (hdenominator : denominator ≠ 0)
    (h : format.binade numerator denominator ≠ 0) :
    format.fractionCount ≤ format.parts numerator /
      (format.partsOfUnit denominator * 2 ^ format.binade numerator denominator) := by
  have hfloor := (floorLog2_spec hnumerator hdenominator).1
  have hexponent : floorLog2 numerator denominator = format.leastExponent +
      (format.binade numerator denominator + format.fractionBits : Nat) := by
    unfold binade at h ⊢
    omega
  rw [hexponent, powerLE_least_iff, Nat.pow_add, ← Nat.mul_assoc, Nat.mul_comm] at hfloor
  rwa [Nat.le_div_iff_mul_le
    (Nat.mul_pos (format.partsOfUnit_pos hdenominator) (Nat.two_pow_pos _))]

/-- No ratio overfills the significand. -/
theorem quotient_lt (hnumerator : numerator ≠ 0) (hdenominator : denominator ≠ 0) :
    format.parts numerator /
        (format.partsOfUnit denominator * 2 ^ format.binade numerator denominator) <
      2 * format.fractionCount := by
  have habove := (floorLog2_spec hnumerator hdenominator).2
  have hexponent : floorLog2 numerator denominator + 1 ≤ format.leastExponent +
      (format.binade numerator denominator + (format.fractionBits + 1) : Nat) := by
    unfold binade
    omega
  have hbelow := mt (PowerLE.of_le hexponent) habove
  have hdouble : 2 * format.fractionCount = 2 ^ (format.fractionBits + 1) := by
    rw [Nat.pow_succ, Nat.mul_comm]
    rfl
  rw [powerLE_least_iff, Nat.not_le, Nat.pow_add, ← Nat.mul_assoc, Nat.mul_comm] at hbelow
  rwa [hdouble, Nat.div_lt_iff_lt_mul
    (Nat.mul_pos (format.partsOfUnit_pos hdenominator) (Nat.two_pow_pos _))]

/-! ## Neighbours of a ratio -/

/-- The code of a significand that is full or stands in the lowest binade.  The one after
the greatest significand opens the next binade. -/
theorem units_of_grid {binade significand : Nat}
    (hlow : binade = 0 ∨ format.fractionCount ≤ significand)
    (hhigh : significand ≤ 2 * format.fractionCount) :
    format.units (binade * format.fractionCount + significand) =
      significand * 2 ^ binade := by
  have hcount := format.fractionCount_pos
  by_cases hsmall : significand < format.fractionCount
  · obtain rfl : binade = 0 := hlow.resolve_right (by omega)
    rw [Nat.zero_mul, Nat.zero_add, format.units_of_small hsmall, Nat.pow_zero, Nat.mul_one]
  · by_cases hfull : significand < 2 * format.fractionCount
    · exact format.units_of_full binade (by omega) hfull
    · obtain rfl : significand = 2 * format.fractionCount := by omega
      have hcarry : binade * format.fractionCount + 2 * format.fractionCount =
          (binade + 1) * format.fractionCount + format.fractionCount := by
        rw [Nat.add_mul]
        omega
      rw [hcarry, format.units_of_full (binade + 1) (Nat.le_refl _) (by omega), Nat.pow_succ,
        Nat.mul_comm (2 ^ binade), ← Nat.mul_assoc, Nat.mul_comm 2]

/-- How far the magnitude of a code is from a ratio, in parts of a unit. -/
def distance (numerator denominator code : Nat) : Nat :=
  Nat.dist (format.units code * format.partsOfUnit denominator) (format.parts numerator)

/-- The first code is preferred to the second: it is nearer to the ratio, or as near and
the even one of the two. -/
def Prefers (numerator denominator first second : Nat) : Prop :=
  format.distance numerator denominator first < format.distance numerator denominator second ∨
    format.distance numerator denominator first =
      format.distance numerator denominator second ∧ first % 2 < second % 2

theorem distance_le_of_prefers {first second : Nat}
    (h : format.Prefers numerator denominator first second) :
    format.distance numerator denominator first ≤
      format.distance numerator denominator second := by
  rcases h with h | ⟨h, -⟩
  · exact Nat.le_of_lt h
  · exact Nat.le_of_eq h

/-- Below a magnitude that a ratio reaches the others are farther. -/
theorem distance_lt_of_lt (hdenominator : denominator ≠ 0) {code other : Nat}
    (hreach : format.units code * format.partsOfUnit denominator ≤ format.parts numerator)
    (h : other < code) :
    format.distance numerator denominator code <
      format.distance numerator denominator other := by
  have hother := Nat.mul_lt_mul_of_pos_right (format.units_lt_of_lt h)
    (format.partsOfUnit_pos hdenominator)
  rw [distance, distance, Nat.dist_eq_sub_of_le hreach, Nat.dist_eq_sub_of_le (by omega)]
  omega

/-- Above a magnitude that a ratio does not exceed the others are farther. -/
theorem distance_lt_of_gt (hdenominator : denominator ≠ 0) {code other : Nat}
    (hreach : format.parts numerator ≤ format.units code * format.partsOfUnit denominator)
    (h : code < other) :
    format.distance numerator denominator code <
      format.distance numerator denominator other := by
  have hother := Nat.mul_lt_mul_of_pos_right (format.units_lt_of_lt h)
    (format.partsOfUnit_pos hdenominator)
  rw [distance, distance, Nat.dist_eq_sub_of_le_right hreach,
    Nat.dist_eq_sub_of_le_right (by omega)]
  omega

theorem even_fractionCount (hbits : format.fractionBits ≠ 0) : format.fractionCount % 2 = 0 :=
  Nat.mod_eq_zero_of_dvd (Dvd.dvd.pow (Nat.dvd_refl 2) hbits)

/-- The ratio lies from the magnitude of the code up to the next one, and it is rounded to
the one of the two that is preferred. -/
structure IsFloor (numerator denominator code : Nat) : Prop where
  le : format.units code * format.partsOfUnit denominator ≤ format.parts numerator
  lt : format.parts numerator < format.units (code + 1) * format.partsOfUnit denominator
  rounded :
    format.roundRatio numerator denominator = min format.infinityCode code ∧
        format.Prefers numerator denominator code (code + 1) ∨
      format.roundRatio numerator denominator = min format.infinityCode (code + 1) ∧
        format.Prefers numerator denominator (code + 1) code

theorem isFloor_zero (hdenominator : denominator ≠ 0) : format.IsFloor 0 denominator 0 := by
  have hparts : format.parts 0 = 0 := Nat.zero_mul _
  have hzero : format.units 0 * format.partsOfUnit denominator = 0 := by
    rw [format.units_of_small format.fractionCount_pos, Nat.zero_mul]
  have hone : 0 < format.units 1 * format.partsOfUnit denominator :=
    Nat.mul_pos (Nat.lt_of_le_of_lt (Nat.zero_le _) (format.units_lt_succ 0))
      (format.partsOfUnit_pos hdenominator)
  refine ⟨?_, ?_, .inl ⟨?_, .inl ?_⟩⟩
  · rw [hparts, hzero]
  · rw [hparts]
    exact hone
  · rw [Nat.min_zero]
    rfl
  · rw [distance, distance, hparts, hzero, Nat.dist_self, Nat.dist_zero_right]
    exact hone

/-- The magnitudes of a code of the grid and of the next one are a step apart. -/
theorem units_grid_mul {binade quotient : Nat} (denominator : Nat)
    (hlow : binade = 0 ∨ format.fractionCount ≤ quotient)
    (hhigh : quotient < 2 * format.fractionCount) :
    format.units (binade * format.fractionCount + quotient) * format.partsOfUnit denominator =
        quotient * (format.partsOfUnit denominator * 2 ^ binade) ∧
      format.units (binade * format.fractionCount + quotient + 1) *
          format.partsOfUnit denominator =
        quotient * (format.partsOfUnit denominator * 2 ^ binade) +
          format.partsOfUnit denominator * 2 ^ binade := by
  constructor
  · rw [format.units_of_grid hlow (Nat.le_of_lt hhigh), Nat.mul_right_comm, Nat.mul_assoc]
  · rw [Nat.add_assoc, format.units_of_grid (hlow.imp_right Nat.le_succ_of_le) hhigh,
      Nat.mul_right_comm, Nat.mul_assoc, Nat.succ_mul]

theorem exists_isFloor_of_ne_zero (hbits : format.fractionBits ≠ 0) (hnumerator : numerator ≠ 0)
    (hdenominator : denominator ≠ 0) : ∃ code, format.IsFloor numerator denominator code := by
  have hlow : format.binade numerator denominator = 0 ∨ _ :=
    or_iff_not_imp_left.mpr (format.fractionCount_le_quotient hnumerator hdenominator)
  have hhigh := format.quotient_lt hnumerator hdenominator
  have hround := format.roundRatio_eq hnumerator hdenominator
  generalize format.binade numerator denominator = binade at hlow hhigh hround
  have hstep : 0 < format.partsOfUnit denominator * 2 ^ binade :=
    Nat.mul_pos (format.partsOfUnit_pos hdenominator) (Nat.two_pow_pos _)
  have hcases := roundHalfEven_cases (format.parts numerator)
    (format.partsOfUnit denominator * 2 ^ binade)
  have hsplit := Nat.div_add_mod' (format.parts numerator)
    (format.partsOfUnit denominator * 2 ^ binade)
  have hremainder := Nat.mod_lt (format.parts numerator) hstep
  generalize format.parts numerator /
    (format.partsOfUnit denominator * 2 ^ binade) = quotient at hlow hhigh hcases hsplit
  obtain ⟨hbelow, habove⟩ := format.units_grid_mul denominator hlow hhigh
  have heven : binade * format.fractionCount % 2 = 0 := by
    rw [Nat.mul_mod, format.even_fractionCount hbits, Nat.mul_zero]
  refine ⟨binade * format.fractionCount + quotient, ?_, ?_, ?_⟩
  · rw [hbelow]
    omega
  · rw [habove]
    omega
  · rw [hround, Prefers, Prefers, distance, distance, hbelow, habove,
      Nat.dist_eq_sub_of_le (by omega), Nat.dist_eq_sub_of_le_right (by omega)]
    rcases hcases with ⟨hdown, hnear⟩ | ⟨hup, hnear⟩
    · rw [hdown]
      exact .inl ⟨rfl, by omega⟩
    · rw [hup]
      exact .inr ⟨rfl, by omega⟩

/-- A ratio lies between two neighbours, and is rounded to the one that is preferred. -/
theorem exists_isFloor (numerator : Nat) {denominator : Nat} (hbits : format.fractionBits ≠ 0)
    (hdenominator : denominator ≠ 0) : ∃ code, format.IsFloor numerator denominator code := by
  by_cases hnumerator : numerator = 0
  · rw [hnumerator]
    exact ⟨0, format.isFloor_zero hdenominator⟩
  · exact format.exists_isFloor_of_ne_zero hbits hnumerator hdenominator

/-! ## The nearest code -/

/-- The code is preferred to all others.  Infinity counts as the magnitude that would
follow the greatest one. -/
structure IsNearest (numerator denominator code : Nat) : Prop where
  le_infinityCode : code ≤ format.infinityCode
  prefers : ∀ other ≤ format.infinityCode, other ≠ code →
    format.Prefers numerator denominator code other

theorem IsNearest.unique {format : FloatFormat} {code other : Nat}
    (h : format.IsNearest numerator denominator code)
    (hother : format.IsNearest numerator denominator other) : code = other := by
  by_contra hne
  have hfirst := h.prefers other hother.le_infinityCode (Ne.symm hne)
  have hsecond := hother.prefers code h.le_infinityCode hne
  unfold Prefers at hfirst hsecond
  omega

/-- Rounding gives the nearest code. -/
theorem isNearest_roundRatio (numerator : Nat) {denominator : Nat}
    (hbits : format.fractionBits ≠ 0) (hdenominator : denominator ≠ 0) :
    format.IsNearest numerator denominator (format.roundRatio numerator denominator) := by
  obtain ⟨code, hlow, hhigh, hround⟩ := format.exists_isFloor numerator hbits hdenominator
  by_cases hinfinite : format.infinityCode ≤ code
  · -- The ratio reaches infinity, which is farther up than all other codes.
    have hself : format.roundRatio numerator denominator = format.infinityCode := by
      rcases hround with ⟨hround, -⟩ | ⟨hround, -⟩
      · rw [hround, Nat.min_eq_left hinfinite]
      · rw [hround, Nat.min_eq_left (Nat.le_succ_of_le hinfinite)]
    have hreach : format.units format.infinityCode * format.partsOfUnit denominator ≤
        format.parts numerator := by
      refine Nat.le_trans (Nat.mul_le_mul_right _ ?_) hlow
      exact Nat.not_lt.mp (mt format.units_lt_iff.mp (Nat.not_lt.mpr hinfinite))
    rw [hself]
    refine ⟨Nat.le_refl _, ?_⟩
    intro other hother hne
    exact .inl (format.distance_lt_of_lt hdenominator hreach (Nat.lt_of_le_of_ne hother hne))
  · have hnext : code + 1 ≤ format.infinityCode := Nat.not_le.mp hinfinite
    rcases hround with ⟨hround, hprefers⟩ | ⟨hround, hprefers⟩
    · rw [hround, Nat.min_eq_right (Nat.le_of_succ_le hnext)]
      refine ⟨Nat.le_of_succ_le hnext, ?_⟩
      intro other _ hne
      rcases Nat.lt_trichotomy other (code + 1) with hless | rfl | hmore
      · exact .inl (format.distance_lt_of_lt hdenominator hlow (by omega))
      · exact hprefers
      · exact .inl (Nat.lt_of_le_of_lt (format.distance_le_of_prefers hprefers)
          (format.distance_lt_of_gt hdenominator (Nat.le_of_lt hhigh) hmore))
    · rw [hround, Nat.min_eq_right hnext]
      refine ⟨hnext, ?_⟩
      intro other _ hne
      rcases Nat.lt_trichotomy other code with hless | rfl | hmore
      · exact .inl (Nat.lt_of_le_of_lt (format.distance_le_of_prefers hprefers)
          (format.distance_lt_of_lt hdenominator hlow hless))
      · exact hprefers
      · exact .inl (format.distance_lt_of_gt hdenominator (Nat.le_of_lt hhigh) (by omega))

theorem roundRatio_eq_iff (hbits : format.fractionBits ≠ 0) (hdenominator : denominator ≠ 0)
    {code : Nat} :
    format.roundRatio numerator denominator = code ↔
      format.IsNearest numerator denominator code := by
  constructor
  · rintro rfl
    exact format.isNearest_roundRatio numerator hbits hdenominator
  · exact (format.isNearest_roundRatio numerator hbits hdenominator).unique

/-! ## Ratios beyond the format -/

/-- A ratio is rounded to infinity from the middle between infinity and the greatest
magnitude on. -/
theorem isNearest_infinityCode_iff (hbits : format.fractionBits ≠ 0)
    (hexponent : format.exponentBits ≠ 0) (hdenominator : denominator ≠ 0) :
    format.IsNearest numerator denominator format.infinityCode ↔
      (format.units (format.infinityCode - 1) + format.units format.infinityCode) *
          format.partsOfUnit denominator ≤
        2 * format.parts numerator := by
  have heven : format.infinityCode % 2 = 0 := by
    rw [infinityCode, Nat.mul_mod, format.even_fractionCount hbits, Nat.mul_zero]
  have hpositive : 0 < format.infinityCode := by
    refine Nat.mul_pos (Nat.sub_pos_of_lt ?_) format.fractionCount_pos
    exact Nat.one_lt_two_pow hexponent
  have hgreatest := Nat.mul_lt_mul_of_pos_right
    (format.units_lt_of_lt (Nat.sub_one_lt_of_lt hpositive))
    (format.partsOfUnit_pos hdenominator)
  rw [Nat.add_mul]
  constructor
  · intro h
    have hprefers := h.prefers (format.infinityCode - 1) (Nat.sub_le _ _) (by omega)
    have hnear := format.distance_le_of_prefers hprefers
    unfold distance Nat.dist at hnear
    omega
  · intro h
    by_contra hfar
    have hnearest := format.isNearest_roundRatio numerator hbits hdenominator
    generalize format.roundRatio numerator denominator = code at hnearest
    have hfinite : code ≠ format.infinityCode := by
      rintro rfl
      exact hfar hnearest
    have hcode := hnearest.le_infinityCode
    have hbelow : format.units code * format.partsOfUnit denominator ≤
        format.units (format.infinityCode - 1) * format.partsOfUnit denominator := by
      apply Nat.mul_le_mul_right
      exact Nat.not_lt.mp (mt format.units_lt_iff.mp (by omega))
    have hprefers := hnearest.prefers format.infinityCode (Nat.le_refl _) (Ne.symm hfinite)
    unfold Prefers distance Nat.dist at hprefers
    omega

/-- A ratio below half a unit is rounded to zero. -/
theorem isNearest_zero_of_lt
    (h : 2 * format.parts numerator < format.partsOfUnit denominator) :
    format.IsNearest numerator denominator 0 := by
  refine ⟨Nat.zero_le _, ?_⟩
  intro other _ hne
  have hzero : format.units 0 = 0 := format.units_of_small format.fractionCount_pos
  have hone : 1 ≤ format.units other :=
    Nat.lt_of_le_of_lt (Nat.zero_le _) (format.units_lt_of_lt (Nat.pos_of_ne_zero hne))
  have hunit : format.partsOfUnit denominator ≤
      format.units other * format.partsOfUnit denominator :=
    Nat.le_mul_of_pos_left _ hone
  left
  rw [distance, distance, hzero, Nat.zero_mul, Nat.dist_zero_left,
    Nat.dist_eq_sub_of_le_right (by omega)]
  omega

/-- The middle between infinity and the greatest magnitude, in ones. -/
theorem isNearest_infinityCode_iff_le (places high : Nat)
    (hbits : format.fractionBits ≠ 0) (hdenominator : denominator ≠ 0)
    (hleast : format.leastExponent = -(places : Int))
    (hhigh : 2 ^ format.exponentBits = high + places + 4) :
    format.IsNearest numerator denominator format.infinityCode ↔
      (4 * format.fractionCount - 1) * 2 ^ high * denominator ≤ numerator := by
  have hcount := format.fractionCount_pos
  have hexponent : format.exponentBits ≠ 0 := by
    intro hzero
    rw [hzero, Nat.pow_zero] at hhigh
    omega
  have hinfinity : format.infinityCode =
      (high + places + 2) * format.fractionCount + format.fractionCount := by
    rw [infinityCode, hhigh, ← Nat.succ_mul]
    rfl
  have hgreatest : format.infinityCode - 1 =
      (high + places + 1) * format.fractionCount + (2 * format.fractionCount - 1) := by
    rw [hinfinity, Nat.succ_mul (high + places + 1)]
    omega
  have hsum : format.units (format.infinityCode - 1) + format.units format.infinityCode =
      (4 * format.fractionCount - 1) * 2 ^ high * 2 ^ (places + 1) := by
    calc format.units (format.infinityCode - 1) + format.units format.infinityCode
        = (2 * format.fractionCount - 1) * 2 ^ (high + places + 1) +
            format.fractionCount * 2 ^ (high + places + 2) := by
          rw [hgreatest, format.units_of_full _ (by omega) (by omega), hinfinity,
            format.units_of_full _ (Nat.le_refl _) (by omega)]
      _ = (2 * format.fractionCount - 1 + format.fractionCount * 2) *
            2 ^ (high + places + 1) := by
          rw [Nat.add_mul, Nat.pow_succ 2 (high + places + 1), Nat.mul_comm _ 2, Nat.mul_assoc]
      _ = (4 * format.fractionCount - 1) * 2 ^ (high + (places + 1)) := by
          congr 1
          omega
      _ = (4 * format.fractionCount - 1) * 2 ^ high * 2 ^ (places + 1) := by
          rw [Nat.pow_add, Nat.mul_assoc]
  have hparts : 2 * format.parts numerator = numerator * 2 ^ (places + 1) := by
    rw [parts, hleast, Int.neg_neg, Int.toNat_natCast, Nat.pow_succ, ← Nat.mul_assoc numerator,
      Nat.mul_comm 2]
  have hunit : format.partsOfUnit denominator = denominator := by
    rw [partsOfUnit, hleast, Int.toNat_neg_natCast, Nat.pow_zero, Nat.mul_one]
  rw [format.isNearest_infinityCode_iff hbits hexponent hdenominator, hsum, hparts, hunit,
    Nat.mul_right_comm]
  exact Nat.mul_le_mul_right_iff (Nat.two_pow_pos _)

end Binades

end FloatFormat

namespace Binary64

/-! ## Doubles -/

/-- Numbers from this one on are beyond the doubles: it lies in the middle between the
greatest double and the power of two that would follow. -/
def overflowBound : Nat :=
  (2 ^ (54 : Nat) - 1) * 2 ^ (970 : Nat)

theorem isNearest_infinityCode_iff {numerator denominator : Nat} (h : denominator ≠ 0) :
    FloatFormat.double.IsNearest numerator denominator FloatFormat.double.infinityCode ↔
      overflowBound * denominator ≤ numerator := by
  have hsignificands : 4 * FloatFormat.double.fractionCount - 1 = 2 ^ (54 : Nat) - 1 := by
    decide
  rw [FloatFormat.double.isNearest_infinityCode_iff_le 1074 970 (by decide) h (by decide)
    (by decide), hsignificands, overflowBound]

end Binary64

end TypedQuery

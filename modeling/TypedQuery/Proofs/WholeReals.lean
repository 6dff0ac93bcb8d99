import TypedQuery.Kind.Codec
import TypedQuery.Proofs.Rounding

/-!
# Whole doubles

Magnitudes are counted in units of the least positive one, and a greater code stands
for more of them, so doubles are in the order of the numbers that they denote.  The
double next to the greatest integer of sixty-four bits is the power of two after it.
So comparisons of doubles alone tell which whole ones sixty-four bits hold, and the
cast keeps those.
-/

namespace TypedQuery

namespace FloatFormat

/-! ## Magnitudes in units of the least one -/

variable (format : FloatFormat)

/-- The magnitude of a code, in units of the least positive magnitude. -/
def units (code : Nat) : Nat :=
  format.significand code * 2 ^ (format.exponent code - format.leastExponent).toNat

theorem units_of_small {code : Nat} (h : code < format.fractionCount) :
    format.units code = code := by
  rw [units, significand, exponent, if_pos h, if_pos h, Int.sub_self, Int.toNat_zero,
    Nat.pow_zero, Nat.mul_one]

theorem units_of_full (binade : Nat) {significand : Nat}
    (hlow : format.fractionCount ≤ significand)
    (hhigh : significand < 2 * format.fractionCount) :
    format.units (binade * format.fractionCount + significand) =
      significand * 2 ^ binade := by
  obtain ⟨hself, hplace⟩ := format.magnitude_of_full binade hlow hhigh
  have hbinades : format.leastExponent + binade - format.leastExponent = binade := by omega
  rw [units, hself, hplace, hbinades, Int.toNat_natCast]

/-- A code is a fraction alone, or a full significand some binades up. -/
theorem small_or_full (code : Nat) :
    code < format.fractionCount ∨
      ∃ binade significand, code = binade * format.fractionCount + significand ∧
        format.fractionCount ≤ significand ∧ significand < 2 * format.fractionCount := by
  by_cases hsmall : code < format.fractionCount
  · exact .inl hsmall
  · right
    have hcount := format.fractionCount_pos
    have hbinade := Nat.div_pos (Nat.not_lt.mp hsmall) hcount
    have hfraction := Nat.mod_lt code hcount
    have hsplit := Nat.div_add_mod' code format.fractionCount
    have hone : format.fractionCount ≤
        code / format.fractionCount * format.fractionCount :=
      Nat.le_mul_of_pos_left _ hbinade
    refine ⟨code / format.fractionCount - 1,
      format.fractionCount + code % format.fractionCount, ?_, Nat.le_add_right _ _, ?_⟩
    · rw [Nat.sub_mul, Nat.one_mul]
      omega
    · omega

/-- The next code has more units, also where it opens the next binade. -/
theorem units_lt_succ (code : Nat) : format.units code < format.units (code + 1) := by
  have hcount := format.fractionCount_pos
  obtain hsmall | ⟨binade, significand, rfl, hlow, hhigh⟩ := format.small_or_full code
  · rw [format.units_of_small hsmall]
    by_cases hnext : code + 1 < format.fractionCount
    · rw [format.units_of_small hnext]
      exact Nat.lt_succ_self code
    · have hfirst := format.units_of_full 0 (Nat.not_lt.mp hnext) (by omega)
      rw [Nat.zero_mul, Nat.zero_add, Nat.pow_zero, Nat.mul_one] at hfirst
      rw [hfirst]
      exact Nat.lt_succ_self code
  · rw [format.units_of_full binade hlow hhigh, Nat.add_assoc]
    by_cases hnext : significand + 1 < 2 * format.fractionCount
    · rw [format.units_of_full binade (Nat.le_succ_of_le hlow) hnext]
      exact Nat.mul_lt_mul_of_pos_right (Nat.lt_succ_self _) (Nat.two_pow_pos _)
    · have hfull : significand + 1 = 2 * format.fractionCount := by omega
      have hcarry : binade * format.fractionCount + (significand + 1) =
          (binade + 1) * format.fractionCount + format.fractionCount := by
        rw [hfull, Nat.add_mul, Nat.two_mul]
        omega
      rw [hcarry, format.units_of_full (binade + 1) (Nat.le_refl _) (by omega), Nat.pow_succ,
        Nat.mul_comm (2 ^ binade), ← Nat.mul_assoc]
      exact Nat.mul_lt_mul_of_pos_right (by omega) (Nat.two_pow_pos _)

theorem units_lt_of_lt {a b : Nat} (h : a < b) : format.units a < format.units b := by
  induction h with
  | refl => exact format.units_lt_succ a
  | step _ ih => exact Nat.lt_trans ih (format.units_lt_succ _)

/-- Codes are in the order of their magnitudes. -/
theorem units_lt_iff {a b : Nat} : format.units a < format.units b ↔ a < b := by
  constructor
  · intro h
    rcases Nat.lt_trichotomy a b with hlt | rfl | hgt
    · exact hlt
    · exact absurd h (Nat.lt_irrefl _)
    · exact absurd h (Nat.lt_asymm (format.units_lt_of_lt hgt))
  · exact format.units_lt_of_lt

theorem leastExponent_le_exponent (code : Nat) :
    format.leastExponent ≤ format.exponent code := by
  unfold exponent
  split
  · exact Int.le_refl _
  · rename_i hlarge
    have hbinade := Nat.div_pos (Nat.not_lt.mp hlarge) format.fractionCount_pos
    omega

/-- A magnitude that is a whole number has as many units as the number has ones. -/
theorem units_of_whole {code whole : Nat} (hleast : format.leastExponent ≤ 0)
    (h : format.significand code * 2 ^ (format.exponent code).toNat =
      whole * 2 ^ (-format.exponent code).toNat) :
    format.units code = whole * 2 ^ (-format.leastExponent).toNat := by
  have hbelow := format.leastExponent_le_exponent code
  have hpowers : (format.exponent code - format.leastExponent).toNat +
      (-format.exponent code).toNat =
        (format.exponent code).toNat + (-format.leastExponent).toNat := by
    omega
  apply Nat.eq_of_mul_eq_mul_right (Nat.two_pow_pos (-format.exponent code).toNat)
  calc format.units code * 2 ^ (-format.exponent code).toNat
      = format.significand code * 2 ^ (format.exponent code).toNat *
          2 ^ (-format.leastExponent).toNat := by
        rw [units, Nat.mul_assoc, ← Nat.pow_add, hpowers, Nat.pow_add, Nat.mul_assoc]
    _ = whole * 2 ^ (-format.leastExponent).toNat * 2 ^ (-format.exponent code).toNat := by
        rw [h, Nat.mul_right_comm]

end FloatFormat

namespace Binary64

/-! ## The order of doubles -/

/-- The number that a double denotes, in units of the least positive one. -/
def scaled (x : Binary64) : Int :=
  if x.isNegative then -(FloatFormat.double.units x.code : Int)
  else FloatFormat.double.units x.code

theorem place_lt_place_iff {x y : Binary64} : x.place < y.place ↔ x.scaled < y.scaled := by
  have hzero : FloatFormat.double.units 0 = 0 := by decide
  have hxy := FloatFormat.double.units_lt_iff (a := x.code) (b := y.code)
  have hyx := FloatFormat.double.units_lt_iff (a := y.code) (b := x.code)
  have hx := FloatFormat.double.units_lt_iff (a := 0) (b := x.code)
  have hy := FloatFormat.double.units_lt_iff (a := 0) (b := y.code)
  unfold place scaled
  split <;> split <;> omega

theorem lt_iff_scaled_lt {x y : Binary64} (hx : x.isNaN = false) (hy : y.isNaN = false) :
    x < y ↔ x.scaled < y.scaled := by
  rw [← place_lt_place_iff]
  exact ⟨fun h => h.2.2, fun h => ⟨hx, hy, h⟩⟩

theorem le_iff_scaled_le {x y : Binary64} (hx : x.isNaN = false) (hy : y.isNaN = false) :
    x ≤ y ↔ x.scaled ≤ y.scaled := by
  rw [← Int.not_lt, ← place_lt_place_iff, Int.not_lt]
  exact ⟨fun h => h.2.2, fun h => ⟨hx, hy, h⟩⟩

/-! ## Whole doubles -/

/-- The units that make up the number one. -/
def unitsOfOne : Nat :=
  2 ^ (-FloatFormat.double.leastExponent).toNat

theorem isFinite_of_toInt? {x : Binary64} {i : Int} (h : x.toInt? = some i) :
    x.isFinite = true := by
  rw [toInt?, magnitude, FloatFormat.magnitude] at h
  split at h
  · rename_i hfinite
    split at hfinite
    · cases hfinite
    · split at hfinite
      · cases hfinite
      · exact decide_eq_true (by omega)
  · cases h

theorem isNaN_of_isFinite {x : Binary64} (h : x.isFinite = true) : x.isNaN = false :=
  decide_eq_false (Nat.lt_asymm (of_decide_eq_true h))

/-- A whole double is what is left of it without its fractional part. -/
theorem truncate_of_toInt? {x : Binary64} {i : Int} (h : x.toInt? = some i) :
    x.truncate = i := by
  rw [toInt?, magnitude_of_isFinite (isFinite_of_toInt? h)] at h
  dsimp only at h
  split at h
  · exact Option.some.inj h
  · cases h

/-- A whole double has as many units as its integer has ones. -/
theorem scaled_of_toInt? {x : Binary64} {i : Int} (h : x.toInt? = some i) :
    x.scaled = i * unitsOfOne := by
  rw [toInt?, magnitude_of_isFinite (isFinite_of_toInt? h)] at h
  dsimp only at h
  split at h
  · rename_i hwhole
    obtain rfl := Option.some.inj h
    have hunits := FloatFormat.double.units_of_whole (by decide)
      (Nat.div_mul_cancel (Nat.dvd_of_mod_eq_zero hwhole)).symm
    rw [scaled, hunits, unitsOfOne]
    split
    · rw [Int.natCast_mul, Int.neg_mul]
    · rw [Int.natCast_mul]
  · cases h

theorem lt_iff_of_toInt? {x y : Binary64} {i j : Int} (hx : x.toInt? = some i)
    (hy : y.toInt? = some j) : x < y ↔ i < j := by
  have hunit : (0 : Int) < unitsOfOne := Int.natCast_pos.mpr (Nat.two_pow_pos _)
  rw [lt_iff_scaled_lt (isNaN_of_isFinite (isFinite_of_toInt? hx))
    (isNaN_of_isFinite (isFinite_of_toInt? hy)), scaled_of_toInt? hx, scaled_of_toInt? hy]
  exact Int.mul_lt_mul_right hunit

theorem le_iff_of_toInt? {x y : Binary64} {i j : Int} (hx : x.toInt? = some i)
    (hy : y.toInt? = some j) : x ≤ y ↔ i ≤ j := by
  have hunit : (0 : Int) < unitsOfOne := Int.natCast_pos.mpr (Nat.two_pow_pos _)
  rw [le_iff_scaled_le (isNaN_of_isFinite (isFinite_of_toInt? hx))
    (isNaN_of_isFinite (isFinite_of_toInt? hy)), scaled_of_toInt? hx, scaled_of_toInt? hy]
  exact Int.mul_le_mul_right hunit

/-- The cast keeps a whole double that sixty-four bits hold. -/
theorem toInt_toInt64 {x : Binary64} {i : Int} (h : x.toInt? = some i)
    (hlow : IntegerType.int64.lower ≤ i) (hhigh : i ≤ IntegerType.int64.upper) :
    x.toInt64.toInt = i := by
  rw [toInt64, isNaN_of_isFinite (isFinite_of_toInt? h), truncate_of_toInt? h]
  exact Int64.toInt_ofIntClamp hlow hhigh

end Binary64

namespace Kind

/-! ## Reals in columns of integers -/

theorem toInt?_wordStart : wordStart.toInt? = some IntegerType.int64.lower := by
  decide

/-- The greatest integer of sixty-four bits is no double, and the one after it is. -/
theorem toInt?_wordEnd : wordEnd.toInt? = some (IntegerType.int64.upper + 1) := by
  decide

/-- The comparisons with the two bounds leave exactly the integers of sixty-four bits. -/
theorem within_words_iff {r : Binary64} {i : Int} (h : r.toInt? = some i) :
    wordStart ≤ r ∧ r < wordEnd ↔
      IntegerType.int64.lower ≤ i ∧ i ≤ IntegerType.int64.upper := by
  rw [Binary64.le_iff_of_toInt? toInt?_wordStart h,
    Binary64.lt_iff_of_toInt? h toInt?_wordEnd, Int.lt_add_one_iff]

theorem decodeInteger_real_of_word {type : IntegerType} {r : Binary64} {i : Int}
    (h : r.toInt? = some i)
    (hword : IntegerType.int64.lower ≤ i ∧ i ≤ IntegerType.int64.upper) :
    decodeInteger type (.real r) = some <$> narrow type i := by
  have hwhole : r.isWhole = true := by
    rw [Binary64.isWhole, h]
    rfl
  rw [decodeInteger, if_pos ⟨hwhole, (within_words_iff h).mpr hword⟩,
    Binary64.toInt_toInt64 h hword.1 hword.2]

theorem decodeInteger_real_of_not_word {type : IntegerType} {r : Binary64}
    (h : ∀ i, r.toInt? = some i →
      ¬(IntegerType.int64.lower ≤ i ∧ i ≤ IntegerType.int64.upper)) :
    decodeInteger type (.real r) = .error (mismatch type.name (.real r)) := by
  rw [decodeInteger]
  apply if_neg
  rintro ⟨hwhole, hwithin⟩
  obtain ⟨i, hi⟩ := Option.isSome_iff_exists.mp hwhole
  exact h i hi ((within_words_iff hi).mp hwithin)

theorem decodeInteger_real_cases (type : IntegerType) (r : Binary64) :
    (∃ i, r.toInt? = some i ∧ decodeInteger type (.real r) = some <$> narrow type i) ∨
      decodeInteger type (.real r) = .error (mismatch type.name (.real r)) := by
  by_cases hword : ∃ i, r.toInt? = some i ∧
      IntegerType.int64.lower ≤ i ∧ i ≤ IntegerType.int64.upper
  · obtain ⟨i, hwhole, hi⟩ := hword
    exact .inl ⟨i, hwhole, decodeInteger_real_of_word hwhole hi⟩
  · right
    apply decodeInteger_real_of_not_word
    intro i hwhole hi
    exact hword ⟨i, hwhole, hi⟩

end Kind

end TypedQuery

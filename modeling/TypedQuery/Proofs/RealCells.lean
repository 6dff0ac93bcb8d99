import TypedQuery.Proofs.ExactNumbers

/-!
# Reals in columns of integers

A real that is found in a column of integers is taken for the integer that it is, or
it is refused: out of range when sixty-four bits hold the integer and the type of the
column does not, and of the wrong kind when the real has a fractional part, is not
finite, or is beyond sixty-four bits.  Nothing is cut off or moved to a bound.
-/

namespace TypedQuery

/-- The double is finite and has no fractional part: it is the integer, which is one of
sixty-four bits. -/
def Binary64.IsWord (r : Binary64) (i : Int) : Prop :=
  r.number? = some (wholeRatio i) ∧ -2 ^ (63 : Nat) ≤ i ∧ i < 2 ^ (63 : Nat)

theorem Binary64.IsWord.unique {r : Binary64} {i j : Int} (hi : r.IsWord i)
    (hj : r.IsWord j) : i = j :=
  wholeRatio_inj.mp (Option.some.inj (hi.1.symm.trans hj.1))

namespace Kind

theorem decodeInteger_of_isWord {type : IntegerType} {r : Binary64} {i : Int}
    (h : r.IsWord i) : decodeInteger type (.real r) = some <$> narrow type i := by
  obtain ⟨hnumber, hlow, hhigh⟩ := h
  apply decodeInteger_real_of_word (Binary64.toInt?_eq_some_iff.mpr hnumber)
  exact ⟨hlow, Int.le_of_lt_add_one hhigh⟩

theorem decodeInteger_of_not_isWord {type : IntegerType} {r : Binary64}
    (h : ∀ i, ¬r.IsWord i) :
    decodeInteger type (.real r) = .error (mismatch type.name (.real r)) := by
  apply decodeInteger_real_of_not_word
  rintro i hwhole ⟨hlow, hhigh⟩
  exact h i ⟨Binary64.toInt?_eq_some_iff.mp hwhole, hlow, Int.lt_add_one_of_le hhigh⟩

/-- An integer is read just if the real is that integer and the type has it. -/
theorem decodeInteger_real_eq_ok_iff {type : IntegerType} {r : Binary64} {i : Int} :
    (∃ n, decodeInteger type (.real r) = .ok (some n) ∧ n.val = i) ↔
      r.IsWord i ∧ type.lower ≤ i ∧ i ≤ type.upper := by
  by_cases hword : ∃ j, r.IsWord j
  · obtain ⟨j, hj⟩ := hword
    have hread : (∃ n, decodeInteger type (.real r) = .ok (some n) ∧ n.val = i) ↔
        ∃ n, narrow type j = .ok n ∧ n.val = i := by
      simp only [decodeInteger_of_isWord hj, map_eq_ok_iff, Option.some.injEq, exists_eq_right]
    rw [hread, exists_narrow_eq_ok_iff]
    constructor
    · rintro ⟨rfl, hrange⟩
      exact ⟨hj, hrange⟩
    · rintro ⟨hi, hrange⟩
      exact ⟨hi.unique hj, hrange⟩
  · rw [decodeInteger_of_not_isWord (not_exists.mp hword)]
    constructor
    · rintro ⟨n, hn, -⟩
      cases hn
    · rintro ⟨hi, -⟩
      exact absurd ⟨i, hi⟩ hword

/-- There are two reasons to refuse a real: the type has not got the integer, or there
is none. -/
theorem decodeInteger_real_eq_error_iff {type : IntegerType} {r : Binary64}
    {error : Error} :
    decodeInteger type (.real r) = .error error ↔
      (∃ i, r.IsWord i ∧ ¬(type.lower ≤ i ∧ i ≤ type.upper) ∧
        error = outOfRange (Digits.integerText i) type) ∨
      (∀ i, ¬r.IsWord i) ∧ error = mismatch type.name (.real r) := by
  by_cases hword : ∃ i, r.IsWord i
  · obtain ⟨i, hi⟩ := hword
    rw [decodeInteger_of_isWord hi, map_eq_error_iff, narrow_eq_error_iff]
    constructor
    · intro h
      exact .inl ⟨i, hi, h⟩
    · rintro (⟨j, hj, h⟩ | ⟨hnone, -⟩)
      · obtain rfl := hi.unique hj
        exact h
      · exact absurd hi (hnone i)
  · have hnone := not_exists.mp hword
    rw [decodeInteger_of_not_isWord hnone]
    constructor
    · intro h
      exact .inr ⟨hnone, (Except.error.inj h).symm⟩
    · rintro (⟨i, hi, -⟩ | ⟨-, rfl⟩)
      · exact absurd hi (hnone i)
      · rfl

/-- A real in a column of integers is the integer that it is, if the type has that one.
It is out of range if sixty-four bits hold the integer and the type does not, and of the
wrong kind if there is no such integer: the real is no whole number, or is beyond
sixty-four bits. -/
theorem decode_real_iff_isWord {kind : Kind} {type : IntegerType}
    (hkind : kind.Integral type) (r : Binary64) :
    (∀ i, (∃ value, kind.decode (.real r) = .ok (some value) ∧ kind.wholeOf value = i) ↔
      r.IsWord i ∧ type.lower ≤ i ∧ i ≤ type.upper) ∧
    (∀ error, kind.decode (.real r) = .error error ∧ error.kind = .domain ↔
      ∃ i, r.IsWord i ∧ ¬(type.lower ≤ i ∧ i ≤ type.upper) ∧
        error = outOfRange (Digits.integerText i) type) ∧
    (∀ error, kind.decode (.real r) = .error error ∧ error.kind = .conversion ↔
      (∀ i, ¬r.IsWord i) ∧ error = mismatch type.name (.real r)) := by
  refine ⟨?_, ?_, ?_⟩
  · intro i
    rw [hkind.decode_eq_ok_iff, decodeInteger_real_eq_ok_iff]
  · intro error
    rw [hkind.decode_eq_error_iff, decodeInteger_real_eq_error_iff]
    constructor
    · rintro ⟨h | ⟨-, rfl⟩, hdomain⟩
      · exact h
      · cases hdomain
    · rintro ⟨i, hi, hrange, rfl⟩
      exact ⟨.inl ⟨i, hi, hrange, rfl⟩, rfl⟩
  · intro error
    rw [hkind.decode_eq_error_iff, decodeInteger_real_eq_error_iff]
    constructor
    · rintro ⟨⟨i, -, -, rfl⟩ | h, hconversion⟩
      · cases hconversion
      · exact h
    · rintro ⟨hnone, rfl⟩
      exact ⟨.inr ⟨hnone, rfl⟩, rfl⟩

/-- The greatest double below the sixty-four bits is read as it is, and they do not reach
the next one.  A column of eight bits has none from `128` on. -/
theorem decode_real_iff_isWord_bounds :
    Integral (.integer .int64) .int64 ∧ Integral (.integer .int8) .int8 ∧
    (∃ value,
      Kind.decode (.integer .int64) (.real ⟨0x43DFFFFFFFFFFFFF⟩) = .ok (some value) ∧
      wholeOf (.integer .int64) value = 9223372036854774784) ∧
    Kind.decode (.integer .int64) (.real ⟨0x43E0000000000000⟩) =
      .error (mismatch "i64" (.real ⟨0x43E0000000000000⟩)) ∧
    Kind.decode (.integer .int8) (.real ⟨0x4060000000000000⟩) =
      .error (outOfRange "128" .int8) := by
  have hbelow : Binary64.IsWord ⟨0x43DFFFFFFFFFFFFF⟩ 9223372036854774784 :=
    ⟨Binary64.toInt?_eq_some_iff.mp (by decide), by decide, by decide⟩
  have hbeyond : ∀ i, ¬Binary64.IsWord ⟨0x43E0000000000000⟩ i := by
    rintro i ⟨hnumber, -, hhigh⟩
    have hwhole : Binary64.toInt? ⟨0x43E0000000000000⟩ = some (2 ^ (63 : Nat)) := by decide
    rw [Binary64.toInt?_eq_some_iff.mp hwhole] at hnumber
    obtain rfl := wholeRatio_inj.mp (Option.some.inj hnumber)
    exact absurd hhigh (by decide)
  have hsmall : Binary64.IsWord ⟨0x4060000000000000⟩ 128 :=
    ⟨Binary64.toInt?_eq_some_iff.mp (by decide), by decide, by decide⟩
  refine ⟨.integer _, .integer _, ?_, ?_, ?_⟩
  · exact ((decode_real_iff_isWord (.integer .int64) _).1 _).mpr ⟨hbelow, by decide, by decide⟩
  · exact (((decode_real_iff_isWord (.integer .int64) _).2.2 _).mpr ⟨hbeyond, rfl⟩).1
  · exact (((decode_real_iff_isWord (.integer .int8) _).2.1 _).mpr
      ⟨_, hsmall, by decide, rfl⟩).1

end Kind

end TypedQuery

import TypedQuery.Binary64.Text
import TypedQuery.Proofs.Rounding

/-!
# The texts of numbers

A numeral is read back as its number.  The text that a finite double is displayed
as belongs to no other one: its digits are read as a decimal, and the decimal is
rounded to the double.
-/

namespace TypedQuery

namespace Digits

theorem value_append_zeros (digits : List Char) (n : Nat) :
    value (digits ++ List.replicate n '0') = value digits * 10 ^ n := by
  rw [value, Nat.ofDigitChars_append, Nat.ofDigitChars_replicate_zero, Nat.mul_comm]
  rfl

theorem value_zeros_append (n : Nat) (digits : List Char) :
    value (List.replicate n '0' ++ digits) = value digits := by
  rw [value, Nat.ofDigitChars_append, Nat.ofDigitChars_replicate_zero, Nat.mul_zero]
  rfl

theorem natural_ne_nil (n : Nat) : natural n ≠ [] :=
  Nat.toDigits_ne_nil

theorem unsigned?_natural (n : Nat) : readInteger?.unsigned? (natural n) = some n := by
  have hsome : (natural n).isEmpty = false := List.isEmpty_eq_false_iff.mpr (natural_ne_nil n)
  have hall : (natural n).all Char.isDigit = true :=
    List.all_eq_true.mpr fun _ hc => isDigit_of_mem_natural hc
  rw [readInteger?.unsigned?, hsome, hall, value_natural]
  rfl

theorem readInteger?_natural (n : Nat) : readInteger? (natural n) = some (n : Int) := by
  have hdigit : ∀ c rest, natural n = c :: rest → c.isDigit = true := by
    intro c rest hcons
    apply isDigit_of_mem_natural
    rw [hcons]
    exact List.mem_cons_self ..
  have hnumber := unsigned?_natural n
  unfold readInteger?
  split
  · rename_i rest hcons
    exact absurd (hdigit _ _ hcons) (by decide)
  · rename_i rest hcons
    exact absurd (hdigit _ _ hcons) (by decide)
  · rw [hnumber]
    rfl

theorem readInteger?_integer (i : Int) : readInteger? (integer i) = some i := by
  unfold integer
  by_cases hnegative : i < 0
  · have hmagnitude : -(i.natAbs : Int) = i := by omega
    rw [if_pos hnegative, readInteger?, unsigned?_natural]
    exact congrArg some hmagnitude
  · rw [if_neg hnegative, readInteger?_natural]
    congr 1
    omega

end Digits

namespace Scientific

/-! ## The decimal that is found -/

theorem readsAs_ofDyadic {code : Nat} (h : code < FloatFormat.double.infinityCode) :
    readsAs code (ofDyadic (FloatFormat.double.significand code)
      (FloatFormat.double.exponent code)) = true := by
  have hmagnitude := FloatFormat.double.roundDyadic_magnitude h
  generalize FloatFormat.double.significand code = significand at hmagnitude ⊢
  generalize FloatFormat.double.exponent code = exponent at hmagnitude ⊢
  rw [readsAs, beq_iff_eq, ← hmagnitude, ofDyadic]
  by_cases hpositive : 0 ≤ exponent
  · have hminus : (-exponent).toNat = 0 := by omega
    rw [if_pos hpositive, FloatFormat.roundDyadic, hminus]
    simp only [FloatFormat.roundDecimal, Int.toNat_zero, Int.neg_zero, Nat.pow_zero,
      Nat.mul_one]
  · have hplus : exponent.toNat = 0 := by omega
    have hten : (10 : Nat) ^ (-exponent).toNat =
        2 ^ (-exponent).toNat * 5 ^ (-exponent).toNat := by
      rw [← Nat.mul_pow]
    rw [if_neg hpositive, FloatFormat.roundDyadic, FloatFormat.roundDecimal]
    simp only [hplus, Nat.pow_zero, Nat.mul_one, hten]
    exact FloatFormat.double.roundRatio_mul _ (Nat.ne_of_gt (Nat.two_pow_pos _))
      (Nat.pow_pos (by decide))

theorem readsAs_shortest {code : Nat} (h : code < FloatFormat.double.infinityCode) :
    readsAs code (shortest code) = true := by
  simp only [shortest]
  cases hfound : (List.range maxDigits).findSome? fun (extra : Nat) =>
      onGrid? code
        (FloatFormat.double.significand code *
          2 ^ (FloatFormat.double.exponent code).toNat)
        (2 ^ (-FloatFormat.double.exponent code).toNat)
        (pointPosition
          (FloatFormat.double.significand code *
            2 ^ (FloatFormat.double.exponent code).toNat)
          (2 ^ (-FloatFormat.double.exponent code).toNat) - 1 - extra) with
  | none => exact readsAs_ofDyadic h
  | some decimal =>
      obtain ⟨extra, -, hgrid⟩ := List.exists_of_findSome?_eq_some hfound
      exact List.find?_some hgrid

/-! ## Digits without trailing zeros -/

/-- What is cut off are zeros, and their number is added to the exponent. -/
theorem strip_spec (decimal : Scientific) :
    ∃ n, Digits.natural decimal.coefficient = decimal.strip.1 ++ List.replicate n '0' ∧
      decimal.strip.2 = decimal.exponent + n := by
  simp only [strip]
  generalize Digits.natural decimal.coefficient = digits
  have hsplit := List.takeWhile_append_dropWhile (p := (· == '0')) (l := digits.reverse)
  have hall : (digits.reverse.takeWhile (· == '0')).all (· == '0') = true :=
    List.all_takeWhile
  generalize digits.reverse.takeWhile (· == '0') = zeros at hsplit hall ⊢
  generalize digits.reverse.dropWhile (· == '0') = kept at hsplit
  have hzeros : zeros = List.replicate zeros.length '0' := by
    apply List.eq_replicate_of_mem
    intro c hc
    exact eq_of_beq (List.all_eq_true.mp hall c hc)
  have hdigits : digits = kept.reverse ++ List.replicate zeros.length '0' := by
    rw [← List.reverse_reverse digits, ← hsplit, List.reverse_append,
      ← List.reverse_replicate, ← hzeros]
  have htaken : digits.take (digits.length - zeros.length) = kept.reverse := by
    rw [hdigits]
    exact List.take_left' (by simp)
  refine ⟨zeros.length, ?_, rfl⟩
  rw [htaken]
  exact hdigits

/-- Stripping keeps the number, so it is still rounded to the same code. -/
theorem roundDecimal_strip (decimal : Scientific) :
    FloatFormat.double.roundDecimal (Digits.value decimal.strip.1) decimal.strip.2 =
      FloatFormat.double.roundDecimal decimal.coefficient decimal.exponent := by
  obtain ⟨n, hdigits, hexponent⟩ := decimal.strip_spec
  have hvalue : decimal.coefficient = Digits.value decimal.strip.1 * 10 ^ n := by
    rw [← Digits.value_append_zeros, ← hdigits, Digits.value_natural]
  apply FloatFormat.roundDecimal_congr
  rw [hvalue, hexponent]
  have hsum : (decimal.exponent + n).toNat + (-decimal.exponent).toNat =
      n + decimal.exponent.toNat + (-(decimal.exponent + n)).toNat := by
    omega
  simp only [Nat.mul_assoc, ← Nat.pow_add, hsum]

theorem isDigit_of_mem_strip {decimal : Scientific} {c : Char} (h : c ∈ decimal.strip.1) :
    c.isDigit = true :=
  Digits.isDigit_of_mem_natural (List.mem_of_mem_take h)

theorem strip_ne_nil {decimal : Scientific} (h : decimal.coefficient ≠ 0) :
    decimal.strip.1 ≠ [] := by
  intro hnil
  obtain ⟨n, hdigits, -⟩ := decimal.strip_spec
  apply h
  rw [← Digits.value_natural decimal.coefficient, hdigits, hnil, Digits.value_append_zeros]
  exact Nat.zero_mul _

end Scientific

namespace Binary64

/-! ## Reading the digits -/

theorem takeWhile_isDigit {digits : List Char} (h : ∀ c ∈ digits, c.isDigit = true) :
    digits.takeWhile Char.isDigit = digits := by
  rw [← List.append_nil digits, List.takeWhile_append_of_pos h, List.takeWhile_nil]

theorem dropWhile_isDigit {digits : List Char} (h : ∀ c ∈ digits, c.isDigit = true) :
    digits.dropWhile Char.isDigit = [] := by
  rw [← List.append_nil digits, List.dropWhile_append_of_pos h, List.dropWhile_nil]

theorem readDecimal?_whole
    {digits : List Char} (h : ∀ c ∈ digits, c.isDigit = true) (hne : digits ≠ []) :
    readDecimal? digits = some (Digits.value digits, 0) := by
  have hsome : digits.isEmpty = false := List.isEmpty_eq_false_iff.mpr hne
  simp only [readDecimal?, takeWhile_isDigit h, dropWhile_isDigit h, hsome,
    Bool.false_and, Bool.false_eq_true, if_false, readExponent?, Option.map_some,
    List.append_nil, List.length_nil]
  rfl

theorem readDecimal?_point
    {whole fraction : List Char} (hwhole : ∀ c ∈ whole, c.isDigit = true)
    (hfraction : ∀ c ∈ fraction, c.isDigit = true) (hne : whole ≠ []) :
    readDecimal? (whole ++ '.' :: fraction) =
      some (Digits.value (whole ++ fraction), -(fraction.length : Int)) := by
  have hpoint : '.'.isDigit ≠ true := by decide
  have htake : (whole ++ '.' :: fraction).takeWhile Char.isDigit = whole := by
    rw [List.takeWhile_append_of_pos hwhole, List.takeWhile_cons_of_neg hpoint,
      List.append_nil]
  have hdrop : (whole ++ '.' :: fraction).dropWhile Char.isDigit = '.' :: fraction := by
    rw [List.dropWhile_append_of_pos hwhole, List.dropWhile_cons_of_neg hpoint]
  have hsome : whole.isEmpty = false := List.isEmpty_eq_false_iff.mpr hne
  simp only [readDecimal?, htake, hdrop, takeWhile_isDigit hfraction,
    dropWhile_isDigit hfraction, hsome, Bool.false_and, Bool.false_eq_true, if_false,
    readExponent?, Option.map_some, Int.zero_sub]

/-- The positional notation denotes the digits with their exponent. -/
theorem readDecimal?_positional
    {digits : List Char} (hdigits : ∀ c ∈ digits, c.isDigit = true) (hne : digits ≠ [])
    (exponent : Int) :
    ∃ coefficient places,
      readDecimal? (Scientific.positional digits exponent) = some (coefficient, places) ∧
      FloatFormat.double.roundDecimal coefficient places =
        FloatFormat.double.roundDecimal (Digits.value digits) exponent := by
  have hzero : '0'.isDigit = true := by decide
  have hzeros : ∀ n, ∀ c ∈ List.replicate n '0', c.isDigit = true := by
    intro n c hc
    rw [List.eq_of_mem_replicate hc]
    exact hzero
  unfold Scientific.positional
  by_cases hwhole : 0 ≤ exponent
  · rw [if_pos hwhole]
    have hall : ∀ c ∈ digits ++ Scientific.zeros exponent.toNat, c.isDigit = true := by
      intro c hc
      exact (List.mem_append.mp hc).elim (hdigits c) (hzeros _ c)
    refine ⟨_, _, readDecimal?_whole hall (List.append_ne_nil_of_left_ne_nil hne _), ?_⟩
    rw [Scientific.zeros, Digits.value_append_zeros]
    apply FloatFormat.roundDecimal_congr
    have hminus : (-exponent).toNat = 0 := by omega
    rw [hminus]
    simp
  · rw [if_neg hwhole]
    by_cases hposition : 0 < digits.length + exponent
    · rw [if_pos hposition]
      have htaken : digits.take (digits.length + exponent).toNat ≠ [] := by
        intro hnil
        have hlength := congrArg List.length hnil
        rw [List.length_take, List.length_nil] at hlength
        omega
      have hplaces : -((digits.drop (digits.length + exponent).toNat).length : Int) =
          exponent := by
        rw [List.length_drop]
        omega
      refine ⟨_, _, readDecimal?_point (fun c hc => hdigits c (List.mem_of_mem_take hc))
        (fun c hc => hdigits c (List.mem_of_mem_drop hc)) htaken, ?_⟩
      rw [hplaces, List.take_append_drop]
    · rw [if_neg hposition]
      have hall : ∀ c ∈ Scientific.zeros (-(digits.length + exponent)).toNat ++ digits,
          c.isDigit = true := by
        intro c hc
        exact (List.mem_append.mp hc).elim (hzeros _ c) (hdigits c)
      have hone : ∀ c ∈ ['0'], c.isDigit = true := by
        intro c hc
        rw [List.mem_singleton.mp hc]
        exact hzero
      have hplaces : -((Scientific.zeros (-(digits.length + exponent)).toNat ++
          digits).length : Int) = exponent := by
        rw [Scientific.zeros, List.length_append, List.length_replicate]
        omega
      refine ⟨_, _, readDecimal?_point hone hall (List.cons_ne_nil _ _), ?_⟩
      rw [hplaces, Scientific.zeros, ← List.append_assoc,
        show ['0'] = List.replicate 1 '0' from rfl, List.replicate_append_replicate,
        Digits.value_zeros_append]

/-! ## One text for each double -/

/-- The digits of a finite double come after its sign, and they denote it. -/
theorem display_eq {x : Binary64} (h : x.isFinite = true) :
    ∃ body coefficient exponent,
      x.display = String.ofList ((if x.isNegative then ['-'] else []) ++ body) ∧
      readDecimal? body = some (coefficient, exponent) ∧
      FloatFormat.double.roundDecimal coefficient exponent = x.code := by
  have hlt : x.code < FloatFormat.double.infinityCode := of_decide_eq_true h
  have hnan : x.isNaN = false := decide_eq_false (Nat.lt_asymm hlt)
  have hsign : (x.isNegative && !x.isNaN) = x.isNegative := by
    rw [hnan, Bool.not_false, Bool.and_true]
  simp only [display, write, magnitude_of_isFinite h, hsign]
  by_cases hzero : x.code = 0
  · rw [if_pos hzero]
    refine ⟨['0'], 0, 0, rfl, rfl, ?_⟩
    rw [hzero]
    rfl
  · rw [if_neg hzero]
    have hreads := Scientific.readsAs_shortest hlt
    rw [Scientific.readsAs, beq_iff_eq] at hreads
    have hcoefficient : (Scientific.shortest x.code).coefficient ≠ 0 := by
      intro hnone
      rw [hnone, FloatFormat.roundDecimal, Nat.zero_mul] at hreads
      exact hzero hreads.symm
    obtain ⟨coefficient, places, hread, hround⟩ :=
      readDecimal?_positional (fun c => Scientific.isDigit_of_mem_strip)
        (Scientific.strip_ne_nil hcoefficient) (Scientific.shortest x.code).strip.2
    rw [Scientific.roundDecimal_strip, hreads] at hround
    exact ⟨_, coefficient, places, rfl, hread, hround⟩

end Binary64

end TypedQuery

import TypedQuery.Proofs.HexText
import TypedQuery.Proofs.IntegerText
import TypedQuery.Proofs.Nearest

/-!
# The texts of decimals

A decimal is a row of digits with an optional sign, an optional point and an optional
exponent.  A column of decimals reads the decimals that are not too great for a double,
each as the double nearest to it, and no other texts: those that are too great and the
words for infinities and for what is no number are out of the domain.  It writes a double
as a decimal that is nearest to it alone, so that what it writes is read back.
-/

namespace TypedQuery

/-! ## Decimals as they are written -/

namespace Decimal

open Numeral (digitChar)

def fractionChars : Option (List (Fin 10)) → List Char
  | none => []
  | some digits => '.' :: digits.map digitChar

/-- The characters of an exponent, whose letter may be a capital. -/
def exponentChars : Option (Bool × Numeral) → List Char
  | none => []
  | some (capital, numeral) => (if capital then 'E' else 'e') :: numeral.text.toList

/-- The power of ten that an exponent gives. -/
def exponentValue : Option (Bool × Numeral) → Int
  | none => 0
  | some (_, numeral) => numeral.value

end Decimal

/-- Digits with an optional point among them and an optional exponent after them. -/
structure Decimal where
  whole : List (Fin 10)
  fraction : Option (List (Fin 10))
  exponent : Option (Bool × Numeral)
  digits_ne_nil : whole ++ fraction.getD [] ≠ []

namespace Decimal

open Numeral (digitChar placeValue)

/-- The digits on both sides of the point. -/
def digits (decimal : Decimal) : List (Fin 10) :=
  decimal.whole ++ decimal.fraction.getD []

/-- The decimal as it is written, without a sign. -/
def chars (decimal : Decimal) : List Char :=
  decimal.whole.map digitChar ++ fractionChars decimal.fraction ++
    exponentChars decimal.exponent

/-- The place of the last digit, as a power of ten. -/
def place (decimal : Decimal) : Int :=
  exponentValue decimal.exponent - (decimal.fraction.getD []).length

/-- The number that a decimal denotes is this over `denominator`. -/
def numerator (decimal : Decimal) : Nat :=
  placeValue decimal.digits * 10 ^ decimal.place.toNat

/-- A power of ten when the last digit stands after the ones. -/
def denominator (decimal : Decimal) : Nat :=
  10 ^ (-decimal.place).toNat

theorem denominator_ne_zero (decimal : Decimal) : decimal.denominator ≠ 0 :=
  Nat.ne_of_gt (Nat.pow_pos (by decide))

end Decimal

namespace Binary64

open Numeral (digitChar placeValue isDigit_digitChar)

/-! ## Reading decimals -/

theorem isDigit_of_mem_map {digits : List (Fin 10)} {c : Char} (h : c ∈ digits.map digitChar) :
    c.isDigit = true := by
  obtain ⟨d, -, rfl⟩ := List.mem_map.mp h
  exact isDigit_digitChar d

/-- Digits are taken up to what is none. -/
theorem takeWhile_digits_append (digits : List (Fin 10)) {rest : List Char}
    (h : rest.takeWhile Char.isDigit = []) :
    (digits.map digitChar ++ rest).takeWhile Char.isDigit = digits.map digitChar := by
  rw [List.takeWhile_append_of_pos fun _ => isDigit_of_mem_map, h, List.append_nil]

theorem dropWhile_digits_append (digits : List (Fin 10)) {rest : List Char}
    (h : rest.takeWhile Char.isDigit = []) :
    (digits.map digitChar ++ rest).dropWhile Char.isDigit = rest := by
  have hrest := List.takeWhile_append_dropWhile (p := Char.isDigit) (l := rest)
  rw [h, List.nil_append] at hrest
  rw [List.dropWhile_append_of_pos fun _ => isDigit_of_mem_map, hrest]

/-- All characters are digits up to one that is none. -/
theorem exists_digits_append (chars : List Char) :
    ∃ (digits : List (Fin 10)) (rest : List Char),
      chars = digits.map digitChar ++ rest ∧ rest.takeWhile Char.isDigit = [] := by
  induction chars with
  | nil => exact ⟨[], [], rfl, rfl⟩
  | cons c chars ih =>
      by_cases hdigit : c.isDigit = true
      · obtain ⟨d, rfl⟩ := Numeral.exists_digitChar_eq hdigit
        obtain ⟨digits, rest, rfl, hrest⟩ := ih
        exact ⟨d :: digits, rest, rfl, hrest⟩
      · exact ⟨[], c :: chars, rfl, List.takeWhile_cons_of_neg hdigit⟩

/-- What stands before the exponent is read as a row of digits, in which the point is
known by its place. -/
theorem readDecimal?_append (whole : List (Fin 10)) (fraction : Option (List (Fin 10)))
    {tail : List Char} (htail : tail.takeWhile Char.isDigit = [])
    (hpoint : fraction = none → tail.head? ≠ some '.') :
    readDecimal? (whole.map digitChar ++ Decimal.fractionChars fraction ++ tail) =
      if whole ++ fraction.getD [] = [] then none
      else (readExponent? tail).map fun exponent : Int =>
        (placeValue (whole ++ fraction.getD []),
          exponent - (fraction.getD []).length) := by
  have hempty : ∀ digits : List (Fin 10),
      (digits.map digitChar).isEmpty = true ↔ digits = [] := by
    intro digits
    rw [List.isEmpty_iff, List.map_eq_nil_iff]
  have hnone : ∀ digits : List (Fin 10),
      ((whole.map digitChar).isEmpty && (digits.map digitChar).isEmpty) = true ↔
        whole ++ digits = [] := by
    intro digits
    rw [Bool.and_eq_true, hempty, hempty, List.append_eq_nil_iff]
  cases fraction with
  | none =>
      have hrest : ∀ rest, tail = '.' :: rest → False := by
        rintro rest rfl
        exact hpoint rfl rfl
      have hwhole := hnone []
      rw [List.append_nil] at hwhole
      rw [Decimal.fractionChars, List.append_nil]
      simp only [readDecimal?, takeWhile_digits_append whole htail,
        dropWhile_digits_append whole htail, Option.getD_none, List.append_nil,
        Numeral.value_map_digitChar]
      exact if_congr hwhole rfl rfl
  | some digits =>
      have hrest : ('.' :: (digits.map digitChar ++ tail)).takeWhile Char.isDigit = [] := rfl
      rw [Decimal.fractionChars, List.append_assoc, List.cons_append]
      simp only [readDecimal?, takeWhile_digits_append whole hrest,
        dropWhile_digits_append whole hrest, takeWhile_digits_append digits htail,
        dropWhile_digits_append digits htail, ← List.map_append,
        Numeral.value_map_digitChar, List.length_map]
      exact if_congr (hnone digits) rfl rfl

theorem readExponent?_eq_some_iff {tail : List Char} {value : Int} :
    readExponent? tail = some value ↔
      ∃ exponent, Decimal.exponentChars exponent = tail ∧
        Decimal.exponentValue exponent = value := by
  constructor
  · intro h
    cases tail with
    | nil => exact ⟨none, rfl, Option.some.inj h⟩
    | cons c rest =>
        rw [readExponent?] at h
        split at h
        · rename_i hletter
          rw [← String.toList_ofList (l := rest), Numeral.readInteger?_eq_some_iff] at h
          obtain ⟨numeral, htext, rfl⟩ := h
          have hrest : numeral.text.toList = rest := by
            rw [htext, String.toList_ofList]
          rw [Bool.or_eq_true, beq_iff_eq, beq_iff_eq] at hletter
          rcases hletter with rfl | rfl
          · exact ⟨some (false, numeral), congrArg _ hrest, rfl⟩
          · exact ⟨some (true, numeral), congrArg _ hrest, rfl⟩
        · cases h
  · rintro ⟨exponent, rfl, rfl⟩
    cases exponent with
    | none => rfl
    | some exponent =>
        obtain ⟨capital, numeral⟩ := exponent
        have hletter : ((if capital then 'E' else 'e') == 'e' ||
            (if capital then 'E' else 'e') == 'E') = true := by
          cases capital <;> rfl
        rw [Decimal.exponentChars, readExponent?, if_pos hletter]
        exact Numeral.readInteger?_eq_some_iff.mpr ⟨numeral, rfl, rfl⟩

/-- An exponent begins with its letter. -/
theorem exponentChars_head (exponent : Option (Bool × Numeral)) :
    (Decimal.exponentChars exponent).takeWhile Char.isDigit = [] ∧
      (Decimal.exponentChars exponent).head? ≠ some '.' := by
  cases exponent with
  | none => exact ⟨rfl, nofun⟩
  | some exponent =>
      obtain ⟨capital, numeral⟩ := exponent
      have hletter : ∀ capital : Bool,
          (if capital then 'E' else 'e').isDigit ≠ true ∧
            some (if capital then 'E' else 'e') ≠ some '.' := by
        decide
      exact ⟨List.takeWhile_cons_of_neg (hletter capital).1, (hletter capital).2⟩

/-- The reader takes the decimals, and nothing else. -/
theorem readDecimal?_eq_some_iff {chars : List Char} {coefficient : Nat} {place : Int} :
    readDecimal? chars = some (coefficient, place) ↔
      ∃ decimal : Decimal, decimal.chars = chars ∧
        placeValue decimal.digits = coefficient ∧ decimal.place = place := by
  constructor
  · intro h
    obtain ⟨whole, fraction, tail, rfl, htail, hpoint⟩ :
        ∃ (whole : List (Fin 10)) (fraction : Option (List (Fin 10))) (tail : List Char),
          chars = whole.map digitChar ++ Decimal.fractionChars fraction ++ tail ∧
          tail.takeWhile Char.isDigit = [] ∧ (fraction = none → tail.head? ≠ some '.') := by
      obtain ⟨whole, rest, rfl, hrest⟩ := exists_digits_append chars
      by_cases hpoint : rest.head? = some '.'
      · obtain ⟨after, rfl⟩ := List.head?_eq_some_iff.mp hpoint
        obtain ⟨digits, tail, rfl, htail⟩ := exists_digits_append after
        refine ⟨whole, some digits, tail, ?_, htail, nofun⟩
        rw [Decimal.fractionChars, List.append_assoc, List.cons_append]
      · refine ⟨whole, none, rest, ?_, hrest, fun _ => hpoint⟩
        rw [Decimal.fractionChars, List.append_nil]
    rw [readDecimal?_append whole fraction htail hpoint] at h
    split at h
    · cases h
    · rename_i hdigits
      obtain ⟨value, hvalue, hread⟩ := Option.map_eq_some_iff.mp h
      obtain ⟨exponent, rfl, rfl⟩ := readExponent?_eq_some_iff.mp hvalue
      obtain ⟨hcoefficient, hplace⟩ := Prod.mk.inj hread
      exact ⟨⟨whole, fraction, exponent, hdigits⟩, rfl, hcoefficient, hplace⟩
  · rintro ⟨⟨whole, fraction, exponent, hdigits⟩, rfl, rfl, rfl⟩
    obtain ⟨htail, hpoint⟩ := exponentChars_head exponent
    rw [Decimal.chars, readDecimal?_append whole fraction htail fun _ => hpoint,
      if_neg hdigits, readExponent?_eq_some_iff.mpr ⟨exponent, rfl, rfl⟩]
    rfl

theorem readDecimal?_chars (decimal : Decimal) :
    readDecimal? decimal.chars = some (placeValue decimal.digits, decimal.place) :=
  readDecimal?_eq_some_iff.mpr ⟨decimal, rfl, rfl, rfl⟩

/-- A decimal begins with a digit or a point. -/
theorem readDecimal?_cons_of_ne {c : Char} (hdigit : c.isDigit = false) (hpoint : c ≠ '.')
    (rest : List Char) : readDecimal? (c :: rest) = none := by
  have hnone : (c :: rest).takeWhile Char.isDigit = [] :=
    List.takeWhile_cons_of_neg (Bool.eq_false_iff.mp hdigit)
  have hhead : (none : Option (List (Fin 10))) = none → (c :: rest).head? ≠ some '.' := by
    intro _ hsame
    exact hpoint (Option.some.inj hsame)
  have hread := readDecimal?_append [] none hnone hhead
  exact hread.trans (if_pos rfl)

/-! ## Decimals of any size -/

/-- A decimal whose point stands too far to the right is beyond all doubles. -/
theorem roundDecimal_of_long {coefficient bound : Nat} {exponent : Int}
    (hbound : overflowBound ≤ 10 ^ bound) (hne : coefficient ≠ 0)
    (h : bound < (Digits.natural coefficient).length + exponent) :
    FloatFormat.double.roundDecimal coefficient exponent =
      FloatFormat.double.infinityCode := by
  have hten : ∀ place : Nat, (10 : Nat) ^ place ≠ 0 :=
    fun _ => Nat.ne_of_gt (Nat.pow_pos (by decide))
  generalize hlength : (Digits.natural coefficient).length = length at h
  have hlow : 10 ^ (length - 1) ≤ coefficient := by
    by_cases hone : length - 1 = 0
    · rw [hone]
      exact Nat.pos_of_ne_zero hne
    · have hshort : ¬(Digits.natural coefficient).length ≤ length - 1 := by omega
      rw [Digits.natural, Nat.length_toDigits_le_iff (by decide) (by omega)] at hshort
      exact Nat.not_lt.mp hshort
  rw [FloatFormat.roundDecimal, FloatFormat.double.roundRatio_eq_iff (by decide) (hten _),
    isNearest_infinityCode_iff (hten _)]
  calc overflowBound * 10 ^ (-exponent).toNat
      ≤ 10 ^ bound * 10 ^ (-exponent).toNat := Nat.mul_le_mul_right _ hbound
    _ = 10 ^ (bound + (-exponent).toNat) := (Nat.pow_add _ _ _).symm
    _ ≤ 10 ^ (length - 1 + exponent.toNat) :=
        Nat.pow_le_pow_right (by decide) (by omega)
    _ = 10 ^ (length - 1) * 10 ^ exponent.toNat := Nat.pow_add _ _ _
    _ ≤ coefficient * 10 ^ exponent.toNat := Nat.mul_le_mul_right _ hlow

/-- A decimal whose point stands too far to the left is nearest to zero. -/
theorem roundDecimal_of_short {coefficient bound : Nat} {exponent : Int}
    (hbound : FloatFormat.double.parts 2 ≤ 10 ^ bound)
    (h : (Digits.natural coefficient).length + exponent < -(bound : Int)) :
    FloatFormat.double.roundDecimal coefficient exponent = 0 := by
  have hten : ∀ place : Nat, 0 < (10 : Nat) ^ place := fun _ => Nat.pow_pos (by decide)
  have hunit : FloatFormat.double.leastExponent.toNat = 0 := by decide
  generalize hlength : (Digits.natural coefficient).length = length at h
  have hhigh : coefficient < 10 ^ length := by
    rw [← Nat.length_toDigits_le_iff (by decide) (hlength ▸ Nat.length_toDigits_pos)]
    exact Nat.le_of_eq hlength
  rw [FloatFormat.roundDecimal, FloatFormat.double.roundRatio_eq_iff (by decide)
    (Nat.ne_of_gt (hten _))]
  apply FloatFormat.double.isNearest_zero_of_lt
  rw [FloatFormat.partsOfUnit, hunit, Nat.pow_zero, Nat.mul_one]
  calc 2 * FloatFormat.double.parts (coefficient * 10 ^ exponent.toNat)
      = coefficient * 10 ^ exponent.toNat * FloatFormat.double.parts 2 := by
        rw [FloatFormat.parts, FloatFormat.parts, Nat.mul_left_comm]
    _ < 10 ^ length * 10 ^ exponent.toNat * FloatFormat.double.parts 2 := by
        apply Nat.mul_lt_mul_of_pos_right
        · exact Nat.mul_lt_mul_of_pos_right hhigh (hten _)
        · exact Nat.mul_pos (by decide) (Nat.two_pow_pos _)
    _ ≤ 10 ^ length * 10 ^ exponent.toNat * 10 ^ bound := Nat.mul_le_mul_left _ hbound
    _ = 10 ^ (length + exponent.toNat + bound) := by rw [Nat.pow_add, Nat.pow_add]
    _ ≤ 10 ^ (-exponent).toNat := Nat.pow_le_pow_right (by decide) (by omega)

/-- The bounds on the point change nothing: a decimal of any size is rounded to nearest. -/
theorem codeOfDecimal_eq (coefficient : Nat) (exponent : Int) :
    codeOfDecimal coefficient exponent =
      FloatFormat.double.roundDecimal coefficient exponent := by
  have hgreat : overflowBound ≤ 10 ^ pointBounds.2.toNat := by decide +kernel
  have hsmall : FloatFormat.double.parts 2 ≤ 10 ^ (-pointBounds.1).toNat := by decide +kernel
  have hsigns : 0 ≤ pointBounds.2 ∧ pointBounds.1 ≤ 0 := by decide
  unfold codeOfDecimal
  by_cases hzero : coefficient = 0
  · simp only [if_pos hzero]
    rw [hzero, FloatFormat.roundDecimal, Nat.zero_mul]
    rfl
  · simp only [if_neg hzero]
    by_cases hlong : pointBounds.2 < (Digits.natural coefficient).length + exponent
    · rw [if_pos hlong, roundDecimal_of_long hgreat hzero (by omega)]
    · rw [if_neg hlong]
      by_cases hshort : (Digits.natural coefficient).length + exponent < pointBounds.1
      · rw [if_pos hshort, roundDecimal_of_short hsmall (by omega)]
      · rw [if_neg hshort]

/-! ## Words -/

/-- The characters are a word, in letters of any case. -/
def AnyCase (word : String) (chars : List Char) : Prop :=
  String.ofList (chars.map Char.toLower) = word

/-- The words for an infinity. -/
def IsInfinite (chars : List Char) : Prop :=
  AnyCase "inf" chars ∨ AnyCase "infinity" chars

/-- A word begins with a letter. -/
theorem exists_cons_of_word {chars : List Char}
    (h : IsInfinite chars ∨ AnyCase "nan" chars) :
    ∃ c rest, chars = c :: rest ∧ (c.toLower = 'i' ∨ c.toLower = 'n') := by
  have hhead : ∀ word : List Char, String.ofList (chars.map Char.toLower) = String.ofList word →
      ∀ first ∈ word.head?, ∃ c rest, chars = c :: rest ∧ c.toLower = first := by
    intro word hword first hfirst
    rw [String.ofList_inj] at hword
    obtain ⟨tail, rfl⟩ := List.head?_eq_some_iff.mp hfirst
    obtain ⟨c, rest, rfl, hc, -⟩ := List.map_eq_cons_iff.mp hword
    exact ⟨c, rest, rfl, hc⟩
  rcases h with (h | h) | h
  · obtain ⟨c, rest, hchars, hc⟩ := hhead ['i', 'n', 'f'] h 'i' rfl
    exact ⟨c, rest, hchars, .inl hc⟩
  · obtain ⟨c, rest, hchars, hc⟩ :=
      hhead ['i', 'n', 'f', 'i', 'n', 'i', 't', 'y'] h 'i' rfl
    exact ⟨c, rest, hchars, .inl hc⟩
  · obtain ⟨c, rest, hchars, hc⟩ := hhead ['n', 'a', 'n'] h 'n' rfl
    exact ⟨c, rest, hchars, .inr hc⟩

/-- What begins a word is neither a digit nor a point nor a sign. -/
theorem ne_of_toLower {c : Char} (h : c.toLower = 'i' ∨ c.toLower = 'n') :
    c.isDigit = false ∧ c ≠ '.' ∧ c ≠ '-' ∧ c ≠ '+' := by
  have hlower : ∀ d : Fin 10,
      (digitChar d).toLower ≠ 'i' ∧ (digitChar d).toLower ≠ 'n' := by
    decide
  refine ⟨?_, ?_, ?_, ?_⟩
  · rw [Bool.eq_false_iff]
    intro hdigit
    obtain ⟨d, rfl⟩ := Numeral.exists_digitChar_eq hdigit
    exact h.elim (hlower d).1 (hlower d).2
  · rintro rfl
    exact absurd h (by decide)
  · rintro rfl
    exact absurd h (by decide)
  · rintro rfl
    exact absurd h (by decide)

theorem readDecimal?_of_word {chars : List Char}
    (h : IsInfinite chars ∨ AnyCase "nan" chars) : readDecimal? chars = none := by
  obtain ⟨c, rest, rfl, hc⟩ := exists_cons_of_word h
  obtain ⟨hdigit, hpoint, -⟩ := ne_of_toLower hc
  exact readDecimal?_cons_of_ne hdigit hpoint rest

/-! ## Signs -/

/-- The text is a sign and then the characters, and the sign is a minus just if the flag
is up. -/
def IsSigned (negative : Bool) (chars : List Char) (text : String) : Prop :=
  ∃ sign : Sign, text = String.ofList (sign.chars ++ chars) ∧
    negative = decide (sign = .minus)

/-- Every text is read after its sign, if it has one. -/
theorem exists_isSigned (text : String) :
    ∃ negative chars, IsSigned negative chars text ∧
      read? text = readUnsigned? negative chars := by
  have htext := String.ofList_toList (s := text)
  unfold read?
  split
  · rename_i rest hchars
    rw [hchars] at htext
    exact ⟨true, rest, ⟨.minus, htext.symm, rfl⟩, rfl⟩
  · rename_i rest hchars
    rw [hchars] at htext
    exact ⟨false, rest, ⟨.plus, htext.symm, rfl⟩, rfl⟩
  · exact ⟨false, text.toList, ⟨.absent, htext.symm, rfl⟩, rfl⟩

theorem read?_of_isSigned {negative : Bool} {chars : List Char} {text : String}
    (h : IsSigned negative chars text)
    (hchars : ∀ c rest, chars = c :: rest → c ≠ '-' ∧ c ≠ '+') :
    read? text = readUnsigned? negative chars := by
  obtain ⟨sign, rfl, rfl⟩ := h
  rw [read?, String.toList_ofList]
  cases sign with
  | minus => rfl
  | plus => rfl
  | absent =>
      rw [Sign.chars, List.nil_append]
      split
      · exact absurd rfl (hchars _ _ rfl).1
      · exact absurd rfl (hchars _ _ rfl).2
      · rfl

theorem read?_of_decimal {negative : Bool} {decimal : Decimal} {text : String}
    (h : IsSigned negative decimal.chars text) {code : Nat}
    (hnearest : FloatFormat.double.IsNearest decimal.numerator decimal.denominator code) :
    read? text = some (ofCode negative code) := by
  have hread := readDecimal?_chars decimal
  have hunsigned : ∀ c rest, decimal.chars = c :: rest → c ≠ '-' ∧ c ≠ '+' := by
    intro c rest hchars
    rw [hchars] at hread
    constructor
    · rintro rfl
      cases hread
    · rintro rfl
      cases hread
  have hround : codeOfDecimal (placeValue decimal.digits) decimal.place = code := by
    rw [codeOfDecimal_eq]
    exact (FloatFormat.double.roundRatio_eq_iff (by decide) decimal.denominator_ne_zero).mpr
      hnearest
  rw [read?_of_isSigned h hunsigned, readUnsigned?, hread]
  exact congrArg (fun code => some (ofCode negative code)) hround

theorem read?_of_word {negative : Bool} {chars : List Char} {text : String}
    (h : IsSigned negative chars text) (hword : IsInfinite chars ∨ AnyCase "nan" chars) :
    read? text = readUnsigned? negative chars := by
  obtain ⟨c, rest, rfl, hc⟩ := exists_cons_of_word hword
  apply read?_of_isSigned h
  rintro c' rest' hchars
  obtain ⟨rfl, -⟩ := List.cons.inj hchars
  exact (ne_of_toLower hc).2.2

theorem readUnsigned?_of_isInfinite {chars : List Char} (negative : Bool)
    (h : IsInfinite chars) :
    readUnsigned? negative chars = some (ofCode negative FloatFormat.double.infinityCode) := by
  rw [readUnsigned?, readDecimal?_of_word (.inl h)]
  exact if_pos h

theorem readUnsigned?_of_nan {chars : List Char} (negative : Bool) (h : AnyCase "nan" chars) :
    readUnsigned? negative chars = some nan := by
  have hfinite : ¬IsInfinite chars := by
    unfold IsInfinite AnyCase
    rw [show String.ofList (chars.map Char.toLower) = "nan" from h]
    decide
  rw [readUnsigned?, readDecimal?_of_word (.inr h)]
  exact (if_neg hfinite).trans (if_pos h)

/-! ## What a text is read as -/

/-- The number that a text is read as. -/
inductive Reads (text : String) : Binary64 → Prop where
  /-- A decimal is read as the double nearest to it. -/
  | decimal {negative : Bool} {decimal : Decimal} {code : Nat}
      (htext : IsSigned negative decimal.chars text)
      (hnearest : FloatFormat.double.IsNearest decimal.numerator decimal.denominator code) :
      Reads text (ofCode negative code)
  /-- An infinity has a word. -/
  | infinite {negative : Bool} {chars : List Char} (htext : IsSigned negative chars text)
      (hword : IsInfinite chars) :
      Reads text (ofCode negative FloatFormat.double.infinityCode)
  /-- What is no number has a word, whose sign is lost. -/
  | notNumber {negative : Bool} {chars : List Char} (htext : IsSigned negative chars text)
      (hword : AnyCase "nan" chars) : Reads text nan

theorem read?_eq_some_iff {text : String} {x : Binary64} :
    read? text = some x ↔ Reads text x := by
  constructor
  · intro h
    obtain ⟨negative, chars, htext, hread⟩ := exists_isSigned text
    rw [h] at hread
    cases hdecimal : readDecimal? chars with
    | some decimal =>
        obtain ⟨decimal, rfl, -, -⟩ := readDecimal?_eq_some_iff.mp hdecimal
        have hnearest := FloatFormat.double.isNearest_roundRatio decimal.numerator (by decide)
          decimal.denominator_ne_zero
        rw [read?_of_decimal htext hnearest] at h
        obtain rfl := Option.some.inj h
        exact .decimal htext hnearest
    | none =>
        by_cases hinfinite : IsInfinite chars
        · rw [readUnsigned?_of_isInfinite negative hinfinite] at hread
          obtain rfl := Option.some.inj hread
          exact .infinite htext hinfinite
        · by_cases hnan : AnyCase "nan" chars
          · rw [readUnsigned?_of_nan negative hnan] at hread
            obtain rfl := Option.some.inj hread
            exact .notNumber htext hnan
          · rw [readUnsigned?, hdecimal] at hread
            have hnone := hread.trans ((if_neg hinfinite).trans (if_neg hnan))
            cases hnone
  · intro h
    cases h with
    | decimal htext hnearest => exact read?_of_decimal htext hnearest
    | infinite htext hword =>
        rw [read?_of_word htext (.inl hword), readUnsigned?_of_isInfinite _ hword]
    | notNumber htext hword =>
        rw [read?_of_word htext (.inr hword), readUnsigned?_of_nan _ hword]

/-- The text is a decimal after a sign or none. -/
def IsDecimal (text : String) : Prop :=
  ∃ negative, ∃ decimal : Decimal, IsSigned negative decimal.chars text

/-- The text is a word for an infinity or for what is no number, after a sign or none. -/
def IsSpecial (text : String) : Prop :=
  ∃ negative chars, IsSigned negative chars text ∧ (IsInfinite chars ∨ AnyCase "nan" chars)

theorem read?_eq_none_iff {text : String} :
    read? text = none ↔ ¬IsDecimal text ∧ ¬IsSpecial text := by
  rw [Option.eq_none_iff_forall_ne_some]
  constructor
  · intro h
    constructor
    · rintro ⟨negative, decimal, htext⟩
      exact h _ (read?_eq_some_iff.mpr (.decimal htext
        (FloatFormat.double.isNearest_roundRatio _ (by decide) decimal.denominator_ne_zero)))
    · rintro ⟨negative, chars, htext, hword | hword⟩
      · exact h _ (read?_eq_some_iff.mpr (.infinite htext hword))
      · exact h _ (read?_eq_some_iff.mpr (.notNumber htext hword))
  · rintro ⟨hdecimal, hspecial⟩ x hx
    cases read?_eq_some_iff.mp hx with
    | decimal htext hnearest => exact hdecimal ⟨_, _, htext⟩
    | infinite htext hword => exact hspecial ⟨_, _, htext, .inl hword⟩
    | notNumber htext hword => exact hspecial ⟨_, _, htext, .inr hword⟩

theorem not_isFinite_infinite (negative : Bool) :
    (ofCode negative FloatFormat.double.infinityCode).isFinite ≠ true := by
  rw [isFinite, code_ofCode (Nat.le_refl _)]
  decide

theorem reads_iff_of_isFinite {text : String} {x : Binary64} (h : x.isFinite = true) :
    Reads text x ↔ ∃ decimal : Decimal, IsSigned x.isNegative decimal.chars text ∧
      FloatFormat.double.IsNearest decimal.numerator decimal.denominator x.code := by
  constructor
  · intro hreads
    cases hreads with
    | @decimal negative decimal code htext hnearest =>
        refine ⟨decimal, ?_, ?_⟩
        · rw [isNegative_ofCode hnearest.le_infinityCode]
          exact htext
        · rw [code_ofCode hnearest.le_infinityCode]
          exact hnearest
    | infinite => exact absurd h (not_isFinite_infinite _)
    | notNumber => exact absurd h (by decide)
  · rintro ⟨decimal, htext, hnearest⟩
    have hsame : ofCode x.isNegative x.code = x :=
      ext_sign_code (isNegative_ofCode hnearest.le_infinityCode _)
        (code_ofCode hnearest.le_infinityCode _)
    rw [← hsame]
    exact .decimal htext hnearest

/-- A finite double is displayed as a decimal that it is the nearest one to. -/
theorem reads_display {x : Binary64} (h : x.isFinite = true) : Reads x.display x := by
  obtain ⟨body, coefficient, place, htext, hread, hround⟩ := display_eq h
  obtain ⟨decimal, rfl, rfl, rfl⟩ := readDecimal?_eq_some_iff.mp hread
  rw [reads_iff_of_isFinite h]
  refine ⟨decimal, ?_, ?_⟩
  · rw [htext]
    cases x.isNegative with
    | true => exact ⟨.minus, rfl, rfl⟩
    | false => exact ⟨.absent, rfl, rfl⟩
  · exact (FloatFormat.double.roundRatio_eq_iff (by decide) decimal.denominator_ne_zero).mp
      hround

end Binary64

namespace Kind

open Binary64 (IsSigned IsInfinite AnyCase IsDecimal IsSpecial Reads overflowBound)

/-! ## Columns of decimals -/

theorem parseDecimal_of_isFinite {text : String} {x : Binary64} (h : Reads text x)
    (hfinite : x.isFinite = true) : parseDecimal text = .ok x := by
  simp only [parseDecimal, Binary64.read?_eq_some_iff.mpr h, checkDecimal, if_pos hfinite]
  rfl

theorem parseDecimal_of_not_isFinite {text : String} {x : Binary64} (h : Reads text x)
    (hfinite : x.isFinite ≠ true) : parseDecimal text = .error (notFinite x) := by
  simp only [parseDecimal, Binary64.read?_eq_some_iff.mpr h, checkDecimal, if_neg hfinite]
  rfl

theorem parseDecimal_of_read?_eq_none {text : String} (h : Binary64.read? text = none) :
    parseDecimal text = .error (unreadable text "a decimal") := by
  rw [parseDecimal, h]

theorem parseDecimal_eq_ok_iff {text : String} {x : Binary64} :
    parseDecimal text = .ok x ↔ x.isFinite = true ∧ Reads text x := by
  constructor
  · intro h
    cases hread : Binary64.read? text with
    | none =>
        rw [parseDecimal_of_read?_eq_none hread] at h
        cases h
    | some y =>
        rw [Binary64.read?_eq_some_iff] at hread
        by_cases hfinite : y.isFinite = true
        · rw [parseDecimal_of_isFinite hread hfinite] at h
          obtain rfl := Except.ok.inj h
          exact ⟨hfinite, hread⟩
        · rw [parseDecimal_of_not_isFinite hread hfinite] at h
          cases h
  · rintro ⟨hfinite, hread⟩
    exact parseDecimal_of_isFinite hread hfinite

/-- Why a column of decimals refuses a text. -/
inductive DecimalFault (text : String) : Error → Prop where
  /-- The text is a decimal too great for a double. -/
  | overflow {negative : Bool} {decimal : Decimal}
      (htext : IsSigned negative decimal.chars text)
      (hgreat : overflowBound * decimal.denominator ≤ decimal.numerator) :
      DecimalFault text (notFinite (.ofCode negative FloatFormat.double.infinityCode))
  /-- The text is a word for an infinity. -/
  | infinite {negative : Bool} {chars : List Char} (htext : IsSigned negative chars text)
      (hword : IsInfinite chars) :
      DecimalFault text (notFinite (.ofCode negative FloatFormat.double.infinityCode))
  /-- The text is the word for what is no number. -/
  | notNumber {negative : Bool} {chars : List Char} (htext : IsSigned negative chars text)
      (hword : AnyCase "nan" chars) : DecimalFault text (notFinite .nan)
  /-- The text is neither a decimal nor one of the words. -/
  | unreadable (hdecimal : ¬IsDecimal text) (hspecial : ¬IsSpecial text) :
      DecimalFault text (unreadable text "a decimal")

theorem parseDecimal_eq_error_iff {text : String} {error : Error} :
    parseDecimal text = .error error ↔ DecimalFault text error := by
  constructor
  · intro h
    cases hread : Binary64.read? text with
    | none =>
        rw [parseDecimal_of_read?_eq_none hread] at h
        obtain rfl := Except.error.inj h
        obtain ⟨hdecimal, hspecial⟩ := Binary64.read?_eq_none_iff.mp hread
        exact .unreadable hdecimal hspecial
    | some x =>
        rw [Binary64.read?_eq_some_iff] at hread
        by_cases hfinite : x.isFinite = true
        · rw [parseDecimal_of_isFinite hread hfinite] at h
          cases h
        · rw [parseDecimal_of_not_isFinite hread hfinite] at h
          obtain rfl := Except.error.inj h
          cases hread with
          | @decimal negative decimal code htext hnearest =>
              have hcode := hnearest.le_infinityCode
              rw [Binary64.isFinite, Binary64.code_ofCode hcode, decide_eq_true_eq] at hfinite
              obtain rfl : code = FloatFormat.double.infinityCode := by omega
              exact .overflow htext
                ((Binary64.isNearest_infinityCode_iff decimal.denominator_ne_zero).mp hnearest)
          | infinite htext hword => exact .infinite htext hword
          | notNumber htext hword => exact .notNumber htext hword
  · intro h
    cases h with
    | @overflow negative decimal htext hgreat =>
        have hnearest :=
          (Binary64.isNearest_infinityCode_iff decimal.denominator_ne_zero).mpr hgreat
        exact parseDecimal_of_not_isFinite (.decimal htext hnearest)
          (Binary64.not_isFinite_infinite negative)
    | infinite htext hword =>
        exact parseDecimal_of_not_isFinite (.infinite htext hword)
          (Binary64.not_isFinite_infinite _)
    | notNumber htext hword =>
        exact parseDecimal_of_not_isFinite (.notNumber htext hword) (by decide)
    | unreadable hdecimal hspecial =>
        exact parseDecimal_of_read?_eq_none
          (Binary64.read?_eq_none_iff.mpr ⟨hdecimal, hspecial⟩)

/-- The categories of the faults: what denotes a number, or a word for none, is out of the
domain, and all else is of the wrong kind. -/
theorem DecimalFault.kind_eq {text : String} {error : Error} (h : DecimalFault text error) :
    ((IsDecimal text ∨ IsSpecial text) ∧ error.kind = .domain) ∨
      (¬(IsDecimal text ∨ IsSpecial text) ∧ error.kind = .conversion) := by
  cases h with
  | overflow htext _ => exact .inl ⟨.inl ⟨_, _, htext⟩, rfl⟩
  | infinite htext hword => exact .inl ⟨.inr ⟨_, _, htext, .inl hword⟩, rfl⟩
  | notNumber htext hword => exact .inl ⟨.inr ⟨_, _, htext, .inr hword⟩, rfl⟩
  | unreadable hdecimal hspecial =>
      exact .inr ⟨not_or.mpr ⟨hdecimal, hspecial⟩, rfl⟩

/-- A column of decimals reads back every finite double that it writes, bit by bit.  What
it reads are the decimals that round to a finite double, each as the double nearest to it,
and what it refuses is out of the domain just if it is a decimal or one of the words. -/
theorem parse_decimal_iff_isNearest :
    (∀ x : Binary64, decimal.parse (decimal.format x) = .ok x ↔ x.isFinite = true) ∧
    (∀ text (x : Binary64), decimal.parse text = .ok x ↔
      x.isFinite = true ∧ ∃ decimal : Decimal, IsSigned x.isNegative decimal.chars text ∧
        FloatFormat.double.IsNearest decimal.numerator decimal.denominator x.code) ∧
    (∀ text error, decimal.parse text = .error error ↔ DecimalFault text error) ∧
    ∀ text error, decimal.parse text = .error error →
      (error.kind = .domain ↔ IsDecimal text ∨ IsSpecial text) ∧
      (error.kind = .conversion ↔ ¬(IsDecimal text ∨ IsSpecial text)) := by
  refine ⟨?_, ?_, ?_, ?_⟩
  · intro x
    constructor
    · intro h
      exact (parseDecimal_eq_ok_iff.mp h).1
    · intro hfinite
      exact parseDecimal_of_isFinite (Binary64.reads_display hfinite) hfinite
  · intro text x
    constructor
    · intro h
      obtain ⟨hfinite, hreads⟩ := parseDecimal_eq_ok_iff.mp h
      exact ⟨hfinite, (Binary64.reads_iff_of_isFinite hfinite).mp hreads⟩
    · rintro ⟨hfinite, hdecimal⟩
      exact parseDecimal_of_isFinite
        ((Binary64.reads_iff_of_isFinite hfinite).mpr hdecimal) hfinite
  · intro text error
    exact parseDecimal_eq_error_iff
  · intro text error h
    obtain ⟨hknown, hkind⟩ | ⟨hunknown, hkind⟩ :=
      (parseDecimal_eq_error_iff.mp h).kind_eq
    · rw [hkind]
      exact ⟨iff_of_true rfl hknown, iff_of_false nofun (not_not.mpr hknown)⟩
    · rw [hkind]
      exact ⟨iff_of_false nofun hunknown, iff_of_true rfl hunknown⟩

end Kind

end TypedQuery

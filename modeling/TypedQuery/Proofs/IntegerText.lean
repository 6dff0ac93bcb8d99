import Mathlib.Data.List.Induction
import TypedQuery.Proofs.ExactNumbers

/-!
# The texts of integers

A numeral is an optional sign and one or more digits.  A column of integers reads the
numerals of the integers of its type and no other texts, and it writes the one numeral
of an integer that has no sign but a needed minus and no zero but a needed one.  A
numeral beyond the type is out of range, unless it is beyond one hundred and
twenty-eight bits: then it is refused as if it were no numeral.
-/

namespace TypedQuery

/-! ## Numerals -/

/-- What may stand before the digits of a numeral. -/
inductive Sign where
  | absent
  | plus
  | minus
  deriving DecidableEq

def Sign.chars : Sign → List Char
  | absent => []
  | plus => ['+']
  | minus => ['-']

/-- A sign and one or more decimal digits, those of the greatest powers first. -/
structure Numeral where
  sign : Sign
  digits : List (Fin 10)
  digits_ne_nil : digits ≠ []

namespace Numeral

def digitChar (d : Fin 10) : Char :=
  Nat.digitChar d

/-- The number of a row of digits: each counts for its power of ten. -/
def placeValue : List (Fin 10) → Nat
  | [] => 0
  | d :: digits => d * 10 ^ digits.length + placeValue digits

def text (numeral : Numeral) : String :=
  String.ofList (numeral.sign.chars ++ numeral.digits.map digitChar)

/-- The integer that the numeral denotes. -/
def value (numeral : Numeral) : Int :=
  if numeral.sign = .minus then -(placeValue numeral.digits : Int)
  else placeValue numeral.digits

theorem value_minus (digits : List (Fin 10)) (hne : digits ≠ []) :
    (mk .minus digits hne).value = -(placeValue digits : Int) :=
  rfl

theorem value_absent (digits : List (Fin 10)) (hne : digits ≠ []) :
    (mk .absent digits hne).value = (placeValue digits : Int) :=
  rfl

/-- Nothing in the numeral could be left out: no plus, no zero before other digits, and
no minus before zero. -/
structure IsCanonical (numeral : Numeral) : Prop where
  ne_plus : numeral.sign ≠ .plus
  eq_zero_of_head : numeral.digits.head numeral.digits_ne_nil = 0 → numeral.digits = [0]
  ne_minus_of_zero : numeral.digits = [0] → numeral.sign ≠ .minus

end Numeral

/-- The text is a numeral of the integer. -/
def Spells (text : String) (i : Int) : Prop :=
  ∃ numeral : Numeral, numeral.text = text ∧ numeral.value = i

/-- The text is a numeral of the integer in which nothing could be left out. -/
def SpellsCanonically (text : String) (i : Int) : Prop :=
  ∃ numeral : Numeral, numeral.IsCanonical ∧ numeral.text = text ∧ numeral.value = i

namespace Numeral

/-! ## Rows of digits -/

theorem placeValue_concat (digits : List (Fin 10)) (d : Fin 10) :
    placeValue (digits ++ [d]) = placeValue digits * 10 + d := by
  induction digits with
  | nil => simp [placeValue]
  | cons c digits ih =>
      rw [List.cons_append, placeValue, placeValue, ih, List.length_append,
        List.length_singleton, Nat.pow_succ, Nat.add_mul, Nat.mul_assoc, Nat.add_assoc]

theorem placeValue_pos {digits : List (Fin 10)} (hne : digits ≠ [])
    (hhead : digits.head hne ≠ 0) : 0 < placeValue digits := by
  cases digits with
  | nil => exact absurd rfl hne
  | cons d digits =>
      have hd : 0 < d.val := Nat.pos_of_ne_zero fun hzero => hhead (Fin.ext hzero)
      exact Nat.lt_of_lt_of_le (Nat.mul_pos hd (Nat.pow_pos (by decide)))
        (Nat.le_add_right _ _)

theorem isDigit_digitChar (d : Fin 10) : (digitChar d).isDigit = true := by
  rw [digitChar, Nat.isDigit_digitChar]
  exact decide_eq_true d.isLt

/-- Digits are read as the number that their places give. -/
theorem value_map_digitChar (digits : List (Fin 10)) :
    Digits.value (digits.map digitChar) = placeValue digits := by
  induction digits with
  | nil => rfl
  | cons d digits ih =>
      rw [List.map_cons, Digits.value, digitChar,
        Nat.ofDigitChars_cons_digitChar_of_lt_ten d.isLt,
        Nat.ofDigitChars_eq_ofDigitChars_zero, List.length_map, Nat.mul_zero, Nat.zero_add,
        Nat.mul_comm, placeValue, ← ih]
      rfl

theorem exists_digitChar_eq {c : Char} (h : c.isDigit = true) :
    ∃ d : Fin 10, digitChar d = c := by
  have hbounds : 48 ≤ c.toNat ∧ c.toNat ≤ 57 := by
    rw [Char.isDigit, Bool.and_eq_true, decide_eq_true_eq, decide_eq_true_eq] at h
    exact h
  have hdigit : c.toNat - 48 < 10 := by omega
  refine ⟨⟨c.toNat - 48, hdigit⟩, ?_⟩
  rw [← Char.toNat_inj, digitChar, Nat.toNat_digitChar_of_lt_ten hdigit]
  omega

theorem exists_map_digitChar_eq {chars : List Char} (h : ∀ c ∈ chars, c.isDigit = true) :
    ∃ digits : List (Fin 10), digits.map digitChar = chars := by
  induction chars with
  | nil => exact ⟨[], rfl⟩
  | cons c chars ih =>
      obtain ⟨hc, hrest⟩ := List.forall_mem_cons.mp h
      obtain ⟨d, rfl⟩ := exists_digitChar_eq hc
      obtain ⟨digits, rfl⟩ := ih hrest
      exact ⟨d :: digits, rfl⟩

theorem unsigned?_eq_some_iff {chars : List Char} {n : Nat} :
    Digits.readInteger?.unsigned? chars = some n ↔
      ∃ digits : List (Fin 10), digits ≠ [] ∧ digits.map digitChar = chars ∧
        placeValue digits = n := by
  rw [Digits.readInteger?.unsigned?]
  constructor
  · intro h
    split at h
    · rename_i hdigits
      rw [Bool.and_eq_true, Bool.not_eq_true', List.isEmpty_eq_false_iff,
        List.all_eq_true] at hdigits
      obtain ⟨digits, rfl⟩ := exists_map_digitChar_eq hdigits.2
      refine ⟨digits, ?_, rfl, ?_⟩
      · rintro rfl
        exact hdigits.1 rfl
      · rw [← value_map_digitChar]
        exact Option.some.inj h
    · cases h
  · rintro ⟨digits, hne, rfl, rfl⟩
    have hsome : (digits.map digitChar).isEmpty = false :=
      List.isEmpty_eq_false_iff.mpr fun hnil => hne (List.map_eq_nil_iff.mp hnil)
    have hall : (digits.map digitChar).all Char.isDigit = true := by
      rw [List.all_map, List.all_eq_true]
      exact fun d _ => isDigit_digitChar d
    rw [hsome, hall, value_map_digitChar]
    rfl

/-! ## Reading numerals -/

theorem sign_ne_of_isDigit {c : Char} (h : c.isDigit = true) : c ≠ '-' ∧ c ≠ '+' := by
  constructor
  · rintro rfl
    exact absurd h (by decide)
  · rintro rfl
    exact absurd h (by decide)

/-- The reader takes the numerals of an integer for it, and nothing else. -/
theorem readInteger?_eq_some_iff {text : String} {i : Int} :
    Digits.readInteger? text.toList = some i ↔ Spells text i := by
  constructor
  · intro h
    generalize hchars : text.toList = chars at h
    have htext : String.ofList chars = text := by rw [← hchars, String.ofList_toList]
    unfold Digits.readInteger? at h
    split at h
    · rename_i rest
      cases hn : Digits.readInteger?.unsigned? rest with
      | none =>
          rw [hn] at h
          cases h
      | some n =>
          rw [hn] at h
          obtain rfl := Option.some.inj h
          obtain ⟨digits, hne, rfl, rfl⟩ := unsigned?_eq_some_iff.mp hn
          exact ⟨⟨.minus, digits, hne⟩, htext, rfl⟩
    · obtain ⟨n, hn, rfl⟩ := Option.map_eq_some_iff.mp h
      obtain ⟨digits, hne, rfl, rfl⟩ := unsigned?_eq_some_iff.mp hn
      exact ⟨⟨.plus, digits, hne⟩, htext, rfl⟩
    · obtain ⟨n, hn, rfl⟩ := Option.map_eq_some_iff.mp h
      obtain ⟨digits, hne, rfl, rfl⟩ := unsigned?_eq_some_iff.mp hn
      exact ⟨⟨.absent, digits, hne⟩, htext, rfl⟩
  · rintro ⟨⟨sign, digits, hne⟩, rfl, rfl⟩
    have hread := unsigned?_eq_some_iff.mpr ⟨digits, hne, rfl, rfl⟩
    rw [text, String.toList_ofList]
    cases sign with
    | minus =>
        rw [Sign.chars, List.singleton_append, Digits.readInteger?, hread]
        rfl
    | plus =>
        rw [Sign.chars, List.singleton_append, Digits.readInteger?, hread]
        rfl
    | absent =>
        cases digits with
        | nil => exact absurd rfl hne
        | cons d digits =>
            obtain ⟨hminus, hplus⟩ := sign_ne_of_isDigit (isDigit_digitChar d)
            rw [Sign.chars, List.nil_append, Digits.readInteger?, hread]
            · rfl
            · intro rest hrest
              exact hminus (List.cons.inj hrest).1
            · intro rest hrest
              exact hplus (List.cons.inj hrest).1

/-! ## Canonical numerals -/

/-- Digits that do not begin with a needless zero are those that a number is written
with. -/
theorem natural_placeValue {digits : List (Fin 10)} (hne : digits ≠ [])
    (hhead : digits.head hne = 0 → digits = [0]) :
    Digits.natural (placeValue digits) = digits.map digitChar := by
  induction digits using List.reverseRecOn with
  | nil => exact absurd rfl hne
  | append_singleton front d ih =>
      rw [placeValue_concat, List.map_append, Digits.natural]
      by_cases hfront : front = []
      · rw [hfront, placeValue, Nat.zero_mul, Nat.zero_add,
          Nat.toDigits_of_lt_base d.isLt]
        rfl
      · have hfirst : front.head hfront ≠ 0 := by
          intro hzero
          rw [List.head_append_of_ne_nil hfront] at hhead
          have hlength := congrArg List.length (hhead hzero)
          rw [List.length_append, List.length_singleton, List.length_singleton] at hlength
          exact hfront (List.length_eq_zero_iff.mp (by omega))
        have hpositive := placeValue_pos hfront hfirst
        have hdiv : (placeValue front * 10 + d) / 10 = placeValue front := by omega
        have hmod : (placeValue front * 10 + d) % 10 = d := by omega
        rw [Nat.toDigits_of_base_le (by decide) (by omega), hdiv, hmod]
        rw [← ih hfront fun hzero => absurd hzero hfirst]
        rfl

theorem exists_placeValue_eq (n : Nat) :
    ∃ (digits : List (Fin 10)) (hne : digits ≠ []),
      (digits.head hne = 0 → digits = [0]) ∧ placeValue digits = n := by
  induction n using Nat.strongRecOn with
  | ind n ih =>
      by_cases hsmall : n < 10
      · refine ⟨[⟨n, hsmall⟩], List.cons_ne_nil _ _, ?_, ?_⟩
        · intro hzero
          exact congrArg (fun d => [d]) hzero
        · rw [placeValue, placeValue, List.length_nil, Nat.pow_zero, Nat.mul_one,
            Nat.add_zero]
      · obtain ⟨digits, hne, hhead, hvalue⟩ := ih (n / 10) (by omega)
        refine ⟨digits ++ [⟨n % 10, Nat.mod_lt _ (by decide)⟩],
          List.append_ne_nil_of_left_ne_nil hne _, ?_, ?_⟩
        · intro hzero
          rw [List.head_append_of_ne_nil hne] at hzero
          rw [hhead hzero] at hvalue
          have hnone : placeValue [0] = 0 := rfl
          omega
        · rw [placeValue_concat, hvalue]
          exact Nat.div_add_mod' n 10

theorem exists_isCanonical (i : Int) :
    ∃ numeral : Numeral, numeral.IsCanonical ∧ numeral.value = i := by
  obtain ⟨digits, hne, hhead, hvalue⟩ := exists_placeValue_eq i.natAbs
  by_cases hnegative : i < 0
  · refine ⟨⟨.minus, digits, hne⟩, ⟨Sign.noConfusion, hhead, ?_⟩, ?_⟩
    · rintro rfl
      have hnone : placeValue [0] = 0 := rfl
      omega
    · rw [value_minus, hvalue]
      omega
  · refine ⟨⟨.absent, digits, hne⟩,
      ⟨Sign.noConfusion, hhead, fun _ => Sign.noConfusion⟩, ?_⟩
    rw [value_absent, hvalue]
    omega

theorem IsCanonical.text_eq {numeral : Numeral} (h : numeral.IsCanonical) :
    numeral.text = Digits.integerText numeral.value := by
  obtain ⟨sign, digits, hne⟩ := numeral
  obtain ⟨hplus, hhead, hminus⟩ := h
  have hnatural := natural_placeValue hne hhead
  cases sign with
  | plus => exact absurd rfl hplus
  | minus =>
      have hpositive : 0 < placeValue digits := by
        apply placeValue_pos hne
        intro hzero
        exact hminus (hhead hzero) rfl
      have hnegative : -(placeValue digits : Int) < 0 := by omega
      rw [value_minus, Digits.integerText, Digits.integer, if_pos hnegative,
        Int.natAbs_neg, Int.natAbs_natCast, hnatural]
      rfl
  | absent =>
      have hnonnegative : ¬(placeValue digits : Int) < 0 := by omega
      rw [value_absent, Digits.integerText, Digits.integer, if_neg hnonnegative,
        Int.natAbs_natCast, hnatural]
      rfl

end Numeral

/-- Every integer has one canonical numeral. -/
theorem spellsCanonically_iff {text : String} {i : Int} :
    SpellsCanonically text i ↔ text = Digits.integerText i := by
  constructor
  · rintro ⟨numeral, hcanonical, rfl, rfl⟩
    exact hcanonical.text_eq
  · rintro rfl
    obtain ⟨numeral, hcanonical, rfl⟩ := Numeral.exists_isCanonical i
    exact ⟨numeral, hcanonical, hcanonical.text_eq, rfl⟩

theorem Spells.unique {text : String} {i j : Int} (hi : Spells text i)
    (hj : Spells text j) : i = j := by
  have hread := Numeral.readInteger?_eq_some_iff.mpr hi
  rw [Numeral.readInteger?_eq_some_iff.mpr hj] at hread
  exact (Option.some.inj hread).symm

theorem spells_integerText (i : Int) : Spells (Digits.integerText i) i := by
  rw [← Numeral.readInteger?_eq_some_iff, Digits.integerText, String.toList_ofList]
  exact Digits.readInteger?_integer i

namespace Kind

/-! ## Columns of integers -/

/-- The texts that denote an integer beyond the size that numerals are read at. -/
def IsOverlong (text : String) : Prop :=
  ∃ i, Spells text i ∧ ¬(-2 ^ (127 : Nat) ≤ i ∧ i < 2 ^ (127 : Nat))

theorem parseInteger_of_not_spells {type : IntegerType} {text : String}
    (h : ∀ i, ¬Spells text i) :
    parseInteger type text = .error (unreadable text "an integer") := by
  have hnone : Digits.readInteger? text.toList = none := by
    rw [Option.eq_none_iff_forall_ne_some]
    intro i hi
    exact h i (Numeral.readInteger?_eq_some_iff.mp hi)
  rw [parseInteger, hnone]

/-- A numeral is held against three ranges in turn. -/
theorem parseInteger_of_spells {type : IntegerType} {text : String} {i : Int}
    (h : Spells text i) :
    parseInteger type text =
      if ¬(-2 ^ (127 : Nat) ≤ i ∧ i < 2 ^ (127 : Nat)) then
        .error (unreadable text "an integer")
      else if ¬(-2 ^ (63 : Nat) ≤ i ∧ i < 2 ^ (63 : Nat)) then
        .error (outOfRange text type)
      else narrow type i := by
  have hword : IntegerType.int64.lower ≤ i ∧ i ≤ IntegerType.int64.upper ↔
      -2 ^ (63 : Nat) ≤ i ∧ i < 2 ^ (63 : Nat) :=
    and_congr_right fun _ => Int.le_sub_one_iff
  rw [parseInteger, Numeral.readInteger?_eq_some_iff.mpr h]
  exact if_congr Iff.rfl rfl (if_congr (not_congr hword) rfl rfl)

theorem parseInteger_eq_ok_iff {type : IntegerType} {text : String} {i : Int} :
    (∃ n, parseInteger type text = .ok n ∧ n.val = i) ↔
      Spells text i ∧ type.lower ≤ i ∧ i ≤ type.upper := by
  by_cases hspells : ∃ j, Spells text j
  · obtain ⟨j, hj⟩ := hspells
    rw [parseInteger_of_spells hj]
    have hbounds : -2 ^ (63 : Nat) ≤ type.lower ∧ type.upper < 2 ^ (63 : Nat) := by
      cases type <;> decide
    constructor
    · rintro ⟨n, hn, rfl⟩
      split at hn
      · cases hn
      · split at hn
        · cases hn
        · obtain rfl := narrow_eq_ok_iff.mp hn
          exact ⟨hj, n.lower_le, n.le_upper⟩
    · rintro ⟨hi, hlow, hhigh⟩
      obtain rfl := hi.unique hj
      rw [if_neg (by omega), if_neg (by omega), exists_narrow_eq_ok_iff]
      exact ⟨rfl, hlow, hhigh⟩
  · rw [parseInteger_of_not_spells (not_exists.mp hspells)]
    constructor
    · rintro ⟨n, hn, -⟩
      cases hn
    · rintro ⟨hi, -⟩
      exact absurd ⟨i, hi⟩ hspells

/-- A column of integers reads a text as an integer just if the text is a numeral of it
and the type has it.  So it reads what it writes, and what it writes for the integer
that it read is the one canonical numeral. -/
theorem parse_iff_spells {kind : Kind} {type : IntegerType} (hkind : kind.Integral type) :
    (∀ text i, (∃ value, kind.parse text = .ok value ∧ kind.wholeOf value = i) ↔
      Spells text i ∧ type.lower ≤ i ∧ i ≤ type.upper) ∧
    (∀ value, kind.parse (kind.format value) = .ok value) ∧
    (∀ text value, kind.parse text = .ok value →
      ∀ other, SpellsCanonically other (kind.wholeOf value) ↔
        other = kind.format value) := by
  refine ⟨?_, ?_, ?_⟩
  · intro text i
    rw [hkind.parse_eq_ok_iff, parseInteger_eq_ok_iff]
  · intro value
    have hspells : Spells (kind.format value) (kind.wholeOf value) := by
      rw [hkind.format_eq]
      exact spells_integerText _
    obtain ⟨read, hread, hwhole⟩ := hkind.parse_eq_ok_iff.mpr
      (parseInteger_eq_ok_iff.mpr ⟨hspells, hkind.wholeOf_bounds value⟩)
    rw [hread, hkind.wholeOf_inj hwhole]
  · intro text value _ other
    rw [hkind.format_eq]
    exact spellsCanonically_iff

/-- The least integer of eight bits after some zeros, and the greatest with a plus. -/
theorem parse_iff_spells_bounds :
    (Kind.integer .int8).Integral .int8 ∧
    (∃ value, (Kind.integer .int8).parse "-000128" = .ok value ∧
      (Kind.integer .int8).wholeOf value = -128 ∧
      (Kind.integer .int8).format value = "-128") ∧
    ¬∃ value, (Kind.integer .int8).parse "+128" = .ok value ∧
      (Kind.integer .int8).wholeOf value = 128 := by
  have hkind : (Kind.integer .int8).Integral .int8 := .integer .int8
  obtain ⟨hparse, -, hformat⟩ := parse_iff_spells hkind
  refine ⟨hkind, ?_, ?_⟩
  · have hspells : Spells "-000128" (-128) :=
      ⟨⟨.minus, [0, 0, 0, 1, 2, 8], List.cons_ne_nil _ _⟩, rfl, rfl⟩
    obtain ⟨value, hvalue, hwhole⟩ := (hparse _ _).mpr ⟨hspells, by decide, by decide⟩
    have hcanonical : SpellsCanonically "-128" (-128) := spellsCanonically_iff.mpr rfl
    rw [← hwhole] at hcanonical
    exact ⟨value, hvalue, hwhole, ((hformat _ value hvalue _).mp hcanonical).symm⟩
  · rw [hparse]
    rintro ⟨-, -, hhigh⟩
    exact absurd hhigh (by decide)

/-! ## Texts that are refused -/

/-- Why a column of integers refuses a text. -/
inductive NumeralFault (type : IntegerType) (text : String) : Error → Prop where
  /-- The text is no numeral. -/
  | notNumeral (h : ∀ i, ¬Spells text i) : NumeralFault type text (unreadable text "an integer")
  /-- The text is a numeral beyond one hundred and twenty-eight bits. -/
  | overlong (h : IsOverlong text) : NumeralFault type text (unreadable text "an integer")
  /-- The text is a numeral beyond sixty-four bits. -/
  | beyondWords {i : Int} (h : Spells text i)
      (hread : -2 ^ (127 : Nat) ≤ i ∧ i < 2 ^ (127 : Nat))
      (hword : ¬(-2 ^ (63 : Nat) ≤ i ∧ i < 2 ^ (63 : Nat))) :
      NumeralFault type text (outOfRange text type)
  /-- The text is a numeral beyond the type. -/
  | beyondType {i : Int} (h : Spells text i)
      (hword : -2 ^ (63 : Nat) ≤ i ∧ i < 2 ^ (63 : Nat))
      (htype : ¬(type.lower ≤ i ∧ i ≤ type.upper)) :
      NumeralFault type text (outOfRange (Digits.integerText i) type)

theorem parseInteger_eq_error_iff {type : IntegerType} {text : String} {error : Error} :
    parseInteger type text = .error error ↔ NumeralFault type text error := by
  constructor
  · intro h
    by_cases hspells : ∃ i, Spells text i
    · obtain ⟨i, hi⟩ := hspells
      rw [parseInteger_of_spells hi] at h
      split at h
      · rename_i hlong
        obtain rfl := Except.error.inj h
        exact .overlong ⟨i, hi, hlong⟩
      · rename_i hread
        split at h
        · rename_i hbeyond
          obtain rfl := Except.error.inj h
          exact .beyondWords hi (not_not.mp hread) hbeyond
        · rename_i hword
          obtain ⟨htype, rfl⟩ := narrow_eq_error_iff.mp h
          exact .beyondType hi (not_not.mp hword) htype
    · have hnone := not_exists.mp hspells
      rw [parseInteger_of_not_spells hnone] at h
      obtain rfl := Except.error.inj h
      exact .notNumeral hnone
  · intro h
    cases h with
    | notNumeral h => exact parseInteger_of_not_spells h
    | overlong h =>
        obtain ⟨i, hi, hlong⟩ := h
        rw [parseInteger_of_spells hi, if_pos hlong]
    | beyondWords h hread hword =>
        rw [parseInteger_of_spells h, if_neg (not_not.mpr hread), if_pos hword]
    | beyondType h hword htype =>
        rw [parseInteger_of_spells h, if_neg (by omega), if_neg (not_not.mpr hword)]
        exact narrow_eq_error_iff.mpr ⟨htype, rfl⟩

/-- The categories of the faults: a numeral that is read is out of range, and all else
is of the wrong kind. -/
theorem NumeralFault.kind_eq {type : IntegerType} {text : String} {error : Error}
    (h : NumeralFault type text error) :
    ((∃ i, Spells text i) ∧ ¬IsOverlong text ∧ error.kind = .domain) ∨
      (((∀ i, ¬Spells text i) ∨ IsOverlong text) ∧ error.kind = .conversion) := by
  cases h with
  | notNumeral h => exact .inr ⟨.inl h, rfl⟩
  | overlong h => exact .inr ⟨.inr h, rfl⟩
  | beyondWords h hread _ =>
      refine .inl ⟨⟨_, h⟩, ?_, rfl⟩
      rintro ⟨i, hi, hlong⟩
      obtain rfl := h.unique hi
      exact hlong hread
  | beyondType h hword _ =>
      refine .inl ⟨⟨_, h⟩, ?_, rfl⟩
      rintro ⟨i, hi, hlong⟩
      obtain rfl := h.unique hi
      omega

/-- The error of a refused text tells a numeral from what is none, unless the text is a
numeral beyond one hundred and twenty-eight bits. -/
theorem parse_error_tells_iff {kind : Kind} {type : IntegerType}
    (hkind : kind.Integral type) (text : String) :
    (∀ error, kind.parse text = .error error ↔ NumeralFault type text error) ∧
    ((∀ error, kind.parse text = .error error →
        (error.kind = .domain ↔ ∃ i, Spells text i) ∧
        (error.kind = .conversion ↔ ¬∃ i, Spells text i)) ↔
      ¬IsOverlong text) := by
  have hfault : ∀ error, kind.parse text = .error error ↔ NumeralFault type text error := by
    intro error
    rw [hkind.parse_eq_error_iff, parseInteger_eq_error_iff]
  refine ⟨hfault, ?_, ?_⟩
  · intro htells hlong
    obtain ⟨-, hconversion⟩ := htells _ ((hfault _).mpr (.overlong hlong))
    obtain ⟨i, hi, -⟩ := hlong
    exact hconversion.mp rfl ⟨i, hi⟩
  · intro hread error herror
    obtain ⟨hspells, -, hdomain⟩ | ⟨hnone | hlong, hconversion⟩ :=
      ((hfault error).mp herror).kind_eq
    · rw [hdomain]
      exact ⟨iff_of_true rfl hspells,
        iff_of_false ErrorKind.noConfusion (not_not.mpr hspells)⟩
    · rw [hconversion]
      exact ⟨iff_of_false ErrorKind.noConfusion (not_exists.mpr hnone),
        iff_of_true rfl (not_exists.mpr hnone)⟩
    · exact absurd hlong hread

/-- The integer after those of one hundred and twenty-eight bits, as it is written. -/
def overlongText : String := "170141183460469231731687303715884105728"

theorem spells_overlongText : Spells overlongText (2 ^ (127 : Nat)) :=
  ⟨⟨.absent, [1, 7, 0, 1, 4, 1, 1, 8, 3, 4, 6, 0, 4, 6, 9, 2, 3, 1, 7, 3, 1, 6, 8, 7, 3, 0,
    3, 7, 1, 5, 8, 8, 4, 1, 0, 5, 7, 2, 8], List.cons_ne_nil _ _⟩, rfl, by decide⟩

theorem isOverlong_overlongText : IsOverlong overlongText :=
  ⟨_, spells_overlongText, by decide⟩

/-- A numeral out of range, and one that is refused as none. -/
theorem parse_error_tells_iff_samples :
    (Kind.integer .uint8).Integral .uint8 ∧
    (Kind.integer .uint8).parse "300" =
      .error (outOfRange (Digits.integerText 300) .uint8) ∧
    (Kind.integer .uint8).parse overlongText =
      .error (unreadable overlongText "an integer") := by
  have hkind : (Kind.integer .uint8).Integral .uint8 := .integer .uint8
  have hspells : Spells "300" 300 :=
    ⟨⟨.absent, [3, 0, 0], List.cons_ne_nil _ _⟩, rfl, rfl⟩
  have hbeyond : NumeralFault .uint8 "300" (outOfRange (Digits.integerText 300) .uint8) :=
    .beyondType hspells (by decide) (by decide)
  have hlong : NumeralFault .uint8 overlongText (unreadable overlongText "an integer") :=
    .overlong isOverlong_overlongText
  refine ⟨hkind, ?_, ?_⟩
  · exact ((parse_error_tells_iff hkind "300").1 _).mpr hbeyond
  · exact ((parse_error_tells_iff hkind overlongText).1 _).mpr hlong

/-- The numeral is refused as if it were none. -/
theorem parse_overlong_numeral :
    Spells overlongText (2 ^ (127 : Nat)) ∧
    ∃ error, (Kind.integer .int64).parse overlongText = .error error ∧
      error.kind = .conversion ∧ error.kind ≠ .domain := by
  have hlong : NumeralFault .int64 overlongText (unreadable overlongText "an integer") :=
    .overlong isOverlong_overlongText
  have herror : (Kind.integer .int64).parse overlongText =
      .error (unreadable overlongText "an integer") :=
    (Integral.integer .int64).parse_eq_error_iff.mpr (parseInteger_eq_error_iff.mpr hlong)
  exact ⟨spells_overlongText, _, herror, rfl, ErrorKind.noConfusion⟩

end Kind

end TypedQuery

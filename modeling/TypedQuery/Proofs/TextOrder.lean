import TypedQuery.Condition
import TypedQuery.Proofs.Coercions
import TypedQuery.Proofs.NumeralOrder
import TypedQuery.Sqlite.Storage

/-!
# The order of stored timestamps

Stored texts are compared byte by byte.  Numerals of one width compare as their
numbers, and a fraction compares as its nanoseconds although it is written with as few
groups of digits as are needed.  So the texts of timestamps are in the order of time
just if the texts of their years are, and the moments of one minute in which what is
counted of it is.  Years beyond four digits begin with a sign, which comes before every
digit, and negative years are counted down: there the texts are not in the order of
time.  Nor are they where a leap second inside a minute runs into the second that
follows.
-/

namespace TypedQuery

namespace TimeOfDay

/-- Nanoseconds since the minute began. -/
def nanosOfMinute (time : TimeOfDay) : Nat :=
  time.second * nanosPerSecond + time.nano

/-- What clocks show is equally far into the same minute. -/
theorem parts_civil (time : TimeOfDay) :
    time.civil.hour = time.hour ∧ time.civil.minute = time.minute ∧
      time.civil.nanosOfMinute = time.nanosOfMinute := by
  by_cases h : time.IsCivil
  · rw [civil_of_isCivil h]
    exact ⟨rfl, rfl, rfl⟩
  · obtain ⟨hhour, hminute, hsecond, hnano⟩ := civil_of_not_isCivil h
    refine ⟨hhour, hminute, ?_⟩
    rw [nanosOfMinute, nanosOfMinute, hsecond, Nat.succ_mul]
    omega

end TimeOfDay

namespace Timestamp

/-! ## Fractions -/

/-- Digits in groups of three, without the groups at the end that are zero. -/
def groups : Nat → Nat → List Char
  | 0, _ => []
  | count + 1, n =>
    if n = 0 then []
    else Digits.padded 3 (n / 1000 ^ count) ++ groups count (n % 1000 ^ count)

/-- Groups that were left out count as zeros. -/
theorem precedes_groups_iff
    {count n m : Nat} (hn : n < 1000 ^ count) (hm : m < 1000 ^ count) :
    Precedes Char.toNat (groups count n) (groups count m) ↔ n < m := by
  induction count generalizing n m with
  | zero =>
      rw [Nat.pow_zero] at hn hm
      constructor
      · intro h
        exact absurd h List.not_lex_nil
      · omega
  | succ count ih =>
      have hpositive : 0 < 1000 ^ count := Nat.pow_pos (by decide)
      unfold groups
      by_cases hmzero : m = 0
      · rw [if_pos hmzero]
        constructor
        · intro h
          exact absurd h List.not_lex_nil
        · omega
      · rw [if_neg hmzero]
        by_cases hnzero : n = 0
        · rw [if_pos hnzero]
          constructor
          · omega
          · intro _
            obtain ⟨c, rest, hcons⟩ :=
              List.exists_cons_of_ne_nil (Digits.padded_ne_nil 3 (m / 1000 ^ count))
            rw [hcons]
            exact List.Lex.nil
        · have hfirst : ∀ k, k < 1000 ^ (count + 1) →
              k / 1000 ^ count < 10 ^ (3 : Nat) := by
            intro k hk
            rw [Nat.div_lt_iff_lt_mul hpositive, Nat.mul_comm, ← Nat.pow_succ]
            exact hk
          have hmodn := Nat.mod_lt n hpositive
          have hmodm := Nat.mod_lt m hpositive
          rw [if_neg hnzero, Digits.precedes_padded_iff (by decide) (hfirst n hn)
            (hfirst m hm), ih hmodn hmodm, ← Digits.mul_add_lt_iff hmodn hmodm,
            Nat.div_add_mod', Nat.div_add_mod']

theorem writeFraction_eq {nano : Nat} (h : nano < nanosPerSecond) :
    writeFraction nano = if nano = 0 then [] else '.' :: groups 3 nano := by
  unfold nanosPerSecond at h
  unfold writeFraction
  by_cases hzero : nano = 0
  · rw [if_pos hzero, if_pos hzero]
  · rw [if_neg hzero, if_neg hzero]
    have hfirst : groups 3 nano =
        Digits.padded 3 (nano / 1000000) ++ groups 2 (nano % 1000000) := if_neg hzero
    by_cases hmillis : nano % 1000000 = 0
    · have hrest : groups 2 (nano % 1000000) = [] := if_pos hmillis
      rw [if_pos hmillis, hfirst, hrest, List.append_nil]
    · have hsecond : groups 2 (nano % 1000000) =
          Digits.padded 3 (nano % 1000000 / 1000) ++ groups 1 (nano % 1000000 % 1000) :=
        if_neg hmillis
      rw [if_neg hmillis]
      by_cases hmicros : nano % 1000 = 0
      · have hrest : groups 1 (nano % 1000000 % 1000) = [] := if_pos (by omega)
        have hsplit := Digits.padded_add (n := nano / 1000) (by decide : 0 < 3)
          (by decide : 0 < 3) (by omega)
        have hhigh : nano / 1000 / 10 ^ (3 : Nat) = nano / 1000000 := by omega
        have hlow : nano / 1000 % 10 ^ (3 : Nat) = nano % 1000000 / 1000 := by omega
        rw [hhigh, hlow] at hsplit
        rw [if_pos hmicros, hfirst, hsecond, hrest, List.append_nil, ← hsplit]
      · have hthird : groups 1 (nano % 1000000 % 1000) =
            Digits.padded 3 (nano % 1000000 % 1000) ++ [] := by
          have hne : nano % 1000000 % 1000 ≠ 0 := by omega
          rw [groups, if_neg hne, Nat.pow_zero, Nat.div_one]
          rfl
        have hsplit := Digits.padded_add (n := nano) (by decide : 0 < 3)
          (by decide : 0 < 6) (by omega)
        have hrest := Digits.padded_add (n := nano % 1000000) (by decide : 0 < 3)
          (by decide : 0 < 3) (by omega)
        rw [if_neg hmicros, hfirst, hsecond, hthird, List.append_nil]
        exact congrArg (List.cons '.') (hsplit.trans (congrArg _ hrest))

/-- Fractions are in order when their nanoseconds are. -/
theorem precedes_writeFraction_iff
    {n m : Nat} (hn : n < nanosPerSecond) (hm : m < nanosPerSecond) :
    Precedes Char.toNat (writeFraction n) (writeFraction m) ↔ n < m := by
  rw [writeFraction_eq hn, writeFraction_eq hm]
  by_cases hmzero : m = 0
  · rw [if_pos hmzero]
    constructor
    · intro h
      exact absurd h List.not_lex_nil
    · omega
  · rw [if_neg hmzero]
    by_cases hnzero : n = 0
    · rw [if_pos hnzero]
      constructor
      · omega
      · intro _
        exact List.Lex.nil
    · rw [if_neg hnzero, precedes_cons_self]
      exact precedes_groups_iff hn hm

/-! ## Times and dates -/

theorem writtenSecond_lt (time : TimeOfDay) :
    time.second + time.nano / nanosPerSecond < 10 ^ (2 : Nat) := by
  obtain ⟨-, -, hsecond, hnano⟩ := time.isTime
  unfold nanosPerSecond at hnano ⊢
  omega

theorem precedes_writeTime_iff (a b : TimeOfDay) :
    Precedes Char.toNat (writeTime a) (writeTime b) ↔
      a.hour < b.hour ∨ (a.hour = b.hour ∧
      (a.minute < b.minute ∨ (a.minute = b.minute ∧
        a.nanosOfMinute < b.nanosOfMinute))) := by
  obtain ⟨hhour, hminute, hsecond, hnano⟩ := a.isTime
  obtain ⟨hhour', hminute', hsecond', hnano'⟩ := b.isTime
  have hpositive : 0 < nanosPerSecond := by decide
  unfold writeTime
  simp only [List.append_assoc, List.cons_append]
  rw [Digits.precedes_padded_iff (by decide) (by omega) (by omega), precedes_cons_self,
    Digits.precedes_padded_iff (by decide) (by omega) (by omega), precedes_cons_self,
    Digits.precedes_padded_iff (by decide) (writtenSecond_lt a) (writtenSecond_lt b),
    precedes_writeFraction_iff (Nat.mod_lt _ hpositive) (Nat.mod_lt _ hpositive)]
  unfold TimeOfDay.nanosOfMinute
  unfold nanosPerSecond at *
  omega

/-- How a year begins as a text: with a plus sign, with a minus sign or with a digit. -/
def yearSign (year : Int) : Nat :=
  if 9999 < year then 0 else if year < 0 then 1 else 2

theorem yearSign_cases (year : Int) :
    (9999 < year ∧ yearSign year = 0) ∨ (year < 0 ∧ yearSign year = 1) ∨
      (0 ≤ year ∧ year ≤ 9999 ∧ yearSign year = 2) := by
  unfold yearSign
  split
  · omega
  · split
    · omega
    · omega

/-- Where a year stands among the others as a text. -/
def yearRank (year : Int) : Nat :=
  yearSign year * 10 ^ (7 : Nat) + Digits.leftRank year.natAbs

/-- The texts of two years compare as the years do. -/
def SortsByTime (year year' : Int) : Prop :=
  yearRank year < yearRank year' ↔ year < year'

instance (year year' : Int) : Decidable (SortsByTime year year') :=
  inferInstanceAs (Decidable (_ ↔ _))

theorem yearRank_lt_of_yearSign_lt
    {year year' : Int} (hyear : year.natAbs < 10 ^ (6 : Nat))
    (h : yearSign year < yearSign year') : yearRank year < yearRank year' := by
  have hrank := Digits.leftRank_lt hyear
  unfold yearRank
  omega

/-- Years up to 9999 sort by time if one of them at least is not negative. -/
theorem sortsByTime_of_plain
    {year year' : Int}
    (hyear : year.natAbs < 10 ^ (6 : Nat)) (hyear' : year'.natAbs < 10 ^ (6 : Nat))
    (hlast : year ≤ 9999) (hlast' : year' ≤ 9999) (h : 0 ≤ year ∨ 0 ≤ year') :
    SortsByTime year year' := by
  have hcases := yearSign_cases year
  have hcases' := yearSign_cases year'
  by_cases hnegative : year < 0
  · have hsign : yearSign year < yearSign year' := by
      omega
    exact iff_of_true (yearRank_lt_of_yearSign_lt hyear hsign) (by omega)
  · by_cases hnegative' : year' < 0
    · have hsign : yearSign year' < yearSign year := by
        omega
      exact iff_of_false (Nat.lt_asymm (yearRank_lt_of_yearSign_lt hyear' hsign))
        (by omega)
    · have hsign : yearSign year = yearSign year' := by
        omega
      rw [SortsByTime, yearRank, yearRank, hsign, Digits.leftRank_of_lt (by omega),
        Digits.leftRank_of_lt (by omega)]
      omega

/-- A year beyond 9999 sorts before all years up to there. -/
theorem not_sortsByTime_of_long
    {year year' : Int} (hyear' : year'.natAbs < 10 ^ (6 : Nat))
    (hlast : year ≤ 9999) (hlast' : 9999 < year') : ¬ SortsByTime year year' := by
  have hcases := yearSign_cases year
  have hcases' := yearSign_cases year'
  intro h
  have hsign : yearSign year' < yearSign year := by
    omega
  have hrank := yearRank_lt_of_yearSign_lt hyear' hsign
  exact Nat.lt_asymm hrank (h.mpr (by omega))

/-- Negative years of four digits sort in reverse. -/
theorem not_sortsByTime_of_negative
    {year year' : Int} (hfirst : -9999 ≤ year) (h : year < year') (hlast : year' < 0) :
    ¬ SortsByTime year year' := by
  have hcases := yearSign_cases year
  have hcases' := yearSign_cases year'
  have hsign : yearSign year = yearSign year' := by
    omega
  rw [SortsByTime, yearRank, yearRank, hsign, Digits.leftRank_of_lt (by omega),
    Digits.leftRank_of_lt (by omega)]
  omega

theorem writeYear_plain {year : Int} (hlow : 0 ≤ year) (hhigh : year ≤ 9999) :
    writeYear year = Digits.padded 4 year.toNat :=
  if_pos ⟨hlow, hhigh⟩

theorem writeYear_negative {year : Int} (h : year < 0) :
    writeYear year = '-' :: Digits.padded 4 year.natAbs := by
  rw [writeYear, if_neg (by omega), if_pos h]

theorem writeYear_long {year : Int} (h : 9999 < year) :
    writeYear year = '+' :: Digits.padded 4 year.natAbs := by
  rw [writeYear, if_neg (by omega), if_neg (by omega)]

/-- A sign comes before every digit. -/
theorem precedes_sign_padded
    {sign : Char} (hsign : sign.toNat < 48) (width n : Nat) (a b : List Char) :
    Precedes Char.toNat (sign :: a) (Digits.padded width n ++ b) ∧
      ¬ Precedes Char.toNat (Digits.padded width n ++ b) (sign :: a) := by
  obtain ⟨c, digits, hcons⟩ := List.exists_cons_of_ne_nil (Digits.padded_ne_nil width n)
  have hdigit : c.isDigit = true := by
    apply Digits.isDigit_of_mem_padded
    rw [hcons]
    exact List.mem_cons_self ..
  have hcode := (Digits.value_singleton hdigit).1
  rw [hcons, List.cons_append, precedes_cons_iff, precedes_cons_iff]
  constructor
  · left
    omega
  · rintro (hlt | ⟨rfl, -⟩)
    · omega
    · omega

/-- A year that begins earlier sorts first, whatever comes after it. -/
theorem precedes_of_yearSign_lt
    {year year' : Int} (h : yearSign year < yearSign year') (a b : List Char) :
    Precedes Char.toNat (writeYear year ++ a) (writeYear year' ++ b) ∧
      ¬ Precedes Char.toNat (writeYear year' ++ b) (writeYear year ++ a) := by
  have hcases := yearSign_cases year
  have hcases' := yearSign_cases year'
  by_cases hlong : 9999 < year
  · by_cases hnegative : year' < 0
    · rw [writeYear_long hlong, writeYear_negative hnegative, List.cons_append,
        List.cons_append, precedes_cons_iff, precedes_cons_iff]
      simp
    · rw [writeYear_long hlong, writeYear_plain (by omega) (by omega), List.cons_append]
      exact precedes_sign_padded (by decide) 4 year'.toNat _ b
  · rw [writeYear_negative (by omega), writeYear_plain (by omega) (by omega),
      List.cons_append]
    exact precedes_sign_padded (by decide) 4 year'.toNat _ b

theorem precedes_of_yearSign_eq
    {year year' : Int}
    (hyear : year.natAbs < 10 ^ (6 : Nat)) (hyear' : year'.natAbs < 10 ^ (6 : Nat))
    (h : yearSign year = yearSign year') (a b : List Char) :
    Precedes Char.toNat (writeYear year ++ '-' :: a) (writeYear year' ++ '-' :: b) ↔
      Digits.leftRank year.natAbs < Digits.leftRank year'.natAbs ∨
        (year.natAbs = year'.natAbs ∧ Precedes Char.toNat a b) := by
  have hdigits := Digits.precedes_padded_four_iff hyear hyear'
    (by decide : '-'.toNat < 48) a b
  have hcases := yearSign_cases year
  have hcases' := yearSign_cases year'
  by_cases hlong : 9999 < year
  · rw [writeYear_long hlong, writeYear_long (by omega), List.cons_append,
      List.cons_append, precedes_cons_self]
    exact hdigits
  · by_cases hnegative : year < 0
    · rw [writeYear_negative hnegative, writeYear_negative (by omega), List.cons_append,
        List.cons_append, precedes_cons_self]
      exact hdigits
    · have hsame : ∀ y : Int, 0 ≤ y → y.toNat = y.natAbs := by omega
      rw [writeYear_plain (by omega) (by omega), writeYear_plain (by omega) (by omega),
        hsame _ (by omega), hsame _ (by omega)]
      exact hdigits

theorem precedes_writeYear_iff
    {year year' : Int}
    (hyear : year.natAbs < 10 ^ (6 : Nat)) (hyear' : year'.natAbs < 10 ^ (6 : Nat))
    (a b : List Char) :
    Precedes Char.toNat (writeYear year ++ '-' :: a) (writeYear year' ++ '-' :: b) ↔
      yearRank year < yearRank year' ∨ (year = year' ∧ Precedes Char.toNat a b) := by
  have hcases := yearSign_cases year
  have hcases' := yearSign_cases year'
  -- Years that begin alike differ in their digits, and other years in their first
  -- characters, which decide on both sides.
  rcases Nat.lt_trichotomy (yearSign year) (yearSign year') with hlt | heq | hgt
  · have hfirst := (precedes_of_yearSign_lt hlt ('-' :: a) ('-' :: b)).1
    exact iff_of_true hfirst (Or.inl (yearRank_lt_of_yearSign_lt hyear hlt))
  · have hsame : year.natAbs = year'.natAbs ↔ year = year' := by
      omega
    rw [precedes_of_yearSign_eq hyear hyear' heq, hsame, yearRank, yearRank, heq,
      Nat.add_lt_add_iff_left]
  · have hlast := (precedes_of_yearSign_lt hgt ('-' :: b) ('-' :: a)).2
    have hrank := yearRank_lt_of_yearSign_lt hyear' hgt
    apply iff_of_false hlast
    rintro (hlt | ⟨rfl, -⟩)
    · exact Nat.lt_asymm hrank hlt
    · exact Nat.lt_irrefl _ hgt

/-- The characters of the text form. -/
def written (t : Timestamp) : List Char :=
  writeDate t.date ++ ' ' :: writeTime t.time

theorem written_eq (t : Timestamp) :
    t.written = writeYear t.date.year ++ '-' :: (Digits.padded 2 t.date.month ++
      '-' :: (Digits.padded 2 t.date.day ++ ' ' :: writeTime t.time)) := by
  simp only [written, writeDate, List.append_assoc, List.cons_append]

theorem natAbs_year_lt (t : Timestamp) : t.date.year.natAbs < 10 ^ (6 : Nat) := by
  obtain ⟨hfirst, hlast, -⟩ := t.date.isDate
  unfold firstYear at hfirst
  unfold lastYear at hlast
  omega

/-- The text forms of timestamps are in order when their years are, as texts, and in one
year when the parts that follow are.  A minute counts by the nanoseconds since it began. -/
theorem precedes_written_iff (a b : Timestamp) :
    Precedes Char.toNat a.written b.written ↔
      yearRank a.date.year < yearRank b.date.year ∨ (a.date.year = b.date.year ∧
      (a.date.month < b.date.month ∨ (a.date.month = b.date.month ∧
      (a.date.day < b.date.day ∨ (a.date.day = b.date.day ∧
      (a.time.hour < b.time.hour ∨ (a.time.hour = b.time.hour ∧
      (a.time.minute < b.time.minute ∨ (a.time.minute = b.time.minute ∧
        a.time.nanosOfMinute < b.time.nanosOfMinute))))))))) := by
  have hpart : ∀ date : Date,
      date.month < 10 ^ (2 : Nat) ∧ date.day < 10 ^ (2 : Nat) := by
    intro date
    obtain ⟨-, -, -, hmonth, -, hday⟩ := date.isDate
    have hdays : daysInMonth date.year date.month ≤ 31 := by
      unfold daysInMonth
      split
      · split <;> decide
      · split <;> decide
    omega
  obtain ⟨hmonth, hday⟩ := hpart a.date
  obtain ⟨hmonth', hday'⟩ := hpart b.date
  rw [written_eq, written_eq, precedes_writeYear_iff a.natAbs_year_lt b.natAbs_year_lt,
    Digits.precedes_padded_iff (by decide) hmonth hmonth', precedes_cons_self,
    Digits.precedes_padded_iff (by decide) hday hday', precedes_cons_self,
    precedes_writeTime_iff]

/-! ## Leap seconds -/

/-- In one minute, the nanoseconds since it began compare as the moments do. -/
def CountsByTime (a b : Timestamp) : Prop :=
  a.date = b.date → a.time.hour = b.time.hour → a.time.minute = b.time.minute →
    (a.time.nanosOfMinute < b.time.nanosOfMinute ↔
      a.time.second < b.time.second ∨
        (a.time.second = b.time.second ∧ a.time.nano < b.time.nano))

/-- A leap second that ends its minute runs into no other second. -/
theorem countsByTime_of_isCivil {a b : Timestamp} (ha : a.IsCivil) (hb : b.IsCivil) :
    CountsByTime a b := by
  obtain ⟨-, -, hsecond, -⟩ := a.time.isTime
  obtain ⟨-, -, hsecond', -⟩ := b.time.isTime
  intro _ _ _
  unfold IsCivil TimeOfDay.IsCivil at ha hb
  unfold TimeOfDay.nanosOfMinute
  unfold nanosPerSecond at *
  omega

/-- Moments that clocks show alike are one moment if they count by time. -/
theorem eq_of_civil_eq
    {a b : Timestamp} (h : CountsByTime a b) (h' : CountsByTime b a)
    (hcivil : a.civil = b.civil) : a = b := by
  rw [civil, civil, Timestamp.mk.injEq] at hcivil
  obtain ⟨hdate, htime⟩ := hcivil
  obtain ⟨hhour, hminute, hnanos⟩ := a.time.parts_civil
  obtain ⟨hhour', hminute', hnanos'⟩ := b.time.parts_civil
  rw [htime] at hhour hminute hnanos
  have hsamehour := hhour.symm.trans hhour'
  have hsameminute := hminute.symm.trans hminute'
  have hsame := hnanos.symm.trans hnanos'
  have hafter := h hdate hsamehour hsameminute
  have hbefore := h' hdate.symm hsamehour.symm hsameminute.symm
  have hparts : a.time.second = b.time.second ∧ a.time.nano = b.time.nano := by
    unfold TimeOfDay.nanosOfMinute at hsame hafter hbefore
    omega
  exact Timestamp.ext hdate
    (TimeOfDay.ext hsamehour hsameminute hparts.1 hparts.2)

/-- The order of the texts is that of time just if it is so for years and in a minute. -/
theorem precedes_written_iff_before (a b : Timestamp) :
    (Precedes Char.toNat a.written b.written ↔ a.before b) ↔
      SortsByTime a.date.year b.date.year ∧ CountsByTime a b := by
  rw [precedes_written_iff, SortsByTime, CountsByTime, before]
  by_cases hyear : a.date.year = b.date.year
  · by_cases hminute : a.date.month = b.date.month ∧ a.date.day = b.date.day ∧
        a.time.hour = b.time.hour ∧ a.time.minute = b.time.minute
    · obtain ⟨hmonth, hday, hhour, hminute⟩ := hminute
      have hdate := Date.ext hyear hmonth hday
      simp [hhour, hminute, hdate]
    · have hapart : ¬ (a.date = b.date ∧ a.time.hour = b.time.hour ∧
          a.time.minute = b.time.minute) := by
        rintro ⟨hdate, hhour, hsame⟩
        exact hminute ⟨congrArg Date.month hdate, congrArg Date.day hdate, hhour, hsame⟩
      refine iff_of_true ?_ ⟨?_, ?_⟩
      · rw [hyear]
        omega
      · rw [hyear]
        simp
      · intro hdate hhour hsame
        exact absurd ⟨hdate, hhour, hsame⟩ hapart
  · have hdate : a.date ≠ b.date := fun h => hyear (congrArg Date.year h)
    simp [hyear, hdate]

theorem isAscii_written (t : Timestamp) : Utf8.IsAscii t.written := by
  have hpadded : ∀ width n, Utf8.IsAscii (Digits.padded width n) := by
    intro width n c hc
    have hcode := Digits.value_singleton (Digits.isDigit_of_mem_padded hc)
    omega
  have happend : ∀ a b : List Char, Utf8.IsAscii a → Utf8.IsAscii b →
      Utf8.IsAscii (a ++ b) := by
    intro a b ha hb c hc
    exact (List.mem_append.mp hc).elim (ha c) (hb c)
  have hcons : ∀ (c : Char) (a : List Char), c.toNat < 128 → Utf8.IsAscii a →
      Utf8.IsAscii (c :: a) :=
    fun c a hc ha => List.forall_mem_cons.mpr ⟨hc, ha⟩
  have hyear : Utf8.IsAscii (writeYear t.date.year) := by
    unfold writeYear
    split
    · exact hpadded _ _
    · apply hcons
      · split <;> decide
      · exact hpadded _ _
  have hfraction : ∀ nano, Utf8.IsAscii (writeFraction nano) := by
    intro nano
    unfold writeFraction
    split
    · exact fun c hc => nomatch hc
    · split
      · exact hcons _ _ (by decide) (hpadded _ _)
      · split
        · exact hcons _ _ (by decide) (hpadded _ _)
        · exact hcons _ _ (by decide) (hpadded _ _)
  have htime : Utf8.IsAscii (writeTime t.time) := by
    unfold writeTime
    apply happend
    · apply happend
      · exact happend _ _ (hpadded _ _) (hcons _ _ (by decide) (hpadded _ _))
      · exact hcons _ _ (by decide) (hpadded _ _)
    · exact hfraction _
  rw [written_eq]
  apply happend _ _ hyear
  apply hcons _ _ (by decide)
  apply happend _ _ (hpadded _ _)
  apply hcons _ _ (by decide)
  apply happend _ _ (hpadded _ _)
  exact hcons _ _ (by decide) htime

end Timestamp

/-! ## Comparing stored values -/

/-- What a comparison says of two values that are in an order. -/
def CompareOp.Holds {α : Type} (before : α → α → Prop) : CompareOp → α → α → Prop
  | eq, a, b => a = b
  | ne, a, b => a ≠ b
  | lt, a, b => before a b
  | le, a, b => ¬ before b a
  | gt, a, b => before b a
  | ge, a, b => ¬ before a b

namespace Sqlite.Storage

/-- Stored texts are compared byte by byte, by the numbers of the bytes. -/
def Before : Storage → Storage → Prop
  | text a, text b => Precedes UInt8.toNat a b
  | _, _ => False

def ofTimestamp (t : Timestamp) : Storage :=
  ofValue (.timestamp t)

theorem before_ofTimestamp_iff (a b : Timestamp) :
    (ofTimestamp a).Before (ofTimestamp b) ↔ Precedes Char.toNat a.written b.written := by
  have hbytes : ∀ t : Timestamp,
      Utf8.encode t.format = t.written.map fun c => UInt8.ofNat c.toNat :=
    fun t => Utf8.encode_ofList t.isAscii_written
  rw [ofTimestamp, ofTimestamp, ofValue, ofValue, hbytes, hbytes]
  exact precedes_map_iff a.isAscii_written b.isAscii_written

theorem ofTimestamp_eq_iff {a b : Timestamp} :
    ofTimestamp a = ofTimestamp b ↔ a.civil = b.civil := by
  rw [ofTimestamp, ofTimestamp, ofValue, ofValue, Storage.text.injEq, Utf8.encode_inj,
    Timestamp.format_eq_iff]

/-- Two stored timestamps are in the order of time just if their years sort by time and
their minutes count by it. -/
theorem before_ofTimestamp_iff_before (a b : Timestamp) :
    ((ofTimestamp a).Before (ofTimestamp b) ↔ a.before b) ↔
      Timestamp.SortsByTime a.date.year b.date.year ∧ Timestamp.CountsByTime a b := by
  rw [before_ofTimestamp_iff]
  exact Timestamp.precedes_written_iff_before a b

/-- Where years sort by time and minutes count by it, every comparison of stored
timestamps says what it says of the timestamps. -/
theorem holds_ofTimestamp_iff
    {a b : Timestamp}
    (h : Timestamp.SortsByTime a.date.year b.date.year ∧ Timestamp.CountsByTime a b)
    (h' : Timestamp.SortsByTime b.date.year a.date.year ∧ Timestamp.CountsByTime b a)
    (op : CompareOp) :
    op.Holds Before (ofTimestamp a) (ofTimestamp b) ↔ op.Holds Timestamp.before a b := by
  have hab := (before_ofTimestamp_iff_before a b).mpr h
  have hba := (before_ofTimestamp_iff_before b a).mpr h'
  have heq : ofTimestamp a = ofTimestamp b ↔ a = b := by
    constructor
    · intro hsame
      exact Timestamp.eq_of_civil_eq h.2 h'.2 (ofTimestamp_eq_iff.mp hsame)
    · exact congrArg ofTimestamp
  cases op with
  | eq => exact heq
  | ne => exact not_congr heq
  | lt => exact hab
  | le => exact not_congr hba
  | gt => exact hba
  | ge => exact not_congr hab

/-- Two stored timestamps are in the order of time just if their years sort by time and
their minutes count by it.  Years up to 9999 sort by time if one of them at least is not
negative, and minutes count by time, also with leap seconds and fractions, if no leap
second is inside a minute.  Then each comparison of stored timestamps says what it says
of the timestamps, and a column that is ordered by what is stored is ordered by time. -/
theorem stored_order (times : List Timestamp) :
    (∀ a b : Timestamp,
      ((ofTimestamp a).Before (ofTimestamp b) ↔ a.before b) ↔
        Timestamp.SortsByTime a.date.year b.date.year ∧ Timestamp.CountsByTime a b) ∧
    (∀ a b : Timestamp, a.date.year ≤ 9999 → b.date.year ≤ 9999 →
      0 ≤ a.date.year ∨ 0 ≤ b.date.year →
        Timestamp.SortsByTime a.date.year b.date.year) ∧
    (∀ a b : Timestamp, a.IsCivil → b.IsCivil → Timestamp.CountsByTime a b) ∧
    ((∀ a ∈ times, ∀ b ∈ times,
        Timestamp.SortsByTime a.date.year b.date.year ∧ Timestamp.CountsByTime a b) →
      (∀ a ∈ times, ∀ b ∈ times, ∀ op : CompareOp,
        op.Holds Before (ofTimestamp a) (ofTimestamp b) ↔
          op.Holds Timestamp.before a b) ∧
      ∀ op : CompareOp,
        (times.map ofTimestamp).Pairwise (op.Holds Before) ↔
          times.Pairwise (op.Holds Timestamp.before)) := by
  refine ⟨before_ofTimestamp_iff_before, ?_, ?_, ?_⟩
  · intro a b ha hb h
    exact Timestamp.sortsByTime_of_plain a.natAbs_year_lt b.natAbs_year_lt ha hb h
  · intro a b ha hb
    exact Timestamp.countsByTime_of_isCivil ha hb
  · intro h
    constructor
    · intro a ha b hb op
      exact holds_ofTimestamp_iff (h a ha b hb) (h b hb a ha) op
    · intro op
      rw [List.pairwise_map]
      apply List.Pairwise.iff_of_mem
      intro a b ha hb
      exact holds_ofTimestamp_iff (h a ha b hb) (h b hb a ha) op

/-- The last second of a year before the year zero, and a leap second in two moments with
the moment after it. -/
def turns : List Timestamp :=
  [⟨⟨-1, 12, 31, by decide⟩, ⟨23, 59, 59, 999999999, by decide⟩⟩,
    ⟨⟨1998, 12, 31, by decide⟩, ⟨23, 59, 59, 1000000000, by decide⟩⟩,
    ⟨⟨1998, 12, 31, by decide⟩, ⟨23, 59, 59, 1000001000, by decide⟩⟩,
    ⟨⟨1999, 1, 1, by decide⟩, .midnight⟩]

theorem stored_order_turns :
    Timestamp.SortsByTime turns[0].date.year turns[1].date.year ∧
      Timestamp.CountsByTime turns[1] turns[2] ∧
      (∀ a ∈ turns, ∀ b ∈ turns,
        Timestamp.SortsByTime a.date.year b.date.year ∧ Timestamp.CountsByTime a b) ∧
      turns.Pairwise Timestamp.before ∧ (turns.map ofTimestamp).Pairwise Before := by
  obtain ⟨-, hplain, hcivil, hstored⟩ := stored_order turns
  have hshown : ∀ a ∈ turns, a.IsCivil := by
    decide
  have hfirst := hplain turns[0] turns[1] (by decide) (by decide) (by decide)
  have hleap := hcivil turns[1] turns[2] (by decide) (by decide)
  have hyears : ∀ a ∈ turns, ∀ b ∈ turns,
      Timestamp.SortsByTime a.date.year b.date.year := by
    decide
  have hsorted : ∀ a ∈ turns, ∀ b ∈ turns,
      Timestamp.SortsByTime a.date.year b.date.year ∧ Timestamp.CountsByTime a b :=
    fun a ha b hb => ⟨hyears a ha b hb, hcivil a b (hshown a ha) (hshown b hb)⟩
  have hturns : turns.Pairwise Timestamp.before := by
    simp [turns, Timestamp.before]
  exact ⟨hfirst, hleap, hsorted, hturns, ((hstored hsorted).2 .lt).mpr hturns⟩

/-- The last second whose year has four digits. -/
def lastPlain : Timestamp :=
  ⟨⟨9999, 12, 31, by decide⟩, ⟨23, 59, 59, 0, by decide⟩⟩

/-- The second after it. -/
def firstLong : Timestamp :=
  ⟨⟨10000, 1, 1, by decide⟩, .midnight⟩

/-- The last second of a negative year. -/
def lastNegative : Timestamp :=
  ⟨⟨-2, 12, 31, by decide⟩, ⟨23, 59, 59, 0, by decide⟩⟩

/-- The second after it. -/
def nextNegative : Timestamp :=
  ⟨⟨-1, 1, 1, by decide⟩, .midnight⟩

/-- The second after a leap second inside a minute that is still on. -/
def duringStrayLeap : Timestamp :=
  ⟨strayLeap.date, ⟨12, 0, 31, 0, by decide⟩⟩

theorem stored_out_of_order :
    ofTimestamp lastPlain = .text (Utf8.encode "9999-12-31 23:59:59") ∧
      ofTimestamp firstLong = .text (Utf8.encode "+10000-01-01 00:00:00") ∧
      lastPlain.before firstLong ∧
      ¬ (ofTimestamp lastPlain).Before (ofTimestamp firstLong) ∧
      lastNegative.before nextNegative ∧
      ¬ (ofTimestamp lastNegative).Before (ofTimestamp nextNegative) ∧
      strayLeap.before duringStrayLeap ∧
      ¬ (ofTimestamp strayLeap).Before (ofTimestamp duringStrayLeap) := by
  have hlong : lastPlain.before firstLong := by
    simp [lastPlain, firstLong, Timestamp.before]
  have hnegative : lastNegative.before nextNegative := by
    simp [lastNegative, nextNegative, Timestamp.before]
  have hstray : strayLeap.before duringStrayLeap := by
    simp [strayLeap, duringStrayLeap, Timestamp.before]
  refine ⟨by decide +kernel, by decide +kernel, hlong, ?_, hnegative, ?_, hstray, ?_⟩
  · intro h
    have hsorted := (before_ofTimestamp_iff_before _ _).mp (iff_of_true h hlong)
    exact Timestamp.not_sortsByTime_of_long (by decide) (by decide) (by decide) hsorted.1
  · intro h
    have hsorted := (before_ofTimestamp_iff_before _ _).mp (iff_of_true h hnegative)
    exact Timestamp.not_sortsByTime_of_negative (by decide) (by decide) (by decide)
      hsorted.1
  · intro h
    have hsorted := (before_ofTimestamp_iff_before _ _).mp (iff_of_true h hstray)
    have hcount := (hsorted.2 rfl rfl rfl).mpr (by decide)
    exact absurd hcount (by decide)

end Sqlite.Storage

end TypedQuery

import TypedQuery.Kind.Codec

/-!
# Timestamps survive as text

A timestamp is read back from its text, whatever its year and its fraction of a
second, also from a leap second at the end of a minute.  A leap second inside a
minute has no text of its own: it is written as the second that follows, and as
that it is read.  The proof goes along the text: each reader takes exactly what the
writer of the same part wrote and leaves the rest.  A reader of numbers may take
more digits than were written, so what follows a number must stop it, or the number
must fill its width.
-/

namespace TypedQuery

namespace Digits

/-! ## Padded numerals -/

theorem isDigit_of_mem_padded
    {width n : Nat} {c : Char} (h : c ∈ padded width n) :
    c.isDigit = true := by
  rw [padded, List.mem_append] at h
  rcases h with hzero | hdigit
  · rw [List.eq_of_mem_replicate hzero]
    rfl
  · exact isDigit_of_mem_natural hdigit

@[simp]
theorem value_padded (width n : Nat) : value (padded width n) = n := by
  have hzeros : Nat.ofDigitChars 10
      (List.replicate (width - (natural n).length) '0') 0 = 0 := by
    rw [Nat.ofDigitChars_replicate_zero, Nat.mul_zero]
  rw [value, padded, Nat.ofDigitChars_append, hzeros]
  exact value_natural n

theorem padded_ne_nil (width n : Nat) : padded width n ≠ [] := by
  intro h
  rw [padded, List.append_eq_nil_iff] at h
  exact Nat.toDigits_ne_nil h.2

theorem length_padded
    {width n : Nat} (hwidth : 0 < width) (h : n < 10 ^ width) :
    (padded width n).length = width := by
  have hlength : (natural n).length ≤ width :=
    (Nat.length_toDigits_le_iff (by decide) hwidth).mpr h
  rw [padded, List.length_append, List.length_replicate]
  omega

end Digits

theorem isBlank_of_isDigit {c : Char} (h : c.isDigit = true) :
    isBlank c = false := by
  have hbounds : 48 ≤ c.toNat ∧ c.toNat ≤ 57 := by
    rw [Char.isDigit, Bool.and_eq_true, decide_eq_true_eq, decide_eq_true_eq] at h
    exact h
  simp only [isBlank, Bool.or_eq_false_iff, Bool.and_eq_false_iff,
    decide_eq_false_iff_not, beq_eq_false_iff_ne]
  omega

namespace TimeOfDay

/-- The time as clocks show it: a leap second inside a minute is shown as the second
that follows. -/
def civil (time : TimeOfDay) : TimeOfDay :=
  if h : time.IsCivil then time
  else ⟨time.hour, time.minute, time.second + 1, time.nano - nanosPerSecond, by
    obtain ⟨hhour, hminute, hsecond, hnano⟩ := time.isTime
    unfold IsCivil at h
    exact ⟨hhour, hminute, by omega, by omega⟩⟩

theorem civil_of_isCivil {time : TimeOfDay} (h : time.IsCivil) : time.civil = time :=
  dif_pos h

theorem civil_of_not_isCivil {time : TimeOfDay} (h : ¬ time.IsCivil) :
    time.civil.hour = time.hour ∧ time.civil.minute = time.minute ∧
      time.civil.second = time.second + 1 ∧
      time.civil.nano + nanosPerSecond = time.nano := by
  rw [civil, dif_neg h]
  unfold IsCivil at h
  exact ⟨rfl, rfl, rfl, Nat.sub_add_cancel (by omega)⟩

theorem isCivil_civil (time : TimeOfDay) : time.civil.IsCivil := by
  by_cases h : time.IsCivil
  · rwa [civil_of_isCivil h]
  · obtain ⟨-, -, -, hnano⟩ := civil_of_not_isCivil h
    obtain ⟨-, -, -, hbound⟩ := time.isTime
    exact Or.inl (by omega)

theorem civil_eq_self_iff {time : TimeOfDay} : time.civil = time ↔ time.IsCivil := by
  constructor
  · intro h
    rw [← h]
    exact time.isCivil_civil
  · exact civil_of_isCivil

end TimeOfDay

namespace Timestamp

/-- The time of the timestamp is one that clocks show. -/
def IsCivil (t : Timestamp) : Prop :=
  t.time.IsCivil

instance (t : Timestamp) : Decidable t.IsCivil :=
  inferInstanceAs (Decidable t.time.IsCivil)

def civil (t : Timestamp) : Timestamp :=
  ⟨t.date, t.time.civil⟩

theorem isCivil_civil (t : Timestamp) : t.civil.IsCivil :=
  t.time.isCivil_civil

theorem civil_eq_self_iff {t : Timestamp} : t.civil = t ↔ t.IsCivil := by
  rw [IsCivil, ← TimeOfDay.civil_eq_self_iff]
  constructor
  · exact congrArg time
  · intro h
    rw [civil, h]

theorem skipBlanks_cons
    {c : Char} (h : isBlank c = false) (rest : List Char) :
    skipBlanks (c :: rest) = c :: rest := by
  rw [skipBlanks, List.dropWhile_cons_of_neg]
  simp [h]

theorem skipBlanks_padded (width n : Nat) (rest : List Char) :
    skipBlanks (Digits.padded width n ++ rest) =
      Digits.padded width n ++ rest := by
  cases hpadded : Digits.padded width n with
  | nil => exact absurd hpadded (Digits.padded_ne_nil width n)
  | cons c digits =>
      have hmem : c ∈ Digits.padded width n := by
        rw [hpadded]
        exact List.mem_cons_self ..
      exact skipBlanks_cons (isBlank_of_isDigit (Digits.isDigit_of_mem_padded hmem)) _

/-! ## Numbers -/

/-- A number is read to its last digit when nothing that could belong to it
follows within the width. -/
theorem readNumber_append
    {width : Nat} {digits rest : List Char}
    (hdigits : ∀ c ∈ digits, c.isDigit = true) (hne : digits ≠ [])
    (hlength : digits.length ≤ width)
    (hrest : (rest.take (width - digits.length)).takeWhile Char.isDigit = []) :
    readNumber width (digits ++ rest) = .ok (Digits.value digits, rest) := by
  have htaken : ((digits ++ rest).take width).takeWhile Char.isDigit = digits := by
    rw [List.take_append, List.take_of_length_le hlength,
      List.takeWhile_append_of_pos hdigits, hrest, List.append_nil]
  cases digits with
  | nil => exact absurd rfl hne
  | cons first digits =>
      have hfirst : first.isDigit = true := hdigits first (List.mem_cons_self ..)
      rw [List.cons_append] at htaken ⊢
      rw [readNumber, if_pos hfirst]
      simp only [htaken]
      rw [← List.cons_append, List.drop_left]

theorem readNumber_padded
    {width n : Nat} (hwidth : 0 < width) (h : n < 10 ^ width)
    (rest : List Char) :
    readNumber width (Digits.padded width n ++ rest) = .ok (n, rest) := by
  have hlength := Digits.length_padded hwidth h
  rw [readNumber_append (fun c => Digits.isDigit_of_mem_padded)
    (Digits.padded_ne_nil width n) (Nat.le_of_eq hlength), Digits.value_padded]
  rw [hlength, Nat.sub_self, List.take_zero, List.takeWhile_nil]

theorem readPart_padded
    {least greatest n : Nat} (hleast : least ≤ n) (hgreatest : n ≤ greatest)
    (h : n < 100) (rest : List Char) :
    readPart least greatest (Digits.padded 2 n ++ rest) = .ok (n, rest) := by
  rw [readPart, skipBlanks_padded, readNumber_padded (by decide) h]
  exact if_pos ⟨hleast, hgreatest⟩

/-- A number that a mark follows is read to the mark, however long it is. -/
theorem readNumber_padded_mark
    {mark : Char} (hmark : mark.isDigit = false)
    (width n : Nat) (rest : List Char) :
    readNumber (Digits.padded width n ++ mark :: rest).length
        (Digits.padded width n ++ mark :: rest) =
      .ok (n, mark :: rest) := by
  rw [readNumber_append (fun c => Digits.isDigit_of_mem_padded)
    (Digits.padded_ne_nil width n), Digits.value_padded]
  · rw [List.length_append]
    exact Nat.le_add_right _ _
  · rw [List.length_append, Nat.add_sub_cancel_left, List.take_length]
    exact List.takeWhile_cons_of_neg (by simp [hmark])

/-! ## Parts of a timestamp -/

theorem readMark_cons (mark : Char) (rest : List Char) :
    readMark mark (mark :: rest) = .ok ((), rest) :=
  if_pos rfl

/-- A year of four digits has no sign to be read before it. -/
theorem readYear_unsigned
    {n : Nat} (h : n < 10 ^ (4 : Nat)) (rest : List Char) :
    readYear (Digits.padded 4 n ++ '-' :: rest) = .ok ((n : Int), '-' :: rest) := by
  have hnumber := readNumber_padded (by decide) h ('-' :: rest)
  have hbound : -yearBound ≤ (n : Int) ∧ (n : Int) < yearBound := by
    unfold yearBound
    omega
  have hdigit : ∀ c tail, Digits.padded 4 n ++ '-' :: rest = c :: tail →
      c.isDigit = true := by
    intro c tail hcons
    rw [List.append_eq_cons_iff] at hcons
    rcases hcons with ⟨hnil, -⟩ | ⟨digits, hpadded, -⟩
    · exact absurd hnil (Digits.padded_ne_nil 4 n)
    · exact Digits.isDigit_of_mem_padded (hpadded ▸ List.mem_cons_self ..)
  rw [readYear, skipBlanks_padded]
  split
  · rename_i tail hsign
    exact absurd (hdigit _ _ hsign) (by decide)
  · rename_i tail hsign
    exact absurd (hdigit _ _ hsign) (by decide)
  · simp only [hnumber, Except.map, ok_bind, if_pos hbound]
    rfl

/-- After a sign a year may have any number of digits. -/
theorem readYear_signed
    {n : Nat} (h : (n : Int) < yearBound) (rest : List Char) :
    readYear ('-' :: (Digits.padded 4 n ++ '-' :: rest)) =
        .ok (-(n : Int), '-' :: rest) ∧
      readYear ('+' :: (Digits.padded 4 n ++ '-' :: rest)) =
        .ok ((n : Int), '-' :: rest) := by
  have hmark : '-'.isDigit = false := by decide
  have hnumber := readNumber_padded_mark hmark 4 n rest
  have hnegative : -yearBound ≤ -(n : Int) ∧ -(n : Int) < yearBound := by omega
  have hpositive : -yearBound ≤ (n : Int) ∧ (n : Int) < yearBound := by omega
  constructor
  · rw [readYear, skipBlanks_cons (by decide)]
    simp only [hnumber, Except.map, ok_bind, if_pos hnegative]
    rfl
  · rw [readYear, skipBlanks_cons (by decide)]
    simp only [hnumber, Except.map, ok_bind, if_pos hpositive]
    rfl

theorem readYear_writeYear
    {year : Int} (hfirst : firstYear ≤ year) (hlast : year ≤ lastYear)
    (rest : List Char) :
    readYear (writeYear year ++ '-' :: rest) = .ok (year, '-' :: rest) := by
  unfold firstYear at hfirst
  unfold lastYear at hlast
  rw [writeYear]
  split
  · rename_i hplain
    have hyear : (year.toNat : Int) = year := Int.toNat_of_nonneg hplain.1
    rw [readYear_unsigned (by omega), hyear]
  · have hbound : (year.natAbs : Int) < yearBound := by
      unfold yearBound
      omega
    obtain ⟨hminus, hplus⟩ := readYear_signed hbound rest
    split
    · rename_i hnegative
      have hyear : -(year.natAbs : Int) = year := by omega
      rw [List.cons_append, hminus, hyear]
    · rename_i hpositive
      have hyear : (year.natAbs : Int) = year := by omega
      rw [List.cons_append, hplus, hyear]

/-- A fraction is read with the places that it was written with. -/
theorem readFraction_padded
    {width n : Nat} (hwidth : 0 < width) (hle : width ≤ 9) (h : n < 10 ^ width) :
    readFraction ('.' :: Digits.padded width n) =
      .ok (n * 10 ^ (9 - width), []) := by
  have hlength := Digits.length_padded hwidth h
  have hnumber : readNumber 9 (Digits.padded width n) = .ok (n, []) := by
    rw [← List.append_nil (Digits.padded width n)]
    rw [readNumber_append (fun c => Digits.isDigit_of_mem_padded)
      (Digits.padded_ne_nil width n), Digits.value_padded]
    · exact Nat.le_trans (Nat.le_of_eq hlength) hle
    · rw [List.take_nil, List.takeWhile_nil]
  rw [readFraction, hnumber, ok_bind]
  simp only [hlength, List.length_nil, Nat.sub_zero, List.dropWhile_nil]
  rfl

theorem readFraction_writeFraction {nano : Nat} (h : nano < nanosPerSecond) :
    readFraction (writeFraction nano) = .ok (nano, []) := by
  unfold nanosPerSecond at h
  rw [writeFraction]
  split
  · rename_i hzero
    rw [hzero]
    rfl
  split
  · rename_i hmillis
    rw [readFraction_padded (by decide) (by decide) (by omega),
      Nat.div_mul_cancel (Nat.dvd_of_mod_eq_zero hmillis)]
  split
  · rename_i hmicros
    rw [readFraction_padded (by decide) (by decide) (by omega),
      Nat.div_mul_cancel (Nat.dvd_of_mod_eq_zero hmicros)]
  · rw [readFraction_padded (by decide) (by decide) (by omega), Nat.sub_self,
      Nat.pow_zero, Nat.mul_one]

/-! ## The whole text -/

theorem of?_eq_some {t : Timestamp} (h : t.IsCivil) :
    of? t.date.year t.date.month t.date.day t.time.hour t.time.minute
      t.time.second t.time.nano = some t := by
  have hdate : Date.of? t.date.year t.date.month t.date.day = some t.date :=
    dif_pos t.date.isDate
  rw [of?, hdate, TimeOfDay.of?_eq_some h]
  rfl

/-- Second sixty stands for the leap second at the end of a minute.  Any other leap
second is written like the second that follows it. -/
theorem ofParts_written (t : Timestamp) :
    ofParts t.date.year t.date.month t.date.day t.time.hour t.time.minute
        (t.time.second + t.time.nano / nanosPerSecond)
        (t.time.nano % nanosPerSecond) = .ok t.civil := by
  obtain ⟨-, -, hsecond, hnano⟩ := t.time.isTime
  have hcivil := of?_eq_some t.isCivil_civil
  have hpositive : 0 < nanosPerSecond := by decide
  by_cases hplain : t.time.nano < nanosPerSecond
  · have hne : t.time.second ≠ 60 := by omega
    rw [civil, TimeOfDay.civil_of_isCivil (Or.inl hplain)] at hcivil ⊢
    rw [Nat.div_eq_of_lt hplain, Nat.mod_eq_of_lt hplain, Nat.add_zero, ofParts,
      if_neg hne, hcivil]
  · have hdiv : t.time.nano / nanosPerSecond = 1 := by
      rw [Nat.div_eq_iff hpositive]
      omega
    have hmod : t.time.nano % nanosPerSecond + nanosPerSecond = t.time.nano := by
      have hsum := Nat.div_add_mod t.time.nano nanosPerSecond
      rw [hdiv] at hsum
      omega
    by_cases hlast : t.time.second = 59
    · rw [civil, TimeOfDay.civil_of_isCivil (Or.inr hlast)] at hcivil ⊢
      rw [hlast] at hcivil ⊢
      rw [hdiv, ofParts, if_pos rfl, hmod, hcivil]
    · have hstray : ¬ t.time.IsCivil := not_or.mpr ⟨hplain, hlast⟩
      obtain ⟨hhour, hminute, hnext, hrest⟩ := TimeOfDay.civil_of_not_isCivil hstray
      have hne : t.time.second + 1 ≠ 60 := by omega
      have hfraction : t.time.civil.nano = t.time.nano % nanosPerSecond := by omega
      rw [civil, hhour, hminute, hnext, hfraction] at hcivil
      rw [hdiv, ofParts, if_neg hne, hcivil]
      rfl

/-- Reads what stands after the date, to the end of the text. -/
def readAfterDate (separator : Separator) (year : Int) (month day : Nat)
    (chars : List Char) : Except Fault Timestamp := do
  let (_, chars) ← readSeparator separator chars
  let (hour, chars) ← readPart 0 23 chars
  let (_, chars) ← readMark ':' chars
  let (minute, chars) ← readPart 0 59 chars
  let (_, chars) ← readMark ':' chars
  let (second, chars) ← readPart 0 60 chars
  let (nano, chars) ← readFraction chars
  if chars.isEmpty then ofParts year month day hour minute second nano
  else throw .trailingInput

theorem readWith_writeDate
    (separator : Separator) (date : Date) (rest : List Char) :
    readWith separator (writeDate date ++ rest) =
      readAfterDate separator date.year date.month date.day rest := by
  obtain ⟨hfirst, hlast, hmonth, hmonth', hday, hday'⟩ := date.isDate
  have hdays : daysInMonth date.year date.month ≤ 31 := by
    unfold daysInMonth
    split <;> split <;> decide
  have hyear := readYear_writeYear hfirst hlast
  rw [writeDate, readWith]
  simp only [List.append_assoc, List.cons_append, hyear, ok_bind, readMark_cons]
  rw [readPart_padded hmonth hmonth' (by omega)]
  simp only [ok_bind, readMark_cons]
  rw [readPart_padded hday (by omega) (by omega)]
  rfl

theorem readAfterDate_writeTime
    {separator : Separator} {mark : Char} (t : Timestamp)
    (h : readSeparator separator (mark :: writeTime t.time) =
      .ok ((), writeTime t.time)) :
    readAfterDate separator t.date.year t.date.month t.date.day
        (mark :: writeTime t.time) = .ok t.civil := by
  obtain ⟨hhour, hminute, hsecond, hnano⟩ := t.time.isTime
  have hpositive : 0 < nanosPerSecond := by decide
  have hshown : t.time.second + t.time.nano / nanosPerSecond ≤ 60 := by
    have hdiv := Nat.div_lt_of_lt_mul (Nat.mul_comm 2 nanosPerSecond ▸ hnano)
    omega
  have hfraction := readFraction_writeFraction (Nat.mod_lt t.time.nano hpositive)
  rw [readAfterDate, h, ok_bind, writeTime]
  simp only [List.append_assoc, List.cons_append]
  rw [readPart_padded (Nat.zero_le _) (by omega) (by omega)]
  simp only [ok_bind, readMark_cons]
  rw [readPart_padded (Nat.zero_le _) (by omega) (by omega)]
  simp only [ok_bind, readMark_cons]
  rw [readPart_padded (Nat.zero_le _) hshown (by omega)]
  simp only [ok_bind, hfraction]
  exact ofParts_written t

theorem readSeparator_blank (time : TimeOfDay) :
    readSeparator .blank (' ' :: writeTime time) = .ok ((), writeTime time) := by
  have hskip : skipBlanks (' ' :: writeTime time) = skipBlanks (writeTime time) :=
    List.dropWhile_cons_of_pos (by decide)
  rw [readSeparator, hskip, writeTime, List.append_assoc, List.append_assoc,
    skipBlanks_padded]

/-- The layout with a blank does not read a text with a letter. -/
theorem readAfterDate_blank_letter
    (year : Int) (month day : Nat) (rest : List Char) :
    readAfterDate .blank year month day ('T' :: rest) = .error .invalidCharacter := by
  have hskip : skipBlanks ('T' :: rest) = 'T' :: rest :=
    skipBlanks_cons (by decide) rest
  have hpart : readPart 0 23 ('T' :: rest) = .error .invalidCharacter := by
    rw [readPart, hskip]
    rfl
  rw [readAfterDate, readSeparator, hskip, ok_bind]
  simp only [hpart]
  rfl

theorem parse_write_blank (t : Timestamp) : parse (t.write ' ') = .ok t.civil := by
  rw [parse, write, String.toList_ofList, readWith_writeDate,
    readAfterDate_writeTime t (readSeparator_blank t.time)]

theorem parse_write_letter (t : Timestamp) : parse (t.write 'T') = .ok t.civil := by
  rw [parse, write, String.toList_ofList, readWith_writeDate,
    readAfterDate_blank_letter, readWith_writeDate]
  exact readAfterDate_writeTime t (readMark_cons 'T' _)

/-! ## Equal texts -/

theorem writeTime_civil (time : TimeOfDay) : writeTime time.civil = writeTime time := by
  by_cases h : time.IsCivil
  · rw [TimeOfDay.civil_of_isCivil h]
  · obtain ⟨hhour, hminute, hsecond, hnano⟩ := TimeOfDay.civil_of_not_isCivil h
    have hpositive : 0 < nanosPerSecond := by decide
    have hshown : time.civil.second + time.civil.nano / nanosPerSecond =
        time.second + time.nano / nanosPerSecond := by
      rw [hsecond, ← hnano, Nat.add_div_right _ hpositive]
      omega
    have hfraction : time.civil.nano % nanosPerSecond = time.nano % nanosPerSecond := by
      rw [← hnano, Nat.add_mod_right]
    rw [writeTime, writeTime, hhour, hminute, hshown, hfraction]

/-- Timestamps have the same text just if clocks show the same. -/
theorem format_eq_iff {a b : Timestamp} : a.format = b.format ↔ a.civil = b.civil := by
  constructor
  · intro h
    have hparse := congrArg parse h
    rwa [format, format, parse_write_blank, parse_write_blank, Except.ok.injEq] at hparse
  · intro h
    rw [civil, civil, Timestamp.mk.injEq] at h
    rw [format, format, write, write, ← writeTime_civil a.time,
      ← writeTime_civil b.time, h.1, h.2]

/-! ## The only blank -/

theorem not_mem_padded
    {c : Char} (h : c.isDigit = false) (width n : Nat) :
    c ∉ Digits.padded width n := by
  intro hmem
  rw [Digits.isDigit_of_mem_padded hmem] at h
  cases h

theorem blank_not_mem_writeDate (date : Date) : ' ' ∉ writeDate date := by
  have hpadded := not_mem_padded (c := ' ') (by decide)
  have hyear : ' ' ∉ writeYear date.year := by
    rw [writeYear]
    split
    · exact hpadded _ _
    · split <;> simp [hpadded]
  simp [writeDate, hyear, hpadded]

theorem blank_not_mem_writeTime (time : TimeOfDay) : ' ' ∉ writeTime time := by
  have hpadded := not_mem_padded (c := ' ') (by decide)
  have hfraction : ' ' ∉ writeFraction (time.nano % nanosPerSecond) := by
    rw [writeFraction]
    repeat' split
    all_goals simp [hpadded]
  simp [writeTime, hfraction, hpadded]

/-- Between date and time stands the only blank of the text. -/
theorem map_format (t : Timestamp) (mark : Char) :
    t.format.map (fun c => if c = ' ' then mark else c) = t.write mark := by
  have hkeep : ∀ chars : List Char, ' ' ∉ chars →
      chars.map (fun c => if c = ' ' then mark else c) = chars := by
    intro chars hchars
    rw [List.map_congr_left fun c hc =>
      if_neg fun hblank : c = ' ' => hchars (hblank ▸ hc), List.map_id']
  rw [← String.toList_inj, String.toList_map, format, write, write,
    String.toList_ofList, String.toList_ofList, List.map_append, List.map_cons,
    if_pos rfl, hkeep _ (blank_not_mem_writeDate t.date),
    hkeep _ (blank_not_mem_writeTime t.time)]

end Timestamp

/-- A timestamp is read back from its text as clocks show it, and also when the letter
`T` stands in the text for the blank between date and time.  So it is the same exactly
when no leap second is inside its minute. -/
theorem Kind.parse_format_dateTime (t : Timestamp) :
    Kind.parse .dateTime (Kind.format .dateTime t) = .ok t.civil ∧
      Kind.parse .dateTime
        ((Kind.format .dateTime t).map fun c => if c = ' ' then 'T' else c) =
          .ok t.civil ∧
      (t.civil = t ↔ t.IsCivil) := by
  refine ⟨?_, ?_, Timestamp.civil_eq_self_iff⟩
  · rw [Kind.parse, Kind.format, parseDateTime, Timestamp.format,
      Timestamp.parse_write_blank]
  · rw [Kind.parse, Kind.format, parseDateTime, Timestamp.map_format,
      Timestamp.parse_write_letter]

/-- A moment in a leap second that does not end its minute. -/
def strayLeap : Timestamp :=
  ⟨⟨2024, 1, 1, by decide⟩, ⟨12, 0, 30, 1500000000, by decide⟩⟩

/-- What clocks show for it. -/
def afterStrayLeap : Timestamp :=
  ⟨⟨2024, 1, 1, by decide⟩, ⟨12, 0, 31, 500000000, by decide⟩⟩

theorem Kind.parse_format_strayLeap :
    Kind.check .dateTime strayLeap = .ok () ∧
      Kind.format .dateTime strayLeap = "2024-01-01 12:00:31.500" ∧
      Kind.parse .dateTime (Kind.format .dateTime strayLeap) = .ok afterStrayLeap ∧
      afterStrayLeap ≠ strayLeap := by
  have hshown : strayLeap.civil = afterStrayLeap := by decide
  refine ⟨rfl, by decide +kernel, ?_, by decide⟩
  rw [Kind.parse, Kind.format, parseDateTime, Timestamp.format,
    Timestamp.parse_write_blank, hshown]

end TypedQuery

import TypedQuery.Timestamp.Basic

/-!
# Days and moments by number

A date is found again from the number of its day, and a timestamp outside leap
seconds from its distance to a midnight.  The year is guessed from the mean length
of a year, and the guess is off by one at most.  The month is found by counting
days down from January.
-/

namespace TypedQuery

namespace Date

/-! ## Years -/

def daysInYear (year : Int) : Nat :=
  if isLeapYear year then 366 else 365

theorem daysBeforeYear_succ (year : Int) :
    daysBeforeYear (year + 1) = daysBeforeYear year + daysInYear year := by
  have hleap : isLeapYear year = true ↔
      year % 4 = 0 ∧ (year % 100 ≠ 0 ∨ year % 400 = 0) := by
    simp [isLeapYear]
  simp only [daysBeforeYear, daysInYear]
  by_cases h : isLeapYear year = true
  · rw [if_pos h]
    rw [hleap] at h
    omega
  · rw [if_neg h]
    rw [hleap] at h
    omega

/-- The mean length of a year leads to the year itself or to one of its
neighbours. -/
theorem guess_bounds
    {year number : Int} (hfirst : daysBeforeYear year ≤ number)
    (hlast : number < daysBeforeYear (year + 1)) :
    year - 1 ≤ number * 400 / 146097 ∧ number * 400 / 146097 ≤ year + 1 := by
  simp only [daysBeforeYear] at hfirst hlast
  constructor
  · omega
  · omega

/-! ## Months -/

theorem daysBeforeMonth_succ {month : Nat} (h : 1 ≤ month) (year : Int) :
    daysBeforeMonth year (month + 1) =
      daysBeforeMonth year month + daysInMonth year month := by
  obtain ⟨earlier, rfl⟩ : ∃ earlier, month = earlier + 1 := ⟨month - 1, by omega⟩
  simp only [daysBeforeMonth, Nat.add_sub_cancel, List.range_succ, List.map_append,
    List.map_cons, List.map_nil, List.sum_append_nat, List.sum_cons, List.sum_nil,
    Nat.add_zero]

theorem daysBeforeMonth_mono
    {year : Int} {first second : Nat} (hfirst : 1 ≤ first) (h : first ≤ second) :
    daysBeforeMonth year first ≤ daysBeforeMonth year second := by
  induction second with
  | zero => omega
  | succ second ih =>
      by_cases heq : first = second + 1
      · exact Nat.le_of_eq (congrArg (daysBeforeMonth year) heq)
      · have hle := ih (by omega)
        have hsecond : 1 ≤ second := by omega
        have hstep := daysBeforeMonth_succ hsecond year
        omega

theorem daysBeforeMonth_end (year : Int) :
    daysBeforeMonth year 13 = daysInYear year := by
  by_cases h : isLeapYear year = true
  · simp [daysBeforeMonth, daysInYear, daysInMonth, h, List.range_succ]
  · simp [daysBeforeMonth, daysInYear, daysInMonth, h, List.range_succ]

/-- A date comes before the end of its year. -/
theorem daysBeforeMonth_add_lt (date : Date) :
    daysBeforeMonth date.year date.month + (date.day - 1) < daysInYear date.year := by
  obtain ⟨-, -, hmonth, hmonth', hday, hday'⟩ := date.isDate
  have hstep := daysBeforeMonth_succ hmonth date.year
  have hend : daysBeforeMonth date.year (date.month + 1) ≤
      daysBeforeMonth date.year 13 :=
    daysBeforeMonth_mono (by omega) (by omega)
  rw [daysBeforeMonth_end] at hend
  omega

/-! ## Reading a day number -/

/-- Counting days down from a month that is not later than that of the date
leads to the date. -/
theorem splitYear_eq_some
    (date : Date) {fuel month : Nat} (hfirst : 1 ≤ month) (hmonth : month ≤ date.month)
    (hfuel : date.month < month + fuel) :
    splitYear date.year month
        (daysBeforeMonth date.year date.month - daysBeforeMonth date.year month +
          (date.day - 1)) fuel =
      some date := by
  obtain ⟨-, -, -, -, hday, hday'⟩ := date.isDate
  induction fuel generalizing month with
  | zero => omega
  | succ fuel ih =>
      by_cases heq : month = date.month
      · subst heq
        have hrest : daysBeforeMonth date.year date.month -
            daysBeforeMonth date.year date.month + (date.day - 1) = date.day - 1 := by
          omega
        have hdate : of? date.year date.month (date.day - 1 + 1) = some date := by
          rw [Nat.sub_add_cancel hday]
          exact dif_pos date.isDate
        rw [hrest, splitYear, if_pos (by omega), hdate]
      · have hstep := daysBeforeMonth_succ hfirst date.year
        have hmono : daysBeforeMonth date.year (month + 1) ≤
            daysBeforeMonth date.year date.month :=
          daysBeforeMonth_mono (by omega) (by omega)
        have hrest : daysBeforeMonth date.year date.month -
            daysBeforeMonth date.year month + (date.day - 1) -
              daysInMonth date.year month =
            daysBeforeMonth date.year date.month -
              daysBeforeMonth date.year (month + 1) + (date.day - 1) := by
          omega
        rw [splitYear, if_neg (by omega), hrest]
        exact ih (by omega) (by omega) (by omega)

theorem dayNumber_bounds (date : Date) :
    daysBeforeYear date.year ≤ date.dayNumber ∧
      date.dayNumber < daysBeforeYear (date.year + 1) := by
  have hlt := daysBeforeMonth_add_lt date
  rw [daysBeforeYear_succ, dayNumber]
  omega

theorem ofDayNumber?_dayNumber (date : Date) :
    ofDayNumber? date.dayNumber = some date := by
  obtain ⟨hfirst, hlast⟩ := date.dayNumber_bounds
  have hguess := guess_bounds hfirst hlast
  obtain ⟨-, -, hmonth, hmonth', -⟩ := date.isDate
  have hfuel : date.month < 1 + 12 := by omega
  have hsplit := splitYear_eq_some date (Nat.le_refl 1) hmonth hfuel
  have hrest : (date.dayNumber - daysBeforeYear date.year).toNat =
      daysBeforeMonth date.year date.month - daysBeforeMonth date.year 1 +
        (date.day - 1) := by
    have hjanuary : daysBeforeMonth date.year 1 = 0 := rfl
    rw [dayNumber, hjanuary]
    omega
  rw [← hrest] at hsplit
  have hbefore := daysBeforeYear_succ (date.year - 1)
  have hafter := daysBeforeYear_succ (date.year + 1)
  rw [Int.sub_add_cancel] at hbefore
  have hcases : date.dayNumber * 400 / 146097 = date.year - 1 ∨
      date.dayNumber * 400 / 146097 = date.year ∨
      date.dayNumber * 400 / 146097 = date.year + 1 := by
    omega
  rw [ofDayNumber?]
  rcases hcases with h | h | h
  · have hsame : date.year - 1 + 1 = date.year := Int.sub_add_cancel ..
    simp only [h, hsame, if_neg (show ¬ date.dayNumber < daysBeforeYear (date.year - 1) by omega),
      if_pos hfirst, hsplit]
  · simp only [h, if_neg (show ¬ date.dayNumber < daysBeforeYear date.year by omega),
      if_neg (show ¬ daysBeforeYear (date.year + 1) ≤ date.dayNumber by omega), hsplit]
  · have hsame : date.year + 1 - 1 = date.year := Int.add_sub_cancel ..
    simp only [h, if_pos hlast, hsame, hsplit]

end Date

namespace TimeOfDay

/-- Outside leap seconds a time is found again from its nanoseconds. -/
theorem ofNanos?_nanos {time : TimeOfDay} (h : time.isLeapSecond = false) :
    ofNanos? time.nanos = some time := by
  obtain ⟨hhour, hminute, hsecond, hnano⟩ := time.isTime
  have hplain : time.nano < nanosPerSecond := by
    simpa [isLeapSecond] using h
  have hpositive : 0 < nanosPerSecond := by decide
  have hseconds : time.nanos / nanosPerSecond = time.seconds := by
    rw [nanos, Nat.mul_comm, Nat.mul_add_div hpositive, Nat.div_eq_of_lt hplain,
      Nat.add_zero]
  have hrest : time.nanos % nanosPerSecond = time.nano := by
    rw [nanos, Nat.mul_comm, Nat.mul_add_mod, Nat.mod_eq_of_lt hplain]
  have hparts : time.seconds / 3600 = time.hour ∧
      time.seconds / 60 % 60 = time.minute ∧ time.seconds % 60 = time.second := by
    unfold seconds
    omega
  rw [ofNanos?, hseconds, hrest]
  simp only [hparts.1, hparts.2.1, hparts.2.2]
  exact of?_eq_some (Or.inl hplain)

theorem nanos_lt {time : TimeOfDay} (h : time.isLeapSecond = false) :
    (time.nanos : Int) < Timestamp.nanosPerDay := by
  obtain ⟨hhour, hminute, hsecond, -⟩ := time.isTime
  have hplain : time.nano < nanosPerSecond := by
    simpa [isLeapSecond] using h
  unfold nanos seconds Timestamp.nanosPerDay
  unfold nanosPerSecond at hplain ⊢
  omega

end TimeOfDay

namespace Timestamp

/-- Outside leap seconds a timestamp is found again from its distance to a
midnight. -/
theorem addNanos?_nanosSince
    {timestamp : Timestamp} (h : timestamp.time.isLeapSecond = false) (epoch : Date) :
    addNanos? epoch (timestamp.nanosSince epoch) = some timestamp := by
  have hlt := TimeOfDay.nanos_lt h
  have hpositive : 0 < nanosPerDay := by decide
  have hdays : timestamp.nanosSince epoch / nanosPerDay =
      timestamp.date.dayNumber - epoch.dayNumber := by
    rw [nanosSince, Int.add_comm, Int.add_mul_ediv_right _ _ (by omega),
      Int.ediv_eq_zero_of_lt (by omega) hlt, Int.zero_add]
  have hrest : timestamp.nanosSince epoch % nanosPerDay = timestamp.time.nanos := by
    rw [nanosSince, Int.add_comm, Int.add_mul_emod_self_right,
      Int.emod_eq_of_lt (by omega) hlt]
  have hdate : epoch.dayNumber + (timestamp.date.dayNumber - epoch.dayNumber) =
      timestamp.date.dayNumber := by
    omega
  rw [addNanos?, hdays, hrest, hdate, Date.ofDayNumber?_dayNumber, Int.toNat_natCast,
    TimeOfDay.ofNanos?_nanos h]
  rfl

end Timestamp

end TypedQuery

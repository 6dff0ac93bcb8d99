import TypedQuery.Digits

/-!
# Timestamps

A timestamp is a day of the proleptic Gregorian calendar and a time of that
day to the nanosecond, without a time zone. A leap second is the second before
it with a nanosecond count of a whole second or more. Clocks have leap seconds
at the end of a minute only, but a time may have one after any second.
-/

namespace TypedQuery

/-- True for the years of twelve months that have a day more. -/
def isLeapYear (year : Int) : Bool :=
  year % 4 == 0 && (year % 100 != 0 || year % 400 == 0)

def daysInMonth (year : Int) (month : Nat) : Nat :=
  if month = 2 then (if isLeapYear year then 29 else 28)
  else if month = 4 ∨ month = 6 ∨ month = 9 ∨ month = 11 then 30
  else 31

def firstYear : Int := -262143

def lastYear : Int := 262142

/-- The dates that exist. -/
def IsDate (year : Int) (month day : Nat) : Prop :=
  firstYear ≤ year ∧ year ≤ lastYear ∧ 1 ≤ month ∧ month ≤ 12 ∧
    1 ≤ day ∧ day ≤ daysInMonth year month

instance (year : Int) (month day : Nat) : Decidable (IsDate year month day) := by
  unfold IsDate
  infer_instance

/-- A day of the calendar. -/
@[ext]
structure Date where
  year : Int
  month : Nat
  day : Nat
  isDate : IsDate year month day
  deriving DecidableEq

def nanosPerSecond : Nat := 1000000000

/-- The times of day that exist.  After every second there may be a leap second. -/
def IsTime (hour minute second nano : Nat) : Prop :=
  hour < 24 ∧ minute < 60 ∧ second < 60 ∧ nano < 2 * nanosPerSecond

instance (hour minute second nano : Nat) : Decidable (IsTime hour minute second nano) := by
  unfold IsTime
  infer_instance

/-- A time of day. -/
@[ext]
structure TimeOfDay where
  hour : Nat
  minute : Nat
  second : Nat
  nano : Nat
  isTime : IsTime hour minute second nano
  deriving DecidableEq

/-- A day and a time of that day. -/
@[ext]
structure Timestamp where
  date : Date
  time : TimeOfDay
  deriving DecidableEq

namespace Date

/-- The date of a year, month and day, if it exists. -/
def of? (year : Int) (month day : Nat) : Option Date :=
  if h : IsDate year month day then some ⟨year, month, day, h⟩ else none

/-- Days before the first of January of a year, counted from the year zero. -/
def daysBeforeYear (year : Int) : Int :=
  let past := year - 1
  365 * year + past / 4 - past / 100 + past / 400

def daysBeforeMonth (year : Int) (month : Nat) : Nat :=
  ((List.range (month - 1)).map fun earlier => daysInMonth year (earlier + 1)).sum

/-- The number of the day, counting every day of the calendar in order. -/
def dayNumber (date : Date) : Int :=
  daysBeforeYear date.year + daysBeforeMonth date.year date.month + (date.day - 1 : Nat)

/-- Finds the month that the day with index `rest` of a year falls in, from
`month` on. -/
def splitYear (year : Int) (month rest : Nat) : Nat → Option Date
  | 0 => none
  | fuel + 1 =>
    let days := daysInMonth year month
    if rest < days then of? year month (rest + 1)
    else splitYear year (month + 1) (rest - days) fuel

/-- The date with a day number, if it is in range. -/
def ofDayNumber? (number : Int) : Option Date :=
  let guess := number * 400 / 146097
  let year :=
    if number < daysBeforeYear guess then guess - 1
    else if daysBeforeYear (guess + 1) ≤ number then guess + 1
    else guess
  splitYear year 1 (number - daysBeforeYear year).toNat 12

end Date

namespace TimeOfDay

/-- The time is one that clocks show: a leap second ends its minute. -/
def IsCivil (time : TimeOfDay) : Prop :=
  time.nano < nanosPerSecond ∨ time.second = 59

instance (time : TimeOfDay) : Decidable time.IsCivil :=
  inferInstanceAs (Decidable (_ ∨ _))

/-- The time of an hour, minute, second and nanosecond, if it exists. It is not
given a leap second inside a minute. -/
def of? (hour minute second nano : Nat) : Option TimeOfDay :=
  if nanosPerSecond ≤ nano ∧ second ≠ 59 then none
  else if h : IsTime hour minute second nano then some ⟨hour, minute, second, nano, h⟩
  else none

theorem of?_eq_some {time : TimeOfDay} (h : time.IsCivil) :
    of? time.hour time.minute time.second time.nano = some time := by
  have hcivil : ¬ (nanosPerSecond ≤ time.nano ∧ time.second ≠ 59) := by
    unfold IsCivil at h
    omega
  rw [of?, if_neg hcivil]
  exact dif_pos time.isTime

def midnight : TimeOfDay :=
  ⟨0, 0, 0, 0, by decide⟩

/-- Seconds since midnight; a leap second counts as the one before it. -/
def seconds (time : TimeOfDay) : Nat :=
  (time.hour * 60 + time.minute) * 60 + time.second

/-- Nanoseconds since midnight. -/
def nanos (time : TimeOfDay) : Nat :=
  time.seconds * nanosPerSecond + time.nano

/-- True inside a leap second. -/
def isLeapSecond (time : TimeOfDay) : Bool :=
  nanosPerSecond ≤ time.nano

/-- The time that is `nanos` nanoseconds after midnight. -/
def ofNanos? (nanos : Nat) : Option TimeOfDay :=
  let seconds := nanos / nanosPerSecond
  of? (seconds / 3600) (seconds / 60 % 60) (seconds % 60) (nanos % nanosPerSecond)

end TimeOfDay

namespace Timestamp

/-- The timestamp of its seven parts, if it exists. -/
def of? (year : Int) (month day hour minute second nano : Nat) : Option Timestamp := do
  let date ← Date.of? year month day
  let time ← TimeOfDay.of? hour minute second nano
  return ⟨date, time⟩

/-- Chronological order: by year, month, day, hour, minute, second and
nanosecond. -/
def before (a b : Timestamp) : Prop :=
  a.date.year < b.date.year ∨ (a.date.year = b.date.year ∧
  (a.date.month < b.date.month ∨ (a.date.month = b.date.month ∧
  (a.date.day < b.date.day ∨ (a.date.day = b.date.day ∧
  (a.time.hour < b.time.hour ∨ (a.time.hour = b.time.hour ∧
  (a.time.minute < b.time.minute ∨ (a.time.minute = b.time.minute ∧
  (a.time.second < b.time.second ∨ (a.time.second = b.time.second ∧
    a.time.nano < b.time.nano)))))))))))

def nanosPerDay : Int := 86400 * (nanosPerSecond : Int)

/-- Nanoseconds from the midnight that starts `epoch` to a timestamp. -/
def nanosSince (epoch : Date) (timestamp : Timestamp) : Int :=
  (timestamp.date.dayNumber - epoch.dayNumber) * nanosPerDay + timestamp.time.nanos

/-- The timestamp that many nanoseconds after the midnight that starts
`epoch`, if it is in range. -/
def addNanos? (epoch : Date) (nanos : Int) : Option Timestamp := do
  let date ← Date.ofDayNumber? (epoch.dayNumber + nanos / nanosPerDay)
  let time ← TimeOfDay.ofNanos? (nanos % nanosPerDay).toNat
  return ⟨date, time⟩

end Timestamp

end TypedQuery

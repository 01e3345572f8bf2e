/-
  SyncFleet/Calendar/Instant.lean
  ===============================
  **Instants of universal time, to the nanosecond.**

  An instant is a date, a second of that day and nanoseconds.  A leap second
  is written into the nanoseconds: from one milliard on they lie in a second
  that is put in behind.  Timestamps and clocks know one at the end of a minute
  only, but an instant can hold one behind any second.
-/

namespace SyncFleet.Calendar

/-! ### Dates of the proleptic Gregorian calendar

A date is its year, month and day; that these name a day of the calendar is
part of the type.  Day numbers count from 1 January 1970 and serve for
arithmetic alone. -/

/-- Whether a year has a 29 February. -/
def isLeapYear (year : Int) : Bool :=
  year % 4 == 0 && (year % 100 != 0 || year % 400 == 0)

/-- The number of days of a month. -/
def monthLength (year : Int) (month : Nat) : Nat :=
  if month = 2 then (if isLeapYear year then 29 else 28)
  else if month = 4 ∨ month = 6 ∨ month = 9 ∨ month = 11 then 30
  else 31

/-- The least year of a date. -/
def minYear : Int := -262143

/-- The greatest year of a date. -/
def maxYear : Int := 262142

/-- Whether year, month and day name a day. -/
def isDate (year : Int) (month day : Nat) : Bool :=
  minYear ≤ year && year ≤ maxYear && 1 ≤ month && month ≤ 12
    && 1 ≤ day && day ≤ monthLength year month

/-- A day of the calendar. -/
structure Date where
  year : Int
  month : Nat
  day : Nat
  valid : isDate year month day = true
deriving DecidableEq, Repr

namespace Date

/-- The date of a year, month and day if there is one. -/
def of? (year : Int) (month day : Nat) : Option Date :=
  if h : isDate year month day = true then some ⟨year, month, day, h⟩ else none

/-- The number of days from 1 January 1970.  Years are counted from March, so that the leap day
    is the last of its year. -/
def dayNumber (d : Date) : Int :=
  let y : Int := if d.month ≤ 2 then d.year - 1 else d.year
  let m : Int := if d.month ≤ 2 then d.month + 9 else d.month - 3
  365 * y + y.fdiv 4 - y.fdiv 100 + y.fdiv 400 + (153 * m + 2) / 5 + d.day - 1 - 719468

/-- The date of a day number if its year is in range.  Days are first split into cycles of 400
    years, then into years that begin in March, then into months. -/
def ofDayNumber? (n : Int) : Option Date :=
  let z := n + 719468
  let cycle := z.fdiv 146097
  let dayOfCycle := z - cycle * 146097
  let yearOfCycle :=
    (dayOfCycle - dayOfCycle / 1460 + dayOfCycle / 36524 - dayOfCycle / 146096) / 365
  let dayOfYear := dayOfCycle - (365 * yearOfCycle + yearOfCycle / 4 - yearOfCycle / 100)
  let m := (5 * dayOfYear + 2) / 153
  let day := dayOfYear - (153 * m + 2) / 5 + 1
  let month := if m < 10 then m + 3 else m - 9
  let year := yearOfCycle + cycle * 400 + (if month ≤ 2 then 1 else 0)
  of? year month.toNat day.toNat

/-- The date some days later, or earlier if the number is negative. -/
def addDays? (d : Date) (days : Int) : Option Date :=
  if days = 0 then some d else ofDayNumber? (d.dayNumber + days)

end Date

/-! ### Instants -/

/-- Nanoseconds of a second. -/
def nanosPerSecond : Nat := 1000000000

/-- Whether second of the day and nanoseconds name a moment of a day. -/
def isTimeOfDay (second nano : Nat) : Bool := second < 86400 && nano < 2 * nanosPerSecond

/-- An instant of universal time. -/
structure Instant where
  date : Date
  /-- the second of the day -/
  second : Nat
  /-- nanoseconds after that second; from one milliard on in the leap second behind it -/
  nano : Nat
  valid : isTimeOfDay second nano = true
deriving DecidableEq, Repr

namespace Instant

/-- The instant of a date, a second of the day and nanoseconds if there is one. -/
def of? (date : Date) (second nano : Nat) : Option Instant :=
  if h : isTimeOfDay second nano = true then some ⟨date, second, nano, h⟩ else none

/-- 1 January 1970, midnight. -/
def epoch : Instant := ⟨⟨1970, 1, 1, rfl⟩, 0, 0, rfl⟩

instance : Inhabited Instant := ⟨epoch⟩

theorem second_lt (t : Instant) : t.second < 86400 := by
  have h := t.valid
  rw [isTimeOfDay, Bool.and_eq_true, decide_eq_true_eq] at h
  exact h.1

theorem nano_lt (t : Instant) : t.nano < 2 * nanosPerSecond := by
  have h := t.valid
  rw [isTimeOfDay, Bool.and_eq_true, decide_eq_true_eq, decide_eq_true_eq] at h
  exact h.2

/-- Whether an instant is before another one or equal to it. -/
def le (a b : Instant) : Bool :=
  let x := a.date.dayNumber
  let y := b.date.dayNumber
  x < y || (x == y && (a.second < b.second || (a.second == b.second && a.nano ≤ b.nano)))

/-- Seconds between two times of day, the leap second that lies between them included. -/
def secondsBetween (later earlier : Instant) : Int :=
  let plain : Int := (later.second : Int) - earlier.second
  if later.second > earlier.second ∧ nanosPerSecond ≤ earlier.nano then plain + 1
  else if later.second < earlier.second ∧ nanosPerSecond ≤ later.nano then plain - 1
  else plain

/-- Nanoseconds from one instant to another, negative when the second is the earlier one.
    Days count as 86400 seconds, so a leap second counts only between times of one day. -/
def nanosSince (later earlier : Instant) : Int :=
  ((later.date.dayNumber - earlier.date.dayNumber) * 86400 + secondsBetween later earlier)
    * nanosPerSecond + ((later.nano : Int) - earlier.nano)

/-- Whether more than the given number of seconds lie between two instants; never when the
    second is the earlier one. -/
def exceeds (later earlier : Instant) (seconds : Nat) : Bool :=
  let n := nanosSince later earlier
  0 ≤ n && (seconds : Int) * nanosPerSecond < n

/-- The instant some days earlier, or the instant itself where there is no such date.  A leap second
    is left behind: the second that comes next stands for it. -/
def daysBefore (t : Instant) (days : Nat) : Instant :=
  let second := t.second + t.nano / nanosPerSecond
  ((t.date.addDays? ((second / 86400 : Nat) - (days : Int))).bind fun date =>
    of? date (second % 86400) (t.nano % nanosPerSecond)).getD t

/-- The instant some seconds earlier, or later if the number is negative. -/
def subSeconds? (t : Instant) (seconds : Int) : Option Instant := do
  let total := (t.second : Int) - seconds
  let date ← t.date.addDays? (total.fdiv 86400)
  of? date (total.fmod 86400).toNat t.nano

/-- The instant some nanoseconds later, or the instant itself where there is no such date. -/
def addNanos (t : Instant) (nanos : Nat) : Instant :=
  if nanos = 0 then t
  else
    let total := t.second * nanosPerSecond + t.nano + nanos
    let seconds := total / nanosPerSecond
    ((t.date.addDays? (seconds / 86400 : Nat)).bind fun date =>
      of? date (seconds % 86400) (total % nanosPerSecond)).getD t

/-- The instant some milliseconds later. -/
def addMillis (t : Instant) (millis : Nat) : Instant := t.addNanos (millis * 1000000)

end Instant

end SyncFleet.Calendar

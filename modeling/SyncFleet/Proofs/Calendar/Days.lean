/-
  SyncFleet/Proofs/Calendar/Days.lean
  ===================================
  **Counting days leads to the day that is meant.**

  Days are split into cycles of 400 years, these into years that begin in
  March, and these into months.  The year of a cycle is found by leaving the
  leap days out, which four divisions count; that it is the right one means
  that the day falls within it (`dayOfYear_bounds`), and on its last day only
  if it ends with a leap day (`leap_of_dayOfYear`).  A day number is therefore
  the number of the date that it is turned into (`dayNumber_of_ofDayNumber?`),
  and every number between the first and the last day is turned into one
  (`exists_ofDayNumber?`).
-/
import SyncFleet.Proofs.Calendar.Elapsed

namespace SyncFleet.Calendar

/-! ### Years of a cycle -/

section Cycle

variable {day year : Int}

/-- Whether a day of a cycle of 400 years is found to lie in a year of it. -/
def InYear (day year : Int) : Prop :=
  0 ≤ day ∧ day ≤ 146096 ∧ year = (day - day / 1460 + day / 36524 - day / 146096) / 365

theorem InYear.bounds (h : InYear day year) : 0 ≤ year ∧ year ≤ 399 := by
  obtain ⟨hmin, hmax, hyear⟩ := h
  omega

/-- The leap days that are left out at the ends of centuries are those that the day counts. -/
theorem InYear.century_eq (h : InYear day year) : year / 100 = day / 36524 - day / 146096 := by
  obtain ⟨hmin, hmax, hyear⟩ := h
  have hcentury : day / 36524 = 0 ∨ day / 36524 = 1 ∨ day / 36524 = 2 ∨ day / 36524 = 3 ∨
      day / 36524 = 4 := by omega
  rcases hcentury with h | h | h | h | h <;> omega

/-- A day falls within the year in which it is found. -/
theorem InYear.dayOfYear_bounds (h : InYear day year) :
    0 ≤ day - (365 * year + year / 4 - year / 100) ∧
      day - (365 * year + year / 4 - year / 100) ≤ 365 := by
  have hcentury := h.century_eq
  obtain ⟨hmin, hmax, hyear⟩ := h
  have hquad : year / 4 ≤ day / 1460 := by omega
  constructor
  · omega
  · have hcentury : day / 36524 = 0 ∨ day / 36524 = 1 ∨ day / 36524 = 2 ∨ day / 36524 = 3 ∨
        day / 36524 = 4 := by omega
    rcases hcentury with h | h | h | h | h <;> omega

/-- It is the last day of a long year only if the year ends with a leap day. -/
theorem InYear.leap_of_dayOfYear (h : InYear day year)
    (hlast : day - (365 * year + year / 4 - year / 100) = 365) :
    (year + 1) % 4 = 0 ∧ ((year + 1) % 100 ≠ 0 ∨ year = 399) := by
  have hcentury := h.century_eq
  have hbounds := h.bounds
  obtain ⟨hmin, hmax, hyear⟩ := h
  constructor
  · have hquad : year / 4 + 1 ≤ day / 1460 := by omega
    have hday : 1460 * (year / 4 + 1) ≤ day := by omega
    clear hcentury hquad hyear
    have hmod : year % 4 = 3 := by omega
    omega
  · by_cases hend : year = 99 ∨ year = 199 ∨ year = 299
    · rcases hend with rfl | rfl | rfl <;> omega
    · omega

end Cycle

/-! ### Day numbers -/

namespace Date

/-- What a day number is split into: a cycle, a year of it and a day of that, and the month in
    which this day lies, counted from March. -/
structure Split (n cycle year day month : Int) : Prop where
  year_bounds : 0 ≤ year ∧ year ≤ 399
  day_bounds : 0 ≤ day ∧ day ≤ 365
  leap : day = 365 → (year + 1) % 4 = 0 ∧ ((year + 1) % 100 ≠ 0 ∨ year = 399)
  month_eq : month = (5 * day + 2) / 153
  sum_eq : n + 719468 = 146097 * cycle + (365 * year + year / 4 - year / 100) + day

/-- The month of the calendar that is the given one from March. -/
def fromMarch (month : Int) : Int := if month < 10 then month + 3 else month - 9

theorem fdiv_eq (n : Int) {k : Int} (hk : 0 ≤ k) : n.fdiv k = n / k :=
  Int.fdiv_eq_ediv_of_nonneg n hk

theorem exists_split (n : Int) : ∃ cycle year day month, Split n cycle year day month ∧
    ofDayNumber? n = of? (year + cycle * 400 + if fromMarch month ≤ 2 then 1 else 0)
      (fromMarch month).toNat (day - (153 * month + 2) / 5 + 1).toNat := by
  have hcycle : (n + 719468).fdiv 146097 = (n + 719468) / 146097 := fdiv_eq _ (by decide)
  have hyear : InYear (n + 719468 - (n + 719468) / 146097 * 146097) _ :=
    ⟨by omega, by omega, rfl⟩
  refine ⟨(n + 719468) / 146097, _, _, _,
    ⟨hyear.bounds, hyear.dayOfYear_bounds, hyear.leap_of_dayOfYear, rfl, by omega⟩, ?_⟩
  rw [ofDayNumber?, hcycle]
  rfl

theorem fields_eq_of_of? {year : Int} {month day : Nat} {d : Date} (h : of? year month day = some d) :
    d.year = year ∧ d.month = month ∧ d.day = day := by
  rw [of?] at h
  split at h
  · cases h
    exact ⟨rfl, rfl, rfl⟩
  · cases h

/-- A day number is the number of the date that it is turned into. -/
theorem dayNumber_of_ofDayNumber? {n : Int} {d : Date} (h : ofDayNumber? n = some d) :
    d.dayNumber = n := by
  obtain ⟨cycle, year, day, month, hsplit, hdate⟩ := exists_split n
  rw [hdate] at h
  obtain ⟨hyear, hmonth, hday⟩ := fields_eq_of_of? h
  obtain ⟨hyears, hdays, -, rfl, hsum⟩ := hsplit
  simp only [dayNumber, fdiv_eq _ (show (0 : Int) ≤ 4 by decide),
    fdiv_eq _ (show (0 : Int) ≤ 100 by decide), fdiv_eq _ (show (0 : Int) ≤ 400 by decide)]
  by_cases hspring : (5 * day + 2) / 153 < 10
  · rw [fromMarch, if_pos hspring] at hyear hmonth
    have hlate : ¬ d.month ≤ 2 := by omega
    rw [if_neg hlate, if_neg hlate]
    rw [if_neg (by omega)] at hyear
    omega
  · rw [fromMarch, if_neg hspring] at hyear hmonth
    have hearly : d.month ≤ 2 := by omega
    rw [if_pos hearly, if_pos hearly]
    rw [if_pos (by omega)] at hyear
    omega

/-! ### Days of a month -/

theorem isLeapYear_iff {year : Int} : isLeapYear year = true ↔
    year % 4 = 0 ∧ (year % 100 ≠ 0 ∨ year % 400 = 0) := by
  simp [isLeapYear]

/-- The day of a month that is found is a day of that month. -/
theorem Split.isDay {n cycle year day month : Int} (h : Split n cycle year day month) :
    1 ≤ day - (153 * month + 2) / 5 + 1 ∧
      day - (153 * month + 2) / 5 + 1 ≤
        monthLength (year + cycle * 400 + if fromMarch month ≤ 2 then 1 else 0)
          (fromMarch month).toNat := by
  obtain ⟨hyears, hdays, hleap, hmonth, -⟩ := h
  constructor
  · omega
  by_cases hfebruary : month = 11
  · subst hfebruary
    change _ ≤ (monthLength (year + cycle * 400 + 1) 2 : Int)
    rw [monthLength, if_pos rfl]
    by_cases hlast : day = 365
    · have hisLeap : isLeapYear (year + cycle * 400 + 1) = true := by
        obtain ⟨hquad, hcentury⟩ := hleap hlast
        rw [isLeapYear_iff]
        omega
      rw [if_pos hisLeap]
      omega
    · split <;> omega
  · have hcases : month = 0 ∨ month = 1 ∨ month = 2 ∨ month = 3 ∨ month = 4 ∨ month = 5 ∨
        month = 6 ∨ month = 7 ∨ month = 8 ∨ month = 9 ∨ month = 10 := by omega
    rcases hcases with h | h | h | h | h | h | h | h | h | h | h <;> subst h
    all_goals
      simp [fromMarch, monthLength]
      omega

/-! ### The first day and the last -/

/-- The day number of 1 January of the least year. -/
def firstDay : Int := -96465292

/-- The day number of 31 December of the greatest year. -/
def lastDay : Int := 95026236

theorem Split.year_in_range {n cycle year day month : Int} (h : Split n cycle year day month)
    (hmin : firstDay ≤ n) (hmax : n ≤ lastDay) :
    minYear ≤ year + cycle * 400 + (if fromMarch month ≤ 2 then 1 else 0) ∧
      year + cycle * 400 + (if fromMarch month ≤ 2 then 1 else 0) ≤ maxYear := by
  obtain ⟨hyears, hdays, -, hmonth, hsum⟩ := h
  have hwinter : fromMarch month ≤ 2 ↔ 10 ≤ month := by
    rw [fromMarch]
    split <;> omega
  rw [firstDay] at hmin
  rw [lastDay] at hmax
  rw [minYear, maxYear]
  have hcycles : -656 ≤ cycle ∧ cycle ≤ 655 := by omega
  by_cases hjanuary : 10 ≤ month
  · rw [if_pos (hwinter.mpr hjanuary)]
    have hday : 306 ≤ day := by omega
    have hyear : cycle = 655 → year ≤ 141 := by
      rintro rfl
      omega
    omega
  · rw [if_neg (mt hwinter.mp hjanuary)]
    omega

/-- The day numbers from the first day to the last are those of dates. -/
theorem exists_ofDayNumber? {n : Int} (hmin : firstDay ≤ n) (hmax : n ≤ lastDay) :
    ∃ d, ofDayNumber? n = some d ∧ d.dayNumber = n := by
  obtain ⟨cycle, year, day, month, hsplit, hdate⟩ := exists_split n
  have hvalid : isDate (year + cycle * 400 + if fromMarch month ≤ 2 then 1 else 0)
      (fromMarch month).toNat (day - (153 * month + 2) / 5 + 1).toNat = true := by
    obtain ⟨hleast, hgreatest⟩ := hsplit.year_in_range hmin hmax
    obtain ⟨hfirst, hlast⟩ := hsplit.isDay
    obtain ⟨-, hdays, -, hmonth, -⟩ := hsplit
    have hmonths : 1 ≤ (fromMarch month).toNat ∧ (fromMarch month).toNat ≤ 12 := by
      rw [fromMarch]
      split <;> omega
    simp only [isDate, Bool.and_eq_true, decide_eq_true_eq]
    omega
  rw [of?, dif_pos hvalid] at hdate
  exact ⟨_, hdate, dayNumber_of_ofDayNumber? hdate⟩

/-- A date lies between the first day of its year and the last. -/
theorem dayNumber_bounds (d : Date) :
    365 * (d.year - 1) + (d.year - 1) / 4 - (d.year - 1) / 100 + (d.year - 1) / 400 - 719162 ≤
        d.dayNumber ∧
      d.dayNumber ≤ 365 * d.year + d.year / 4 - d.year / 100 + d.year / 400 - 719163 := by
  have hvalid := d.valid
  have hlength : monthLength d.year d.month ≤ 31 := by
    rw [monthLength]
    split <;> split <;> omega
  simp only [isDate, Bool.and_eq_true, decide_eq_true_eq] at hvalid
  simp only [dayNumber, fdiv_eq _ (show (0 : Int) ≤ 4 by decide),
    fdiv_eq _ (show (0 : Int) ≤ 100 by decide), fdiv_eq _ (show (0 : Int) ≤ 400 by decide)]
  by_cases hearly : d.month ≤ 2
  · rw [if_pos hearly, if_pos hearly]
    have hmonths : d.month = 1 ∨ d.month = 2 := by omega
    rcases hmonths with h | h
    · rw [h]
      omega
    · rw [h]
      omega
  · rw [if_neg hearly, if_neg hearly]
    omega

theorem dayNumber_le_lastDay (d : Date) : d.dayNumber ≤ lastDay := by
  have hbound := d.dayNumber_bounds.2
  have hyear : d.year ≤ maxYear := by
    have hvalid := d.valid
    simp only [isDate, Bool.and_eq_true, decide_eq_true_eq] at hvalid
    exact hvalid.1.1.1.1.2
  rw [maxYear] at hyear
  rw [lastDay]
  omega

theorem firstDay_add_le {d : Date} (h : minYear < d.year) : firstDay + 365 ≤ d.dayNumber := by
  have hbound := d.dayNumber_bounds.1
  rw [minYear] at h
  rw [firstDay]
  omega

/-- Days can be added to a date as far as there are dates. -/
theorem exists_addDays? {d : Date} (days : Int) (hmin : firstDay ≤ d.dayNumber + days)
    (hmax : d.dayNumber + days ≤ lastDay) :
    ∃ d', d.addDays? days = some d' ∧ d'.dayNumber = d.dayNumber + days := by
  rw [addDays?]
  split
  · rename_i hzero
    exact ⟨d, rfl, by omega⟩
  · exact exists_ofDayNumber? hmin hmax

end Date

/-! ### Days before an instant -/

namespace Instant

/-- Some days before an instant so many days less have gone by, as long as there is such a date, and
    it is no longer a leap second. -/
theorem daysBefore_spec {t : Instant} {days : Nat} (hpos : 0 < days)
    (h : Date.firstDay + days ≤ t.date.dayNumber) :
    (t.daysBefore days).sinceEpoch = t.sinceEpoch - days * 86400 * nanosPerSecond
      ∧ (t.daysBefore days).isClockReading = true := by
  have hmax := t.date.dayNumber_le_lastDay
  have hsecond := t.second_lt
  have hnano := t.nano_lt
  -- a leap second at the end of the day carries over to the next one
  obtain ⟨carry, hcarry⟩ : ∃ carry, (t.second + t.nano / nanosPerSecond) / 86400 = carry := ⟨_, rfl⟩
  have hnext : carry ≤ 1 := by
    simp only [nanosPerSecond] at *
    omega
  obtain ⟨date, hdate, hnumber⟩ := Date.exists_addDays? (d := t.date)
    ((carry : Int) - (days : Int)) (by omega) (by omega)
  have hvalid : isTimeOfDay ((t.second + t.nano / nanosPerSecond) % 86400)
      (t.nano % nanosPerSecond) = true := by
    rw [isTimeOfDay, Bool.and_eq_true, decide_eq_true_eq, decide_eq_true_eq]
    exact ⟨Nat.mod_lt _ (by decide), Nat.lt_trans (Nat.mod_lt _ (by decide)) (by decide)⟩
  have hbefore : t.daysBefore days = ⟨date, _, _, hvalid⟩ := by
    simp only [daysBefore, hcarry, hdate, Option.bind_some, of?, dif_pos hvalid, Option.getD_some]
  rw [hbefore, isClockReading_iff, sinceEpoch, sinceEpoch, hnumber]
  simp only [nanosPerSecond] at *
  omega

end Instant

end SyncFleet.Calendar

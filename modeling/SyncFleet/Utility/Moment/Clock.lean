/-
  SyncFleet/Utility/Moment/Clock.lean
  ===================================
  **Moments in nanoseconds, and their dates and times of day.**

  Days are counted from 1 January 1970.  Dates of any year are computed, also
  from months and days that are out of range.
-/
import SyncFleet.Calendar.Instant

namespace SyncFleet.Utility.Moment

open Calendar

/-- Nanoseconds of a second. -/
def second : Int := 1000000000

/-- The names of the months. -/
def months : List String :=
  ["January", "February", "March", "April", "May", "June", "July", "August", "September",
    "October", "November", "December"]

/-- The names of the days of the week. -/
def weekdays : List String :=
  ["Sunday", "Monday", "Tuesday", "Wednesday", "Thursday", "Friday", "Saturday"]

/-- The number of the first day of a month, of which the months of a year count from zero; they may
    be out of range. -/
def firstOfMonth (year month : Int) : Int :=
  let y := year + month.fdiv 12
  let m := month.fmod 12
  let y' := if m < 2 then y - 1 else y
  let m' := if m < 2 then m + 10 else m - 2
  365 * y' + y'.fdiv 4 - y'.fdiv 100 + y'.fdiv 400 + (153 * m' + 2) / 5 - 719468

/-- A moment in parts. -/
structure Parts where
  year : Int
  /-- the month, from zero on -/
  month : Int
  day : Int
  hour : Int
  minute : Int
  second : Int
  nano : Int
deriving Repr

/-- The number of the day. -/
def Parts.dayNumber (p : Parts) : Int := firstOfMonth p.year p.month + p.day - 1

/-- The moment of some parts in nanoseconds. -/
def Parts.moment (p : Parts) : Int :=
  (p.dayNumber * 86400 + p.hour * 3600 + p.minute * 60 + p.second) * Moment.second + p.nano

/-- The year, month and day of a day's number. -/
def dateOf (n : Int) : Int × Int × Int :=
  let z := n + 719468
  let cycle := z.fdiv 146097
  let d := z - cycle * 146097
  let y := (d - d / 1460 + d / 36524 - d / 146096) / 365
  let dayOfYear := d - (365 * y + y / 4 - y / 100)
  let m := (5 * dayOfYear + 2) / 153
  let day := dayOfYear - (153 * m + 2) / 5 + 1
  let month := if m < 10 then m + 2 else m - 10
  (y + cycle * 400 + (if month < 2 then 1 else 0), month, day)

/-- The parts of a moment. -/
def partsOf (moment : Int) : Parts :=
  let seconds := moment.fdiv Moment.second
  let nano := moment.fmod Moment.second
  let days := seconds.fdiv 86400
  let rest := seconds.fmod 86400
  let (year, month, day) := dateOf days
  ⟨year, month, day, rest / 3600, rest / 60 % 60, rest % 60, nano⟩

/-- The day of the week of a day's number; zero is Sunday. -/
def weekdayOf (day : Int) : Int := (day + 4).fmod 7

/-- The day of the year, from zero on. -/
def Parts.dayOfYear (p : Parts) : Int := p.dayNumber - firstOfMonth p.year 0

/-- Whether a month has a day. -/
def isDay (year month day : Int) : Bool :=
  0 ≤ month && month < 12 && 1 ≤ day
    && day ≤ firstOfMonth year (month + 1) - firstOfMonth year month

/-- The year and number of the week of a date, where weeks begin on Mondays and the first one has
    a Thursday of its year. -/
def Parts.week (p : Parts) : Int × Int :=
  let weekday := (weekdayOf p.dayNumber + 6) % 7
  let thursday := p.dayNumber - weekday + 3
  let (year, _, _) := dateOf thursday
  (year, (thursday - firstOfMonth year 0) / 7 + 1)

end SyncFleet.Utility.Moment

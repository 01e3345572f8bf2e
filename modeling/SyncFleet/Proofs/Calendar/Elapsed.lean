/-
  SyncFleet/Proofs/Calendar/Elapsed.lean
  ======================================
  **Time that has elapsed goes on elapsing, but for leap seconds.**

  `Instant.nanosSince` counts a leap second between two times of one day, and
  forgets it when midnight comes.  Among instants outside leap seconds, which
  are all that a clock shows, it is the difference of two counts of nanoseconds
  (`nanosSince_eq_sub`), so the time since some instant never decreases
  (`nanosSince_le`).  It decreases by less than a second if that instant alone
  lies in a leap second (`nanosSince_lt_add`), and by less than two seconds in
  any case (`nanosSince_lt_add_two`).
-/
import SyncFleet.Calendar.Instant

namespace SyncFleet.Calendar.Instant

/-- Whether a clock can show the instant: one that is not in a leap second. -/
def isClockReading (t : Instant) : Bool := t.nano < nanosPerSecond

variable {a b since : Instant}

theorem isClockReading_iff : a.isClockReading = true ↔ a.nano < nanosPerSecond := by
  simp [isClockReading]

theorem le_iff : a.le b = true ↔ a.date.dayNumber < b.date.dayNumber ∨
    (a.date.dayNumber = b.date.dayNumber ∧
      (a.second < b.second ∨ (a.second = b.second ∧ a.nano ≤ b.nano))) := by
  simp [le]

theorem le_refl (a : Instant) : a.le a = true := by
  simp [le_iff]

/-- Nanoseconds since the beginning of 1970, without leap seconds. -/
def sinceEpoch (t : Instant) : Int :=
  (t.date.dayNumber * 86400 + t.second) * nanosPerSecond + t.nano

theorem exceeds_iff {seconds : Nat} :
    a.exceeds since seconds = true ↔ (seconds : Int) * nanosPerSecond < a.nanosSince since := by
  have hnonneg : 0 ≤ (seconds : Int) * nanosPerSecond :=
    Int.mul_nonneg (Int.natCast_nonneg _) (Int.natCast_nonneg _)
  simp only [exceeds, Bool.and_eq_true, decide_eq_true_eq]
  exact ⟨And.right, fun h => ⟨Int.le_of_lt (Int.lt_of_le_of_lt hnonneg h), h⟩⟩

/-- Between two times of day the leap second of the earlier one is counted. -/
theorem secondsBetween_cases (a since : Instant) :
    (since.second < a.second ∧ nanosPerSecond ≤ since.nano ∧
      secondsBetween a since = (a.second : Int) - since.second + 1) ∨
    (a.second < since.second ∧ nanosPerSecond ≤ a.nano ∧
      secondsBetween a since = (a.second : Int) - since.second - 1) ∨
    ((a.second ≤ since.second ∨ since.nano < nanosPerSecond) ∧
      (since.second ≤ a.second ∨ a.nano < nanosPerSecond) ∧
      secondsBetween a since = (a.second : Int) - since.second) := by
  unfold secondsBetween
  split
  · rename_i h
    exact Or.inl ⟨h.1, h.2, rfl⟩
  · rename_i hafter
    split
    · rename_i h
      exact Or.inr (Or.inl ⟨h.1, h.2, rfl⟩)
    · rename_i hbefore
      exact Or.inr (Or.inr ⟨by omega, by omega, rfl⟩)

/-- On a clock, the time since an instant is what the counts differ by. -/
theorem nanosSince_eq_sub (ha : a.isClockReading = true) (hsince : since.isClockReading = true) :
    a.nanosSince since = a.sinceEpoch - since.sinceEpoch := by
  have hsa := secondsBetween_cases a since
  rw [isClockReading_iff] at ha hsince
  simp only [nanosSince, sinceEpoch, nanosPerSecond] at *
  omega

/-- A clock that shows no later time than an instant shows that none has elapsed since. -/
theorem nanosSince_nonpos (h : a.le since = true) (ha : a.isClockReading = true) :
    a.nanosSince since ≤ 0 := by
  have hlt := a.second_lt
  have hsa := secondsBetween_cases a since
  rw [le_iff] at h
  rw [isClockReading_iff] at ha
  simp only [nanosSince, nanosPerSecond] at *
  omega

/-- Even in a leap second less than a second has elapsed since an instant that is no earlier. -/
theorem nanosSince_lt_second (h : a.le since = true) : a.nanosSince since < nanosPerSecond := by
  have hlt := a.second_lt
  have hnano := a.nano_lt
  have hsa := secondsBetween_cases a since
  rw [le_iff] at h
  simp only [nanosSince, nanosPerSecond] at *
  omega

/-- On a clock, the time since an instant does not decrease. -/
theorem nanosSince_le (h : a.le b = true) (ha : a.isClockReading = true)
    (hb : b.isClockReading = true) (hsince : since.isClockReading = true) :
    a.nanosSince since ≤ b.nanosSince since := by
  have hlt := a.second_lt
  have hsa := secondsBetween_cases a since
  have hsb := secondsBetween_cases b since
  rw [le_iff] at h
  rw [isClockReading_iff] at ha hb hsince
  simp only [nanosSince, nanosPerSecond] at *
  omega

/-- On a clock, the time since an instant in a leap second decreases by less than a second. -/
theorem nanosSince_lt_add (h : a.le b = true) (ha : a.isClockReading = true)
    (hb : b.isClockReading = true) :
    a.nanosSince since < b.nanosSince since + nanosPerSecond := by
  have hlt := a.second_lt
  have hsa := secondsBetween_cases a since
  have hsb := secondsBetween_cases b since
  rw [le_iff] at h
  rw [isClockReading_iff] at ha hb
  simp only [nanosSince, nanosPerSecond] at *
  omega

/-- The time since an instant never decreases by two seconds. -/
theorem nanosSince_lt_add_two (h : a.le b = true) :
    a.nanosSince since < b.nanosSince since + 2 * nanosPerSecond := by
  have hlt := a.second_lt
  have hnano := a.nano_lt
  have hsa := secondsBetween_cases a since
  have hsb := secondsBetween_cases b since
  rw [le_iff] at h
  simp only [nanosSince, nanosPerSecond] at *
  omega

end SyncFleet.Calendar.Instant

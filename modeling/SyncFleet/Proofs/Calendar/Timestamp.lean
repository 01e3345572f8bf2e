/-
  SyncFleet/Proofs/Calendar/Timestamp.lean
  ========================================
  **A timestamp names the instant it was written for.**

  Every field is read off the front of what follows it: digits end at the next
  separator or at their width, and nothing that is written begins with a blank.
  Put together, the reader gives back from its timestamp any instant that one
  can tell, whatever its year, fraction or leap second.  A leap second that does
  not end a minute is told as the second that comes next (`Instant.told`), and
  that is what is read (`Instant.ofText?_text`).
-/
import SyncFleet.Calendar.Timestamp
import SyncFleet.Proofs.Decimal.Numeral
import SyncFleet.Proofs.Text.Trim

namespace SyncFleet.Calendar

open Decimal

/-! ### Digits in front of a text -/

theorem forall_head?_cons {p : Char → Prop} {c : Char} (h : p c) {cs : List Char} :
    ∀ d ∈ (c :: cs).head?, p d :=
  fun _ hd => Option.some.inj hd ▸ h

/-- A run of digits is read off the front of a text when it fills the width or ends there. -/
theorem number?_append {most : Nat} {ds rest : List Char} (hds : ∀ c ∈ ds, c.isDigit = true)
    (hlen : ds.length ≤ most)
    (hstop : ds.length = most ∨ ∀ c ∈ rest.head?, c.isDigit = false) :
    number? most (ds ++ rest) = (natOfText? ds).map fun n => (n, rest) := by
  have hrun : ((ds ++ rest).take most).takeWhile Char.isDigit = ds := by
    rw [List.take_append, List.take_of_length_le hlen, List.takeWhile_append_of_pos hds]
    refine (congrArg (ds ++ ·) ?_).trans (List.append_nil ds)
    rcases hstop with hfull | hend
    · rw [hfull, Nat.sub_self]
      rfl
    · cases rest with
      | nil => rw [List.take_nil, List.takeWhile_nil]
      | cons c rest =>
        cases most - ds.length with
        | zero => rfl
        | succ k =>
          rw [List.take_succ_cons, List.takeWhile_cons_of_neg]
          rw [hend c rfl]
          exact Bool.false_ne_true
  rw [number?, hrun, List.drop_left]

/-- A padded number that fits into its width is read off the front of any text. -/
theorem number?_padded {width n : Nat} (hpos : 0 < width) (h : n < Nat.pow 10 width)
    (rest : List Char) : number? width (padded width n ++ rest) = some (n, rest) := by
  have hlen := length_padded hpos h
  rw [number?_append (fun c => isDigit_of_mem_padded) (Nat.le_of_eq hlen) (Or.inl hlen),
    natOfText?_padded, Option.map_some]

theorem skipBlanks_cons {c : Char} (h : Text.isBlank c = false) (cs : List Char) :
    skipBlanks (c :: cs) = c :: cs := by
  rw [skipBlanks, List.dropWhile_cons_of_neg]
  rw [h]
  exact Bool.false_ne_true

/-- A padded number begins with a digit. -/
theorem padded_eq_cons (width n : Nat) :
    ∃ c cs, padded width n = c :: cs ∧ c.isDigit = true := by
  obtain ⟨c, cs, h⟩ := List.exists_cons_of_ne_nil (padded_ne_nil width n)
  exact ⟨c, cs, h, isDigit_of_mem_padded (h ▸ List.mem_cons_self)⟩

theorem skipBlanks_padded (width n : Nat) (rest : List Char) :
    skipBlanks (padded width n ++ rest) = padded width n ++ rest := by
  obtain ⟨c, cs, h, hc⟩ := padded_eq_cons width n
  rw [h, List.cons_append, skipBlanks_cons (Text.isBlank_of_isDigit hc)]

/-! ### The fields of a timestamp -/

theorem field?_padded {n : Nat} (h : n < 100) (rest : List Char) :
    field? (padded 2 n ++ rest) = some (n, rest) := by
  rw [field?, skipBlanks_padded, number?_padded (by decide) h]

theorem separator?_cons {c : Char} (h : Text.isBlank c = false) (rest : List Char) :
    separator? c (c :: rest) = some rest := by
  rw [separator?, skipBlanks_cons h]
  exact if_pos rfl

theorem longNumber?_padded (width n : Nat) {c : Char} (hc : c.isDigit = false)
    (rest : List Char) :
    longNumber? (padded width n ++ c :: rest) = some (n, c :: rest) := by
  have hlen : (padded width n).length ≤ (padded width n ++ c :: rest).length := by
    rw [List.length_append]
    exact Nat.le_add_right _ _
  rw [longNumber?, number?_append (fun c => isDigit_of_mem_padded) hlen
      (Or.inr (forall_head?_cons hc)), natOfText?_padded, Option.map_some]

/-- A year of any sign and length is read off the front of a text that goes on with the dash
    behind it. -/
theorem year?_yearText (year : Int) (rest : List Char) :
    year? (yearText year ++ '-' :: rest) = some (year, '-' :: rest) := by
  rw [yearText]
  split
  · -- four digits without a sign
    rename_i h
    have hfits : year.toNat < Nat.pow 10 4 := (by omega : year.toNat < 10000)
    have hread := number?_padded (by decide) hfits ('-' :: rest)
    obtain ⟨c, cs, hcs, hc⟩ := padded_eq_cons 4 year.toNat
    rw [year?, skipBlanks_padded]
    rw [hcs, List.cons_append] at hread ⊢
    split
    · rename_i heq
      exact absurd hc ((List.cons.inj heq).1 ▸ by decide)
    · rename_i heq
      exact absurd hc ((List.cons.inj heq).1 ▸ by decide)
    · rw [hread, Option.map_some]
      exact congrArg (fun y => some (y, _)) (Int.toNat_of_nonneg h.1)
  · rename_i h
    have hread := longNumber?_padded 4 year.natAbs (by decide : '-'.isDigit = false) rest
    rcases Int.lt_or_le year 0 with hneg | hpos
    · rw [if_pos hneg, List.cons_append, year?, skipBlanks_cons (by decide)]
      refine (congrArg (Option.map fun x => (-(x.1 : Int), x.2)) hread).trans ?_
      exact congrArg (fun y => some (y, _)) (by omega)
    · rw [if_neg (Int.not_lt.mpr hpos), List.cons_append, year?, skipBlanks_cons (by decide)]
      refine (congrArg (Option.map fun x => ((x.1 : Int), x.2)) hread).trans ?_
      exact congrArg (fun y => some (y, _)) (by omega)

theorem fraction?_point {width n : Nat} (hpos : 0 < width) (hle : width ≤ 9)
    (h : n < Nat.pow 10 width) :
    fraction? ('.' :: padded width n ++ ['Z']) = some (n * Nat.pow 10 (9 - width), ['Z']) := by
  have hread : number? 9 (padded width n ++ ['Z']) = some (n, ['Z']) := by
    have hlen := Nat.le_trans (Nat.le_of_eq (length_padded hpos h)) hle
    have hstop : ∀ c ∈ ['Z'].head?, c.isDigit = false := forall_head?_cons (by decide)
    rw [number?_append (fun c => isDigit_of_mem_padded) hlen (Or.inr hstop), natOfText?_padded,
      Option.map_some]
  have hlen : (padded width n ++ ['Z']).length - ['Z'].length = width := by
    rw [List.length_append, Nat.add_sub_cancel, length_padded hpos h]
  rw [List.cons_append, fraction?, hread, Option.bind_eq_bind, Option.bind_some]
  dsimp only
  rw [hlen]
  rfl

/-- A fraction is read in nanoseconds, however many digits it was written in. -/
theorem fraction?_fractionText {nano : Nat} (h : nano < nanosPerSecond) :
    fraction? (fractionText nano ++ ['Z']) = some (nano, ['Z']) := by
  rw [nanosPerSecond] at h
  rw [fractionText]
  split
  · rename_i hzero
    rw [hzero]
    rfl
  split
  · have hfits : nano / 1000000 < Nat.pow 10 3 := (by omega : nano / 1000000 < 1000)
    rw [fraction?_point (by decide) (by decide) hfits]
    exact congrArg (fun n => some (n, _)) (by omega : nano / 1000000 * 1000000 = nano)
  split
  · have hfits : nano / 1000 < Nat.pow 10 6 := (by omega : nano / 1000 < 1000000)
    rw [fraction?_point (by decide) (by decide) hfits]
    exact congrArg (fun n => some (n, _)) (by omega : nano / 1000 * 1000 = nano)
  · rw [fraction?_point (by decide) (by decide) h]
    exact congrArg (fun n => some (n, _)) (Nat.mul_one nano)

/-! ### Whole timestamps -/

theorem Date.of?_eq_some (d : Date) : Date.of? d.year d.month d.day = some d := dif_pos d.valid

theorem Instant.of?_eq_some (t : Instant) : Instant.of? t.date t.second t.nano = some t :=
  dif_pos t.valid

theorem Instant.subSeconds?_zero (t : Instant) : t.subSeconds? 0 = some t := by
  have hsecond := t.second_lt
  have hdays : ((t.second : Int) - 0).fdiv 86400 = 0 := by
    rw [Int.fdiv_eq_ediv_of_nonneg _ (by decide)]
    omega
  have hrest : (((t.second : Int) - 0).fmod 86400).toNat = t.second := by
    rw [Int.fmod_eq_emod_of_nonneg _ (by decide)]
    omega
  rw [Instant.subSeconds?, hdays, hrest, Date.addDays?, if_pos rfl]
  exact t.of?_eq_some

/-- The characters of a timestamp with the given fields. -/
def timestampChars (year : Int) (month day hour minute second nano : Nat) : List Char :=
  yearText year ++ '-' :: padded 2 month ++ '-' :: padded 2 day ++ 'T' :: padded 2 hour
    ++ ':' :: padded 2 minute ++ ':' :: padded 2 second ++ fractionText nano ++ ['Z']

/-- A timestamp is read field by field; second 60 is the leap second behind second 59. -/
theorem Instant.ofChars?_timestampChars {year : Int} {month day hour minute second nano : Nat}
    (hmonth : month < 100) (hday : day < 100) (hhour : hour < 24) (hminute : minute < 60)
    (hsecond : second ≤ 60) (hnano : nano < nanosPerSecond) :
    Instant.ofChars? (timestampChars year month day hour minute second nano) =
      (Date.of? year month day).bind fun date =>
        if second = 60 then
          Instant.of? date (hour * 3600 + minute * 60 + 59) (nano + nanosPerSecond)
        else Instant.of? date (hour * 3600 + minute * 60 + second) nano := by
  have hdash := separator?_cons (by decide : Text.isBlank '-' = false)
  have hcolon := separator?_cons (by decide : Text.isBlank ':' = false)
  have hzone : offset? (skipBlanks ['Z']) = some (0, []) := rfl
  have hend : (!(skipBlanks []).isEmpty) = false := rfl
  have hrange : ¬(24 ≤ hour ∨ 60 ≤ minute ∨ 60 < second) := by omega
  rw [timestampChars]
  simp only [List.append_assoc, List.cons_append]
  -- One field after the other: it is read, and the reading goes on with what follows.
  rw [Instant.ofChars?, year?_yearText, Option.bind_eq_bind, Option.bind_some]
  dsimp only
  rw [hdash, Option.bind_eq_bind, Option.bind_some, field?_padded hmonth, Option.bind_eq_bind,
    Option.bind_some]
  dsimp only
  rw [hdash, Option.bind_some, field?_padded hday, Option.bind_some]
  dsimp only
  rw [if_pos (Or.inl rfl), Option.bind_some, field?_padded (by omega : hour < 100),
    Option.bind_some]
  dsimp only
  rw [hcolon, Option.bind_some, field?_padded (by omega : minute < 100), Option.bind_some]
  dsimp only
  rw [hcolon, Option.bind_some, field?_padded (by omega : second < 100), Option.bind_some]
  dsimp only
  rw [fraction?_fractionText hnano, Option.bind_some]
  dsimp only
  rw [hzone, Option.bind_some]
  dsimp only
  rw [hend, if_neg Bool.false_ne_true, if_neg hrange]
  have hoffset : ∀ clock : Option Instant, clock.bind (fun t => t.subSeconds? 0) = clock :=
    fun clock => (congrArg clock.bind (funext Instant.subSeconds?_zero)).trans
      (Option.bind_fun_some clock)
  refine congrArg (Option.bind _) (funext fun date => ?_)
  split
  · exact hoffset _
  · exact hoffset _

theorem monthLength_le (year : Int) (month : Nat) : monthLength year month ≤ 31 := by
  rw [monthLength]
  grind

/-! ### Instants that a timestamp tells -/

namespace Instant

/-- Whether a timestamp can tell an instant: a leap second stands at the end of a minute. -/
def Legible (t : Instant) : Prop := t.nano < nanosPerSecond ∨ t.second % 60 = 59

instance (t : Instant) : Decidable t.Legible := inferInstanceAs (Decidable (_ ∨ _))

theorem isTimeOfDay_next {t : Instant} (h : ¬t.Legible) :
    isTimeOfDay (t.second + 1) (t.nano - nanosPerSecond) = true := by
  have hsecond := t.second_lt
  have hnano := t.nano_lt
  simp only [Legible, not_or] at h
  simp only [isTimeOfDay, Bool.and_eq_true, decide_eq_true_eq]
  omega

/-- The instant that a timestamp tells: in place of a leap second that does not end a minute the
    second that comes next. -/
def told (t : Instant) : Instant :=
  if h : t.Legible then t
  else { t with second := t.second + 1, nano := t.nano - nanosPerSecond, valid := isTimeOfDay_next h }

theorem told_eq_self_iff {t : Instant} : t.told = t ↔ t.Legible := by
  refine ⟨fun h => Decidable.byContradiction fun hnot => ?_, fun h => dif_pos h⟩
  rw [told, dif_neg hnot] at h
  exact Nat.succ_ne_self _ (congrArg second h)

theorem told_legible (t : Instant) : t.told.Legible := by
  by_cases h : t.Legible
  · rwa [told_eq_self_iff.mpr h]
  · rw [told, dif_neg h]
    exact Or.inl (Nat.sub_lt_left_of_lt_add (Nat.not_lt.mp (not_or.mp h).1)
      (Nat.two_mul _ ▸ t.nano_lt))

/-- An instant and the one that its timestamp tells have one timestamp. -/
@[simp] theorem chars_told (t : Instant) : t.told.chars = t.chars := by
  by_cases h : t.Legible
  · rw [told_eq_self_iff.mpr h]
  obtain ⟨hleap, hend⟩ := not_or.mp h
  have hleap := Nat.not_lt.mp hleap
  have hsecond := t.second_lt
  have hnano : ¬nanosPerSecond ≤ t.nano - nanosPerSecond := by
    have := t.nano_lt
    omega
  rw [told, dif_neg h, chars, chars]
  simp only [hleap, hnano, if_true, if_false, Nat.add_zero]
  -- the minute is not over, so hour and minute stay as they are
  rw [(by omega : (t.second + 1) % 60 = t.second % 60 + 1),
    (by omega : (t.second + 1) / 3600 = t.second / 3600),
    (by omega : (t.second + 1) / 60 = t.second / 60)]

/-- An instant that a timestamp can tell is read back from it. -/
theorem ofChars?_chars {t : Instant} (h : t.Legible) : ofChars? t.chars = some t := by
  have hdate := t.date.valid
  simp only [isDate, Bool.and_eq_true, decide_eq_true_eq] at hdate
  have hday := monthLength_le t.date.year t.date.month
  have hclock : t.second / 3600 * 3600 + t.second / 60 % 60 * 60 + t.second % 60 = t.second := by
    omega
  have hsecond := t.second_lt
  rcases Nat.lt_or_ge t.nano nanosPerSecond with hnano | hleap
  · have hchars : t.chars = timestampChars t.date.year t.date.month t.date.day
        (t.second / 3600) (t.second / 60 % 60) (t.second % 60) t.nano := by
      rw [chars, timestampChars]
      simp only [Nat.not_le.mpr hnano, if_false, Nat.add_zero]
    rw [hchars, ofChars?_timestampChars (by omega) (by omega) (by omega) (by omega)
      (by omega) hnano, Date.of?_eq_some, Option.bind_some, if_neg (by omega), hclock]
    exact t.of?_eq_some
  · have hend := h.resolve_left (Nat.not_lt.mpr hleap)
    have hnano := t.nano_lt
    have hchars : t.chars = timestampChars t.date.year t.date.month t.date.day
        (t.second / 3600) (t.second / 60 % 60) 60 (t.nano - nanosPerSecond) := by
      rw [chars, timestampChars]
      simp only [hleap, if_true, hend]
    rw [hchars, ofChars?_timestampChars (by omega) (by omega) (by omega) (by omega)
      (by omega) (by omega), Date.of?_eq_some, Option.bind_some, if_pos rfl, ← hend, hclock,
      Nat.sub_add_cancel hleap]
    exact t.of?_eq_some

/-- From the text of a timestamp the instant is read that it tells. -/
@[simp] theorem ofText?_text (t : Instant) : ofText? t.text = some t.told := by
  rw [ofText?, text, String.toList_ofList, ← t.chars_told, ofChars?_chars t.told_legible]

@[simp]
theorem text_told (t : Instant) : t.told.text = t.text := congrArg String.ofList t.chars_told

end Instant

end SyncFleet.Calendar

/-
  SyncFleet/Proofs/ByteSize/Spelling.lean
  =======================================
  **Which texts are sizes, and the size of each.**

  A size is spelled in parts: one or more digits, possibly a point and further
  digits behind it, and a unit in letters of either case, with blanks between
  number and unit and around both (`Spelling`).  A number ends where a unit or
  a blank begins, for neither holds a digit or a point, and neither a number
  nor a unit has a blank at its ends; so a text has the parts that the reader
  finds in it (`parse_eq_ok_iff`).
-/
import SyncFleet.Proofs.ByteSize.Rounding
import SyncFleet.Proofs.Text.Trim

namespace SyncFleet.ByteSize

open Decimal Text

/-! ### Units -/

/-- The spellings of the units in lower case, and the bytes of each. -/
def units : List (String × Nat) :=
  [("", 1), ("b", 1),
   ("k", 1000), ("kb", 1000), ("ki", 1024), ("kib", 1024),
   ("m", 1000 ^ 2), ("mb", 1000 ^ 2), ("mi", 1024 ^ 2), ("mib", 1024 ^ 2),
   ("g", 1000 ^ 3), ("gb", 1000 ^ 3), ("gi", 1024 ^ 3), ("gib", 1024 ^ 3),
   ("t", 1000 ^ 4), ("tb", 1000 ^ 4), ("ti", 1024 ^ 4), ("tib", 1024 ^ 4)]

theorem unitBytes?_of_mem : ∀ u ∈ units, unitBytes? u.1 = some (.ofNat 64 u.2) := by
  decide

theorem mem_units_of_unitBytes? {name : String} {unit : BitVec 64}
    (h : unitBytes? name = some unit) : (name, unit.toNat) ∈ units := by
  unfold unitBytes? at h
  split at h
  all_goals first
    | (cases h; decide)
    | cases h

theorem units_bounds : ∀ u ∈ units, 0 < u.2 ∧ u.2 ≤ 1024 ^ 4 := by
  decide

theorem units_letters : ∀ u ∈ units, ∀ c ∈ u.1.toList, c.isLower = true := by
  intro u hu
  have hall : ∀ u ∈ units, u.1.toList.all Char.isLower = true := by decide
  exact List.all_eq_true.mp (hall u hu)

/-- A unit of at most 1024 bytes, or of a power of 1000 bytes, divides `10 ^ 18`. -/
theorem units_dvd {u : String × Nat} (h : u ∈ units)
    (hkind : u.2 ≤ 1024 ∨ ∃ k, u.2 = 1000 ^ k) : u.2 ∣ Nat.pow 10 18 := by
  have hsmall : ∀ u ∈ units, u.2 ≤ 1024 → u.2 ∣ Nat.pow 10 18 := by decide
  rcases hkind with hle | ⟨k, hk⟩
  · exact hsmall u h hle
  · have hlt : 1000 ^ k < 1000 ^ 7 := by
      rw [← hk]
      exact lt_of_le_of_lt (units_bounds u h).2 (by decide)
    have hk6 : k ≤ 6 := Nat.lt_succ_iff.mp ((Nat.pow_lt_pow_iff_right (by decide)).mp hlt)
    rw [hk]
    exact Nat.pow_dvd_pow 1000 hk6

/-! ### Kinds of characters -/

theorem not_isNumberChar_of_isBlank {c : Char} (h : isBlank c = true) :
    isNumberChar c = false := by
  have hdigit : c.isDigit = false := by
    by_contra hc
    rw [isBlank_of_isDigit (Bool.not_eq_false _ ▸ hc)] at h
    cases h
  have hpoint : c ≠ '.' := by
    rintro rfl
    revert h
    decide
  rw [isNumberChar, hdigit, Bool.false_or, beq_eq_false_iff_ne]
  exact hpoint

/-- Capitals and small letters are neither blanks nor parts of a number. -/
theorem letter_kind {c : Char} (h : c.toLower.isLower = true) :
    isNumberChar c = false ∧ isBlank c = false := by
  have hbounds : 65 ≤ c.toNat ∧ c.toNat ≤ 122 := by
    have htoNat : c.toNat = c.val.toNat := rfl
    delta Char.toLower at h
    split at h
    · rename_i hcapital
      simp only [ge_iff_le, UInt32.le_iff_toNat_le, Char.reduceVal, UInt32.reduceToNat] at hcapital
      omega
    · delta Char.isLower at h
      simp only [Bool.and_eq_true, decide_eq_true_eq, ge_iff_le, UInt32.le_iff_toNat_le,
        Char.reduceVal, UInt32.reduceToNat] at h
      omega
  constructor
  · have hpoint : c ≠ '.' := by
      rintro rfl
      revert hbounds
      decide
    have hdigit : c.isDigit = false := by
      rw [← Bool.not_eq_true, Char.isDigit_iff_toNat]
      simp only [Char.reduceToNat]
      omega
    rw [isNumberChar, hdigit, Bool.false_or, beq_eq_false_iff_ne]
    exact hpoint
  · simp only [isBlank, Bool.or_eq_false_iff, Bool.and_eq_false_iff, decide_eq_false_iff_not,
      beq_eq_false_iff_ne]
    omega

theorem unit_letters {unit : List Char} {bytes : Nat}
    (h : (String.ofList (lowerAscii unit), bytes) ∈ units) :
    ∀ c ∈ unit, isNumberChar c = false ∧ isBlank c = false := by
  intro c hc
  refine letter_kind (units_letters _ h c.toLower ?_)
  rw [String.toList_ofList]
  exact List.mem_map_of_mem hc

/-! ### Numbers -/

/-- A number in digits: those before the point, and those behind it where there is a point. -/
structure Number where
  whole : List Char
  fraction : Option (List Char)
  nonempty : whole ≠ []
  whole_digits : ∀ c ∈ whole, c.isDigit = true
  fraction_digits : ∀ c ∈ fraction.getD [], c.isDigit = true

namespace Number

/-- A number as it is written. -/
def text (n : Number) : List Char := n.whole ++ n.fraction.elim [] ('.' :: ·)

/-- The digits before the point. -/
def wholeDigits (n : Number) : List Nat := values n.whole

/-- The digits behind the point. -/
def fractionDigits (n : Number) : List Nat := values (n.fraction.getD [])

theorem whole_ne_point (n : Number) : ∀ c ∈ n.whole, (c != '.') = true := by
  intro c hc
  rw [bne_iff_ne]
  rintro rfl
  exact absurd (n.whole_digits '.' hc) (by decide)

theorem isNumberChar_of_mem_text (n : Number) : ∀ c ∈ n.text, isNumberChar c = true := by
  have hdigit : ∀ c : Char, c.isDigit = true → isNumberChar c = true := by
    intro c hc
    rw [isNumberChar, hc, Bool.true_or]
  intro c hc
  rcases List.mem_append.mp hc with hc | hc
  · exact hdigit c (n.whole_digits c hc)
  · have hfraction := n.fraction_digits
    cases hpoint : n.fraction with
    | none =>
      rw [hpoint] at hc
      cases hc
    | some fraction =>
      rw [hpoint] at hc hfraction
      rcases List.mem_cons.mp hc with rfl | hc
      · decide
      · exact hdigit c (hfraction c hc)

theorem text_ne_nil (n : Number) : n.text ≠ [] := List.append_ne_nil_of_left_ne_nil n.nonempty _

end Number

/-- The digits that are found in a text are those of the number that is written in it. -/
theorem splitNumber?_eq_some_iff {cs : List Char} {whole fraction : List Nat} :
    splitNumber? cs = some (whole, fraction) ↔
      ∃ n : Number, n.text = cs ∧ n.wholeDigits = whole ∧ n.fractionDigits = fraction := by
  constructor
  · intro h
    simp only [splitNumber?] at h
    split at h
    · cases h
    rename_i hne
    obtain ⟨w, hw, h⟩ := Option.bind_eq_some_iff.mp h
    obtain ⟨f, hf, h⟩ := Option.bind_eq_some_iff.mp h
    cases h
    obtain ⟨hwhole, rfl⟩ := mapM_digitVal?_eq_some_iff.mp hw
    obtain ⟨hfraction, rfl⟩ := mapM_digitVal?_eq_some_iff.mp hf
    have hnonempty : cs.takeWhile (· != '.') ≠ [] := by
      rintro hnil
      exact hne (by rw [hnil]; rfl)
    have hcs := List.takeWhile_append_dropWhile (p := (· != '.')) (l := cs)
    cases hpoint : cs.dropWhile (· != '.') with
    | nil =>
      rw [hpoint] at hcs
      exact ⟨⟨_, none, hnonempty, hwhole, nofun⟩, hcs, rfl, rfl⟩
    | cons c rest =>
      have hc : c = '.' := by
        have hstop := List.head?_dropWhile_not (· != '.') cs
        rw [hpoint] at hstop
        simpa using hstop
      rw [hpoint] at hfraction hcs
      subst hc
      exact ⟨⟨_, some rest, hnonempty, hwhole, hfraction⟩, hcs, rfl, rfl⟩
  · rintro ⟨n, rfl, rfl, rfl⟩
    have hstop : ∀ c ∈ (n.fraction.elim [] ('.' :: ·)).head?, (c != '.') = false := by
      intro c hc
      cases hpoint : n.fraction with
      | none =>
        rw [hpoint] at hc
        cases hc
      | some fraction =>
        rw [hpoint] at hc
        cases hc
        rfl
    obtain ⟨htake, hdrop⟩ := takeWhile_and_dropWhile n.whole_ne_point hstop
    have hbehind : (n.fraction.elim [] ('.' :: ·)).drop 1 = n.fraction.getD [] := by
      cases n.fraction <;> rfl
    have hne : n.whole.isEmpty = false := List.isEmpty_eq_false_iff.mpr n.nonempty
    simp only [splitNumber?, Number.text, htake, hdrop, hbehind, hne,
      mapM_digitVal?_eq_some n.whole_digits, mapM_digitVal?_eq_some n.fraction_digits]
    rfl

/-! ### Sizes -/

/-- The parts of a text that is a size, and the bytes of its unit. -/
structure Spelling where
  before : List Char
  number : Number
  between : List Char
  unit : List Char
  after : List Char
  bytes : Nat
  before_blanks : Blanks before
  between_blanks : Blanks between
  after_blanks : Blanks after
  unit_mem : (String.ofList (lowerAscii unit), bytes) ∈ units

namespace Spelling

variable (p : Spelling)

def text : List Char := p.before ++ (p.number.text ++ (p.between ++ p.unit)) ++ p.after

/-- The bytes of a size, of whose digits behind the point the first eighteen count. -/
def size : Nat := exactBytes p.number.wholeDigits p.number.fractionDigits p.bytes

/-- The value of the number that is written. -/
def value : ℚ := decimalValue p.number.wholeDigits p.number.fractionDigits

/-- The unit as a word. -/
def unitWord : BitVec 64 := .ofNat 64 p.bytes

theorem toNat_unitWord : p.unitWord.toNat = p.bytes := by
  have hbounds := units_bounds _ p.unit_mem
  have hlt : p.bytes < 2 ^ 64 := lt_of_le_of_lt hbounds.2 (by decide)
  rw [unitWord, BitVec.toNat_ofNat, Nat.mod_eq_of_lt hlt]

theorem isUnit : IsUnit p.unitWord := by
  rw [IsUnit, toNat_unitWord]
  exact units_bounds _ p.unit_mem

theorem wholeDigits_lt : ∀ d ∈ p.number.wholeDigits, d < 10 := values_lt p.number.whole_digits

theorem fractionDigits_lt : ∀ d ∈ p.number.fractionDigits, d < 10 :=
  values_lt p.number.fraction_digits

theorem tight_unit : Tight p.unit := by
  have hletters := unit_letters p.unit_mem
  constructor
  · intro c hc
    exact (hletters c (List.mem_of_mem_head? hc)).2
  · intro c hc
    exact (hletters c (List.mem_of_mem_getLast? hc)).2

/-- What stands behind the number once the blanks at the end are gone. -/
def tail : List Char := if p.unit = [] then [] else p.between ++ p.unit

theorem tail_cases :
    (p.unit = [] ∧ p.tail = []) ∨ (p.unit ≠ [] ∧ p.tail = p.between ++ p.unit) := by
  by_cases h : p.unit = []
  · left
    exact ⟨h, if_pos h⟩
  · right
    exact ⟨h, if_neg h⟩

theorem trim_tail : trim p.tail = p.unit := by
  rcases p.tail_cases with ⟨h, htail⟩ | ⟨h, htail⟩
  · rw [htail, h]
    rfl
  · have hend : Blanks [] := nofun
    have htrim := trim_append p.between_blanks hend p.tight_unit
    rwa [htail, ← List.append_nil (p.between ++ p.unit)]

/-- A number ends in front of what stands behind it. -/
theorem head?_tail : ∀ c ∈ p.tail.head?, isNumberChar c = false := by
  intro c hc
  rcases p.tail_cases with ⟨-, htail⟩ | ⟨-, htail⟩
  · rw [htail] at hc
    cases hc
  · rw [htail] at hc
    rcases List.mem_append.mp (List.mem_of_mem_head? hc) with hc | hc
    · exact not_isNumberChar_of_isBlank (p.between_blanks c hc)
    · exact (unit_letters p.unit_mem c hc).1

theorem tight_number_tail : Tight (p.number.text ++ p.tail) := by
  have hnumber : ∀ c ∈ p.number.text, isBlank c = false := by
    intro c hc
    by_contra hblank
    have hkind := not_isNumberChar_of_isBlank (Bool.not_eq_false _ ▸ hblank)
    rw [p.number.isNumberChar_of_mem_text c hc] at hkind
    cases hkind
  constructor
  · intro c hc
    obtain ⟨d, ds, hds⟩ := List.exists_cons_of_ne_nil p.number.text_ne_nil
    rw [hds, List.cons_append] at hc
    cases hc
    exact hnumber _ (hds ▸ List.mem_cons_self)
  · intro c hc
    rcases p.tail_cases with ⟨-, htail⟩ | ⟨h, htail⟩
    · rw [htail, List.append_nil] at hc
      exact hnumber c (List.mem_of_mem_getLast? hc)
    · rw [htail, List.getLast?_append_of_ne_nil _ (List.append_ne_nil_of_right_ne_nil _ h),
        List.getLast?_append_of_ne_nil _ h] at hc
      exact p.tight_unit.last c hc

theorem trim_text : trim p.text = p.number.text ++ p.tail := by
  have htext : ∃ after, Blanks after ∧ p.text = p.before ++ (p.number.text ++ p.tail) ++ after := by
    rcases p.tail_cases with ⟨h, htail⟩ | ⟨-, htail⟩
    · refine ⟨p.between ++ p.after, blanks_append.mpr ⟨p.between_blanks, p.after_blanks⟩, ?_⟩
      rw [text, htail, h]
      simp only [List.append_nil, List.append_assoc]
    · exact ⟨p.after, p.after_blanks, by rw [text, htail]⟩
  obtain ⟨after, hafter, htext⟩ := htext
  rw [htext]
  exact trim_append p.before_blanks hafter p.tight_number_tail

/-- The reader finds the parts of which a text is made. -/
theorem parse_eq {s : String} (h : p.text = s.toList) :
    parse s = (amount p.number.wholeDigits p.number.fractionDigits p.unitWord).map
      BitVec.toNat := by
  obtain ⟨hnumber, htail⟩ :=
    takeWhile_and_dropWhile p.number.isNumberChar_of_mem_text p.head?_tail
  have hsplit := splitNumber?_eq_some_iff.mpr ⟨p.number, rfl, rfl, rfl⟩
  have hunit : unitBytes? (String.ofList (lowerAscii p.unit)) = some p.unitWord :=
    unitBytes?_of_mem _ p.unit_mem
  simp only [parse, ← h, trim_text, hnumber, htail, trim_tail, hsplit, hunit]

end Spelling

/-- A text with a size has the parts of one. -/
theorem exists_spelling {s : String} {n : Nat} (h : parse s = .ok n) :
    ∃ p : Spelling, p.text = s.toList := by
  obtain ⟨before, after, hbefore, hafter, hs⟩ := exists_trim s.toList
  simp only [parse] at h
  split at h
  · cases h
  rename_i whole fraction hnumber
  split at h
  · cases h
  rename_i unit hunit
  obtain ⟨number, hnumber, -, -⟩ := splitNumber?_eq_some_iff.mp hnumber
  obtain ⟨between, behind, hbetween, hbehind, htail⟩ :=
    exists_trim ((trim s.toList).dropWhile isNumberChar)
  have hparts : trim s.toList = number.text ++ (trim s.toList).dropWhile isNumberChar := by
    rw [hnumber, List.takeWhile_append_dropWhile]
  generalize trim ((trim s.toList).dropWhile isNumberChar) = letters at hunit htail
  refine ⟨⟨before, number, between, letters, behind ++ after, unit.toNat, hbefore, hbetween,
    blanks_append.mpr ⟨hbehind, hafter⟩, mem_units_of_unitBytes? hunit⟩, ?_⟩
  rw [hs, hparts, htail]
  simp only [Spelling.text, List.append_assoc]

theorem parse_eq_ok_iff {s : String} {n : Nat} :
    parse s = .ok n ↔ ∃ p : Spelling, p.text = s.toList ∧ n = p.size ∧ n < 2 ^ 64 := by
  have hamount (p : Spelling) {size : BitVec 64} :
      amount p.number.wholeDigits p.number.fractionDigits p.unitWord = .ok size ↔ _ :=
    amount_eq_ok_iff p.wholeDigits_lt p.fractionDigits_lt p.isUnit
  constructor
  · intro h
    obtain ⟨p, hp⟩ := exists_spelling h
    rw [p.parse_eq hp] at h
    cases hsize : amount p.number.wholeDigits p.number.fractionDigits p.unitWord with
    | error fault =>
      rw [hsize] at h
      cases h
    | ok size =>
      rw [hsize] at h
      cases h
      obtain ⟨-, hexact⟩ := (hamount p).mp hsize
      rw [p.toNat_unitWord] at hexact
      exact ⟨p, hp, hexact, size.isLt⟩
  · rintro ⟨p, hp, rfl, hfits⟩
    have hword : (BitVec.ofNat 64 p.size).toNat = p.size := by
      rw [BitVec.toNat_ofNat, Nat.mod_eq_of_lt hfits]
    have hsize : exactBytes p.number.wholeDigits p.number.fractionDigits p.unitWord.toNat =
        p.size := by
      rw [p.toNat_unitWord, Spelling.size]
    rw [p.parse_eq hp, (hamount p).mpr ⟨hsize.symm ▸ hfits, hword.trans hsize.symm⟩]
    exact congrArg Except.ok hword

/-- A size is the exact one or none.  A text has a size just when it is spelled as one whose
    bytes are fewer than `2 ^ 64`; nothing wraps around on the way; of what is written fewer than
    two bytes are missing, and none but the part of a byte that is not whole where no digit is
    cut off, where the unit is decimal, and where it is at most `1024`. -/
theorem parse_exact :
    (∀ s n, parse s = .ok n ↔ ∃ p : Spelling, p.text = s.toList ∧ n = p.size ∧ n < 2 ^ 64) ∧
    ∀ p : Spelling,
      NothingWraps p.number.wholeDigits p.number.fractionDigits p.unitWord ∧
      (p.size : ℚ) ≤ p.value * p.bytes ∧ p.value * p.bytes < p.size + 2 ∧
      (p.number.fractionDigits.length ≤ 18 ∨ p.bytes ≤ 1024 ∨ (∃ k, p.bytes = 1000 ^ k) →
        p.size = ⌊p.value * p.bytes⌋₊) := by
  refine ⟨fun s n => parse_eq_ok_iff, ?_⟩
  intro p
  have hunit : p.bytes ≤ Nat.pow 10 18 := (units_bounds _ p.unit_mem).2.trans (by decide)
  obtain ⟨hle, hlt⟩ : (p.size : ℚ) ≤ p.value * p.bytes ∧ p.value * p.bytes < p.size + 2 :=
    exactBytes_bounds p.fractionDigits_lt hunit
  refine ⟨nothing_wraps p.wholeDigits_lt p.fractionDigits_lt p.isUnit, hle, hlt, ?_⟩
  intro h
  refine (floor_eq_exactBytes p.fractionDigits_lt ?_).symm
  rcases h with hshort | hkind
  · left
    exact hshort
  · right
    exact units_dvd p.unit_mem hkind

theorem parse_exact_one_and_a_half : parse " 1.5 GiB" = .ok 1610612736 ∧
    ∃ p : Spelling, p.text = " 1.5 GiB".toList ∧ p.number.fractionDigits.length ≤ 18 ∧
      1610612736 = ⌊p.value * p.bytes⌋₊ := by
  obtain ⟨hparse, hrounded⟩ := parse_exact
  let p : Spelling :=
    { before := [' ']
      number := ⟨['1'], some ['5'], List.cons_ne_nil _ _, List.forall_mem_singleton.mpr rfl,
        List.forall_mem_singleton.mpr rfl⟩
      between := [' '], unit := ['G', 'i', 'B'], after := [], bytes := 1024 ^ 3
      before_blanks := List.forall_mem_singleton.mpr rfl
      between_blanks := List.forall_mem_singleton.mpr rfl
      after_blanks := nofun
      unit_mem := by decide }
  have htext : p.text = " 1.5 GiB".toList := by decide
  have hsize : 1610612736 = p.size := by decide
  have hshort : p.number.fractionDigits.length ≤ 18 := by decide
  refine ⟨(hparse _ _).mpr ⟨p, htext, hsize, by decide⟩, p, htext, hshort, ?_⟩
  rw [hsize]
  exact (hrounded p).2.2.2 (Or.inl hshort)

end SyncFleet.ByteSize

/-
  SyncFleet/Proofs/Decimal/Numeral.lean
  =====================================
  **A number that is written is read back.**

  A run of digits always denotes a number (`natOfText?_eq_some`), and the number
  denoted by the digits of `n`, with or without zeros in front of them, is `n`
  (`natOfText?_natText`, `natOfText?_padded`).  A number that fits into its
  width is written in exactly that many digits (`length_padded`), and one that
  is written by itself begins with a zero only if it is zero
  (`length_natText_of_zero`).

  Digits behind others weigh less than the last of these
  (`ofDigits_append`, `ofDigits_lt`).
-/
import SyncFleet.Decimal.Numeral

namespace SyncFleet.Decimal

theorem digitVal?_eq_some {c : Char} (h : c.isDigit = true) :
    digitVal? c = some (c.toNat - '0'.toNat) := by
  rw [digitVal?, if_pos h]
  rfl

theorem mapM_digitVal?_eq_some {cs : List Char} (h : ∀ c ∈ cs, c.isDigit = true) :
    cs.mapM digitVal? = some (cs.map fun c => c.toNat - '0'.toNat) := by
  induction cs with
  | nil => rfl
  | cons c cs ih =>
    rw [List.mapM_cons, digitVal?_eq_some (h c List.mem_cons_self),
      ih fun d hd => h d (List.mem_cons_of_mem c hd)]
    rfl

/-- A run of digits denotes the number of its digit values. -/
theorem natOfText?_eq_some {cs : List Char} (hne : cs ≠ []) (h : ∀ c ∈ cs, c.isDigit = true) :
    natOfText? cs = some (Nat.ofDigitChars 10 cs 0) := by
  rw [natOfText?, if_neg (by simpa using hne), mapM_digitVal?_eq_some h, Option.map_some,
    ofDigits, List.foldl_map, Nat.ofDigitChars_eq_foldl]

theorem isDigit_of_mapM_digitVal? {cs : List Char} {ds : List Nat}
    (h : cs.mapM digitVal? = some ds) : ∀ c ∈ cs, c.isDigit = true := by
  induction cs generalizing ds with
  | nil => exact fun c hc => absurd hc List.not_mem_nil
  | cons c cs ih =>
    rw [List.mapM_cons] at h
    obtain ⟨d, hd, h⟩ := Option.bind_eq_some_iff.mp h
    obtain ⟨rest, hrest, -⟩ := Option.bind_eq_some_iff.mp h
    rw [digitVal?] at hd
    split at hd
    · rename_i hc
      exact List.forall_mem_cons.mpr ⟨hc, ih hrest⟩
    · cases hd

/-- Only runs of digits denote numbers. -/
theorem isDigit_of_natOfText? {cs : List Char} {n : Nat} (h : natOfText? cs = some n) :
    ∀ c ∈ cs, c.isDigit = true := by
  rw [natOfText?] at h
  split at h
  · cases h
  · obtain ⟨ds, hds, -⟩ := Option.map_eq_some_iff.mp h
    exact isDigit_of_mapM_digitVal? hds

/-! ### The value of some digits -/

/-- A number and the digits behind it. -/
def followed (n : Nat) (digits : List Nat) : Nat := digits.foldl (fun n d => 10 * n + d) n

theorem ofDigits_eq_followed (digits : List Nat) : ofDigits digits = followed 0 digits := rfl

theorem followed_eq (n : Nat) (digits : List Nat) :
    followed n digits = n * Nat.pow 10 digits.length + ofDigits digits := by
  induction digits generalizing n with
  | nil => exact (Nat.mul_one n).symm
  | cons d digits ih =>
    have hpow : Nat.pow 10 (d :: digits).length = 10 * Nat.pow 10 digits.length := Nat.mul_comm _ 10
    calc followed n (d :: digits) = followed (10 * n + d) digits := rfl
      _ = (10 * n + d) * Nat.pow 10 digits.length + ofDigits digits := ih _
      _ = 10 * n * Nat.pow 10 digits.length +
          (d * Nat.pow 10 digits.length + ofDigits digits) := by
        rw [Nat.add_mul, Nat.add_assoc]
      _ = n * Nat.pow 10 (d :: digits).length + followed (10 * 0 + d) digits := by
        rw [ih (10 * 0 + d), hpow, Nat.mul_comm 10 n, Nat.mul_assoc, Nat.mul_zero, Nat.zero_add]
      _ = n * Nat.pow 10 (d :: digits).length + ofDigits (d :: digits) := rfl

theorem ofDigits_cons (d : Nat) (digits : List Nat) :
    ofDigits (d :: digits) = d * Nat.pow 10 digits.length + ofDigits digits := by
  have hfirst : ofDigits (d :: digits) = followed (10 * 0 + d) digits := rfl
  rw [hfirst, followed_eq, Nat.mul_zero, Nat.zero_add]

/-- Digits behind a number make it no less. -/
theorem le_followed (n : Nat) (digits : List Nat) : n ≤ followed n digits := by
  have hpos : 0 < Nat.pow 10 digits.length := Nat.pow_pos (by decide)
  rw [followed_eq]
  exact Nat.le_trans (Nat.le_mul_of_pos_right n hpos) (Nat.le_add_right _ _)

/-- Some digits denote less than the next power of ten. -/
theorem ofDigits_lt {digits : List Nat} (h : ∀ d ∈ digits, d < 10) :
    ofDigits digits < Nat.pow 10 digits.length := by
  induction digits with
  | nil => decide
  | cons d digits ih =>
    obtain ⟨hd, hdigits⟩ := List.forall_mem_cons.mp h
    have hpow : Nat.pow 10 (d :: digits).length = 10 * Nat.pow 10 digits.length := Nat.mul_comm _ 10
    calc ofDigits (d :: digits) = d * Nat.pow 10 digits.length + ofDigits digits := ofDigits_cons d _
      _ < d * Nat.pow 10 digits.length + Nat.pow 10 digits.length :=
        Nat.add_lt_add_left (ih hdigits) _
      _ = (d + 1) * Nat.pow 10 digits.length := (Nat.succ_mul d _).symm
      _ ≤ 10 * Nat.pow 10 digits.length := Nat.mul_le_mul_right _ hd
      _ = Nat.pow 10 (d :: digits).length := hpow.symm

theorem ofDigits_append (xs ys : List Nat) :
    ofDigits (xs ++ ys) = ofDigits xs * Nat.pow 10 ys.length + ofDigits ys := by
  rw [← followed_eq, ofDigits_eq_followed, ofDigits_eq_followed, followed, List.foldl_append]
  rfl

/-- The values of digits. -/
def values (digits : List Char) : List Nat := digits.map fun c => c.toNat - '0'.toNat

theorem values_lt {digits : List Char} (h : ∀ c ∈ digits, c.isDigit = true) :
    ∀ d ∈ values digits, d < 10 := by
  intro d hd
  obtain ⟨c, hc, rfl⟩ := List.mem_map.mp hd
  have hdigit := Char.isDigit_iff_toNat.mp (h c hc)
  simp only [Char.reduceToNat] at hdigit ⊢
  omega

theorem mapM_digitVal?_eq_some_iff {digits : List Char} {ds : List Nat} :
    digits.mapM digitVal? = some ds ↔ (∀ c ∈ digits, c.isDigit = true) ∧ ds = values digits := by
  constructor
  · intro h
    have hdigits := isDigit_of_mapM_digitVal? h
    rw [mapM_digitVal?_eq_some hdigits] at h
    exact ⟨hdigits, (Option.some.inj h).symm⟩
  · rintro ⟨hdigits, rfl⟩
    exact mapM_digitVal?_eq_some hdigits

/-! ### The digits of a number -/

theorem natText_ne_nil (n : Nat) : natText n ≠ [] := Nat.toDigits_ne_nil

theorem isDigit_of_mem_natText {n : Nat} {c : Char} (h : c ∈ natText n) : c.isDigit = true :=
  Nat.isDigit_of_mem_toDigits (by decide) (by decide) h

@[simp] theorem natOfText?_natText (n : Nat) : natOfText? (natText n) = some n := by
  rw [natOfText?_eq_some (natText_ne_nil n) fun c => isDigit_of_mem_natText, natText,
    Nat.ofDigitChars_ten_toDigits]

theorem ofDigits_values_natText (n : Nat) : ofDigits (values (natText n)) = n := by
  have hread := natOfText?_natText n
  rw [natOfText?, if_neg (by simpa using natText_ne_nil n),
    mapM_digitVal?_eq_some fun c => isDigit_of_mem_natText, Option.map_some] at hread
  exact Option.some.inj hread

/-- Only zero is written with a zero in front. -/
theorem length_natText_of_zero {n : Nat} (h : (natText n).head? = some '0') :
    (natText n).length = 1 := by
  obtain ⟨ds, hds⟩ := List.head?_eq_some_iff.mp h
  have hdigits : ∀ c ∈ ds, c.isDigit = true := by
    intro c hc
    exact isDigit_of_mem_natText (hds ▸ List.mem_cons_of_mem '0' hc)
  -- the digits behind the zero denote the number, so they alone would be enough
  have hn : n = ofDigits (values ds) := by
    have hvalue := ofDigits_values_natText n
    rw [hds, values, List.map_cons, ofDigits_cons, Nat.sub_self, Nat.zero_mul, Nat.zero_add]
      at hvalue
    exact hvalue.symm
  have hlt : n < Nat.pow 10 ds.length := by
    have hbound := ofDigits_lt (values_lt hdigits)
    rwa [← hn, values, List.length_map] at hbound
  cases hempty : ds with
  | nil => rw [hds, hempty, List.length_singleton]
  | cons c cs =>
    have hpos : 0 < ds.length := by
      rw [hempty]
      exact Nat.succ_pos _
    have hle := (Nat.length_toDigits_le_iff (by decide) hpos).mpr hlt
    rw [← natText, hds, List.length_cons] at hle
    omega

theorem padded_ne_nil (width n : Nat) : padded width n ≠ [] := by
  rw [padded]
  exact List.append_ne_nil_of_right_ne_nil _ (natText_ne_nil n)

theorem isDigit_of_mem_padded {width n : Nat} {c : Char} (h : c ∈ padded width n) :
    c.isDigit = true := by
  rcases List.mem_append.mp h with h | h
  · rw [List.eq_of_mem_replicate h]
    rfl
  · exact isDigit_of_mem_natText h

/-- Zeros in front of a number do not change what it denotes. -/
@[simp] theorem natOfText?_padded (width n : Nat) : natOfText? (padded width n) = some n := by
  rw [natOfText?_eq_some (padded_ne_nil width n) fun c => isDigit_of_mem_padded, padded,
    Nat.ofDigitChars_append, Nat.ofDigitChars_replicate_zero, Nat.mul_zero, natText,
    Nat.ofDigitChars_ten_toDigits]

/-- A number that fits into the width is written in exactly that many digits. -/
theorem length_padded {width n : Nat} (hpos : 0 < width) (h : n < Nat.pow 10 width) :
    (padded width n).length = width := by
  have hle : (natText n).length ≤ width :=
    (Nat.length_toDigits_le_iff (by decide) hpos).mpr h
  rw [padded, List.length_append, List.length_replicate, Nat.sub_add_cancel hle]

end SyncFleet.Decimal

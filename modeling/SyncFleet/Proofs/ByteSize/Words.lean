/-
  SyncFleet/Proofs/ByteSize/Words.lean
  ====================================
  **Sizes are computed exactly although they are computed in words.**

  A checked step gives the exact result or none (`checked_eq_some_iff`), and a
  step that fails cannot be made good by a later one, because digits and units
  only make a number greater.  So a run of digits is read exactly when its
  number fits (`wordOfDigits?_eq_some_iff`).  Behind the point
  there are at most eighteen digits, and no unit has more than 40 bits: nothing
  there comes near the 128 bits of a word (`nothing_wraps`), and what is left
  after the division fits into 64.

  Both together make the amount the exact one whenever that is below 2^64
  (`amount_eq_ok_iff`).
-/
import Mathlib.Algebra.Order.Group.Nat
import SyncFleet.ByteSize
import SyncFleet.Proofs.Decimal.Numeral

namespace SyncFleet.ByteSize

open Decimal

variable {w : Nat}

/-! ### Checked steps -/

/-- A checked step gives the exact number if that fits into a word. -/
theorem checked_eq_some_iff {n : Nat} {r c : BitVec w} (hr : r.toNat = n % 2 ^ w) :
    (if decide (n ≥ 2 ^ w) = true then none else some r) = some c ↔ n < 2 ^ w ∧ c.toNat = n := by
  by_cases h : n < 2 ^ w
  · rw [Nat.mod_eq_of_lt h] at hr
    rw [decide_eq_false (Nat.not_le.mpr h), if_neg Bool.false_ne_true, Option.some.injEq]
    constructor
    · rintro rfl
      exact ⟨h, hr⟩
    · rintro ⟨-, hc⟩
      exact BitVec.eq_of_toNat_eq (hr.trans hc.symm)
  · rw [decide_eq_true (Nat.not_lt.mp h), if_pos rfl]
    exact iff_of_false nofun fun hfits => h hfits.1

theorem product?_eq_some_iff {a b c : BitVec w} :
    product? a b = some c ↔ a.toNat * b.toNat < 2 ^ w ∧ c.toNat = a.toNat * b.toNat :=
  checked_eq_some_iff (BitVec.toNat_mul a b)

theorem sum?_eq_some_iff {a b c : BitVec w} :
    sum? a b = some c ↔ a.toNat + b.toNat < 2 ^ w ∧ c.toNat = a.toNat + b.toNat :=
  checked_eq_some_iff (BitVec.toNat_add a b)

/-! ### Digits -/

theorem shiftIn?_eq_some_iff {n m : BitVec w} {d : Nat} (hw : 10 < 2 ^ w) (hd : d < 10) :
    shiftIn? n d = some m ↔ 10 * n.toNat + d < 2 ^ w ∧ m.toNat = 10 * n.toNat + d := by
  have hten : (BitVec.ofNat w 10).toNat = 10 := by
    rw [BitVec.toNat_ofNat, Nat.mod_eq_of_lt hw]
  have hdigit : (BitVec.ofNat w d).toNat = d := by
    rw [BitVec.toNat_ofNat, Nat.mod_eq_of_lt (hd.trans hw)]
  unfold shiftIn?
  rw [Option.bind_eq_some_iff]
  simp only [product?_eq_some_iff, sum?_eq_some_iff, hten, hdigit]
  constructor
  · rintro ⟨tens, ⟨_, htens⟩, hfits, hm⟩
    omega
  · rintro ⟨hfits, hm⟩
    have hlt : n.toNat * 10 < 2 ^ w := by omega
    have htens : (BitVec.ofNat w (n.toNat * 10)).toNat = n.toNat * 10 := by
      rw [BitVec.toNat_ofNat, Nat.mod_eq_of_lt hlt]
    exact ⟨.ofNat w (n.toNat * 10), ⟨hlt, htens⟩, by omega, by omega⟩

theorem foldlM_shiftIn?_eq_some_iff {digits : List Nat} (hw : 10 < 2 ^ w)
    (hdigits : ∀ d ∈ digits, d < 10) {n m : BitVec w} :
    digits.foldlM shiftIn? n = some m ↔
      followed n.toNat digits < 2 ^ w ∧ m.toNat = followed n.toNat digits := by
  induction digits generalizing n with
  | nil =>
    change some n = some m ↔ n.toNat < 2 ^ w ∧ m.toNat = n.toNat
    rw [Option.some.injEq]
    constructor
    · rintro rfl
      exact ⟨n.isLt, rfl⟩
    · rintro ⟨_, hm⟩
      exact BitVec.eq_of_toNat_eq hm.symm
  | cons d digits ih =>
    obtain ⟨hd, hrest⟩ := List.forall_mem_cons.mp hdigits
    rw [List.foldlM_cons, Option.bind_eq_bind, Option.bind_eq_some_iff]
    change _ ↔ followed (10 * n.toNat + d) digits < 2 ^ w ∧
      m.toNat = followed (10 * n.toNat + d) digits
    constructor
    · rintro ⟨k, hk, hm⟩
      obtain ⟨_, hk⟩ := (shiftIn?_eq_some_iff hw hd).mp hk
      rw [← hk]
      exact (ih hrest).mp hm
    · rintro ⟨hfits, hm⟩
      -- the number so far is no greater than the whole one, which fits
      have hlt : 10 * n.toNat + d < 2 ^ w := lt_of_le_of_lt (le_followed _ digits) hfits
      have hk : (BitVec.ofNat w (10 * n.toNat + d)).toNat = 10 * n.toNat + d := by
        rw [BitVec.toNat_ofNat, Nat.mod_eq_of_lt hlt]
      refine ⟨.ofNat w (10 * n.toNat + d), (shiftIn?_eq_some_iff hw hd).mpr ⟨hlt, hk⟩, ?_⟩
      rw [ih hrest, hk]
      exact ⟨hfits, hm⟩

/-- Digits are read as a word exactly when their number fits into it. -/
theorem wordOfDigits?_eq_some_iff {digits : List Nat} (hw : 10 < 2 ^ w)
    (hdigits : ∀ d ∈ digits, d < 10) {m : BitVec w} :
    wordOfDigits? w digits = some m ↔ ofDigits digits < 2 ^ w ∧ m.toNat = ofDigits digits := by
  have hzero : (BitVec.ofNat w 0).toNat = 0 := by simp
  rw [wordOfDigits?, foldlM_shiftIn?_eq_some_iff hw hdigits, hzero, ofDigits_eq_followed]

/-! ### Behind the point -/

/-- Whether a word is what units are: at least one byte, and no more than `1024 ^ 4`. -/
def IsUnit (unit : BitVec 64) : Prop := 0 < unit.toNat ∧ unit.toNat ≤ 1099511627776

/-- Digits behind the point that are looked at, and a unit. -/
structure Counted (digits : List Nat) (unit : BitVec 64) : Prop where
  digit : ∀ d ∈ digits, d < 10
  length : digits.length ≤ 18
  unit : IsUnit unit

/-- The words that are formed behind the point have the values of the numbers they stand for:
    the numerator, the power of ten under it, its product with the unit, and the quotient. -/
structure FractionExact (digits : List Nat) (unit : BitVec 64) : Prop where
  numerator : ∃ n, wordOfDigits? 128 digits = some n
  value : ∀ n, wordOfDigits? 128 digits = some n → n.toNat = ofDigits digits
  denominator : (placeValue digits.length).toNat = Nat.pow 10 digits.length
  product : ∀ n, wordOfDigits? 128 digits = some n →
    (n * unit.setWidth 128).toNat = ofDigits digits * unit.toNat
  quotient : ∀ n, wordOfDigits? 128 digits = some n →
    (scaled n unit digits.length).toNat =
      ofDigits digits * unit.toNat / Nat.pow 10 digits.length

namespace Counted

variable {digits : List Nat} {unit : BitVec 64}

theorem pow_le (h : Counted digits unit) : Nat.pow 10 digits.length ≤ Nat.pow 10 18 :=
  Nat.pow_le_pow_right (by decide) h.length

theorem ofDigits_lt (h : Counted digits unit) : ofDigits digits < Nat.pow 10 18 :=
  lt_of_lt_of_le (Decimal.ofDigits_lt h.digit) h.pow_le

/-- A part of a unit is less than the unit. -/
theorem quotient_lt (h : Counted digits unit) :
    ofDigits digits * unit.toNat / Nat.pow 10 digits.length < unit.toNat := by
  have hpos : 0 < Nat.pow 10 digits.length := Nat.pow_pos (by decide)
  rw [Nat.div_lt_iff_lt_mul hpos, Nat.mul_comm]
  exact Nat.mul_lt_mul_of_pos_left (Decimal.ofDigits_lt h.digit) h.unit.1

theorem product_lt (h : Counted digits unit) : ofDigits digits * unit.toNat < 2 ^ 128 := by
  have hle : ofDigits digits * unit.toNat ≤ Nat.pow 10 18 * 1099511627776 :=
    Nat.mul_le_mul h.ofDigits_lt.le h.unit.2
  exact lt_of_le_of_lt hle (by decide)

theorem exact (h : Counted digits unit) : FractionExact digits unit := by
  have hread {n : BitVec 128} := wordOfDigits?_eq_some_iff (w := 128) (m := n) (by decide) h.digit
  have hfits : ofDigits digits < 2 ^ 128 := h.ofDigits_lt.trans (by decide)
  have hunit : (unit.setWidth 128).toNat = unit.toNat := by
    rw [BitVec.toNat_setWidth, Nat.mod_eq_of_lt (unit.isLt.trans (by decide))]
  have hplace : (placeValue digits.length).toNat = Nat.pow 10 digits.length := by
    rw [placeValue, BitVec.toNat_ofNat, Nat.mod_eq_of_lt (lt_of_le_of_lt h.pow_le (by decide))]
  have hproduct : ∀ n, wordOfDigits? 128 digits = some n →
      (n * unit.setWidth 128).toNat = ofDigits digits * unit.toNat := by
    intro n hn
    rw [BitVec.toNat_mul, hunit, (hread.mp hn).2, Nat.mod_eq_of_lt h.product_lt]
  refine ⟨?_, fun n hn => (hread.mp hn).2, hplace, hproduct, ?_⟩
  · refine ⟨.ofNat 128 (ofDigits digits), hread.mpr ⟨hfits, ?_⟩⟩
    rw [BitVec.toNat_ofNat, Nat.mod_eq_of_lt hfits]
  · intro n hn
    have hsmall := h.quotient_lt.trans unit.isLt
    rw [scaled, BitVec.toNat_setWidth, BitVec.toNat_udiv, hproduct n hn, hplace,
      Nat.mod_eq_of_lt hsmall]

end Counted

/-! ### Amounts -/

/-- The bytes of a number in a unit, of whose digits behind the point the first eighteen count. -/
def exactBytes (whole fraction : List Nat) (unit : Nat) : Nat :=
  ofDigits whole * unit +
    ofDigits (fraction.take countedPlaces) * unit /
      Nat.pow 10 (fraction.take countedPlaces).length

section Amount

variable {whole fraction : List Nat} {unit : BitVec 64}

theorem counted_take (hfraction : ∀ d ∈ fraction, d < 10) (hunit : IsUnit unit) :
    Counted (fraction.take countedPlaces) unit where
  digit d hd := hfraction d (List.mem_of_mem_take hd)
  length := List.length_take_le _ _
  unit := hunit

/-- The digits behind the point always add a number of bytes, the exact one. -/
theorem fractionBytes_eq (hfraction : ∀ d ∈ fraction, d < 10) (hunit : IsUnit unit) :
    ∃ more, fractionBytes fraction unit = .ok more ∧
      more.toNat = ofDigits (fraction.take countedPlaces) * unit.toNat /
        Nat.pow 10 (fraction.take countedPlaces).length := by
  have hexact := (counted_take hfraction hunit).exact
  generalize hdigits : fraction.take countedPlaces = digits at hexact
  unfold fractionBytes
  simp only [hdigits]
  by_cases hempty : digits = []
  · subst hempty
    refine ⟨.ofNat 64 0, rfl, ?_⟩
    change 0 = 0 * unit.toNat / 1
    rw [Nat.zero_mul, Nat.zero_div]
  · obtain ⟨n, hn⟩ := hexact.numerator
    rw [if_neg (by simpa using hempty), hn]
    exact ⟨_, rfl, hexact.quotient n hn⟩

/-- An amount is the exact number of bytes, or there are too many of them. -/
theorem amount_eq_ok_iff (hwhole : ∀ d ∈ whole, d < 10) (hfraction : ∀ d ∈ fraction, d < 10)
    (hunit : IsUnit unit) {size : BitVec 64} :
    amount whole fraction unit = .ok size ↔
      exactBytes whole fraction unit.toNat < 2 ^ 64 ∧
        size.toNat = exactBytes whole fraction unit.toNat := by
  have hread {n : BitVec 64} := wordOfDigits?_eq_some_iff (w := 64) (m := n) (by decide) hwhole
  obtain ⟨more, hmore, hvalue⟩ := fractionBytes_eq hfraction hunit
  have hexact : exactBytes whole fraction unit.toNat = ofDigits whole * unit.toNat + more.toNat := by
    rw [exactBytes, hvalue]
  have hpart : ∀ bytes, (wordOfDigits? 64 whole).bind (product? · unit) = some bytes ↔
      ofDigits whole * unit.toNat < 2 ^ 64 ∧ bytes.toNat = ofDigits whole * unit.toNat := by
    intro bytes
    rw [Option.bind_eq_some_iff]
    constructor
    · rintro ⟨n, hn, hbytes⟩
      rw [product?_eq_some_iff, (hread.mp hn).2] at hbytes
      exact hbytes
    · rintro ⟨hfits, hbytes⟩
      have hlt : ofDigits whole < 2 ^ 64 :=
        lt_of_le_of_lt (Nat.le_mul_of_pos_right _ hunit.1) hfits
      have hn : (BitVec.ofNat 64 (ofDigits whole)).toNat = ofDigits whole := by
        rw [BitVec.toNat_ofNat, Nat.mod_eq_of_lt hlt]
      refine ⟨.ofNat 64 (ofDigits whole), hread.mpr ⟨hlt, hn⟩, ?_⟩
      rw [product?_eq_some_iff, hn]
      exact ⟨hfits, hbytes⟩
  rw [hexact]
  unfold amount
  cases hbytes : (wordOfDigits? 64 whole).bind (product? · unit) with
  | none =>
    constructor
    · intro h
      cases h
    · rintro ⟨hfits, _⟩
      -- the part before the point would fit as well
      have hsome := (hpart (.ofNat 64 (ofDigits whole * unit.toNat))).mpr
        ⟨by omega, by rw [BitVec.toNat_ofNat, Nat.mod_eq_of_lt (by omega)]⟩
      rw [hbytes] at hsome
      cases hsome
  | some bytes =>
    have hvalue := ((hpart bytes).mp hbytes).2
    rw [hmore, ← hvalue, ← sum?_eq_some_iff]
    simp only [Except.bind]
    cases hsum : sum? bytes more with
    | none => simp
    | some total => simp

/-- No word that is formed on the way to an amount has wrapped around: each of them, as far as
    it is formed, has the value of the number that it stands for. -/
structure NothingWraps (whole fraction : List Nat) (unit : BitVec 64) : Prop where
  beforePoint : ∀ n, wordOfDigits? 64 whole = some n → n.toNat = ofDigits whole
  bytesBefore : ∀ n p, wordOfDigits? 64 whole = some n → product? n unit = some p →
    p.toNat = ofDigits whole * unit.toNat
  behindPoint : FractionExact (fraction.take countedPlaces) unit
  size : ∀ size, amount whole fraction unit = .ok size →
    size.toNat = exactBytes whole fraction unit.toNat

theorem nothing_wraps (hwhole : ∀ d ∈ whole, d < 10) (hfraction : ∀ d ∈ fraction, d < 10)
    (hunit : IsUnit unit) : NothingWraps whole fraction unit := by
  have hread {n : BitVec 64} := wordOfDigits?_eq_some_iff (w := 64) (m := n) (by decide) hwhole
  refine ⟨fun n hn => (hread.mp hn).2, ?_, (counted_take hfraction hunit).exact, ?_⟩
  · intro n p hn hp
    rw [← (hread.mp hn).2]
    exact (product?_eq_some_iff.mp hp).2
  · intro size hsize
    exact ((amount_eq_ok_iff hwhole hfraction hunit).mp hsize).2

end Amount

end SyncFleet.ByteSize

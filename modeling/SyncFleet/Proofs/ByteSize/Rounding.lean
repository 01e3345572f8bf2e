/-
  SyncFleet/Proofs/ByteSize/Rounding.lean
  =======================================
  **How far the number of bytes is from the number that is written.**

  A decimal is a fraction, `W.F` being `F` over a power of ten beside `W`
  (`decimalValue`).  Bytes are rounded down twice: once because only eighteen
  digits behind the point count, once because bytes are whole.  Neither loses
  as much as one byte, so fewer than two are missing (`exactBytes_bounds`).

  The first rounding is idle where no digit is left out.  It is idle as well
  where the unit divides `10 ^ 18`: the digits that count are then a whole
  number of small parts of a byte, and the digits left out are less than one
  such part (`floor_eq_exactBytes`).
-/
import Mathlib.Algebra.Order.Floor.Semifield
import Mathlib.Data.Rat.Floor
import SyncFleet.Proofs.ByteSize.Words

namespace SyncFleet.ByteSize

open Decimal

/-! ### A numerator and what is cut off behind it

`a` over `p` is what counts; `r` over `p * e` is what is cut off. -/

section Cut

variable {a p r e unit : ℕ}

theorem quotient_mul_le : a * unit / p * (p * e) ≤ (a * e + r) * unit :=
  calc a * unit / p * (p * e) = a * unit / p * p * e := (Nat.mul_assoc _ _ _).symm
    _ ≤ a * unit * e := Nat.mul_le_mul_right e (Nat.div_mul_le_self _ _)
    _ = a * e * unit := Nat.mul_right_comm a unit e
    _ ≤ (a * e + r) * unit := Nat.mul_le_mul_right unit (Nat.le_add_right _ _)

theorem lt_quotient_add_two_mul (hp : 0 < p) (hrest : r * unit < p * e) :
    (a * e + r) * unit < (a * unit / p + 2) * (p * e) := by
  have hcounted : a * unit ≤ (a * unit / p + 1) * p := by
    rw [Nat.mul_comm _ p]
    exact (Nat.lt_mul_div_succ _ hp).le
  calc (a * e + r) * unit = a * unit * e + r * unit := by ring
    _ < (a * unit / p + 1) * p * e + p * e :=
      Nat.add_lt_add_of_le_of_lt (Nat.mul_le_mul_right e hcounted) hrest
    _ = (a * unit / p + 2) * (p * e) := by ring

theorem quotient_eq (hr : r < e) (hunit : unit ∣ p) (hp : 0 < p) :
    (a * e + r) * unit / (p * e) = a * unit / p := by
  obtain ⟨c, rfl⟩ := hunit
  have hpos : 0 < unit := Nat.pos_of_mul_pos_right hp
  have he : 0 < e := Nat.zero_lt_of_lt hr
  calc (a * e + r) * unit / (unit * c * e) = unit * (a * e + r) / (unit * (e * c)) := by
        rw [Nat.mul_comm _ unit, Nat.mul_assoc, Nat.mul_comm c e]
    _ = (a * e + r) / e / c := by
        rw [Nat.mul_div_mul_left _ _ hpos, Nat.div_div_eq_div_mul]
    _ = a / c := by
        rw [Nat.mul_comm a e, Nat.mul_add_div he, Nat.div_eq_of_lt hr, Nat.add_zero]
    _ = a * unit / (unit * c) := by
        rw [Nat.mul_comm a unit, Nat.mul_div_mul_left _ _ hpos]

end Cut

/-! ### The digits that count and those that do not -/

theorem ofDigits_cut (fraction : List Nat) :
    ofDigits fraction = ofDigits (fraction.take countedPlaces) *
      Nat.pow 10 (fraction.drop countedPlaces).length + ofDigits (fraction.drop countedPlaces) := by
  rw [← ofDigits_append, List.take_append_drop]

theorem pow_cut (fraction : List Nat) :
    Nat.pow 10 fraction.length = Nat.pow 10 (fraction.take countedPlaces).length *
      Nat.pow 10 (fraction.drop countedPlaces).length := by
  have hlength : fraction.length =
      (fraction.take countedPlaces).length + (fraction.drop countedPlaces).length := by
    rw [← List.length_append, List.take_append_drop]
  rw [hlength]
  exact Nat.pow_add 10 _ _

/-- Digits are cut off only behind eighteen others. -/
theorem cut_cases (fraction : List Nat) :
    fraction.drop countedPlaces = [] ∨ (fraction.take countedPlaces).length = countedPlaces := by
  by_cases h : fraction.length ≤ countedPlaces
  · left
    exact List.drop_eq_nil_of_le h
  · right
    exact List.length_take_of_le (by omega)

/-! ### Values -/

/-- The value of some digits before a point and some behind it. -/
def decimalValue (whole fraction : List Nat) : ℚ :=
  ofDigits whole + ofDigits fraction / (Nat.pow 10 fraction.length : ℕ)

section Value

variable {whole fraction : List Nat} {unit : ℕ}

theorem decimalValue_mul (whole fraction : List Nat) (unit : ℕ) :
    decimalValue whole fraction * unit = (ofDigits whole * unit : ℕ) +
      ((ofDigits fraction * unit : ℕ) : ℚ) / (Nat.pow 10 fraction.length : ℕ) := by
  rw [decimalValue, add_mul, div_mul_eq_mul_div, Nat.cast_mul, Nat.cast_mul]

/-- The bytes are no more than what is written, and fewer than two are missing. -/
theorem exactBytes_bounds (hfraction : ∀ d ∈ fraction, d < 10)
    (hunit : unit ≤ Nat.pow 10 18) :
    (exactBytes whole fraction unit : ℚ) ≤ decimalValue whole fraction * unit ∧
      decimalValue whole fraction * unit < exactBytes whole fraction unit + 2 := by
  have hplace : (0 : ℚ) < (Nat.pow 10 fraction.length : ℕ) :=
    Nat.cast_pos.mpr (Nat.pow_pos (by decide))
  have hrest : ofDigits (fraction.drop countedPlaces) * unit <
      Nat.pow 10 (fraction.take countedPlaces).length *
        Nat.pow 10 (fraction.drop countedPlaces).length := by
    have hlt := ofDigits_lt fun d hd => hfraction d (List.mem_of_mem_drop (i := countedPlaces) hd)
    rcases cut_cases fraction with hnil | hlong
    · rw [hnil]
      change 0 * unit < _ * 1
      rw [Nat.zero_mul, Nat.mul_one]
      exact Nat.pow_pos (by decide)
    · rw [hlong, Nat.mul_comm]
      exact Nat.mul_lt_mul_of_le_of_lt hunit hlt (Nat.pow_pos (by decide))
  rw [decimalValue_mul, exactBytes, Nat.cast_add, add_assoc, add_le_add_iff_left,
    add_lt_add_iff_left, le_div_iff₀ hplace, div_lt_iff₀ hplace, pow_cut fraction]
  norm_cast
  rw [ofDigits_cut fraction]
  exact ⟨quotient_mul_le, lt_quotient_add_two_mul (Nat.pow_pos (by decide)) hrest⟩

/-- The bytes are what is written, rounded down, where no digit is cut off and where the unit is
    a whole number of times a digit in the eighteenth place. -/
theorem floor_eq_exactBytes (hfraction : ∀ d ∈ fraction, d < 10)
    (h : fraction.length ≤ countedPlaces ∨ unit ∣ Nat.pow 10 18) :
    ⌊decimalValue whole fraction * unit⌋₊ = exactBytes whole fraction unit := by
  have hpart : ofDigits fraction * unit / Nat.pow 10 fraction.length =
      ofDigits (fraction.take countedPlaces) * unit /
        Nat.pow 10 (fraction.take countedPlaces).length := by
    by_cases hshort : fraction.length ≤ countedPlaces
    · rw [List.take_of_length_le hshort]
    · have hlong : (fraction.take countedPlaces).length = countedPlaces :=
        List.length_take_of_le (by omega)
      have hunit : unit ∣ Nat.pow 10 (fraction.take countedPlaces).length := by
        rw [hlong]
        exact h.resolve_left hshort
      have hlt := ofDigits_lt fun d hd => hfraction d (List.mem_of_mem_drop (i := countedPlaces) hd)
      rw [ofDigits_cut fraction, pow_cut fraction]
      exact quotient_eq hlt hunit (Nat.pow_pos (by decide))
  rw [decimalValue_mul, add_comm, Nat.floor_add_natCast (by positivity), Nat.floor_div_eq_div,
    hpart, Nat.add_comm, exactBytes]

end Value

end SyncFleet.ByteSize

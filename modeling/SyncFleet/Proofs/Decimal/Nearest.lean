/-
  SyncFleet/Proofs/Decimal/Nearest.lean
  =====================================
  **A fraction is rounded to the nearest number, a tie to the even significand.**

  Rounding is told without the algorithm.  `Nearest x m e` says that among the
  magnitudes of 53 bits, whatever their exponent, `m * 2 ^ e` is as near to `x`
  as any, and that `m` is even if another one is equally near.  There is one
  such magnitude (`Nearest.unique`): of two equally near ones the upper follows
  the lower on its grid, so that one of the two significands is odd.
  `Rounds x b` adds the sign, and the infinity in place of an exponent that is
  too great.

  The algorithm finds the grid on which the fraction has 53 bits
  (`fits_scaleOf`), and between two neighbours of that grid there is no other
  magnitude (`Fits.le_or_succ_le`).  The main statements are `Rounds.ofInt` and
  `Rounds.unique`.
-/
import Mathlib.Algebra.Order.Field.Power
import Mathlib.Algebra.Order.Field.Rat
import Mathlib.Data.Nat.Cast.Order.Field
import Mathlib.Tactic.FieldSimp
import Mathlib.Tactic.Linarith
import Mathlib.Tactic.NormNum
import Mathlib.Tactic.Ring
import SyncFleet.Decimal.Binary64

namespace SyncFleet.Decimal.Binary64

/-! ### Magnitudes -/

/-- Whether a significand has 53 bits at an exponent: no more, and no fewer unless the exponent is
    the least. -/
structure Fits (m : Nat) (e : Int) : Prop where
  bits : m < 2 * leastNormal
  least : minExponent ≤ e
  full : leastNormal ≤ m ∨ e = minExponent

/-- The magnitude of a significand and an exponent. -/
def magnitude (m : Nat) (e : Int) : ℚ := m * 2 ^ e

variable {x : ℚ} {m m' q : Nat} {e e' : Int}

theorem two_zpow_pos (e : Int) : (0 : ℚ) < 2 ^ e := zpow_pos two_pos e

theorem two_zpow_succ (e : Int) : (2 : ℚ) ^ (e + 1) = 2 * 2 ^ e := by
  rw [zpow_add_one₀ two_ne_zero, mul_comm]

theorem magnitude_succ (m : Nat) (e : Int) : magnitude (m + 1) e = magnitude m e + 2 ^ e := by
  simp only [magnitude]
  push_cast
  ring

/-- At an exponent that is greater by one half the significand will do. -/
theorem magnitude_carry (m : Nat) (e : Int) : magnitude (2 * m) e = magnitude m (e + 1) := by
  simp only [magnitude, two_zpow_succ]
  push_cast
  ring

theorem magnitude_le (h : m ≤ m') (e : Int) : magnitude m e ≤ magnitude m' e :=
  mul_le_mul_of_nonneg_right (Nat.cast_le.mpr h) (two_zpow_pos e).le

/-- What has a greater exponent lies on the grid of a smaller one. -/
theorem exists_magnitude_eq (h : e ≤ e') (m : Nat) : ∃ k, magnitude m e' = magnitude k e := by
  obtain ⟨d, rfl⟩ := Int.le.dest h
  refine ⟨m * 2 ^ d, ?_⟩
  simp only [magnitude]
  rw [zpow_add₀ two_ne_zero, zpow_natCast]
  push_cast
  ring

/-- Where exponents differ, so do magnitudes, and in the same order. -/
theorem Fits.magnitude_lt (h : Fits m e) (h' : Fits m' e') (hlt : e < e') :
    magnitude m e < magnitude m' e' := by
  have hfull : leastNormal ≤ m' := h'.full.resolve_right fun hleast => by
    have := h.least
    omega
  calc magnitude m e
    _ < magnitude (2 * leastNormal) e :=
      mul_lt_mul_of_pos_right (Nat.cast_lt.mpr h.bits) (two_zpow_pos e)
    _ = magnitude leastNormal (e + 1) := magnitude_carry _ e
    _ ≤ magnitude leastNormal e' := mul_le_mul_of_nonneg_left
      (zpow_le_zpow_right₀ one_le_two (Int.add_one_le_of_lt hlt)) (Nat.cast_nonneg _)
    _ ≤ magnitude m' e' := magnitude_le hfull e'

/-- A magnitude has one significand and one exponent. -/
theorem Fits.ext (h : Fits m e) (h' : Fits m' e') (heq : magnitude m e = magnitude m' e') :
    m = m' ∧ e = e' := by
  rcases lt_trichotomy e e' with hlt | rfl | hlt
  · exact absurd heq (h.magnitude_lt h' hlt).ne
  · exact ⟨Nat.cast_injective (mul_right_cancel₀ (two_zpow_pos e).ne' heq), rfl⟩
  · exact absurd heq.symm (h'.magnitude_lt h hlt).ne

/-- Between two neighbours on a grid that has 53 bits there is no magnitude. -/
theorem Fits.le_or_succ_le (h : Fits q e) (h' : Fits m' e') :
    magnitude m' e' ≤ magnitude q e ∨ magnitude (q + 1) e ≤ magnitude m' e' := by
  rcases le_or_gt e e' with hle | hlt
  · obtain ⟨k, hk⟩ := exists_magnitude_eq hle m'
    rw [hk]
    exact (Nat.lt_or_ge q k).symm.imp (magnitude_le · e) (magnitude_le · e)
  · exact Or.inl (h'.magnitude_lt h hlt).le

/-- A significand that rounding has brought to one bit too many is halved. -/
def carried (m : Nat) (e : Int) : Nat × Int :=
  if m = 2 * leastNormal then (leastNormal, e + 1) else (m, e)

theorem magnitude_carried (m : Nat) (e : Int) :
    magnitude (carried m e).1 (carried m e).2 = magnitude m e := by
  unfold carried
  split
  · subst m
    exact (magnitude_carry leastNormal e).symm
  · rfl

/-- Halving that significand leaves an even one. -/
theorem carried_even (m : Nat) (e : Int) : (carried m e).1 % 2 = m % 2 := by
  unfold carried
  split
  · rw [‹m = 2 * leastNormal›]
    exact (by decide : leastNormal % 2 = 2 * leastNormal % 2)
  · rfl

/-- The successor of a magnitude on its grid is a magnitude as well. -/
theorem Fits.carried_succ (h : Fits m e) :
    Fits (carried (m + 1) e).1 (carried (m + 1) e).2 := by
  obtain ⟨hbits, hleast, hfull⟩ := h
  unfold carried
  split
  · exact ⟨(by decide : leastNormal < 2 * leastNormal), by simp only; omega, Or.inl le_rfl⟩
  · exact ⟨by simp only; omega, hleast, hfull.imp_left fun hle => by simp only; omega⟩

theorem carried_of_fits (h : Fits m e) : carried m e = (m, e) :=
  if_neg h.bits.ne

/-! ### The nearest magnitude -/

/-- Whether a significand and an exponent are nearest to a number that is not negative. -/
structure Nearest (x : ℚ) (m : Nat) (e : Int) : Prop where
  fits : Fits m e
  nearest : ∀ m' e', Fits m' e' → |magnitude m e - x| ≤ |magnitude m' e' - x|
  even : ∀ m' e', Fits m' e' → magnitude m' e' ≠ magnitude m e →
    |magnitude m' e' - x| = |magnitude m e - x| → m % 2 = 0

/-- Of two magnitudes that are equally near the greater one follows the other on its grid. -/
theorem Nearest.eq_succ (h : Nearest x m e) (h' : Nearest x m' e')
    (hlt : magnitude m e < magnitude m' e') : magnitude m' e' = magnitude (m + 1) e := by
  have heq : |magnitude m e - x| = |magnitude m' e' - x| :=
    le_antisymm (h.nearest _ _ h'.fits) (h'.nearest _ _ h.fits)
  have hhalf : x - magnitude m e = magnitude m' e' - x := by
    rcases abs_eq_abs.mp heq with hsame | hopposite
    · linarith
    · linarith
  rcases h.fits.le_or_succ_le h'.fits with hle | hle
  · exact absurd hlt hle.not_gt
  · -- otherwise the successor would be nearer than both
    by_contra hne
    have hnext := h.nearest _ _ h.fits.carried_succ
    rw [magnitude_carried] at hnext
    have hstep : magnitude m e < magnitude (m + 1) e := by
      rw [magnitude_succ]
      exact lt_add_of_pos_right _ (two_zpow_pos e)
    have hbelow : magnitude (m + 1) e < magnitude m' e' := lt_of_le_of_ne hle (Ne.symm hne)
    rw [abs_of_nonpos (by linarith : magnitude m e - x ≤ 0)] at hnext
    rcases le_abs.mp hnext with hright | hleft
    · linarith
    · linarith

theorem Nearest.not_below (h : Nearest x m e) (h' : Nearest x m' e') :
    ¬ magnitude m e < magnitude m' e' := by
  intro hlt
  have heq : |magnitude m e - x| = |magnitude m' e' - x| :=
    le_antisymm (h.nearest _ _ h'.fits) (h'.nearest _ _ h.fits)
  have heven := h.even _ _ h'.fits hlt.ne' heq.symm
  have heven' := h'.even _ _ h.fits hlt.ne heq
  have hsucc := h.eq_succ h' hlt
  rw [← magnitude_carried (m + 1)] at hsucc
  obtain ⟨rfl, -⟩ := h'.fits.ext h.fits.carried_succ hsucc
  rw [carried_even] at heven'
  omega

/-- There is one nearest magnitude. -/
theorem Nearest.unique (h : Nearest x m e) (h' : Nearest x m' e') : m = m' ∧ e = e' :=
  h.fits.ext h'.fits (le_antisymm (not_lt.mp (h'.not_below h)) (not_lt.mp (h.not_below h')))

/-! ### Rounding -/

/-- What lies in the lower half between two neighbours is rounded down, and the middle if the lower
    one is even. -/
theorem Fits.nearest_down (h : Fits q e) (hle : magnitude q e ≤ x)
    (hhalf : 2 * (x - magnitude q e) ≤ 2 ^ e)
    (htie : 2 * (x - magnitude q e) = 2 ^ e → q % 2 = 0) : Nearest x q e := by
  have hdist : |magnitude q e - x| = x - magnitude q e := by
    rw [abs_sub_comm, abs_of_nonneg (by linarith)]
  refine ⟨h, fun m' e' h' => ?_, fun m' e' h' hne heq => htie ?_⟩
  · rw [hdist]
    rcases h.le_or_succ_le h' with hbelow | habove
    · exact le_abs.mpr (Or.inr (by linarith))
    · rw [magnitude_succ] at habove
      exact le_abs.mpr (Or.inl (by linarith))
  · rw [hdist] at heq
    rcases h.le_or_succ_le h' with hbelow | habove
    · rw [abs_of_nonpos (by linarith)] at heq
      exact absurd (by linarith) hne
    · rw [magnitude_succ] at habove
      rw [abs_of_nonneg (by linarith)] at heq
      linarith

/-- What lies in the upper half is rounded up, and the middle if the lower neighbour is odd. -/
theorem Fits.nearest_up (h : Fits q e) (hle : x ≤ magnitude (q + 1) e)
    (hhalf : 2 ^ e ≤ 2 * (x - magnitude q e))
    (htie : 2 * (x - magnitude q e) = 2 ^ e → q % 2 = 1) :
    Nearest x (carried (q + 1) e).1 (carried (q + 1) e).2 := by
  rw [magnitude_succ] at hle
  have hdist : |magnitude q e + 2 ^ e - x| = magnitude q e + 2 ^ e - x :=
    abs_of_nonneg (by linarith)
  refine ⟨h.carried_succ, fun m' e' h' => ?_, fun m' e' h' hne heq => ?_⟩
  · rw [magnitude_carried, magnitude_succ, hdist]
    rcases h.le_or_succ_le h' with hbelow | habove
    · exact le_abs.mpr (Or.inr (by linarith))
    · rw [magnitude_succ] at habove
      exact le_abs.mpr (Or.inl (by linarith))
  · rw [magnitude_carried, magnitude_succ] at heq hne
    rw [hdist] at heq
    have hodd : q % 2 = 1 := by
      refine htie ?_
      rcases h.le_or_succ_le h' with hbelow | habove
      · have hpos := two_zpow_pos e
        rw [abs_of_nonpos (by linarith)] at heq
        linarith
      · rw [magnitude_succ] at habove
        rw [abs_of_nonneg (by linarith)] at heq
        exact absurd (by linarith) hne
    rw [carried_even]
    omega

/-- Rounding a quotient on a grid on which its whole part has 53 bits. -/
theorem nearest_divNearestEven {num den : Nat} (hden : 0 < den) (hfits : Fits (num / den) e)
    (hx : x = num / den * 2 ^ e) :
    Nearest x (carried (divNearestEven num den) e).1 (carried (divNearestEven num den) e).2 := by
  have hpos := two_zpow_pos e
  have hden' : (0 : ℚ) < den := Nat.cast_pos.mpr hden
  -- what is left above the lower neighbour, in halves of the gap to the upper one
  have hrest : 2 * (x - magnitude (num / den) e) = (2 * (num % den) : Nat) / den * 2 ^ e := by
    have hdiv : (num : ℚ) = den * (num / den : Nat) + (num % den : Nat) := by
      exact_mod_cast (Nat.div_add_mod num den).symm
    rw [hx, magnitude, hdiv]
    push_cast
    field_simp
    ring
  have hdown : 2 * (x - magnitude (num / den) e) ≤ 2 ^ e ↔ 2 * (num % den) ≤ den := by
    rw [hrest, mul_le_iff_le_one_left hpos, div_le_one hden', Nat.cast_le]
  have hup : 2 ^ e ≤ 2 * (x - magnitude (num / den) e) ↔ den ≤ 2 * (num % den) := by
    rw [hrest, le_mul_iff_one_le_left hpos, one_le_div hden', Nat.cast_le]
  unfold divNearestEven
  simp only [Bool.or_eq_true, decide_eq_true_eq, Bool.and_eq_true, beq_iff_eq]
  split
  · have hle : x ≤ magnitude (num / den + 1) e := by
      have hless : num ≤ (num / den + 1) * den := by
        rw [Nat.mul_comm]
        exact (Nat.lt_mul_div_succ num hden).le
      rw [hx]
      exact mul_le_mul_of_nonneg_right ((div_le_iff₀ hden').mpr (by exact_mod_cast hless)) hpos.le
    refine hfits.nearest_up hle (hup.mpr (by omega)) fun htie => ?_
    have := hdown.mp htie.le
    omega
  · have hle : magnitude (num / den) e ≤ x := by
      rw [hx]
      exact mul_le_mul_of_nonneg_right Nat.cast_div_le hpos.le
    rw [carried_of_fits hfits]
    refine hfits.nearest_down hle (hdown.mpr (by omega)) fun htie => ?_
    have := hup.mp htie.ge
    omega

/-! ### The grid of a fraction -/

section Grid

variable {num den : Nat}

theorem inUnits_pos (hden : 0 < den) (e : Int) : 0 < (inUnits num den e).2 := by
  unfold inUnits
  split
  · exact Nat.mul_pos hden (Nat.pow_pos Nat.two_pos)
  · exact hden

/-- A fraction is what it is in units of a power of two. -/
theorem cast_inUnits (num den : Nat) (e : Int) :
    ((inUnits num den e).1 : ℚ) / (inUnits num den e).2 * 2 ^ e = num / den := by
  unfold inUnits
  split
  · rename_i hle
    obtain ⟨k, rfl⟩ := Int.eq_ofNat_of_zero_le hle
    simp only [Int.toNat_natCast, zpow_natCast, Nat.pow_eq, Nat.cast_mul, Nat.cast_pow,
      Nat.cast_ofNat]
    field_simp
  · rename_i hlt
    obtain ⟨k, rfl⟩ : ∃ k : Nat, e = -k := ⟨(-e).toNat, by omega⟩
    simp only [neg_neg, Int.toNat_natCast, zpow_neg, zpow_natCast, Nat.pow_eq, Nat.cast_mul,
      Nat.cast_pow, Nat.cast_ofNat]
    field_simp

/-- How the whole part of a fraction, in units of a power of two, compares with a number. -/
theorem whole_lt_iff (hden : 0 < den) {k : Nat} :
    (inUnits num den e).1 / (inUnits num den e).2 < k ↔ (num : ℚ) / den < magnitude k e := by
  have hpos : (0 : ℚ) < (inUnits num den e).2 := Nat.cast_pos.mpr (inUnits_pos hden e)
  rw [Nat.div_lt_iff_lt_mul (inUnits_pos hden e), ← cast_inUnits num den e, magnitude,
    mul_lt_mul_iff_of_pos_right (two_zpow_pos e), div_lt_iff₀ hpos]
  exact_mod_cast Iff.rfl

theorem magnitude_leastNormal (e : Int) : magnitude leastNormal e = 2 ^ (52 + e) := by
  rw [magnitude, zpow_add₀ two_ne_zero]
  norm_num [leastNormal]

/-- A fraction is estimated by the lengths of its two parts. -/
theorem estimate (hnum : 0 < num) (hden : 0 < den) :
    magnitude leastNormal (Nat.log2 num - Nat.log2 den - 52 - 1) ≤ (num : ℚ) / den ∧
      (num : ℚ) / den < magnitude (2 * leastNormal) (Nat.log2 num - Nat.log2 den - 52) := by
  have hpos : (0 : ℚ) < den := Nat.cast_pos.mpr hden
  have hnum₁ : (2 : ℚ) ^ Nat.log2 num ≤ num := by exact_mod_cast Nat.log2_self_le hnum.ne'
  have hnum₂ : (num : ℚ) < 2 ^ (Nat.log2 num + 1) := by exact_mod_cast Nat.lt_log2_self
  have hden₁ : (2 : ℚ) ^ Nat.log2 den ≤ den := by exact_mod_cast Nat.log2_self_le hden.ne'
  have hden₂ : (den : ℚ) < 2 ^ (Nat.log2 den + 1) := by exact_mod_cast Nat.lt_log2_self
  generalize Nat.log2 num = a at hnum₁ hnum₂ ⊢
  generalize Nat.log2 den = b at hden₁ hden₂ ⊢
  constructor
  · rw [magnitude_leastNormal, le_div_iff₀ hpos]
    calc (2 : ℚ) ^ (52 + ((a : Int) - b - 52 - 1)) * den
      _ ≤ 2 ^ (52 + ((a : Int) - b - 52 - 1)) * 2 ^ (b + 1) :=
        mul_le_mul_of_nonneg_left hden₂.le (two_zpow_pos _).le
      _ = 2 ^ a := by
        rw [← zpow_natCast, ← zpow_natCast, ← zpow_add₀ two_ne_zero]
        congr 1
        push_cast
        ring
      _ ≤ num := hnum₁
  · rw [magnitude_carry, magnitude_leastNormal, div_lt_iff₀ hpos]
    calc (num : ℚ)
      _ < 2 ^ (a + 1) := hnum₂
      _ = 2 ^ (52 + ((a : Int) - b - 52 + 1)) * 2 ^ b := by
        rw [← zpow_natCast, ← zpow_natCast, ← zpow_add₀ two_ne_zero]
        congr 1
        push_cast
        ring
      _ ≤ 2 ^ (52 + ((a : Int) - b - 52 + 1)) * den :=
        mul_le_mul_of_nonneg_left hden₁ (two_zpow_pos _).le

/-- On its grid the whole part of a fraction has 53 bits. -/
theorem fits_scaleOf (hnum : 0 < num) (hden : 0 < den) :
    Fits ((inUnits num den (scaleOf num den)).1 / (inUnits num den (scaleOf num den)).2)
      (scaleOf num den) := by
  obtain ⟨hlow, hhigh⟩ := estimate hnum hden
  generalize he₀ : (Nat.log2 num : Int) - Nat.log2 den - 52 = e₀ at hlow hhigh
  obtain ⟨e₁, he₁, hfull, hbits⟩ : ∃ e₁, scaleOf num den = max minExponent e₁ ∧
      magnitude leastNormal e₁ ≤ (num : ℚ) / den ∧
      (num : ℚ) / den < magnitude (2 * leastNormal) e₁ := by
    simp only [scaleOf, he₀, whole_lt_iff hden]
    split
    · rename_i hsmall
      exact ⟨e₀ - 1, rfl, hlow, by rwa [magnitude_carry, Int.sub_add_cancel]⟩
    · rename_i hlarge
      exact ⟨e₀, rfl, not_lt.mp hlarge, hhigh⟩
  rw [he₁]
  rcases le_total minExponent e₁ with hle | hle
  · rw [max_eq_right hle]
    refine ⟨(whole_lt_iff hden).mpr hbits, hle, Or.inl ?_⟩
    exact not_lt.mp fun hlt => hfull.not_gt ((whole_lt_iff hden).mp hlt)
  · rw [max_eq_left hle]
    refine ⟨(whole_lt_iff hden).mpr (hbits.trans_le ?_), le_rfl, Or.inr rfl⟩
    exact mul_le_mul_of_nonneg_left (zpow_le_zpow_right₀ one_le_two hle) (Nat.cast_nonneg _)

end Grid

theorem nearest_zero : Nearest 0 0 minExponent where
  fits := ⟨by decide, le_rfl, Or.inr rfl⟩
  nearest m' e' _ := by
    rw [magnitude, Nat.cast_zero, zero_mul, sub_zero, abs_zero]
    exact abs_nonneg _
  even _ _ _ _ _ := rfl

/-- A fraction is rounded to the magnitude that is nearest to it. -/
theorem ofRatio_nearest (negative : Bool) (num : Nat) {den : Nat} (hden : 0 < den) :
    ∃ m e, Nearest (num / den) m e ∧ ofRatio negative num den =
      if maxExponent < e then .infinite negative else .finite negative m e := by
  rcases Nat.eq_zero_or_pos num with rfl | hnum
  · refine ⟨0, minExponent, ?_, rfl⟩
    rw [Nat.cast_zero, zero_div]
    exact nearest_zero
  · refine ⟨_, _, nearest_divNearestEven (inUnits_pos hden _) (fits_scaleOf hnum hden)
      (cast_inUnits num den _).symm, ?_⟩
    rw [ofRatio, if_neg hnum.ne']
    rfl

/-! ### Floating-point numbers -/

/-- What a number is rounded to: the nearest number with its sign, and the infinity of that sign
    where the exponent would be too great. -/
inductive Rounds (x : ℚ) : Binary64 → Prop where
  | finite {m : Nat} {e : Int} : Nearest |x| m e → e ≤ maxExponent →
      Rounds x (.finite (x < 0) m e)
  | infinite {m : Nat} {e : Int} : Nearest |x| m e → maxExponent < e →
      Rounds x (.infinite (x < 0))

theorem Rounds.unique {b b' : Binary64} (h : Rounds x b) (h' : Rounds x b') : b = b' := by
  cases h with
  | finite hnearest hle =>
    cases h' with
    | finite hnearest' _ =>
      obtain ⟨rfl, rfl⟩ := hnearest.unique hnearest'
      rfl
    | infinite hnearest' hlt =>
      obtain ⟨rfl, rfl⟩ := hnearest.unique hnearest'
      exact absurd hle hlt.not_ge
  | infinite hnearest hlt =>
    cases h' with
    | finite hnearest' hle =>
      obtain ⟨rfl, rfl⟩ := hnearest.unique hnearest'
      exact absurd hle hlt.not_ge
    | infinite _ _ => rfl

/-- An integer is rounded to the float of `ofInt`. -/
theorem Rounds.ofInt (n : Int) : Rounds n (.ofInt n) := by
  obtain ⟨m, e, hnearest, hround⟩ := ofRatio_nearest (n < 0) n.natAbs Nat.one_pos
  rw [Nat.cast_one, div_one, Nat.cast_natAbs, Int.cast_abs] at hnearest
  have hsign : decide (n < 0) = decide ((n : ℚ) < 0) := decide_eq_decide.mpr Int.cast_lt_zero.symm
  rw [Binary64.ofInt, hround, hsign]
  split
  · exact .infinite hnearest ‹_›
  · exact .finite hnearest (not_lt.mp ‹_›)

theorem Rounds.eq_ofInt {n : Int} {b : Binary64} (h : Rounds n b) : b = .ofInt n :=
  h.unique (.ofInt n)

end SyncFleet.Decimal.Binary64

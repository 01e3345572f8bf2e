/-
  SyncFleet/Decimal/Binary64.lean
  ===============================
  **Binary floating-point numbers of 64 bits, in exact integer arithmetic.**

  A finite number is a sign, a significand below 2^53 and an exponent of two;
  the sign of zero is kept.  `ofRatio` rounds a non-negative fraction to the
  nearest number, a tie to the even significand, and overflows to infinity.
  Everything else is that one rounding: products and quotients are formed
  exactly and rounded once.
-/

namespace SyncFleet.Decimal

/-- A binary floating-point number of 64 bits.  A finite one is
    `significand * 2 ^ exponent` with the sign in front. -/
inductive Binary64 where
  | finite (negative : Bool) (significand : Nat) (exponent : Int)
  | infinite (negative : Bool)
  | notANumber
deriving DecidableEq, Repr

namespace Binary64

/-- The least exponent, that of the subnormal numbers. -/
def minExponent : Int := -1074

/-- The greatest exponent of a finite number. -/
def maxExponent : Int := 971

/-- The least significand of 53 bits. -/
def leastNormal : Nat := 0x10000000000000

/-- Zero of the given sign. -/
def zero (negative : Bool) : Binary64 := .finite negative 0 minExponent

/-- The fraction `num / den` in units of `2 ^ e`, again as a fraction. -/
def inUnits (num den : Nat) (e : Int) : Nat × Nat :=
  if 0 ≤ e then (num, den * Nat.pow 2 e.toNat) else (num * Nat.pow 2 (-e).toNat, den)

/-- A quotient rounded to the nearest whole number, a half to the even one. -/
def divNearestEven (num den : Nat) : Nat :=
  let q := num / den
  let r := num % den
  if den < 2 * r || (2 * r == den && q % 2 == 1) then q + 1 else q

/-- The exponent at which the significand of `num / den` has 53 bits, or the least exponent. -/
def scaleOf (num den : Nat) : Int :=
  let e : Int := (Nat.log2 num : Int) - (Nat.log2 den : Int) - 52
  let (n, d) := inUnits num den e
  max minExponent (if n / d < leastNormal then e - 1 else e)

/-- The number nearest to the fraction `num / den`, with the given sign. -/
def ofRatio (negative : Bool) (num den : Nat) : Binary64 :=
  if num = 0 then zero negative
  else
    let e := scaleOf num den
    let (n, d) := inUnits num den e
    let m := divNearestEven n d
    let (m, e) := if m = 2 * leastNormal then (leastNormal, e + 1) else (m, e)
    if maxExponent < e then .infinite negative else .finite negative m e

/-- The number nearest to a whole number. -/
def ofNat (n : Nat) : Binary64 := ofRatio false n 1

/-- The number nearest to an integer. -/
def ofInt (n : Int) : Binary64 := ofRatio (decide (n < 0)) n.natAbs 1

/-- The same number with the given sign. -/
def withSign (negative : Bool) : Binary64 → Binary64
  | .finite _ m e => .finite negative m e
  | .infinite _ => .infinite negative
  | .notANumber => .notANumber

/-- A significand and an exponent of two as a fraction. -/
def ratio (m : Nat) (e : Int) : Nat × Nat :=
  if 0 ≤ e then (m * Nat.pow 2 e.toNat, 1) else (m, Nat.pow 2 (-e).toNat)

/-- The non-negative number nearest to the product of two finite magnitudes. -/
def mulMagnitude (m₁ : Nat) (e₁ : Int) (m₂ : Nat) (e₂ : Int) : Binary64 :=
  let (n, d) := ratio (m₁ * m₂) (e₁ + e₂)
  ofRatio false n d

/-- The non-negative number nearest to the quotient of two finite magnitudes. -/
def divMagnitude (m₁ : Nat) (e₁ : Int) (m₂ : Nat) (e₂ : Int) : Binary64 :=
  let (n₁, d₁) := ratio m₁ e₁
  let (n₂, d₂) := ratio m₂ e₂
  ofRatio false (n₁ * d₂) (d₁ * n₂)

/-- Equality of values: zeros of both signs are equal, and so are two numbers that are not a
    number. -/
def sameValue : Binary64 → Binary64 → Bool
  | .finite s₁ m₁ e₁, .finite s₂ m₂ e₂ =>
      (m₁ == 0 && m₂ == 0) || (s₁ == s₂ && m₁ == m₂ && e₁ == e₂)
  | .infinite s₁, .infinite s₂ => s₁ == s₂
  | .notANumber, .notANumber => true
  | _, _ => false

end Binary64

end SyncFleet.Decimal

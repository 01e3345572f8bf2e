/-
  SyncFleet/Decimal/Reading.lean
  ==============================
  **Reading a decimal numeral as a binary number.**

  `Numeral` is the anatomy of a decimal numeral: sign, digits before and after
  the point, exponent.  Two rules turn one into a binary number.  `nearest`
  rounds once, from the exact value.  `stepwise` rounds the leading digits
  that fit into 64 bits first and then scales by a power of ten, rounding
  again; JSON documents are read that way, so some of their numbers end up one
  unit beside the nearest one.
-/
import SyncFleet.Decimal.Binary64
import SyncFleet.Decimal.Numeral

namespace SyncFleet.Decimal

/-- The anatomy of a decimal numeral. -/
structure Numeral where
  negative : Bool
  /-- digits before the point -/
  whole : List Nat
  /-- digits after the point; `none` without a point -/
  fraction : Option (List Nat)
  /-- the exponent of ten; `none` without one -/
  exponent : Option Int
deriving DecidableEq, Repr

namespace Numeral

/-- Whether the numeral has neither point nor exponent. -/
def isWhole (n : Numeral) : Bool := n.fraction.isNone && n.exponent.isNone

/-- All digits, most significant first. -/
def digits (n : Numeral) : List Nat := n.whole ++ n.fraction.getD []

/-- The exponent of ten of the last digit. -/
def lastExponent (n : Numeral) : Int :=
  n.exponent.getD 0 - ((n.fraction.getD []).length : Int)

/-- The binary number nearest to `m * 10 ^ e`.  Beyond four hundred places the answer is known
    without forming the power. -/
def nearestOf (negative : Bool) (m : Nat) (e : Int) : Binary64 :=
  if m = 0 then .zero negative
  else
    let lead := e + (digitCount m : Int)
    if 400 < lead then .infinite negative
    else if lead < -400 then .zero negative
    else if 0 ≤ e then .ofRatio negative (m * Nat.pow 10 e.toNat) 1
    else .ofRatio negative m (Nat.pow 10 (-e).toNat)

/-- The binary number nearest to the numeral's exact value. -/
def nearest (n : Numeral) : Binary64 :=
  nearestOf n.negative (ofDigits n.digits) n.lastExponent

/-- The leading digits that fit into 64 bits, and how many digits they are. -/
def leading : List Nat → Nat → Nat → Nat × Nat
  | [], m, k => (m, k)
  | d :: ds, m, k => if 10 * m + d < UInt64.size then leading ds (10 * m + d) (k + 1) else (m, k)

/-- A finite magnitude times or by `10 ^ k`, with `k` at most 308. -/
def scaleOnce (x : Binary64) (up : Bool) (k : Nat) : Binary64 :=
  match x, nearestOf false 1 k with
  | .finite _ m e, .finite _ p q =>
      if up then .mulMagnitude m e p q else .divMagnitude m e p q
  | x, _ => x

/-- Scale a magnitude by a power of ten, `10 ^ 308` at most at a time.  Scaling up past the
    greatest finite number fails. -/
def scale : Nat → Binary64 → Int → Option Binary64
  | 0, _, _ => none
  | fuel + 1, x, e =>
    if 0 ≤ e then
      if e ≤ 308 then
        match scaleOnce x true e.toNat with
        | .infinite _ => none
        | y => some y
      else if x.sameValue (.zero false) then some x else none
    else if -308 ≤ e then some (scaleOnce x false (-e).toNat)
    else if x.sameValue (.zero false) then some x
    else scale fuel (scaleOnce x false 308) (e + 308)

/-- The binary number that the stepwise rule reads; `none` when it is too great.  Digits before
    the point that no longer fit count as zeros, digits after it that no longer fit count
    nothing. -/
def stepwise (n : Numeral) : Option Binary64 :=
  let (m, kept) := leading n.whole 0 0
  let (m, places) := leading (n.fraction.getD []) m 0
  let e : Int := n.exponent.getD 0 + ((n.whole.length - kept : Nat) : Int) - (places : Int)
  if m = 0 ∨ e < -1000 then some (.zero n.negative)
  else (scale 5 (.ofNat m) e).map (·.withSign n.negative)

end Numeral

end SyncFleet.Decimal

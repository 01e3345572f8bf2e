/-
  SyncFleet/Decimal/Shortest.lean
  ===============================
  **The fewest decimal digits that read back as the same binary number.**

  Every real number close enough to a binary one rounds to it; those numbers
  form an interval, ends included when the significand is even.  For one, two,
  three digits and so on the two decimal neighbours of the number on the grid
  of that many digits are tried: the first grid with a neighbour inside the
  interval has the fewest digits, and the nearer of two neighbours is taken.
  Which of two equally near ones is taken is the caller's choice.
-/
import SyncFleet.Decimal.Binary64
import SyncFleet.Decimal.Numeral

namespace SyncFleet.Decimal

/-- Which of two equally near decimals is taken. -/
inductive Tie where
  /-- the one with the even last digit -/
  | even
  /-- the greater one -/
  | up
deriving DecidableEq, Repr

/-- Decimal digits, read as a whole number, and the power of ten they count:
    `value * 10 ^ exponent`. -/
structure Digits where
  value : Nat
  exponent : Int
deriving DecidableEq, Repr

/-- The interval of real numbers that round to a binary number, its ends and the number itself
    in the common unit `num / den`. -/
structure Basin where
  low : Nat
  middle : Nat
  high : Nat
  /-- whether the ends belong to the interval -/
  closed : Bool
  num : Nat
  den : Nat
deriving Repr

/-- The interval of `m * 2 ^ e`.  Below the smallest significand of an exponent the grid is
    twice as fine, so the lower end is nearer there. -/
def Basin.of (m : Nat) (e : Int) : Basin :=
  let low := if m = Binary64.leastNormal ∧ Binary64.minExponent < e then 4 * m - 1 else 4 * m - 2
  let q := e - 2
  let (num, den) := if 0 ≤ q then (Nat.pow 2 q.toNat, 1) else (1, Nat.pow 2 (-q).toNat)
  ⟨low, 4 * m, 4 * m + 2, m % 2 == 0, num, den⟩

/-- Whether `c * 10 ^ k` lies in the interval. -/
def Basin.holds (b : Basin) (c : Nat) (k : Int) : Bool :=
  let (cn, cd) := if 0 ≤ k then (c * Nat.pow 10 k.toNat, 1) else (c, Nat.pow 10 (-k).toNat)
  let x := cn * b.den
  let lo := b.low * b.num * cd
  let hi := b.high * b.num * cd
  if b.closed then lo ≤ x && x ≤ hi else lo < x && x < hi

/-- The number in units of `10 ^ k`, as a fraction. -/
def Basin.inDecimalUnits (b : Basin) (k : Int) : Nat × Nat :=
  if 0 ≤ k then (b.middle * b.num, b.den * Nat.pow 10 k.toNat)
  else (b.middle * b.num * Nat.pow 10 (-k).toNat, b.den)

/-- The neighbour of the number on the grid `10 ^ k` that lies in its interval, the nearer one
    if both do. -/
def Basin.neighbour? (b : Basin) (tie : Tie) (k : Int) : Option Nat :=
  let (n, d) := b.inDecimalUnits k
  let c := n / d
  let r := n % d
  let below := b.holds c k
  let above := b.holds (c + 1) k
  let preferUp := d < 2 * r || (2 * r == d && (match tie with | .even => c % 2 == 1 | .up => true))
  if below && above then some (if preferUp then c + 1 else c)
  else if below then some c
  else if above then some (c + 1)
  else none

/-- The exponent of ten of the leading digit of the number. -/
def Basin.magnitude (b : Basin) : Int :=
  let n := b.middle * b.num
  if b.den ≤ n then (digitCount (n / b.den) : Int) - 1
  else
    -- the first power of ten that brings the number to one or more
    let guess := digitCount (b.den / n) - 1
    if b.den ≤ n * Nat.pow 10 guess then -(guess : Int) else -(guess + 1 : Int)

/-- Try the grids `10 ^ k`, `10 ^ (k - 1)`, ..., the given number of them. -/
def Basin.search (b : Basin) (tie : Tie) : Nat → Int → Digits
  | 0, k => ⟨(b.neighbour? tie k).getD 0, k⟩
  | grids + 1, k =>
    match b.neighbour? tie k with
    | some c => ⟨c, k⟩
    | none => b.search tie grids (k - 1)

/-- The digits without zeros at their end, of which at most `zeros` are taken away. -/
def Digits.strip : Nat → Digits → Digits
  | 0, d => d
  | zeros + 1, d =>
    if d.value ≠ 0 ∧ d.value % 10 = 0 then Digits.strip zeros ⟨d.value / 10, d.exponent + 1⟩
    else d

/-- The shortest digits that reads back as the positive number `m * 2 ^ e`; seventeen digits
    always suffice. -/
def shortest (tie : Tie) (m : Nat) (e : Int) : Digits :=
  let b := Basin.of m e
  (b.search tie 18 b.magnitude).strip 20

end SyncFleet.Decimal

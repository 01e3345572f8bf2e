/-
  SyncFleet/Utility/Number/Factor.lean
  ====================================
  **The prime factors of numbers.**

  Small divisors are tried one after the other.  What is left is tested by
  powers to a few bases, and taken apart by walks that come back to where they
  were modulo a divisor.
-/
import SyncFleet.Utility.Option

namespace SyncFleet.Utility.Number

open Unix Tool

/-- A power modulo a number, in `fuel` squarings. -/
def powerModulo (m : Nat) : Nat → Nat → Nat → Nat
  | 0, _, _ => 1 % m
  | fuel + 1, base, exponent =>
    if exponent = 0 then 1 % m
    else
      let half := powerModulo m fuel (base * base % m) (exponent / 2)
      if exponent % 2 = 1 then half * base % m else half

/-- Whether repeated squaring of a number leads to minus one, in at most `fuel` steps. -/
def leadsToMinusOne (m : Nat) : Nat → Nat → Bool
  | 0, _ => false
  | fuel + 1, x => x = m - 1 || leadsToMinusOne m fuel (x * x % m)

/-- The bases of the test for primes. -/
def testBases : List Nat := [2, 3, 5, 7, 11, 13, 17, 19, 23, 29, 31, 37, 41, 43, 47, 53]

/-- The part of a number without its factors two, and how many they are, at most `fuel`. -/
def withoutTwos : Nat → Nat → Nat × Nat
  | 0, n => (n, 0)
  | fuel + 1, n =>
    if n ≠ 0 ∧ n % 2 = 0 then
      let (m, k) := withoutTwos fuel (n / 2)
      (m, k + 1)
    else (n, 0)

/-- Whether a number passes the test for primes. -/
def passesAsPrime (n : Nat) : Bool :=
  if n < 4 then 2 ≤ n
  else if n % 2 = 0 then false
  else
    let bits := n.log2 + 1
    let (odd, twos) := withoutTwos bits (n - 1)
    testBases.all fun a =>
      a % n = 0 ||
        let x := powerModulo n (bits + 1) (a % n) odd
        x = 1 || leadsToMinusOne n twos x

/-- A step of a walk. -/
def walkStep (n c x : Nat) : Nat := (x * x + c) % n

/-- A divisor found by a slow and a fast walk, in at most `fuel` steps. -/
def walk (n c : Nat) : Nat → Nat → Nat → Option Nat
  | 0, _, _ => none
  | fuel + 1, x, y =>
    let x := walkStep n c x
    let y := walkStep n c (walkStep n c y)
    let d := Nat.gcd (if x < y then y - x else x - y) n
    if d = n then none else if 1 < d then some d else walk n c fuel x y

/-- A divisor of a number that is no prime, in at most `fuel` attempts. -/
def divisorOf (n : Nat) : Nat → Nat → Option Nat
  | 0, _ => none
  | fuel + 1, c =>
    match walk n c 4000000 2 2 with
    | some d => some d
    | none => divisorOf n fuel (c + 1)

/-- The prime factors of a number without small ones, at most `fuel` levels deep. -/
def largeFactors : Nat → Nat → List Nat
  | 0, n => [n]
  | fuel + 1, n =>
    if n < 2 then []
    else if passesAsPrime n then [n]
    else match divisorOf n 20 1 with
      | some d => largeFactors fuel d ++ largeFactors fuel (n / d)
      | none => [n]

/-- The greatest divisor that is tried. -/
def greatestTried : Nat := 4096

/-- Factors of a number from a divisor on, the greatest first, in at most `fuel` steps, and what is
    left. -/
def smallFactors : Nat → Nat → Nat → List Nat → List Nat × Nat
  | 0, n, _, done => (done, n)
  | fuel + 1, n, d, done =>
    if greatestTried < d || n < d * d then (done, n)
    else if n % d = 0 then smallFactors fuel (n / d) d (d :: done)
    else smallFactors fuel n (d + 1) done

/-- The prime factors of a number, the least first. -/
def factorsOf (n : Nat) : List Nat :=
  let (small, left) := smallFactors (greatestTried + n.log2 + 2) n 2 []
  small.reverse ++ (largeFactors 200 left).mergeSort (· ≤ ·)

/-- Runs of equal numbers with their lengths. -/
def runs : List Nat → List (Nat × Nat)
  | [] => []
  | n :: rest =>
    match runs rest with
    | (m, k) :: more => if m = n then (m, k + 1) :: more else (n, 1) :: (m, k) :: more
    | [] => [(n, 1)]

/-- Write the factors of a number that a text spells. -/
def factorText (withExponents : Bool) (text : Bytes) : Tool Unit := do
  let start := text.dropWhile isBlank
  let digits := if start.head? = some '+' then start.drop 1 else start
  match natOf? digits with
  | none => complain (quoted text ++ " is not a valid positive integer".toList)
  | some n =>
    let factors := factorsOf n
    let parts := if withExponents then
        (runs factors).map fun (p, k) =>
          decimal p ++ (if k = 1 then [] else '^' :: decimal k)
      else factors.map decimal
    put (decimal n ++ ':' :: (parts.map (' ' :: ·)).flatten ++ ['\n'])

/-- Write the prime factors of numbers. -/
def factor (arguments _environment : List Bytes) : Tool Unit := do
  let (c, operands) ← options ["h|exponents", "debug"] arguments
  if operands.isEmpty then
    overLines '\n' (fun _ line => do
      for word in splitAt ' ' (line.map fun c => if isSpace c then ' ' else c) do
        if !word.isEmpty then factorText (c.has "h") word) [] ()
  else
    for text in operands do factorText (c.has "h") text

end SyncFleet.Utility.Number

/-
  SyncFleet/Decimal/Numeral.lean
  ==============================
  **Whole numbers in decimal digits, written and read.**

  A number is written without leading zeros, a negative one behind a minus
  sign.  Reading is stricter than most readers: a numeral is a non-empty run
  of ASCII digits and nothing else, so what is written is read back and a
  separator, a sign or a blank is refused.
-/

namespace SyncFleet.Decimal

/-- The value of an ASCII digit. -/
def digitVal? (c : Char) : Option Nat :=
  if c.isDigit then some (c.toNat - 48) else none

/-- The ASCII digit of a value below ten. -/
def digitChar (n : Nat) : Char := Nat.digitChar n

/-- The number that a run of digits denotes, most significant digit first. -/
def ofDigits (ds : List Nat) : Nat := ds.foldl (fun n d => 10 * n + d) 0

/-- Read a numeral: one or more ASCII digits. -/
def natOfText? (cs : List Char) : Option Nat :=
  if cs.isEmpty then none else (cs.mapM digitVal?).map ofDigits

/-- Write a natural number. -/
def natText (n : Nat) : List Char := Nat.toDigits 10 n

/-- Write an integer, a negative one with a minus sign in front. -/
def intText : Int → List Char
  | .ofNat n => natText n
  | .negSucc n => '-' :: natText (n + 1)

/-- A natural number written with at least `width` digits, filled with zeros. -/
def padded (width n : Nat) : List Char :=
  let ds := natText n
  List.replicate (width - ds.length) '0' ++ ds

/-- The number of decimal digits of a natural number, one for zero. -/
def digitCount (n : Nat) : Nat := (natText n).length

end SyncFleet.Decimal

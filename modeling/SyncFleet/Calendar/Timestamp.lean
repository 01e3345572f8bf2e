/-
  SyncFleet/Calendar/Timestamp.lean
  =================================
  **Instants as text: RFC 3339, written strictly and read loosely.**

  A timestamp is written in universal time with a `Z`, its fraction in none,
  three, six or nine digits, whichever is the shortest that is exact.  Years
  of four digits have no sign, all others do.  The reader also takes other
  offsets, short fields, blanks before a field or a separator, a blank or a
  small letter between date and time, longer fractions, and `UTC` for `Z`.
-/
import SyncFleet.Calendar.Instant
import SyncFleet.Decimal.Numeral
import SyncFleet.Text.Blank

namespace SyncFleet.Calendar

open Decimal

/-! ### Writing -/

/-- The digits of a year: four without a sign from 0 to 9999, otherwise a sign in front. -/
def yearText (year : Int) : List Char :=
  if 0 ≤ year ∧ year ≤ 9999 then padded 4 year.toNat
  else (if year < 0 then '-' else '+') :: padded 4 year.natAbs

/-- A fraction of a second, with the point, in the fewest groups of three digits. -/
def fractionText (nano : Nat) : List Char :=
  if nano = 0 then []
  else if nano % 1000000 = 0 then '.' :: padded 3 (nano / 1000000)
  else if nano % 1000 = 0 then '.' :: padded 6 (nano / 1000)
  else '.' :: padded 9 nano

/-- The characters of an instant's timestamp.  A leap second is second 60. -/
def Instant.chars (t : Instant) : List Char :=
  let leap := nanosPerSecond ≤ t.nano
  let second := t.second % 60 + (if leap then 1 else 0)
  let nano := if leap then t.nano - nanosPerSecond else t.nano
  yearText t.date.year ++ '-' :: padded 2 t.date.month ++ '-' :: padded 2 t.date.day
    ++ 'T' :: padded 2 (t.second / 3600) ++ ':' :: padded 2 (t.second / 60 % 60)
    ++ ':' :: padded 2 second ++ fractionText nano ++ ['Z']

/-- The timestamp of an instant. -/
def Instant.text (t : Instant) : String := String.ofList t.chars

/-! ### Reading -/

/-- The text behind the blanks at its start. -/
def skipBlanks (cs : List Char) : List Char := cs.dropWhile Text.isBlank

/-- Read a number of at least one and at most `most` digits. -/
def number? (most : Nat) (cs : List Char) : Option (Nat × List Char) :=
  let ds := (cs.take most).takeWhile Char.isDigit
  (natOfText? ds).map fun n => (n, cs.drop ds.length)

/-- Read a number of any length. -/
def longNumber? (cs : List Char) : Option (Nat × List Char) := number? cs.length cs

/-- Read a field of one or two digits, with blanks in front. -/
def field? (cs : List Char) : Option (Nat × List Char) := number? 2 (skipBlanks cs)

/-- Read a year: a sign and any number of digits, or at most four digits. -/
def year? (cs : List Char) : Option (Int × List Char) :=
  match skipBlanks cs with
  | '-' :: rest => (longNumber? rest).map fun (n, rest) => (-(n : Int), rest)
  | '+' :: rest => (longNumber? rest).map fun (n, rest) => ((n : Int), rest)
  | rest => (number? 4 rest).map fun (n, rest) => ((n : Int), rest)

/-- Read a separator, with blanks in front. -/
def separator? (c : Char) (cs : List Char) : Option (List Char) :=
  match skipBlanks cs with
  | d :: rest => if d = c then some rest else none
  | [] => none

/-- Read a fraction of a second in nanoseconds if there is one.  Digits behind the ninth do not
    count. -/
def fraction? (cs : List Char) : Option (Nat × List Char) :=
  match cs with
  | '.' :: rest => do
    let (n, after) ← number? 9 rest
    return (n * Nat.pow 10 (9 - (rest.length - after.length)), after.dropWhile Char.isDigit)
  | _ => some (0, cs)

/-- Read two digits. -/
def twoDigits? : List Char → Option (Nat × List Char)
  | a :: b :: rest => (natOfText? [a, b]).map fun n => (n, rest)
  | _ => none

/-- Read the offset from universal time, in seconds. -/
def offset? (cs : List Char) : Option (Int × List Char) :=
  match cs with
  | c :: rest =>
    if c = 'Z' ∨ c = 'z' then some (0, rest)
    else if Text.lowerAscii (cs.take 3) = ['u', 't', 'c'] then some (0, cs.drop 3)
    else do
      let negative ← if c = '+' then some false
        else if c = '-' ∨ c = '\u2212' then some true else none
      let (hours, rest) ← twoDigits? rest
      let (minutes, rest) ← twoDigits? (rest.dropWhile fun c => c = ':' ∨ Text.isBlank c)
      let seconds : Int := hours * 3600 + minutes * 60
      if minutes < 60 ∧ seconds < 86400 then some (if negative then -seconds else seconds, rest)
      else none
  | [] => none

/-- The instant that a timestamp names. -/
def Instant.ofChars? (cs : List Char) : Option Instant := do
  let (year, cs) ← year? cs
  let cs ← separator? '-' cs
  let (month, cs) ← field? cs
  let cs ← separator? '-' cs
  let (day, cs) ← field? cs
  let cs ← match cs with
    | c :: rest => if c = 'T' ∨ c = 't' ∨ c = ' ' then some rest else none
    | [] => none
  let (hour, cs) ← field? cs
  let cs ← separator? ':' cs
  let (minute, cs) ← field? cs
  let cs ← separator? ':' cs
  let (second, cs) ← field? cs
  let (nano, cs) ← fraction? cs
  let (offset, cs) ← offset? (skipBlanks cs)
  if !(skipBlanks cs).isEmpty then none
  if 24 ≤ hour ∨ 60 ≤ minute ∨ 60 < second then none
  let date ← Date.of? year month day
  let (second, nano) := if second = 60 then (59, nano + nanosPerSecond) else (second, nano)
  let clock ← Instant.of? date (hour * 3600 + minute * 60 + second) nano
  clock.subSeconds? offset

/-- The instant that a timestamp names. -/
def Instant.ofText? (s : String) : Option Instant := Instant.ofChars? s.toList

end SyncFleet.Calendar

/-
  SyncFleet/ByteSize.lean
  =======================
  **Sizes in bytes as people write them: `512M`, `1.5 GiB`, `1048576`.**

  A size is a decimal number and a unit.  Decimal units (`k`, `M`, `G`, `T`)
  are powers of 1000, binary ones (`Ki`, `Mi`, `Gi`, `Ti`) powers of 1024; a
  `B` may follow, and case does not matter.  The answer is a whole number of
  bytes below 2^64, the part behind the point rounded down, and only the first
  eighteen digits behind the point count.

  Sizes are computed in machine words.  The part before the point has 64 bits,
  and every step of it is checked; the part behind the point has 128 bits,
  which nothing there exceeds.
-/
import SyncFleet.Decimal.Numeral
import SyncFleet.Text.Blank

namespace SyncFleet.ByteSize

open Decimal Text

/-- Why a text is no size. -/
inductive Fault where
  /-- it does not begin with a number -/
  | notANumber
  /-- what follows the number is no unit -/
  | unknownUnit
  /-- the size is not below 2^64 bytes -/
  | outOfRange
deriving DecidableEq, Repr

/-- The wording of a fault. -/
def Fault.message : Fault → String
  | .notANumber => "not a number"
  | .unknownUnit => "unknown unit"
  | .outOfRange => "out of range"

/-! ### Words -/

/-- The product of two words if it fits into one. -/
def product? {width : Nat} (a b : BitVec width) : Option (BitVec width) :=
  if a.umulOverflow b then none else some (a * b)

/-- The sum of two words if it fits into one. -/
def sum? {width : Nat} (a b : BitVec width) : Option (BitVec width) :=
  if a.uaddOverflow b then none else some (a + b)

/-- The word behind a word and one more digit, if there is one. -/
def shiftIn? {width : Nat} (n : BitVec width) (digit : Nat) : Option (BitVec width) :=
  (product? n (.ofNat width 10)).bind fun tens => sum? tens (.ofNat width digit)

/-- The word that a run of digits denotes, if the number fits into one. -/
def wordOfDigits? (width : Nat) (digits : List Nat) : Option (BitVec width) :=
  digits.foldlM shiftIn? (.ofNat width 0)

/-- A power of ten as a word of 128 bits. -/
def placeValue (places : Nat) : BitVec 128 := .ofNat 128 (Nat.pow 10 places)

/-! ### Units -/

/-- The bytes that a unit stands for; its letters are lower case. -/
def unitBytes? (unit : String) : Option (BitVec 64) :=
  match unit with
  | "" | "b" => some (.ofNat 64 1)
  | "k" | "kb" => some (.ofNat 64 1000)
  | "m" | "mb" => some (.ofNat 64 (1000 * 1000))
  | "g" | "gb" => some (.ofNat 64 (1000 * 1000 * 1000))
  | "t" | "tb" => some (.ofNat 64 (1000 * 1000 * 1000 * 1000))
  | "ki" | "kib" => some (.ofNat 64 1024)
  | "mi" | "mib" => some (.ofNat 64 (1024 * 1024))
  | "gi" | "gib" => some (.ofNat 64 (1024 * 1024 * 1024))
  | "ti" | "tib" => some (.ofNat 64 (1024 * 1024 * 1024 * 1024))
  | _ => none

/-! ### Amounts -/

/-- Digits behind the point that count. -/
def countedPlaces : Nat := 18

/-- What a numerator over a power of ten is in a unit, rounded down. -/
def scaled (numerator : BitVec 128) (unit : BitVec 64) (places : Nat) : BitVec 64 :=
  (numerator * unit.setWidth 128 / placeValue places).setWidth 64

/-- The bytes that the digits behind the point add. -/
def fractionBytes (fraction : List Nat) (unit : BitVec 64) : Except Fault (BitVec 64) :=
  let counted := fraction.take countedPlaces
  if counted.isEmpty then .ok (.ofNat 64 0)
  else match wordOfDigits? 128 counted with
    | some numerator => .ok (scaled numerator unit counted.length)
    | none => .error .notANumber

/-- The bytes of a number in a unit. -/
def amount (whole fraction : List Nat) (unit : BitVec 64) : Except Fault (BitVec 64) :=
  match (wordOfDigits? 64 whole).bind (product? · unit) with
  | none => .error .outOfRange
  | some wholeBytes =>
    (fractionBytes fraction unit).bind fun more =>
      match sum? wholeBytes more with
      | some size => .ok size
      | none => .error .outOfRange

/-! ### Texts -/

/-- Characters of which the number in front of a unit is made. -/
def isNumberChar (c : Char) : Bool := c.isDigit || c == '.'

/-- The digits before the point and those behind it; `none` unless the text is one or more
    digits, possibly followed by a point and further digits. -/
def splitNumber? (cs : List Char) : Option (List Nat × List Nat) := do
  let whole := cs.takeWhile (· != '.')
  let fraction := (cs.dropWhile (· != '.')).drop 1
  if whole.isEmpty then none else return (← whole.mapM digitVal?, ← fraction.mapM digitVal?)

/-- The number of bytes that a text denotes (`parse_size`). -/
def parse (s : String) : Except Fault Nat :=
  let text := trim s.toList
  match splitNumber? (text.takeWhile isNumberChar) with
  | none => .error .notANumber
  | some (whole, fraction) =>
    match unitBytes? (String.ofList (lowerAscii (trim (text.dropWhile isNumberChar)))) with
    | none => .error .unknownUnit
    | some unit => (amount whole fraction unit).map BitVec.toNat

end SyncFleet.ByteSize

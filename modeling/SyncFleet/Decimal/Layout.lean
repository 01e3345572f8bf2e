/-
  SyncFleet/Decimal/Layout.lean
  =============================
  **How a binary number is laid out as text.**

  The digits are the shortest ones; a `Layout` says when they are written
  positionally and when with an exponent, whether a whole number keeps its
  `.0`, and how the numbers without digits are spelled.
-/
import SyncFleet.Decimal.Binary64
import SyncFleet.Decimal.Shortest

namespace SyncFleet.Decimal

/-- The choices of a text format for binary numbers. -/
structure Layout where
  /-- the exponents of ten of the leading digit that are written positionally; `none`: all -/
  positional : Option (Int × Int)
  /-- whether a whole number written positionally ends in `.0` -/
  pointZero : Bool
  /-- whether an exponent that is not negative has a plus sign -/
  plusSign : Bool
  tie : Tie
  infinity : String
  negativeInfinity : String
  notANumber : String
deriving DecidableEq, Repr

namespace Layout

/-- The digits with the decimal point at its place and no exponent. -/
def writePositional (l : Layout) (d : Digits) : List Char :=
  let ds := natText d.value
  if 0 ≤ d.exponent then
    ds ++ List.replicate d.exponent.toNat '0' ++ (if l.pointZero then ['.', '0'] else [])
  else
    let places := (-d.exponent).toNat
    if places < ds.length then
      ds.take (ds.length - places) ++ '.' :: ds.drop (ds.length - places)
    else '0' :: '.' :: List.replicate (places - ds.length) '0' ++ ds

/-- One digit, the others behind a point, and the exponent of the leading digit. -/
def writeScientific (l : Layout) (d : Digits) : List Char :=
  let ds := natText d.value
  let e := d.exponent + (ds.length : Int) - 1
  let fraction := match ds.tail with
    | [] => []
    | t => '.' :: t
  let sign := if 0 ≤ e && l.plusSign then ['+'] else []
  ds.take 1 ++ fraction ++ 'e' :: sign ++ intText e

/-- Digits in the notation that its magnitude asks for. -/
def writeDigits (l : Layout) (d : Digits) : List Char :=
  let lead := d.exponent + (digitCount d.value : Int) - 1
  match l.positional with
  | none => l.writePositional d
  | some (least, greatest) =>
    if least ≤ lead && lead ≤ greatest then l.writePositional d else l.writeScientific d

/-- The text of a number. -/
def write (l : Layout) : Binary64 → List Char
  | .notANumber => l.notANumber.toList
  | .infinite false => l.infinity.toList
  | .infinite true => l.negativeInfinity.toList
  | .finite s m e =>
    (if s then ['-'] else []) ++
      (if m = 0 then l.writePositional ⟨0, 0⟩ else l.writeDigits (shortest l.tie m e))

/-- Plain notation: never an exponent, no point in a whole number. -/
def plain : Layout :=
  ⟨none, false, false, .up, "inf", "-inf", "NaN"⟩

/-- The notation of JSON documents: positional from `0.00001` to below `10 ^ 16`, a point or an
    exponent always there, and no spelling for what is not finite but `null`. -/
def json : Layout :=
  ⟨some (-5, 15), true, true, .even, "null", "null", "null"⟩

/-- The notation of configuration messages: as in JSON documents, but without the plus sign of
    an exponent and with the markup's own names for what is not finite. -/
def config : Layout :=
  ⟨some (-5, 15), true, false, .even, ".inf", "-.inf", ".nan"⟩

end Layout

end SyncFleet.Decimal

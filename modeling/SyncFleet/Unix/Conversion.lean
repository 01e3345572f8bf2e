/-
  SyncFleet/Unix/Conversion.lean
  ==============================
  **Conversions: how formats write texts and numbers.**
-/
import SyncFleet.Unix.Floating

namespace SyncFleet.Unix

/-- A conversion of a format. -/
structure Conversion where
  flags : Bytes
  width : Nat
  precision : Option Nat
  letter : Char
deriving Repr

namespace Conversion

/-- Whether a flag is given. -/
def has (c : Conversion) (flag : Char) : Bool := c.flags.contains flag

/-- A text filled up to the width with blanks. -/
def filled (c : Conversion) (text : Bytes) : Bytes :=
  let fill := List.replicate (c.width - text.length) ' '
  if c.has '-' then text ++ fill else fill ++ text

/-- A text, of which the precision says how much is used. -/
def text (c : Conversion) (text : Bytes) : Bytes :=
  c.filled (match c.precision with
    | some n => text.take n
    | none => text)

/-- A number behind its sign, filled up to the width, with zeros if that is asked for. -/
def signed (c : Conversion) (zeros : Bool) (sign digits : Bytes) : Bytes :=
  if zeros && c.has '0' && !c.has '-' then
    sign ++ List.replicate (c.width - sign.length - digits.length) '0' ++ digits
  else c.filled (sign ++ digits)

/-- The sign that a number is written with. -/
def sign (c : Conversion) (isNegative : Bool) : Bytes :=
  if isNegative then ['-'] else if c.has '+' then ['+'] else if c.has ' ' then [' '] else []

/-- Digits of a number with as many as the precision asks for; zero has none if it asks for
    none. -/
def digits (c : Conversion) (isZero : Bool) (digits : Bytes) : Bytes :=
  match c.precision with
  | some n => if n = 0 ∧ isZero then [] else padLeft n '0' digits
  | none => digits

/-- A number with a sign. -/
def integer (c : Conversion) (n : Int) : Bytes :=
  c.signed c.precision.isNone (c.sign (n < 0)) (c.digits (n = 0) (decimal n.natAbs))

/-- A number without a sign, in the base that the letter says. -/
def natural (c : Conversion) (n : Nat) : Bytes :=
  let whole := c.precision.isNone
  match c.letter with
  | 'o' =>
    let ds := c.digits (n = 0) (octal n)
    c.signed whole [] (if c.has '#' && ds.head? != some '0' then '0' :: ds else ds)
  | 'x' =>
    c.signed whole (if c.has '#' && n != 0 then ['0', 'x'] else [])
      (c.digits (n = 0) (Nat.toDigits 16 n))
  | 'X' =>
    c.signed whole (if c.has '#' && n != 0 then ['0', 'X'] else [])
      (c.digits (n = 0) ((Nat.toDigits 16 n).map Char.toUpper))
  | _ => c.signed whole [] (c.digits (n = 0) (decimal n))

/-- A floating-point number of a format. -/
def floating (c : Conversion) (format : FloatFormat) (x : Floating) : Bytes :=
  let upper := c.letter.isUpper
  let places := c.precision.getD 6
  let (body, isFinite) : Bytes × Bool := match x.magnitude with
    | .infinite => ("inf".toList, false)
    | .notANumber => ("nan".toList, false)
    | .finite whole power =>
      (match c.letter.toLower with
        | 'f' => Floating.fixed whole power places (c.has '#')
        | 'e' => Floating.scientific whole power places (c.has '#')
        | 'g' => Floating.general whole power places (c.has '#')
        | _ =>
          Floating.hexadecimal (if format.bits = 64 then 4 else 1) format.bits whole power
            c.precision (c.has '#'), true)
  let body := if upper then body.map Char.toUpper else body
  let sign := c.sign x.isNegative
  if isFinite && c.letter.toLower = 'a' then
    c.signed true (sign ++ body.take 2) (body.drop 2)
  else c.signed isFinite sign body

end Conversion

end SyncFleet.Unix

/-
  SyncFleet/Unix/Floating.lean
  ============================
  **Floating-point numbers of a format, computed exactly.**

  A number is a whole number times a power of two.  A format says how many
  bits the whole number may have and how small and great the power may be.
  Reading and computing round to the nearest number of the format, a half to
  the even one; writing is exact.
-/
import SyncFleet.Unix.Bytes

namespace SyncFleet.Unix

/-- A format of floating-point numbers. -/
structure FloatFormat where
  bits : Nat
  /-- the exponent of the smallest number above zero -/
  least : Int
  /-- the exponent of the power of two that is too great -/
  tooGreat : Int
deriving Repr

/-- Numbers of 53 bits. -/
def doubleFormat : FloatFormat := ⟨53, -1074, 1024⟩

/-- Numbers of 64 bits. -/
def extendedFormat : FloatFormat := ⟨64, -16445, 16384⟩

/-- What a number is besides its sign. -/
inductive Magnitude where
  /-- a whole number times a power of two -/
  | finite (whole : Nat) (power : Int)
  | infinite
  | notANumber
deriving DecidableEq, Repr

/-- A floating-point number. -/
structure Floating where
  isNegative : Bool
  magnitude : Magnitude
deriving DecidableEq, Repr

instance : Inhabited Floating := ⟨⟨false, .finite 0 0⟩⟩

namespace Floating

/-- The quotient of two numbers, rounded to the nearest whole number, a half to the even one. -/
def roundDiv (n d : Nat) : Nat :=
  let q := n / d
  let r := n % d
  if 2 * r < d then q else if d < 2 * r then q + 1 else q + q % 2

/-- The number of binary digits. -/
def bitLength (n : Nat) : Nat := if n = 0 then 0 else n.log2 + 1

/-- The number of a format that is nearest to a quotient. -/
def ofQuotient (format : FloatFormat) (n d : Nat) : Magnitude :=
  if n = 0 then .finite 0 0
  else
    let guess : Int := (bitLength n : Int) - bitLength d - format.bits
    let scaled := fun (e : Int) =>
      if 0 ≤ e then (n, d * Nat.pow 2 e.toNat) else (n * Nat.pow 2 (-e).toNat, d)
    let fits := fun (e : Int) =>
      let (a, b) := scaled e
      a / b < Nat.pow 2 format.bits
    let e := if fits guess then guess else guess + 1
    let e := max e format.least
    let (a, b) := scaled e
    let whole := roundDiv a b
    if format.tooGreat < (bitLength whole : Int) + e then .infinite
    else .finite whole e

/-- The number of a format that is nearest to a decimal numeral. -/
def ofDecimal (format : FloatFormat) (digits : Nat) (exponent : Int) : Magnitude :=
  if digits = 0 then .finite 0 0
  else if 20000 < exponent then .infinite
  else if exponent < -200000 then .finite 0 0
  else if 0 ≤ exponent then ofQuotient format (digits * Nat.pow 10 exponent.toNat) 1
  else ofQuotient format digits (Nat.pow 10 (-exponent).toNat)

/-- The number of a format that is nearest to a whole number times a power of two. -/
def ofBinary (format : FloatFormat) (digits : Nat) (exponent : Int) : Magnitude :=
  if digits = 0 then .finite 0 0
  else if 100000 < exponent then .infinite
  else if exponent < -200000 then .finite 0 0
  else if 0 ≤ exponent then ofQuotient format (digits * Nat.pow 2 exponent.toNat) 1
  else ofQuotient format digits (Nat.pow 2 (-exponent).toNat)

/-! ### Reading -/

/-- Digits with a point, of a base: their number without the point, how many of them stand behind
    it, how many there are, and what is behind them. -/
def mantissaAt (base : Nat) (text : Bytes) : Nat × Nat × Nat × Bytes :=
  let (whole, n, rest) := digitsAt base text
  match rest with
  | '.' :: more =>
    let (both, k, behind) := (digitsAt base more)
    if n + k = 0 then (0, 0, 0, text)
    else (whole * Nat.pow base k + both, k, n + k, behind)
  | _ => (whole, 0, n, rest)

/-- An exponent behind its letter, if there is one, and what is behind it. -/
def exponentAt (letters text : Bytes) : Int × Bytes :=
  match text with
  | c :: rest =>
    if !letters.contains c then (0, text)
    else
      let (negative, ds) := match rest with
        | '-' :: ds => (true, ds)
        | '+' :: ds => (false, ds)
        | ds => (false, ds)
      match digitsAt 10 ds with
      | (_, 0, _) => (0, text)
      | (n, _, behind) =>
        let n := min n 1000000
        (if negative then -(n : Int) else n, behind)
  | [] => (0, text)

/-- Whether a text begins with a word, whatever the case of its letters. -/
def beginsWith (word : String) (text : Bytes) : Bool :=
  (text.take word.length).map Char.toLower == word.toList

/-- The number at the start of a text, what is behind it, and whether it is out of range.  If there
    is none, nothing is taken. -/
def read (format : FloatFormat) (text : Bytes) : Floating × Bytes × Bool :=
  let start := text.dropWhile isSpace
  let (negative, body) := match start with
    | '-' :: rest => (true, rest)
    | '+' :: rest => (false, rest)
    | rest => (false, rest)
  if beginsWith "infinity" body then (⟨negative, .infinite⟩, body.drop 8, false)
  else if beginsWith "inf" body then (⟨negative, .infinite⟩, body.drop 3, false)
  else if beginsWith "nan" body then (⟨negative, .notANumber⟩, body.drop 3, false)
  else
    let hexadecimal := match body with
      | '0' :: x :: rest =>
        if x = 'x' ∨ x = 'X' then
          match mantissaAt 16 rest with
          | (_, _, 0, _) => none
          | m => some m
        else none
      | _ => none
    match hexadecimal with
    | some (digits, places, _, rest) =>
      let (e, rest) := exponentAt ['p', 'P'] rest
      let m := ofBinary format digits (e - 4 * places)
      (⟨negative, m⟩, rest, m = .infinite || (digits ≠ 0 && m matches .finite 0 _))
    | none =>
      match mantissaAt 10 body with
      | (_, _, 0, _) => (⟨false, .finite 0 0⟩, text, false)
      | (digits, places, _, rest) =>
        let (e, rest) := exponentAt ['e', 'E'] rest
        let m := ofDecimal format digits (e - places)
        (⟨negative, m⟩, rest, m = .infinite || (digits ≠ 0 && m matches .finite 0 _))

/-! ### Computing -/

/-- A number as a quotient; none if it is not finite. -/
def quotient? (x : Floating) : Option (Int × Nat) :=
  match x.magnitude with
  | .finite whole power =>
    let (n, d) := if 0 ≤ power then (whole * Nat.pow 2 power.toNat, 1)
      else (whole, Nat.pow 2 (-power).toNat)
    some (if x.isNegative then -(n : Int) else n, d)
  | _ => none

/-- The number of a format that is nearest to a quotient with a sign. -/
def ofSigned (format : FloatFormat) (n : Int) (d : Nat) : Floating :=
  ⟨n < 0, ofQuotient format n.natAbs d⟩

/-- The number of a whole number. -/
def ofInt (format : FloatFormat) (n : Int) : Floating := ofSigned format n 1

/-- A number that is none. -/
def nan : Floating := ⟨false, .notANumber⟩

/-- A number computed from the quotients of two others. -/
def combine (format : FloatFormat) (f : Int × Nat → Int × Nat → Int × Nat) (x y : Floating) :
    Floating :=
  match x.quotient?, y.quotient? with
  | some a, some b =>
    let (n, d) := f a b
    ofSigned format n d
  | _, _ => if x.magnitude = .infinite then x else if y.magnitude = .infinite then y else nan

/-- The sum of two numbers. -/
def add (format : FloatFormat) : Floating → Floating → Floating :=
  combine format fun (a, b) (c, d) => (a * d + c * b, b * d)

/-- The product of two numbers. -/
def mul (format : FloatFormat) : Floating → Floating → Floating :=
  combine format fun (a, b) (c, d) => (a * c, b * d)

/-- Whether a number is less than another. -/
def less (x y : Floating) : Bool :=
  match x.quotient?, y.quotient? with
  | some (a, b), some (c, d) => a * d < c * b
  | some _, none => y.magnitude = .infinite && !y.isNegative
  | none, some _ => x.magnitude = .infinite && x.isNegative
  | none, none =>
    x.magnitude = .infinite && y.magnitude = .infinite && x.isNegative && !y.isNegative

/-- Whether a number is zero. -/
def isZero (x : Floating) : Bool := x.magnitude matches .finite 0 _

/-! ### Writing -/

/-- A finite magnitude times a power of ten, rounded to a whole number. -/
def scaled (whole : Nat) (power : Int) (tens : Int) : Nat :=
  let n := whole * (if 0 ≤ power then Nat.pow 2 power.toNat else 1)
    * (if 0 ≤ tens then Nat.pow 10 tens.toNat else 1)
  let d := (if 0 ≤ power then 1 else Nat.pow 2 (-power).toNat)
    * (if 0 ≤ tens then 1 else Nat.pow 10 (-tens).toNat)
  roundDiv n d

/-- Digits with a point in front of the last ones. -/
def withPoint (places : Nat) (keepsPoint : Bool) (n : Nat) : Bytes :=
  let ds := padLeft (places + 1) '0' (decimal n)
  let whole := ds.take (ds.length - places)
  if places = 0 then if keepsPoint then whole ++ ['.'] else whole
  else whole ++ '.' :: ds.drop (ds.length - places)

/-- A finite magnitude with some places. -/
def fixed (whole : Nat) (power : Int) (places : Nat) (keepsPoint : Bool) : Bytes :=
  withPoint places keepsPoint (scaled whole power places)

/-- The digits of a finite magnitude above zero with as many places behind the first, and the
    exponent of ten. -/
def scientificDigits (whole : Nat) (power : Int) (places : Nat) : Nat × Int :=
  if whole = 0 then (0, 0)
  else
    let guess : Int := ((bitLength whole : Int) + power - 1) * 30103 / 100000
    let most := Nat.pow 10 (places + 1)
    let try_ := fun (e : Int) => scaled whole power (places - e)
    let pick := fun (e : Int) => (try_ e, e)
    let candidates := [guess + 1, guess, guess - 1].map pick
    match candidates.find? fun (n, _) => Nat.pow 10 places ≤ n && n < most with
    | some r => r
    | none =>
      match candidates.find? fun (n, _) => n = most with
      | some (_, e) => (Nat.pow 10 places, e + 1)
      | none => (0, 0)

/-- An exponent of ten of at least two digits. -/
def exponentText (letter : Char) (e : Int) : Bytes :=
  letter :: (if e < 0 then '-' else '+') :: padLeft 2 '0' (decimal e.natAbs)

/-- A finite magnitude with an exponent of ten. -/
def scientific (whole : Nat) (power : Int) (places : Nat) (keepsPoint : Bool) : Bytes :=
  let (n, e) := scientificDigits whole power places
  withPoint places keepsPoint n ++ exponentText 'e' e

/-- Digits without zeros at the end, and without a point there. -/
def trimmed (text : Bytes) : Bytes :=
  if text.contains '.' then
    let kept := (text.reverse.dropWhile (· == '0')).reverse
    if kept.getLast? = some '.' then kept.dropLast else kept
  else text

/-- A finite magnitude with some digits that count, written as is shorter. -/
def general (whole : Nat) (power : Int) (digits : Nat) (keepsZeros : Bool) : Bytes :=
  let digits := max 1 digits
  let (n, e) := scientificDigits whole power (digits - 1)
  if -4 ≤ e ∧ e < digits then
    let text := fixed whole power ((digits : Int) - 1 - e).toNat keepsZeros
    if keepsZeros then text else trimmed text
  else
    let text := withPoint (digits - 1) keepsZeros n
    (if keepsZeros then text else trimmed text) ++ exponentText 'e' e

/-- A finite magnitude in hexadecimal digits: the first has as many bits as `lead`. -/
def hexadecimal (lead bits whole : Nat) (power : Int) (places : Option Nat) (keepsPoint : Bool) :
    Bytes :=
  let behind := (bits - lead + 3) / 4
  let (digits, e) : Nat × Int :=
    if whole = 0 then (0, 0)
    else
      let shift := bits - bitLength whole
      (whole * Nat.pow 2 shift * Nat.pow 2 (4 * behind - (bits - lead)),
        power - shift + (bits - lead))
  let (digits, kept) := match places with
    | some p => if p < behind then (roundDiv digits (Nat.pow 16 (behind - p)), p)
        else (digits * Nat.pow 16 (p - behind), p)
    | none =>
      let zeros := ((Nat.toDigits 16 digits).reverse.takeWhile (· == '0')).length
      let drop := if digits = 0 then behind else min zeros behind
      (digits / Nat.pow 16 drop, behind - drop)
  let ds := padLeft (kept + 1) '0' (Nat.toDigits 16 digits)
  let first := ds.take (ds.length - kept)
  let point := if kept = 0 then if keepsPoint then ['.'] else []
    else '.' :: ds.drop (ds.length - kept)
  "0x".toList ++ first ++ point ++ 'p' :: (if e < 0 then '-' else '+') :: decimal e.natAbs

end Floating

end SyncFleet.Unix

/-
  SyncFleet/Utility/Moment/Writing.lean
  =====================================
  **Moments written by formats.**
-/
import SyncFleet.Unix.Execution
import SyncFleet.Utility.Moment.Clock

namespace SyncFleet.Utility.Moment

open Unix

/-- A zone: its name, and how many seconds it is ahead. -/
structure Zone where
  name : Bytes
  ahead : Int
deriving Repr

/-- The zone of universal time. -/
def universal : Zone := ⟨"UTC".toList, 0⟩

/-- The zone that a text describes: letters, and perhaps how far it is behind. -/
def Zone.ofText (text : Bytes) : Zone :=
  let text := if text.head? = some ':' then text.drop 1 else text
  let name := text.takeWhile Char.isAlpha
  let rest := text.drop name.length
  let (back, digits) : Int × Bytes := match rest with
    | '-' :: ds => (1, ds)
    | '+' :: ds => (-1, ds)
    | ds => (-1, ds)
  if name.length < 3 then universal
  else match digitsAt 10 digits with
    | (h, _ + 1, ':' :: more) => ⟨name, back * (3600 * h + 60 * (digitsAt 10 more).1 : Nat)⟩
    | (h, _ + 1, _) => ⟨name, back * (3600 * h : Nat)⟩
    | _ => if rest.isEmpty then ⟨name, 0⟩ else universal

/-- The zone that an environment names. -/
def zoneOf (environment : List Bytes) : Zone :=
  match binding? environment "TZ".toList with
  | none | some [] => universal
  | some text => Zone.ofText text

/-- How a field is written. -/
structure FieldStyle where
  /-- what a field is filled up with; nothing for a dash -/
  fill : Option Char := none
  upper : Bool := false
  swaps : Bool := false
  width : Option Nat := none
  colons : Nat := 0

/-- A number with a sign, filled up to some digits. -/
def FieldStyle.number (s : FieldStyle) (fill : Char) (digits : Nat) (n : Int) : Bytes :=
  let fill := s.fill.getD fill
  let text := decimal n.natAbs
  let sign : Bytes := if n < 0 then ['-'] else []
  if fill = '-' then sign ++ text
  else
    let width := s.width.getD digits - sign.length
    if fill = '_' then
      padLeft (s.width.getD digits) ' ' (sign ++ text)
    else sign ++ padLeft width '0' text

/-- A text, filled up to a width. -/
def FieldStyle.text (s : FieldStyle) (text : Bytes) : Bytes :=
  let text := if s.upper then text.map Char.toUpper else text
  match s.width, s.fill with
  | some w, some '0' => padLeft w '0' text
  | some _, some '-' => text
  | some w, _ => padLeft w ' ' text
  | none, _ => text

/-- A fraction of a second; the width says how many digits of it count. -/
def FieldStyle.nanos (s : FieldStyle) (nano : Int) : Bytes :=
  let width := match s.width with
    | some (w + 1) => w + 1
    | _ => 9
  let all := (padLeft 9 '0' (decimal nano.toNat)).take width
  let kept := (all.reverse.dropWhile (· == '0')).reverse
  let kept := if kept.isEmpty then ['0'] else kept
  match s.fill with
  | some '-' => kept
  | some '_' => padRight width kept
  | _ => kept ++ List.replicate (width - kept.length) '0'

/-- The distance of a zone from universal time. -/
def offsetText (colons : Nat) (ahead : Int) : Bytes :=
  let sign := if ahead < 0 then '-' else '+'
  let n := ahead.natAbs
  let two := fun n => padLeft 2 '0' (decimal n)
  let h := two (n / 3600)
  let m := two (n / 60 % 60)
  let s := two (n % 60)
  sign :: match colons with
    | 0 => h ++ m
    | 1 => h ++ ':' :: m
    | 2 => h ++ ':' :: m ++ ':' :: s
    | _ =>
      if n % 60 ≠ 0 then h ++ ':' :: m ++ ':' :: s
      else if n / 60 % 60 ≠ 0 then h ++ ':' :: m
      else h

/-- What some letters stand for. -/
def shorthand? : Char → Option String
  | 'c' => some "%a %b %e %H:%M:%S %Y"
  | 'D' | 'x' => some "%m/%d/%y"
  | 'F' => some "%Y-%m-%d"
  | 'r' => some "%I:%M:%S %p"
  | 'R' => some "%H:%M"
  | 'T' | 'X' => some "%H:%M:%S"
  | _ => none

/-- A field that stands for itself. -/
def fieldText? (zone : Zone) (moment : Int) (p : Parts) (s : FieldStyle) (letter : Char) :
    Option Bytes :=
  let name := fun (names : List String) (i : Int) (short : Bool) =>
    let full := (names.getD i.toNat "?").toList
    let style := if s.swaps then { s with upper := true } else s
    style.text (if short then full.take 3 else full)
  let weekday := weekdayOf p.dayNumber
  let half := if p.hour < 12 then "AM".toList else "PM".toList
  let hour12 := if p.hour % 12 = 0 then 12 else p.hour % 12
  match letter with
  | '%' => some (s.text ['%'])
  | 'a' => some (name weekdays weekday true)
  | 'A' => some (name weekdays weekday false)
  | 'b' | 'h' => some (name Moment.months p.month true)
  | 'B' => some (name Moment.months p.month false)
  | 'C' => some (s.number '0' 2 (p.year.fdiv 100))
  | 'd' => some (s.number '0' 2 p.day)
  | 'e' => some (s.number '_' 2 p.day)
  | 'g' => some (s.number '0' 2 (p.week.1.fmod 100))
  | 'G' => some (s.number '0' 4 p.week.1)
  | 'H' => some (s.number '0' 2 p.hour)
  | 'I' => some (s.number '0' 2 hour12)
  | 'j' => some (s.number '0' 3 (p.dayOfYear + 1))
  | 'k' => some (s.number '_' 2 p.hour)
  | 'l' => some (s.number '_' 2 hour12)
  | 'm' => some (s.number '0' 2 (p.month + 1))
  | 'M' => some (s.number '0' 2 p.minute)
  | 'n' => some (s.text ['\n'])
  | 'N' => some (s.nanos p.nano)
  | 'p' => some (s.text (if s.swaps then half.map Char.toLower else half))
  | 'P' => some (s.text (half.map Char.toLower))
  | 'q' => some (s.number '0' 1 (p.month / 3 + 1))
  | 's' => some (s.number '0' 1 (moment.fdiv Moment.second))
  | 'S' => some (s.number '0' 2 p.second)
  | 't' => some (s.text ['\t'])
  | 'u' => some (s.number '0' 1 ((weekday + 6) % 7 + 1))
  | 'U' => some (s.number '0' 2 ((p.dayOfYear - weekday + 7) / 7))
  | 'V' => some (s.number '0' 2 p.week.2)
  | 'w' => some (s.number '0' 1 weekday)
  | 'W' => some (s.number '0' 2 ((p.dayOfYear - (weekday + 6) % 7 + 7) / 7))
  | 'y' => some (s.number '0' 2 (p.year.fmod 100))
  | 'Y' => some (s.number '0' 4 p.year)
  | 'z' => some (s.text (offsetText s.colons zone.ahead))
  | 'Z' => some (s.text (if s.swaps then zone.name.map Char.toLower else zone.name))
  | _ => none

/-- The style and the letter of a field, behind its percent sign, of at most `fuel` bytes, and what
    is behind it. -/
def styleAt : Nat → FieldStyle → Bytes → Option (FieldStyle × Char × Bytes)
  | 0, _, _ => none
  | _, _, [] => none
  | fuel + 1, s, c :: rest =>
    match c with
    | '_' | '-' | '+' => styleAt fuel { s with fill := some c } rest
    | '^' => styleAt fuel { s with upper := true } rest
    | '#' => styleAt fuel { s with swaps := true } rest
    | ':' => styleAt fuel { s with colons := s.colons + 1 } rest
    | 'E' | 'O' => styleAt fuel s rest
    | c =>
      if c = '0' && s.width.isNone then styleAt fuel { s with fill := some '0' } rest
      else if c.isDigit then
        let (n, count, _) := digitsAt 10 (c :: rest)
        styleAt fuel { s with width := some n } ((c :: rest).drop count)
      else some (s, c, rest)

/-- A moment written by a format, in at most `fuel` pieces. -/
def formattedFrom (zone : Zone) (moment : Int) (p : Parts) : Nat → Bytes → Bytes
  | 0, _ => []
  | _, [] => []
  | fuel + 1, '%' :: rest =>
    match styleAt (rest.length + 1) {} rest with
    | none => '%' :: rest
    | some (s, letter, behind) =>
      let text := match fieldText? zone moment p s letter, shorthand? letter with
        | some text, _ => text
        | none, some format => s.text (formattedFrom zone moment p fuel format.toList)
        | none, none => '%' :: rest.take (rest.length - behind.length)
      text ++ formattedFrom zone moment p fuel behind
  | fuel + 1, c :: rest => c :: formattedFrom zone moment p fuel rest

/-- A moment written by a format. -/
def formatted (zone : Zone) (moment : Int) (format : Bytes) : Bytes :=
  formattedFrom zone moment (partsOf (moment + zone.ahead * second)) (format.length + 20) format

end SyncFleet.Utility.Moment

/-
  SyncFleet/Utility/Moment/Reading.lean
  =====================================
  **Moments as people write them.**

  A description consists of dates, times of day, days of the week, zones and
  steps forward or back, in any order.  What is not said is taken from the
  present moment, except that a date without a time means midnight.
-/
import SyncFleet.Unix.Bytes
import SyncFleet.Utility.Moment.Clock

namespace SyncFleet.Utility.Moment

open Unix

/-! ### Words -/

/-- A word of a description. -/
inductive Word where
  /-- a number with its sign, if there is one, and how many digits it has -/
  | number (sign : Option Char) (value : Nat) (digits : Nat)
  /-- a number with a fraction in nanoseconds -/
  | fraction (sign : Option Char) (value : Nat) (nano : Nat)
  | name (text : String)
  | mark (c : Char)
deriving DecidableEq, Repr

/-- The nanoseconds of digits behind a point. -/
def nanosOf (digits : Bytes) : Nat :=
  let nine := (digits ++ List.replicate 9 '0').take 9
  (digitsAt 10 nine).1

/-- A text behind an annotation in parentheses, at most `fuel` bytes long. -/
def behindParentheses : Nat → Nat → Bytes → Option Bytes
  | 0, _, _ => none
  | _, _, [] => none
  | fuel + 1, depth, c :: rest =>
    match c, depth with
    | '(', d => behindParentheses fuel (d + 1) rest
    | ')', 1 => some rest
    | ')', d => behindParentheses fuel (d - 1) rest
    | _, d => behindParentheses fuel d rest

/-- The words of a text of at most `fuel` bytes. -/
def wordsFrom : Nat → Bytes → Option (List Word)
  | 0, _ => some []
  | _, [] => some []
  | fuel + 1, c :: rest =>
    if isSpace c then wordsFrom fuel rest
    else if c = '(' then (behindParentheses (rest.length + 2) 0 (c :: rest)).bind (wordsFrom fuel)
    else if c.isAlpha then
      let text := (c :: rest).takeWhile fun c => c.isAlpha || c == '.'
      let name := (text.filter (· != '.')).map Char.toLower
      (wordsFrom fuel ((c :: rest).drop text.length)).map (.name (String.ofList name) :: ·)
    else
      let (sign, behind) : Option Char × Bytes :=
        if c = '-' ∨ c = '+' then (some c, rest.dropWhile isSpace) else (none, c :: rest)
      if behind.head?.any Char.isDigit then
        let (value, count, more) := digitsAt 10 behind
        match more with
        | p :: d :: _ =>
          if (p = '.' ∨ p = ',') ∧ d.isDigit then
            let digits := (more.drop 1).takeWhile Char.isDigit
            (wordsFrom fuel (more.drop (digits.length + 1))).map
              (.fraction sign value (nanosOf digits) :: ·)
          else (wordsFrom fuel more).map (.number sign value count :: ·)
        | _ => (wordsFrom fuel more).map (.number sign value count :: ·)
      else (wordsFrom fuel rest).map (.mark c :: ·)

/-! ### What has been read -/

/-- What a description has said so far. -/
structure Said where
  /-- year, month from zero on, and day; the year may be left open -/
  date : Option (Option Int × Int × Int) := none
  time : Option (Int × Int × Int × Int) := none
  /-- how many seconds the zone is ahead -/
  zone : Option Int := none
  /-- a day of the week, and the how many-th of it is meant -/
  weekday : Option (Int × Int) := none
  isRelative : Bool := false
  years : Int := 0
  months : Int := 0
  days : Int := 0
  seconds : Int := 0
  nanos : Int := 0
  /-- seconds and nanoseconds from the start of 1970 -/
  stamp : Option (Int × Int) := none

/-- The number of a name in a list, where three letters are enough. -/
def nameIndex? (names : List String) (name : String) : Option Nat :=
  names.findIdx? fun full =>
    let lower := full.toList.map Char.toLower
    lower = name.toList || (name.length = 3 && lower.take 3 = name.toList)

/-- The month of a name. -/
def monthOf? (name : String) : Option Int :=
  (if name = "sept" then some 8 else nameIndex? Moment.months name).map Int.ofNat

/-- The day of the week of a name. -/
def weekdayOf? (name : String) : Option Int :=
  match name with
  | "tues" => some 2
  | "wednes" => some 3
  | "thur" | "thurs" => some 4
  | name => (nameIndex? weekdays name).map Int.ofNat

/-- What a word says about order. -/
def ordinalOf? (name : String) : Option Int :=
  match name with
  | "last" => some (-1)
  | "this" => some 0
  | "next" => some 1
  | "first" => some 1
  | "third" => some 3
  | "fourth" => some 4
  | "fifth" => some 5
  | "sixth" => some 6
  | "seventh" => some 7
  | "eighth" => some 8
  | "ninth" => some 9
  | "tenth" => some 10
  | "eleventh" => some 11
  | "twelfth" => some 12
  | _ => none

/-- A step of some units. -/
def Said.step (s : Said) (unit : String) (n : Int) : Option Said :=
  let unit := if 1 < unit.length && unit.endsWith "s" then String.ofList unit.toList.dropLast
    else unit
  let s := { s with isRelative := true }
  match unit with
  | "year" => some { s with years := s.years + n }
  | "month" => some { s with months := s.months + n }
  | "fortnight" => some { s with days := s.days + 14 * n }
  | "week" => some { s with days := s.days + 7 * n }
  | "day" => some { s with days := s.days + n }
  | "hour" => some { s with seconds := s.seconds + 3600 * n }
  | "minute" | "min" => some { s with seconds := s.seconds + 60 * n }
  | "second" | "sec" => some { s with seconds := s.seconds + n }
  | _ => none

/-- The zones that have names, in hours ahead. -/
def zoneOf? (name : String) : Option Int :=
  match name with
  | "utc" | "ut" | "gmt" | "z" | "wet" => some 0
  | "bst" | "cet" | "met" | "west" => some 1
  | "cest" | "eet" | "sast" => some 2
  | "eest" | "msk" => some 3
  | "jst" => some 9
  | "edt" | "clt" => some (-4)
  | "est" | "cdt" => some (-5)
  | "cst" | "mdt" => some (-6)
  | "mst" | "pdt" => some (-7)
  | "pst" => some (-8)
  | _ => none

/-- The seconds that a numeric zone is ahead. -/
def zoneSeconds? (sign : Char) (value digits : Nat) (minutes : Option Nat) : Option Int :=
  let (h, m) := match minutes with
    | some m => (value, m)
    | none => if digits ≤ 2 then (value, 0) else (value / 100, value % 100)
  if 24 < h || 59 < m then none
  else some (if sign = '-' then -((3600 * h + 60 * m : Nat) : Int) else (3600 * h + 60 * m : Nat))

/-- The year that digits mean. -/
def yearOf (value digits : Nat) : Int :=
  if 2 < digits then value else if value < 69 then value + 2000 else value + 1900

/-- Say a date. -/
def Said.onDate (s : Said) (year : Option Int) (month day : Int) : Option Said :=
  if s.date.isSome then none else some { s with date := some (year, month, day) }

/-- Say a time of day. -/
def Said.atTime (s : Said) (hour minute second nano : Int) : Option Said :=
  if s.time.isSome then none else some { s with time := some (hour, minute, second, nano) }

/-- The hour of a clock with twelve hours. -/
def hourOf? (meridian : String) (hour : Nat) : Option Nat :=
  match meridian with
  | "am" => if 1 ≤ hour && hour ≤ 12 then some (hour % 12) else none
  | "pm" => if 1 ≤ hour && hour ≤ 12 then some (hour % 12 + 12) else none
  | _ => none

/-- The time of day at the start of some words, behind its hour and minute. -/
def Said.clock (s : Said) (hour minute : Nat) (rest : List Word) : Option (Said × List Word) := do
  let (second, nano, rest) ← match rest with
    | .mark ':' :: .number none v _ :: rest => some (v, 0, rest)
    | .mark ':' :: .fraction none v n :: rest => some (v, n, rest)
    | rest => some (0, 0, rest)
  let (hour, rest) ← match rest with
    | .name m :: more =>
      if m = "am" ∨ m = "pm" then (hourOf? m hour).map (·, more) else some (hour, rest)
    | rest => some (hour, rest)
  if 24 < hour || 59 < minute || 60 < second then none
  let s ← s.atTime hour minute second nano
  match rest with
  | .number (some sign) v d :: .mark ':' :: .number none m _ :: rest =>
    return ({ s with zone := some (← zoneSeconds? sign v d (some m)) }, rest)
  | .number (some sign) v d :: rest =>
    match rest with
    | .name unit :: _ =>
      if (s.step unit 1).isSome then return (s, .number (some sign) v d :: rest)
      else return ({ s with zone := some (← zoneSeconds? sign v d none) }, rest)
    | _ => return ({ s with zone := some (← zoneSeconds? sign v d none) }, rest)
  | rest => return (s, rest)

/-- A step of which the direction may stand behind it. -/
def Said.stepped (s : Said) (unit : String) (n : Int) (rest : List Word) :
    Option (Said × List Word) :=
  match rest with
  | .name "ago" :: rest => (s.step unit (-n)).map (·, rest)
  | rest => (s.step unit n).map (·, rest)

/-- A number with its sign. -/
def signed (sign : Option Char) (value : Nat) : Int :=
  if sign = some '-' then -(value : Int) else value

/-- Take the next item of a description. -/
def Said.take (s : Said) : List Word → Option (Said × List Word)
  | .mark '@' :: .number sign v _ :: rest =>
    if s.stamp.isSome then none else some ({ s with stamp := some (signed sign v, 0) }, rest)
  | .mark '@' :: .fraction sign v n :: rest =>
    some ({ s with
      stamp := some (if sign = some '-' then (-(v : Int), -(n : Int)) else ((v : Int), (n : Int))) },
      rest)
  | .number none y d :: .number (some '-') m _ :: .number (some '-') day _ :: rest => do
    let s ← s.onDate (some <| yearOf y d) (m - 1) day
    match rest with
    | .name "t" :: rest => return (s, rest)
    | rest => return (s, rest)
  | .number none d _ :: .mark '-' :: .name m :: .number (some '-') y n :: rest => do
    let s ← s.onDate (some <| yearOf y n) (← monthOf? m) d
    return (s, rest)
  | .number none m n :: .mark '/' :: .number none d _ :: .mark '/' :: .number none y k :: rest =>
    do
      let s ← if 4 ≤ n then s.onDate (some m) (d - 1) y
        else s.onDate (some <| yearOf y k) (m - 1) d
      return (s, rest)
  | .number none m _ :: .mark '/' :: .number none d _ :: rest => do
    let s ← s.onDate none (m - 1) d
    return (s, rest)
  | .number none h _ :: .mark ':' :: .number none m _ :: rest => s.clock h m rest
  | .number none h _ :: .name meridian :: rest => do
    match hourOf? meridian h with
    | some h => return (← s.atTime h 0 0 0, rest)
    | none =>
      match monthOf? meridian, rest with
      | some m, .number none y n :: more =>
        if more.head? = some (.mark ':') then
          return (← s.onDate none m h, rest)
        else return (← s.onDate (some <| yearOf y n) m h, more)
      | some m, _ => return (← s.onDate none m h, rest)
      | none, _ =>
        match weekdayOf? meridian with
        | some w => return ({ s with weekday := some (w, h) }, rest)
        | none =>
          if meridian = "t" then
            let s ← s.onDate (some (h / 10000)) (h / 100 % 100 - 1) (h % 100)
            return (s, rest)
          s.stepped meridian h rest
  | .number sign v _ :: .name unit :: rest => s.stepped unit (signed sign v) rest
  | .fraction sign v n :: .name unit :: rest => do
    if unit ≠ "second" ∧ unit ≠ "seconds" ∧ unit ≠ "sec" ∧ unit ≠ "secs" then none
    let s' := { s with isRelative := true }
    let back : Int := if (sign = some '-') != (rest.head? = some (.name "ago")) then -1 else 1
    let rest := if rest.head? = some (.name "ago") then rest.drop 1 else rest
    return ({ s' with seconds := s.seconds + back * v, nanos := s.nanos + back * n }, rest)
  | .name name :: rest => do
    match name with
    | "now" | "today" => return ({ s with isRelative := true }, rest)
    | "yesterday" => return (← s.step "day" (-1), rest)
    | "tomorrow" => return (← s.step "day" 1, rest)
    | "noon" => return (← s.atTime 12 0 0 0, rest)
    | "midnight" => return (← s.atTime 0 0 0 0, rest)
    | "t" =>
      match rest with
      | .number none h _ :: .mark ':' :: .number none m _ :: rest => s.clock h m rest
      | _ => none
    | name =>
      match ordinalOf? name, rest with
      | some n, .name unit :: rest =>
        match weekdayOf? unit with
        | some w => return ({ s with weekday := some (w, n) }, rest)
        | none => s.stepped unit n rest
      | some _, _ => none
      | none, _ =>
        match monthOf? name, rest with
        | some m, .number none d _ :: .mark ',' :: .number none y k :: rest =>
          return (← s.onDate (some <| yearOf y k) m d, rest)
        | some m, .number none d _ :: .number none y 4 :: more =>
          if more.head? = some (.mark ':') then return (← s.onDate none m d, rest.drop 1)
          else return (← s.onDate (some <| yearOf y 4) m d, more)
        | some m, .number none d _ :: rest => return (← s.onDate none m d, rest)
        | some _, _ => none
        | none, _ =>
          match weekdayOf? name with
          | some w =>
            let rest := if rest.head? = some (.mark ',') then rest.drop 1 else rest
            return ({ s with weekday := some (w, 0) }, rest)
          | none =>
            match zoneOf? name with
            | some h =>
              if s.zone.isSome then none
              else
                match rest with
                | .number (some sign) v d :: more =>
                  match more with
                  | .name unit :: _ =>
                    if (s.step unit 1).isSome then
                      return ({ s with zone := some (3600 * h) }, rest)
                    else none
                  | _ =>
                    let ahead ← zoneSeconds? sign v d none
                    return ({ s with zone := some (3600 * h + ahead) }, more)
                | rest => return ({ s with zone := some (3600 * h) }, rest)
            | none => s.stepped name 1 rest
  | .number none v d :: rest => do
    match s.date, s.time with
    | some (none, m, day), _ =>
      if s.time.isSome || 2 < d then
        return ({ s with date := some (some (yearOf v d), m, day) }, rest)
      else return (← s.atTime v 0 0 0, rest)
    | _, _ =>
      if 4 < d then
        let year := yearOf (v / 10000) (d - 4)
        return (← s.onDate (some year) (v / 100 % 100 - 1) (v % 100), rest)
      else if d ≤ 2 then return (← s.atTime v 0 0 0, rest)
      else return (← s.atTime (v / 100) (v % 100) 0 0, rest)
  | .number (some sign) v d :: rest => do
    if s.time.isNone || s.zone.isSome then none
    let ahead ← zoneSeconds? sign v d none
    return ({ s with zone := some ahead }, rest)
  | _ => none

/-- Take all items of a description, at most `fuel`. -/
def Said.takeAll : Nat → Said → List Word → Option Said
  | 0, _, _ => none
  | _, s, [] => some s
  | fuel + 1, s, words => do
    let (s, rest) ← s.take words
    takeAll fuel s rest

/-- The moment that is meant, as seen from the present one; `ahead` is how many seconds the zone is
    ahead that holds if none is said. -/
def Said.moment (s : Said) (ahead now : Int) : Option Int := do
  if let some (seconds, nano) := s.stamp then
    return (seconds + s.seconds) * second + nano + s.nanos
  let ahead := s.zone.getD ahead
  let present := partsOf (now + ahead * second)
  let (year, month, day) := match s.date with
    | some (y, m, d) => (y.getD present.year, m, d)
    | none => (present.year, present.month, present.day)
  let keepsTime := s.isRelative && s.date.isNone && s.weekday.isNone
  let (hour, minute, sec, nano) := match s.time with
    | some t => t
    | none =>
      if keepsTime then (present.hour, present.minute, present.second, present.nano)
      else (0, 0, 0, 0)
  if s.date.isSome && !isDay year month day then none
  if 24 ≤ hour then none
  let start := (Parts.mk year month day hour minute sec nano).dayNumber
  let shift := match s.weekday with
    | some (w, n) =>
      let today := weekdayOf start
      (w - today + 7).fmod 7 + 7 * (n - (if 0 < n && today ≠ w then 1 else 0))
    | none => 0
  let p : Parts := ⟨year + s.years, month + s.months, day + shift + s.days, hour, minute, sec, nano⟩
  return p.moment + (s.seconds - ahead) * second + s.nanos

/-- The moment that a description means, as seen from the present one, in a zone that is some
    seconds ahead. -/
def ofText? (ahead now : Int) (text : Bytes) : Option Int := do
  let words ← wordsFrom (text.length + 1) text
  if words.isEmpty then
    let p := partsOf (now + ahead * second)
    let start : Parts := ⟨p.year, p.month, p.day, 0, 0, 0, 0⟩
    return start.moment - ahead * second
  let s ← Said.takeAll (words.length + 1) {} words
  s.moment ahead now

/-! ### Stamps in digits -/

/-- The moment of digits for month, day, hour and minute, with the year in front, if it is there,
    or behind them, and seconds behind a point, in a zone that is some seconds ahead. -/
def ofDigits? (yearFirst : Bool) (ahead now : Int) (text : Bytes) : Option Int := do
  let digits := text.takeWhile Char.isDigit
  let seconds ← match text.drop digits.length with
    | [] => some 0
    | ['.', a, b] => (natOf? [a, b]).bind fun n => if n ≤ 60 then some n else none
    | _ => none
  let two := fun (i : Nat) => (natOf? ((digits.drop i).take 2)).map Int.ofNat
  let (year, i) ← match digits.length, yearFirst with
    | 8, _ => some ((partsOf (now + ahead * second)).year, 0)
    | 10, true => do
      let y ← two 0
      pure (if y < 69 then y + 2000 else y + 1900, 2)
    | 12, true => (natOf? (digits.take 4)).map fun y => ((y : Int), 4)
    | 10, false => do
      let y ← two 8
      pure (if y < 69 then y + 2000 else y + 1900, 0)
    | 12, false => (natOf? (digits.drop 8)).map fun y => ((y : Int), 0)
    | _, _ => none
  let month ← two i
  let day ← two (i + 2)
  let hour ← two (i + 4)
  let minute ← two (i + 6)
  if !isDay year (month - 1) day || 23 < hour || 59 < minute then none
  return (Parts.mk year (month - 1) day hour minute seconds 0).moment - ahead * second

end SyncFleet.Utility.Moment

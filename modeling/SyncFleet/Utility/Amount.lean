/-
  SyncFleet/Utility/Amount.lean
  =============================
  **Amounts: numbers with a letter for their unit, as tools read and write them.**
-/
import SyncFleet.Utility.Tool

namespace SyncFleet.Utility

open Unix

/-! ### Reading amounts -/

/-- Why a text is no amount. -/
inductive Misnumber where
  | malformed
  | tooGreat
deriving DecidableEq, Repr

/-- The power of a thousand, or of 1024, that a letter stands for. -/
def unitPower? : Char → Option Nat
  | 'k' | 'K' => some 1
  | 'm' | 'M' => some 2
  | 'g' | 'G' => some 3
  | 't' | 'T' => some 4
  | 'P' => some 5
  | 'E' => some 6
  | 'Z' => some 7
  | 'Y' => some 8
  | 'R' => some 9
  | 'Q' => some 10
  | _ => none

/-- What a number is multiplied with by the text behind it, of which the first letter must be one
    of some. -/
def unitOf? (letters : Bytes) : Bytes → Option Nat
  | [] => some 1
  | c :: rest =>
    if !letters.contains c then none
    else match c, rest with
      | 'b', [] => some 512
      | 'B', [] => some 1024
      | 'c', [] => some 1
      | 'w', [] => some 2
      | c, rest =>
        match unitPower? c, rest with
        | some p, [] => some (Nat.pow 1024 p)
        | some p, ['i', 'B'] => if letters.contains '0' then some (Nat.pow 1024 p) else none
        | some p, ['B'] => if letters.contains '0' then some (Nat.pow 1000 p) else none
        | _, _ => none

/-- The greatest number of 64 bits. -/
def greatestNatural : Nat := UInt64.size - 1

/-- The amount that a text spells, up to a greatest one; letters for units are some of those that
    are given, and a zero among them lets the unit be spelled out. -/
def amountOf (letters : String) (greatest : Nat) (text : Bytes) : Except Misnumber Nat :=
  let start := text.dropWhile isSpace
  let start := if start.head? = some '+' then start.drop 1 else start
  let (n, count, rest) := digitsAt 10 start
  if count = 0 ∧ (rest.isEmpty ∨ start.length < (text.dropWhile isSpace).length) then
    .error .malformed
  else match unitOf? letters.toList rest with
    | none => .error .malformed
    | some unit =>
      let n := (if count = 0 then 1 else n) * unit
      if greatest < n then .error .tooGreat else .ok n

namespace Tool

/-- The amount that a text spells, within bounds; what is wrong with it is reported behind a
    label. -/
def amountWithin (letters label : String) (least greatest : Nat) (text : Bytes) : Tool Nat := do
  let wrong := (label ++ ": ").toList ++ quoted text
  let tooGreat := wrong ++ ": Value too large for defined data type".toList
  match amountOf letters greatestNatural text with
  | .error .malformed => die wrong
  | .error .tooGreat => die tooGreat
  | .ok n =>
    if least ≤ n ∧ n ≤ greatest then return n
    else if 0x3fffffff < n then die tooGreat
    else die (wrong ++ ": Numerical result out of range".toList)

/-- The amount that a text spells; what is wrong with it is reported behind a label. -/
def amount (letters label : String) (text : Bytes) : Tool Nat :=
  amountWithin letters label 0 greatestNatural text

end Tool

/-! ### Sizes as people read them -/

/-- The letters of powers of a thousand, or of 1024. -/
def powerLetters : Bytes := "KMGTPEZYRQ".toList

/-- The quotient of two numbers, rounded up. -/
def divideUp (n d : Nat) : Nat := (n + d - 1) / d

/-- A size with a letter for its unit, which is a power of a base; it is rounded up, and has a
    decimal if it is below ten. -/
def humanSize (base : Nat) (n : Nat) : Bytes :=
  if n < base then decimal n
  else
    let power := ((List.range powerLetters.length).find? fun p =>
      n < Nat.pow base (p + 2)).getD (powerLetters.length - 1) + 1
    let unit := Nat.pow base power
    let letter := fun (p : Nat) =>
      let c := powerLetters.getD (p - 1) 'K'
      if base = 1000 && c = 'K' then 'k' else c
    let tenths := divideUp (n * 10) unit
    if tenths < 100 then decimal (tenths / 10) ++ '.' :: decimal (tenths % 10) ++ [letter power]
    else
      let whole := divideUp n unit
      if whole = base && power < powerLetters.length then "1.0".toList ++ [letter (power + 1)]
      else decimal whole ++ [letter power]

/-- How sizes are written. -/
inductive Scale where
  /-- in units of some bytes, with a text behind the number -/
  | units (size : Nat) (suffix : Bytes)
  /-- with a letter for a power of a base -/
  | human (base : Nat)
deriving Repr

/-- A size in bytes, as it is written. -/
def Scale.text (s : Scale) (bytes : Nat) : Bytes :=
  match s with
  | .units size suffix => decimal (divideUp bytes size) ++ suffix
  | .human base => humanSize base bytes

/-- The scale that a text names: a size, or a unit that is written behind each number. -/
def Scale.ofText? (text : Bytes) : Option Scale :=
  match text.name with
  | "human-readable" => some (.human 1024)
  | "si" => some (.human 1000)
  | _ =>
    match amountOf "kKMGTPEZYRQ0" greatestNatural text with
    | .ok 0 => none
    | .ok n =>
      let hasDigits := text.head?.any Char.isDigit
      some (.units n (if hasDigits then [] else text))
    | .error _ => none

end SyncFleet.Utility

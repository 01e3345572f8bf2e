/-
  SyncFleet/Json/Token.lean
  =========================
  **The tokens of a JSON text.**

  Input is a list of characters in which `none` stands for bytes that are not
  UTF-8; they are allowed inside strings only.  A string token holds its text,
  or `none` when it denotes no text.  Numbers are held to the grammar of JSON
  here, so a number token is always well-formed.
-/
import SyncFleet.Json.Value
import SyncFleet.Decimal.Reading

namespace SyncFleet.Json

open Decimal

/-- A token of a JSON text. -/
inductive Token where
  | openArray
  | closeArray
  | openObject
  | closeObject
  | comma
  | colon
  | null
  | bool (value : Bool)
  | number (spelling : String)
  | string (text : Option String)
deriving DecidableEq, Repr

/-! ### Numbers -/

/-- Read the exponent part of a numeral: nothing, or a sign and one or more digits. -/
def exponentOfText? : List Char → Option (Option Int)
  | [] => some none
  | c :: rest =>
    if c = 'e' ∨ c = 'E' then
      match rest with
      | '-' :: ds => (natOfText? ds).map fun n => some (-(n : Int))
      | '+' :: ds => (natOfText? ds).map fun n => some (n : Int)
      | ds => (natOfText? ds).map fun n => some (n : Int)
    else none

/-- Read a numeral by the grammar of JSON: an optional minus sign, digits without a leading
    zero, an optional fraction, an optional exponent. -/
def numeralOfText? (cs : List Char) : Option Numeral := do
  let (negative, cs) := match cs with
    | '-' :: r => (true, r)
    | _ => (false, cs)
  let (whole, cs) := (cs.takeWhile Char.isDigit, cs.dropWhile Char.isDigit)
  if whole.isEmpty ∨ (whole.head? = some '0' ∧ whole.length ≠ 1) then none
  let (fraction, cs) ← match cs with
    | '.' :: r =>
      let ds := r.takeWhile Char.isDigit
      if ds.isEmpty then none else some (some ds, r.dropWhile Char.isDigit)
    | _ => some (none, cs)
  let exponent ← exponentOfText? cs
  return {
    negative
    whole := whole.filterMap digitVal?
    fraction := fraction.map (·.filterMap digitVal?)
    exponent }

/-- The numeral that a well-formed number spells. -/
def numeral? : Json → Option Numeral
  | .number s => numeralOfText? s.toList
  | _ => none

/-! ### Strings -/

/-- The value of a hexadecimal digit. -/
def hexVal? (c : Option Char) : Option Nat :=
  match c with
  | none => none
  | some c =>
    if c.isDigit then some (c.toNat - 48)
    else if 'a' ≤ c ∧ c ≤ 'f' then some (c.toNat - 87)
    else if 'A' ≤ c ∧ c ≤ 'F' then some (c.toNat - 55)
    else none

/-- The code unit of four hexadecimal digits. -/
def unitOfHex? (a b c d : Option Char) : Option Nat := do
  return (((← hexVal? a) * 16 + (← hexVal? b)) * 16 + (← hexVal? c)) * 16 + (← hexVal? d)

/-- The character that a letter names behind a backslash. -/
def letterEscape? : Char → Option Char
  | '\x22' => some '\x22'
  | '\\' => some '\\'
  | '/' => some '/'
  | 'b' => some '\x08'
  | 'f' => some '\x0c'
  | 'n' => some '\n'
  | 'r' => some '\r'
  | 't' => some '\t'
  | _ => none

/-- Code units of 16 bits that begin a surrogate pair. -/
def isHighSurrogate (n : Nat) : Bool := 0xD800 ≤ n && n ≤ 0xDBFF

/-- Code units of 16 bits that end a surrogate pair. -/
def isLowSurrogate (n : Nat) : Bool := 0xDC00 ≤ n && n ≤ 0xDFFF

/-- The text of the characters read in reverse order, if each of them is one. -/
def textOf? (reversed : List (Option Char)) : Option String :=
  (reversed.reverse.mapM id).map String.ofList

/-! ### The scanner -/

/-- Where the scanner stands: between tokens, inside a string whose characters so far are kept
    in reverse order, behind an escaped code unit that may begin a surrogate pair, inside a
    number, or inside a word. -/
inductive Place where
  | between
  | inString (reversed : List (Option Char))
  | inPair (reversed : List (Option Char)) (high : Nat)
  | inNumber (reversed : List Char)
  | inWord (reversed : List Char)
deriving Repr

/-- Blanks between tokens. -/
def isGap (c : Char) : Bool := c == ' ' || c == '\t' || c == '\n' || c == '\r'

/-- Characters of which numbers are made. -/
def isNumberChar (c : Char) : Bool :=
  c.isDigit || c == '-' || c == '+' || c == '.' || c == 'e' || c == 'E'

/-- The token that a character is by itself. -/
def punctuation? : Char → Option Token
  | '[' => some .openArray
  | ']' => some .closeArray
  | '\x7b' => some .openObject
  | '\x7d' => some .closeObject
  | ',' => some .comma
  | ':' => some .colon
  | _ => none

/-- The token of a word. -/
def wordToken? (cs : List Char) : Option Token :=
  if cs = ['n', 'u', 'l', 'l'] then some .null
  else if cs = ['t', 'r', 'u', 'e'] then some (.bool true)
  else if cs = ['f', 'a', 'l', 's', 'e'] then some (.bool false)
  else none

/-- The token of a number. -/
def numberToken? (cs : List Char) : Option Token :=
  (numeralOfText? cs).map fun _ => .number (String.ofList cs)

/-- The place behind a character that begins a token or is one, with the tokens it is. -/
def begin? (c : Char) : Option (List Token × Place) :=
  if isGap c then some ([], .between)
  else if c = '\x22' then some ([], .inString [])
  else if c.isDigit ∨ c = '-' then some ([], .inNumber [c])
  else if c.isAlpha then some ([], .inWord [c])
  else (punctuation? c).map fun t => ([t], .between)

/-- The tokens that end with the place when a character that does not belong to it follows. -/
def Place.finish? : Place → Option (List Token)
  | .between => some []
  | .inNumber cs => (numberToken? cs.reverse).map ([·])
  | .inWord cs => (wordToken? cs.reverse).map ([·])
  | .inString _ => none
  | .inPair _ _ => none

/-- A step outside strings: the character continues a number or a word, or ends it. -/
def outside? (p : Place) (c : Char) : Option (List Token × Place) :=
  match p with
  | .inNumber cs =>
    if isNumberChar c then some ([], .inNumber (c :: cs))
    else do
      let (ts, q) ← begin? c
      return ((← p.finish?) ++ ts, q)
  | .inWord cs =>
    if c.isAlpha then some ([], .inWord (c :: cs))
    else do
      let (ts, q) ← begin? c
      return ((← p.finish?) ++ ts, q)
  | _ => begin? c

/-- The place behind an escaped code unit. -/
def afterUnit (reversed : List (Option Char)) (n : Nat) : Place :=
  if isHighSurrogate n then .inPair reversed n
  else if isLowSurrogate n then .inString (none :: reversed)
  else .inString (some (Char.ofNat n) :: reversed)

/-- Scan the input from a place. -/
def scan : Place → List (Option Char) → Option (List Token)
  | .inPair acc high, some '\\' :: some 'u' :: a :: b :: c :: d :: rest => do
    let n ← unitOfHex? a b c d
    if isLowSurrogate n then
      scan (.inString (some (Char.ofNat (0x10000 + (high - 0xD800) * 1024 + (n - 0xDC00))) :: acc))
        rest
    else scan (afterUnit (none :: acc) n) rest
  | .inPair acc _, some '\x22' :: rest => do
    return .string (textOf? (none :: acc)) :: (← scan .between rest)
  | .inPair acc _, some '\\' :: some e :: rest => do
    scan (.inString (some (← letterEscape? e) :: none :: acc)) rest
  | .inPair acc _, c :: rest =>
    if c.any (·.toNat < 0x20) then none else scan (.inString (c :: none :: acc)) rest
  | .inString acc, some '\x22' :: rest => do
    return .string (textOf? acc) :: (← scan .between rest)
  | .inString acc, some '\\' :: some 'u' :: a :: b :: c :: d :: rest => do
    scan (afterUnit acc (← unitOfHex? a b c d)) rest
  | .inString acc, some '\\' :: some e :: rest => do
    scan (.inString (some (← letterEscape? e) :: acc)) rest
  | .inString acc, c :: rest =>
    if c = some '\\' ∨ c.any (·.toNat < 0x20) then none else scan (.inString (c :: acc)) rest
  | p, [] => p.finish?
  | _, none :: _ => none
  | p, some c :: rest => do
    let (ts, q) ← outside? p c
    return ts ++ (← scan q rest)

/-- The tokens of a text. -/
def tokens? (input : List (Option Char)) : Option (List Token) := scan .between input

end SyncFleet.Json

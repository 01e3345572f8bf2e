/-
  SyncFleet/Utility/Text/Printing.lean
  ====================================
  **Writing arguments: as they are, over and over, or by a format.**

  A format is used again as long as it takes arguments and some are left.
-/
import SyncFleet.Unix.Conversion
import SyncFleet.Utility.Option

namespace SyncFleet.Utility.Text

open Unix Tool

/-! ### Arguments as they are -/

/-- Up to two hexadecimal digits at the start of a text: their byte and the rest. -/
def hexEscape? (text : Bytes) : Option (Char × Bytes) :=
  match digitsAt 16 (text.take 2) with
  | (_, 0, _) => none
  | (n, k, _) => some (byte n, text.drop k)

/-- An argument of at most `fuel` bytes with its escapes undone, in reverse, and whether it was cut
    off. -/
def plainEscapes : Nat → Bytes → Bytes → Bytes × Bool
  | 0, done, _ => (done, false)
  | _, done, [] => (done, false)
  | fuel + 1, done, '\\' :: c :: rest =>
    let octal := fun (digits : Bytes) => (octalEscape? 3 digits).getD ('\x00', digits)
    match c, letterEscape? c, hexEscape? rest with
    | 'c', _, _ => (done, true)
    | _, some x, _ => plainEscapes fuel (x :: done) rest
    | 'x', _, some (x, rest) => plainEscapes fuel (x :: done) rest
    | c, _, _ =>
      if (digitOf? 8 c).isSome then
        let (x, rest) := octal (if c = '0' then rest else c :: rest)
        plainEscapes fuel (x :: done) rest
      else plainEscapes fuel (c :: '\\' :: done) rest
  | fuel + 1, done, c :: rest => plainEscapes fuel (c :: done) rest

/-- Whether an argument holds only letters of options. -/
def isEchoOption (argument : Bytes) : Bool :=
  match argument with
  | '-' :: c :: rest => (c :: rest).all fun c => c = 'n' || c = 'e' || c = 'E'
  | _ => false

/-- Write arguments. -/
def echo (arguments _environment : List Bytes) : Tool Unit := do
  let letters := (arguments.takeWhile isEchoOption).flatMap (·.drop 1)
  let texts := arguments.dropWhile isEchoOption
  let escapes := letters.reverse.find? (· ≠ 'n') = some 'e'
  let text := List.intercalate [' '] texts
  let (text, cut) := if escapes then
      let (done, cut) := plainEscapes (text.length + 1) [] text
      (done.reverse, cut)
    else (text, false)
  put text
  if !cut && !letters.contains 'n' then put ['\n']

/-- Write a text until it cannot be written, at most `fuel` times. -/
def writeAgain (text : Bytes) : Nat → Tool Unit
  | 0 => return
  | fuel + 1 => do
    match ← writeTo 1 text with
    | .ok _ => writeAgain text fuel
    | .error e => dieOf "standard output".toList e

/-- Write a line over and over. -/
def yes (arguments _environment : List Bytes) : Tool Unit := do
  let (_, words) ← leadingOptions [] arguments
  let line := (if words.isEmpty then ['y'] else List.intercalate [' '] words) ++ ['\n']
  let times := max 1 (bufferSize / line.length)
  writeAgain (List.replicate times line).flatten mostPieces

/-! ### Formats -/

/-- A number of hexadecimal digits at the start of a text: their value and the rest. -/
def codeAt (digits : Nat) (text : Bytes) : Tool (Nat × Bytes) := do
  let (n, k, _) := digitsAt 16 (text.take digits)
  if k < digits then die "missing hexadecimal number in escape".toList
  return (n, text.drop digits)

/-- A code in hexadecimal digits. -/
def codeText (digits code : Nat) : Bytes := padLeft digits '0' (Nat.toDigits 16 code)

/-- Write a character by its code, which is spelled out where it is not ASCII. -/
def putCode (letter : Char) (digits code : Nat) : Tool Unit := do
  let isPlain := code = 0x24 || code = 0x40 || code = 0x60
  if (code ≤ 0x9f && !isPlain) || (0xd800 ≤ code && code ≤ 0xdfff) then
    die ("invalid universal character name \\".toList ++ letter :: codeText digits code)
  if code < 0x80 then put [byte code]
  else
    let wide := 0xffff < code
    let text := (codeText (if wide then 8 else 4) code).map Char.toUpper
    put ('\\' :: (if wide then 'U' else 'u') :: text)

/-- Write what an escape stands for, behind its backslash, and give what is behind it; `hasZero`
    says that octal digits may have a zero in front. -/
def putEscape (hasZero : Bool) (text : Bytes) : Tool Bytes := do
  match text with
  | [] =>
    put ['\\']
    return []
  | 'x' :: rest =>
    match hexEscape? rest with
    | some (x, rest) =>
      put [x]
      return rest
    | none => die "missing hexadecimal number in escape".toList
  | 'c' :: _ => stop 0
  | '\x22' :: rest =>
    put ['\x22']
    return rest
  | c :: rest =>
    if (digitOf? 8 c).isSome then
      let digits := if hasZero && c = '0' then rest else text
      let (x, rest) := (octalEscape? 3 digits).getD ('\x00', digits)
      put [x]
      return rest
    else if c = 'u' || c = 'U' then
      let digits := if c = 'u' then 4 else 8
      let (code, rest) ← codeAt digits rest
      putCode c digits code
      return rest
    else
      put (match letterEscape? c with
        | some x => [x]
        | none => ['\\', c])
      return rest

/-- Write an argument of at most `fuel` bytes with its escapes undone. -/
def putEscaped : Nat → Bytes → Tool Unit
  | 0, _ => return
  | _, [] => return
  | fuel + 1, '\\' :: rest => do putEscaped fuel (← putEscape true rest)
  | fuel + 1, text => do
    let plain := text.takeWhile (· != '\\')
    put plain
    putEscaped fuel (text.drop plain.length)

/-- Report what is wrong with a number of which something is left. -/
def checkNumber (argument left : Bytes) (isOut : Bool) : Tool Unit := do
  if isOut then complain (quoted argument ++ ": Numerical result out of range".toList)
  else if !left.isEmpty then
    if left = argument then complain (quoted argument ++ ": expected a numeric value".toList)
    else complain (quoted argument ++ ": value not completely converted".toList)

/-- The byte behind a quote, if an argument is one. -/
def quotedByte? (argument : Bytes) : Tool (Option Char) := do
  match argument with
  | q :: c :: rest =>
    if q = '\x22' || q = '\x27' then
      if !rest.isEmpty then
        warn ("warning: ".toList ++ rest
          ++ ": character(s) following character constant have been ignored".toList)
      return some c
    return none
  | _ => return none

/-- The number that an argument spells, between two bounds. -/
def integerOf (least greatest : Int) (argument : Bytes) : Tool Int := do
  match ← quotedByte? argument with
  | some c => return c.toNat
  | none =>
    let (n, left) := integerAt argument
    checkNumber argument left (n < least || greatest < n)
    return max least (min n greatest)

/-- The number with a sign that an argument spells. -/
def signedOf (argument : Bytes) : Tool Int :=
  integerOf (-0x8000000000000000) 0x7FFFFFFFFFFFFFFF argument

/-- The number without a sign that an argument spells; one below zero wraps around. -/
def unsignedOf (argument : Bytes) : Tool Nat := do
  let most : Int := UInt64.size - 1
  let n ← integerOf (-most) most argument
  return (n % UInt64.size).toNat

/-- The floating-point number that an argument spells. -/
def floatingOf (argument : Bytes) : Tool Floating := do
  match ← quotedByte? argument with
  | some c => return Floating.ofInt extendedFormat c.toNat
  | none =>
    let (x, left, isOut) := Floating.read extendedFormat argument
    checkNumber argument left isOut
    return x

/-- Whether a conversion may have some flags and a precision. -/
def isConversion (flags : Bytes) (hasPrecision : Bool) (letter : Char) : Bool :=
  "aAcdeEfFgGiosuxX".toList.contains letter
    && !(flags.contains '\x27' && "aAceEosxX".toList.contains letter)
    && !(flags.contains '#' && "cdisu".toList.contains letter)
    && !(flags.contains '0' && "cs".toList.contains letter)
    && !(hasPrecision && letter = 'c')

/-- Write an argument by a conversion. -/
def putConverted (c : Conversion) (argument : Bytes) : Tool Unit := do
  match c.letter with
  | 's' => put (c.text argument)
  | 'c' => put (c.filled [argument.headD '\x00'])
  | 'd' | 'i' => put (c.integer (← signedOf argument))
  | 'u' | 'o' | 'x' | 'X' => put (c.natural (← unsignedOf argument))
  | _ => put (c.floating extendedFormat (← floatingOf argument))

/-- The greatest width of a conversion. -/
def greatestWidth : Int := 0x7fffffff

/-- A width or precision at the start of a text: digits, or a star that takes an argument; with it
    the rest of the text and of the arguments. -/
def fieldSizeAt (what : String) (least : Int) (text : Bytes) (arguments : List Bytes) :
    Tool (Option Int × Bytes × List Bytes) := do
  match text, arguments with
  | '*' :: rest, [] => return (some 0, rest, [])
  | '*' :: rest, a :: arguments =>
    let n ← signedOf a
    if n < least || greatestWidth < n then
      die (("invalid " ++ what ++ ": ").toList ++ quoted a)
    return (some n, rest, arguments)
  | _, _ =>
    let (n, k, rest) := digitsAt 10 text
    return (if k = 0 then none else some (n : Int), rest, arguments)

/-- Go through a format of at most `fuel` bytes once; the arguments that are left. -/
def printOnce : Nat → Bytes → List Bytes → Tool (List Bytes)
  | 0, _, arguments => return arguments
  | _, [], arguments => return arguments
  | fuel + 1, '\\' :: rest, arguments => do
    let rest ← putEscape false rest
    printOnce fuel rest arguments
  | fuel + 1, '%' :: '%' :: rest, arguments => do
    put ['%']
    printOnce fuel rest arguments
  | fuel + 1, '%' :: 'b' :: rest, arguments => do
    let argument := arguments.headD []
    putEscaped (argument.length + 1) argument
    printOnce fuel rest (arguments.drop 1)
  | fuel + 1, '%' :: 'q' :: rest, arguments => do
    if let argument :: _ := arguments then put (shown argument)
    printOnce fuel rest (arguments.drop 1)
  | fuel + 1, '%' :: start, arguments => do
    let flags := start.takeWhile fun c => "-+ #0I\x27".toList.contains c
    let (width, rest, arguments) ← fieldSizeAt "field width" (-greatestWidth - 1)
      (start.drop flags.length) arguments
    let hasPrecision := rest.head? = some '.'
    let (precision, rest, arguments) ←
      if hasPrecision then fieldSizeAt "precision" (-0x8000000000000000) (rest.drop 1) arguments
      else pure (none, rest, arguments)
    let rest := rest.dropWhile fun c => "lLhjtz".toList.contains c
    let letter := rest.headD '\x00'
    if !isConversion flags hasPrecision letter then
      die ('%' :: start.take (start.length - rest.length + 1)
        ++ ": invalid conversion specification".toList)
    let width := width.getD 0
    let flags := if width < 0 then '-' :: flags else flags
    let precision := if hasPrecision then
        ((some (precision.getD 0)).filter (0 ≤ ·)).map Int.toNat
      else none
    putConverted ⟨flags, width.natAbs, precision, letter⟩ (arguments.headD [])
    printOnce fuel (rest.drop 1) (arguments.drop 1)
  | fuel + 1, text, arguments => do
    let plain := text.takeWhile fun c => c != '\\' && c != '%'
    put plain
    printOnce fuel (text.drop plain.length) arguments

/-- Use a format as long as it takes arguments and some are left, at most `fuel` times; the
    arguments that it does not take. -/
def printAgain (format : Bytes) : Nat → List Bytes → Tool (List Bytes)
  | 0, arguments => return arguments
  | fuel + 1, arguments => do
    let left ← printOnce (format.length + 1) format arguments
    if left.isEmpty || left.length = arguments.length then return left
    printAgain format fuel left

/-- Write arguments by a format. -/
def printf (arguments _environment : List Bytes) : Tool Unit := do
  let operands := if arguments.head? = some ['-', '-'] then arguments.drop 1 else arguments
  match operands with
  | [] => missOperand
  | format :: arguments =>
    match ← printAgain format (arguments.length + 1) arguments with
    | [] => return
    | a :: _ =>
      warn ("warning: ignoring excess arguments, starting with ".toList ++ quoted a)

end SyncFleet.Utility.Text

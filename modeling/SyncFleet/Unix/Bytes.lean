/-
  SyncFleet/Unix/Bytes.lean
  =========================
  **Texts of programs: sequences of bytes.**

  Programs know bytes, not characters.  Each byte is held as the character
  with its number, so that what is ASCII can be written down with characters.
-/

namespace SyncFleet.Unix

/-- A sequence of bytes, each held as the character with its number. -/
abbrev Bytes := List Char

/-- The byte of a number, which counts modulo 256. -/
def byte (n : Nat) : Char := Char.ofNat (n % 256)

namespace Bytes

/-- The bytes of a text. -/
def ofString (s : String) : Bytes := s.toUTF8.toList.map fun b => Char.ofNat b.toNat

/-- Bytes as they are stored. -/
def toByteArray (b : Bytes) : ByteArray :=
  b.foldl (fun out c => out.push (UInt8.ofNat c.toNat)) .empty

/-- Stored bytes. -/
def ofByteArray (b : ByteArray) : Bytes := b.toList.map fun x => Char.ofNat x.toNat

/-- Bytes as a text; what is not ASCII stays byte by byte. -/
def name (b : Bytes) : String := String.ofList b

end Bytes

/-! ### Lines -/

/-- Cut a text behind every occurrence of a byte.  Pieces come in reverse, and the bytes of the
    last one too. -/
def cutBehind (stop : Char) (text : Bytes) : List Bytes × Bytes :=
  text.foldl (fun (done, piece) c =>
    if c = stop then ((c :: piece).reverse :: done, []) else (done, c :: piece)) ([], [])

/-- The pieces of a text, each with the byte that ends it. -/
def piecesOf (stop : Char) (text : Bytes) : List Bytes :=
  let (done, piece) := cutBehind stop text
  (if piece.isEmpty then done else piece.reverse :: done).reverse

/-- The lines of a text, each with the line feed that ends it. -/
def linesOf (text : Bytes) : List Bytes := piecesOf '\n' text

/-- A piece without the byte that ends it. -/
def chop (stop : Char) (piece : Bytes) : Bytes :=
  if piece.getLast? = some stop then piece.dropLast else piece

/-- A line without the line feed that ends it. -/
def chomp (line : Bytes) : Bytes := chop '\n' line

/-- A text without the line feeds at its end. -/
def chompAll (text : Bytes) : Bytes := (text.reverse.dropWhile (· == '\n')).reverse

/-- The parts of a text between the occurrences of a byte. -/
def splitAt (stop : Char) (text : Bytes) : List Bytes :=
  let (done, piece) := text.foldl (fun (done, piece) c =>
    if c = stop then (piece.reverse :: done, []) else (done, c :: piece)) ([], [])
  (piece.reverse :: done).reverse

/-! ### Classes of characters -/

/-- Letters and the underscore, with which names begin. -/
def isNameStart (c : Char) : Bool := c.isAlpha || c == '_'

/-- Characters of names. -/
def isNameChar (c : Char) : Bool := c.isAlphanum || c == '_'

/-- Whether a text is a name of a variable. -/
def isName : Bytes → Bool
  | [] => false
  | c :: rest => isNameStart c && rest.all isNameChar

/-- White space: blanks, line feeds and their like. -/
def isSpace (c : Char) : Bool := c == ' ' || (9 ≤ c.toNat && c.toNat ≤ 13)

/-- A space or a tab. -/
def isBlank (c : Char) : Bool := c == ' ' || c == '\t'

/-- Characters that can be seen, and the space. -/
def isPrint (c : Char) : Bool := 32 ≤ c.toNat && c.toNat ≤ 126

/-- Characters that can be seen. -/
def isGraph (c : Char) : Bool := 33 ≤ c.toNat && c.toNat ≤ 126

/-- Whether a byte belongs to a named class. -/
def inClass (name : String) (c : Char) : Bool :=
  match name with
  | "alpha" => c.isAlpha
  | "digit" => c.isDigit
  | "alnum" => c.isAlphanum
  | "upper" => c.isUpper
  | "lower" => c.isLower
  | "space" => isSpace c
  | "blank" => isBlank c
  | "punct" => isGraph c && !c.isAlphanum
  | "print" => isPrint c
  | "graph" => isGraph c
  | "cntrl" => c.toNat < 32 || c.toNat == 127
  | "xdigit" => c.isDigit || ('a' ≤ c && c ≤ 'f') || ('A' ≤ c && c ≤ 'F')
  | _ => false

/-- The names of the classes. -/
def classNames : List String :=
  ["alpha", "digit", "alnum", "upper", "lower", "space", "blank", "punct", "print", "graph",
    "cntrl", "xdigit"]

/-! ### Numerals -/

/-- The value of a digit, of which there are at most 36; none where it is not below the base. -/
def digitOf? (base : Nat) (c : Char) : Option Nat :=
  let v := if c.isDigit then c.toNat - 48
    else if 'a' ≤ c ∧ c ≤ 'z' then c.toNat - 87
    else if 'A' ≤ c ∧ c ≤ 'Z' then c.toNat - 55
    else base
  if v < base then some v else none

/-- The number that the digits at the start of a text spell, how many there are, and what is
    behind them. -/
def digitsAt (base : Nat) (text : Bytes) : Nat × Nat × Bytes :=
  let digits := text.takeWhile fun c => (digitOf? base c).isSome
  (digits.foldl (fun n c => base * n + (digitOf? base c).getD 0) 0, digits.length,
    text.drop digits.length)

/-- The number that a non-empty run of digits spells. -/
def natOf? (b : Bytes) : Option Nat :=
  match digitsAt 10 b with
  | (n, _ + 1, []) => some n
  | _ => none

/-- The number that a run of decimal digits, behind a sign if there is one, spells. -/
def intOf? : Bytes → Option Int
  | '-' :: ds => (natOf? ds).map fun n => -(n : Int)
  | '+' :: ds => (natOf? ds).map Int.ofNat
  | ds => (natOf? ds).map Int.ofNat

/-- The number that a non-empty run of octal digits spells. -/
def octal? (b : Bytes) : Option Nat :=
  match digitsAt 8 b with
  | (n, _ + 1, []) => some n
  | _ => none

/-- The number that a text begins with, behind blanks and a sign, and what is left of it: a numeral
    in decimal, octal, binary or hexadecimal digits. -/
def integerAt (text : Bytes) : Int × Bytes :=
  let start := text.dropWhile isSpace
  let (negative, b) := match start with
    | '-' :: rest => (true, rest)
    | '+' :: rest => (false, rest)
    | rest => (false, rest)
  let based := fun (base : Nat) (ds : Bytes) => (digitsAt base ds, ds)
  let (n, count, rest) := match b with
    | '0' :: x :: ds =>
      let base := if x = 'x' ∨ x = 'X' then 16 else if x = 'b' ∨ x = 'B' then 2 else 0
      match base, based base ds with
      | 0, _ => digitsAt 8 b
      | _, ((_, 0, _), _) => digitsAt 8 b
      | _, (r, _) => r
    | ['0'] => (0, 1, [])
    | _ => digitsAt 10 b
  if count = 0 then (0, text) else (if negative then -(n : Int) else n, rest)

/-- A number in decimal digits. -/
def decimal (n : Nat) : Bytes := Nat.toDigits 10 n

/-- A number in octal digits. -/
def octal (n : Nat) : Bytes := Nat.toDigits 8 n

/-- An integer in decimal digits. -/
def integer : Int → Bytes
  | .ofNat n => decimal n
  | .negSucc n => '-' :: decimal (n + 1)

/-- A text filled up on its left. -/
def padLeft (width : Nat) (fill : Char) (text : Bytes) : Bytes :=
  List.replicate (width - text.length) fill ++ text

/-- A text filled up on its right. -/
def padRight (width : Nat) (text : Bytes) : Bytes :=
  text ++ List.replicate (width - text.length) ' '

/-- The byte that a letter names behind a backslash. -/
def letterEscape? : Char → Option Char
  | '\\' => some '\\'
  | 'a' => some '\x07'
  | 'b' => some '\x08'
  | 'e' => some '\x1b'
  | 'f' => some '\x0c'
  | 'n' => some '\n'
  | 'r' => some '\r'
  | 't' => some '\t'
  | 'v' => some '\x0b'
  | _ => none

/-- An escape of one to `most` octal digits at the start of a text: its byte and the rest. -/
def octalEscape? (most : Nat) (b : Bytes) : Option (Char × Bytes) :=
  match digitsAt 8 (b.take most) with
  | (_, 0, _) => none
  | (n, k, _) => some (byte n, b.drop k)

/-- The order of texts by their bytes. -/
def compareBytes : Bytes → Bytes → Ordering
  | [], [] => .eq
  | [], _ :: _ => .lt
  | _ :: _, [] => .gt
  | a :: as, b :: bs => if a = b then compareBytes as bs else if a < b then .lt else .gt

/-- Texts in the order of their bytes. -/
def sortBytes (texts : List Bytes) : List Bytes :=
  texts.mergeSort fun a b => compareBytes a b != .gt

end SyncFleet.Unix

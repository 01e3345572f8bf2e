/-
  SyncFleet/Yaml/Cursor.lean
  ==========================
  **A place in a YAML text.**

  Indentation carries the structure of a YAML text, so a reader has to know
  the column it stands in at any time.  A `Cursor` is the text that is still
  to be read together with the index, line and column of its first character.
  The index counts bytes, the column characters.
  A carriage return before a line feed makes one line break with it.
-/

namespace SyncFleet.Yaml

/-! ### Classes of characters -/

/-- Characters that end a line. -/
def isBreak (c : Char) : Bool :=
  c == '\n' || c == '\r' || c == '\u0085' || c == '\u2028' || c == '\u2029'

/-- Blanks inside a line. -/
def isSpacing (c : Char) : Bool := c == ' ' || c == '\t'

/-- Characters of which the names of anchors, tag handles and directives are made. -/
def isNameChar (c : Char) : Bool :=
  ('a' ≤ c && c ≤ 'z') || ('A' ≤ c && c ≤ 'Z') || c.isDigit || c == '_' || c == '-'

/-- Whether a word ends in front of what follows: a blank, a line break or the end. -/
def isEdge : Option Char → Bool
  | none => true
  | some c => isSpacing c || isBreak c

/-- Characters that a text may contain at all. -/
def isTextChar (c : Char) : Bool :=
  let n := c.toNat
  n == 0x09 || n == 0x0A || n == 0x0D || (0x20 ≤ n && n ≤ 0x7E) || n == 0x85
    || (0xA0 ≤ n && n ≤ 0xD7FF) || (0xE000 ≤ n && n ≤ 0xFFFD) || 0x10000 ≤ n

/-! ### Cursors -/

/-- A place in a text, with the text that follows it. -/
structure Cursor where
  rest : List Char
  index : Nat
  line : Nat
  column : Nat
deriving DecidableEq, Repr

namespace Cursor

/-- The start of a text. -/
def start (text : List Char) : Cursor := ⟨text, 0, 0, 0⟩

/-- The next character. -/
def next? (c : Cursor) : Option Char := c.rest.head?

/-- The character `n` places behind the next one. -/
def ahead? (c : Cursor) (n : Nat) : Option Char := c.rest[n]?

/-- Whether the next character is the given one. -/
def sees (c : Cursor) (x : Char) : Bool := c.next? == some x

/-- Whether the next character belongs to a class. -/
def isAt (c : Cursor) (p : Char → Bool) : Bool := c.next?.any p

/-- Whether the text ends here. -/
def isAtEnd (c : Cursor) : Bool := c.rest.isEmpty

/-- The place behind the next character, or behind the line break that it begins. -/
def advance (c : Cursor) : Cursor :=
  match c.rest with
  | [] => c
  | '\r' :: '\n' :: rest => ⟨rest, c.index + 2, c.line + 1, 0⟩
  | x :: rest =>
    if isBreak x then ⟨rest, c.index + x.utf8Size, c.line + 1, 0⟩
    else ⟨rest, c.index + x.utf8Size, c.line, c.column + 1⟩

/-- The line break that begins here, as it counts in a scalar: a line feed, except for the two
    separators that stand for themselves. -/
def break? (c : Cursor) : Option Char :=
  match c.next? with
  | some x =>
    if x = '\u2028' ∨ x = '\u2029' then some x
    else if isBreak x then some '\n' else none
  | none => none

/-- The place `n` characters further on in the line. -/
def pass (c : Cursor) (n : Nat) : Cursor :=
  ⟨c.rest.drop n, (c.rest.take n).foldl (fun i x => i + x.utf8Size) c.index, c.line,
    c.column + n⟩

/-- Take the characters of a class, which holds no line breaks, from here on. -/
def takeWhile (p : Char → Bool) (c : Cursor) : List Char × Cursor :=
  let xs := c.rest.takeWhile p
  (xs, c.pass xs.length)

/-- Pass the characters of a class that holds no line breaks. -/
def skipWhile (p : Char → Bool) (c : Cursor) : Cursor := (c.takeWhile p).2

/-- Pass a comment if one begins here. -/
def skipComment (c : Cursor) : Cursor :=
  if c.sees '#' then c.skipWhile fun x => !isBreak x else c

/-- Pass blanks and a comment, which must end the line, and the line break. -/
def finishLine? (c : Cursor) : Option Cursor :=
  let c := (c.skipWhile isSpacing).skipComment
  if c.isAtEnd || c.break?.isSome then some c.advance else none

/-- Whether a line of three given characters begins here: a mark between documents. -/
def isAtMark (c : Cursor) (x : Char) : Bool :=
  c.column == 0 && c.rest.take 3 == [x, x, x] && isEdge (c.ahead? 3)

/-- Whether a mark between documents begins here. -/
def isAtDocumentMark (c : Cursor) : Bool := c.isAtMark '-' || c.isAtMark '.'

end Cursor

end SyncFleet.Yaml

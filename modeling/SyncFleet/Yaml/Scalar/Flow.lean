/-
  SyncFleet/Yaml/Scalar/Flow.lean
  ===============================
  **Plain and quoted scalars.**

  Both are read word by word, with the gaps between the words folded.  A plain
  scalar ends where its indentation ends, in front of a comment, of a colon
  that ends a key and, inside brackets, of a bracket or comma.  A quoted scalar
  ends at its quote and nowhere else.
-/
import SyncFleet.Yaml.Cursor

namespace SyncFleet.Yaml

/-! ### Gaps between the words of a scalar

Where a plain or quoted scalar runs over several lines, the line breaks and
the blanks around them are folded: one line break is a space, more of them
are all but the first.  Blanks inside a line stand for themselves. -/

/-- What stands between two words of a scalar. -/
structure Gap where
  /-- the blanks in front of the first line break -/
  blanks : List Char
  /-- the line breaks -/
  breaks : List Char
  /-- whether an escaped line break, which counts nothing, comes before all that -/
  escaped : Bool
deriving DecidableEq, Repr

namespace Gap

/-- No gap at all. -/
def empty : Gap := ⟨[], [], false⟩

/-- The gap behind an escaped line break. -/
def afterEscape : Gap := ⟨[], [], true⟩

/-- Whether the words stand on different lines. -/
def isBroken (g : Gap) : Bool := g.escaped || !g.breaks.isEmpty

/-- The text that the gap comes to.  A separator that is no line feed is not folded. -/
def folded (g : Gap) : List Char :=
  if g.escaped then g.breaks
  else match g.breaks with
    | [] => g.blanks
    | ['\n'] => [' ']
    | '\n' :: more => more
    | breaks => breaks

/-- Read on in a gap, at most `fuel` characters.  Tabs may not stand in the indentation, that is
    in columns below `floor` of a later line. -/
def readFrom? (floor : Nat) : Nat → Gap → Cursor → Option (Gap × Cursor)
  | 0, g, c => some (g, c)
  | fuel + 1, g, c =>
    match c.break? with
    | some b => readFrom? floor fuel { g with breaks := g.breaks ++ [b] } c.advance
    | none =>
      if c.sees '\t' && g.isBroken && c.column < floor then none
      else match c.next? with
        | some x =>
          if !isSpacing x then some (g, c)
          else if g.isBroken then readFrom? floor fuel g c.advance
          else readFrom? floor fuel { g with blanks := g.blanks ++ [x] } c.advance
        | none => some (g, c)

/-- Read the gap that begins here. -/
def read? (floor : Nat) (g : Gap) (c : Cursor) : Option (Gap × Cursor) :=
  readFrom? floor c.rest.length g c

end Gap

/-! ### Plain scalars -/

/-- The indicators of collections in brackets. -/
def isFlowIndicator (c : Char) : Bool :=
  c == ',' || c == '[' || c == ']' || c == '\x7b' || c == '\x7d'

/-- The word of a plain scalar that begins a text; nothing where the scalar ends.  A colon
    directly before an indicator of brackets is refused inside brackets. -/
def plainWord? (inFlow : Bool) : List Char → Option (List Char)
  | [] => some []
  | x :: rest =>
    if isEdge (some x) then some []
    else if inFlow && x == ':' && rest.head?.any (fun y => y == '?' || isFlowIndicator y) then none
    else if (x == ':' && isEdge rest.head?) || (inFlow && isFlowIndicator x) then some []
    else (plainWord? inFlow rest).map (x :: ·)

/-- A plain scalar that has been read. -/
structure PlainScalar where
  text : List Char
  /-- whether the end of the scalar is not on the line of its last word -/
  endsLine : Bool
  cursor : Cursor
deriving DecidableEq, Repr

/-- Read on in a plain scalar behind `text` and a gap, at most `fuel` words.  Outside of
    brackets the scalar keeps to columns from `floor` on. -/
def plainFrom? (inFlow : Bool) (floor : Nat) :
    Nat → List Char → Gap → Cursor → Option PlainScalar
  | 0, text, gap, c => some ⟨text, gap.isBroken, c⟩
  | fuel + 1, text, gap, c =>
    if c.isAtDocumentMark || c.sees '#' then some ⟨text, gap.isBroken, c⟩
    else do
      let word ← plainWord? inFlow c.rest
      if word.isEmpty then return ⟨text, gap.isBroken, c⟩
      let text := text ++ gap.folded ++ word
      let (gap, c) ← Gap.empty.read? floor (c.pass word.length)
      if gap = .empty ∨ (!inFlow && c.column < floor) then return ⟨text, gap.isBroken, c⟩
      plainFrom? inFlow floor fuel text gap c

/-- Read the plain scalar that begins here. -/
def plain? (inFlow : Bool) (floor : Nat) (c : Cursor) : Option PlainScalar :=
  plainFrom? inFlow floor (c.rest.length + 1) [] .empty c

/-! ### Quoted scalars -/

/-- The character that a letter names behind a backslash. -/
def namedEscape? : Char → Option Char
  | '0' => some '\x00'
  | 'a' => some '\x07'
  | 'b' => some '\x08'
  | 't' => some '\t'
  | '\t' => some '\t'
  | 'n' => some '\n'
  | 'v' => some '\x0b'
  | 'f' => some '\x0c'
  | 'r' => some '\r'
  | 'e' => some '\x1b'
  | ' ' => some ' '
  | '\x22' => some '\x22'
  | '/' => some '/'
  | '\\' => some '\\'
  | 'N' => some '\u0085'
  | '_' => some '\u00a0'
  | 'L' => some '\u2028'
  | 'P' => some '\u2029'
  | _ => none

/-- The value of a hexadecimal digit. -/
def hexDigit? (c : Char) : Option Nat :=
  if c.isDigit then some (c.toNat - 48)
  else if 'a' ≤ c ∧ c ≤ 'f' then some (c.toNat - 87)
  else if 'A' ≤ c ∧ c ≤ 'F' then some (c.toNat - 55)
  else none

/-- The number of a run of hexadecimal digits. -/
def hexNumber? (ds : List Char) : Option Nat :=
  (ds.mapM hexDigit?).map fun ds => ds.foldl (fun n d => 16 * n + d) 0

/-- The character whose code point is spelled in hexadecimal digits. -/
def codePoint? (ds : List Char) : Option Char := do
  let n ← hexNumber? ds
  if (0xD800 ≤ n ∧ n ≤ 0xDFFF) ∨ 0x10FFFF < n then none else some (Char.ofNat n)

/-- The word of a single-quoted scalar that begins a text, and its length there.  A quote is
    written twice. -/
def singleQuotedWord : List Char → List Char × Nat
  | '\x27' :: '\x27' :: rest =>
    let (word, n) := singleQuotedWord rest
    ('\x27' :: word, n + 2)
  | x :: rest =>
    if x = '\x27' ∨ isEdge (some x) then ([], 0)
    else
      let (word, n) := singleQuotedWord rest
      (x :: word, n + 1)
  | [] => ([], 0)

/-- The word of a double-quoted scalar that begins a text, and its length there.  It ends in
    front of an escaped line break. -/
def doubleQuotedWord? : List Char → Option (List Char × Nat)
  | '\\' :: 'x' :: a :: b :: rest => do
    let x ← codePoint? [a, b]
    let (word, n) ← doubleQuotedWord? rest
    return (x :: word, n + 4)
  | '\\' :: 'u' :: a :: b :: c :: d :: rest => do
    let x ← codePoint? [a, b, c, d]
    let (word, n) ← doubleQuotedWord? rest
    return (x :: word, n + 6)
  | '\\' :: 'U' :: a :: b :: c :: d :: e :: f :: g :: h :: rest => do
    let x ← codePoint? [a, b, c, d, e, f, g, h]
    let (word, n) ← doubleQuotedWord? rest
    return (x :: word, n + 10)
  | '\\' :: e :: rest =>
    if isBreak e then some ([], 0)
    else do
      let x ← namedEscape? e
      let (word, n) ← doubleQuotedWord? rest
      return (x :: word, n + 2)
  | x :: rest =>
    if x = '\\' then none
    else if x = '\x22' ∨ isEdge (some x) then some ([], 0)
    else do
      let (word, n) ← doubleQuotedWord? rest
      return (x :: word, n + 1)
  | [] => some ([], 0)

/-- Read on in a quoted scalar behind `text`, at most `fuel` words, up to its closing quote. -/
def quotedFrom? (quote : Char) : Nat → List Char → Cursor → Option (List Char × Cursor)
  | 0, _, _ => none
  | fuel + 1, text, c =>
    if c.isAtDocumentMark || c.isAtEnd then none
    else do
      let (word, n) ←
        if quote = '\x27' then some (singleQuotedWord c.rest) else doubleQuotedWord? c.rest
      let text := text ++ word
      let c := c.pass n
      let escaped := quote = '\x22' && c.sees '\\'
      let c := if escaped then c.advance.advance else c
      if c.sees quote then return (text, c.advance)
      let (gap, c) ← (if escaped then Gap.afterEscape else .empty).read? 0 c
      quotedFrom? quote fuel (text ++ gap.folded) c

/-- Read the quoted scalar whose opening quote stands here. -/
def quoted? (quote : Char) (c : Cursor) : Option (List Char × Cursor) :=
  quotedFrom? quote (c.rest.length + 1) [] c.advance

end SyncFleet.Yaml

/-
  SyncFleet/Yaml/Token.lean
  =========================
  **The tokens of a YAML text.**

  Indentation is turned into tokens that open and close blocks, so that the
  reader of nodes need not look at columns.  A key is recognised only at the
  colon behind it.  The scanner therefore keeps, for every open bracket and for
  the block around them, the last place where a key may have begun, and puts
  the token of a key in there when the colon comes.  Such a key stays within
  one line and 1024 bytes.
-/
import SyncFleet.Yaml.Property
import SyncFleet.Yaml.Scalar.Block

namespace SyncFleet.Yaml

/-- How a scalar is written. -/
inductive Style where
  | plain
  | quoted
  | literal
  | folded
deriving DecidableEq, Repr

/-- A token of a YAML text. -/
inductive Token where
  | directive (value : Directive)
  | documentStart
  | documentEnd
  | openBlockSequence
  | openBlockMapping
  | closeBlock
  | openSequence
  | closeSequence
  | openMapping
  | closeMapping
  /-- the dash in front of an item -/
  | item
  | comma
  | key
  | value
  | alias (name : String)
  | anchor (name : String)
  | tag (written : WrittenTag)
  | scalar (style : Style) (text : String)
deriving DecidableEq, Repr

/-- A place where a key may have begun. -/
structure KeyPlace where
  /-- the number of tokens in front of it -/
  position : Nat
  /-- whether something else than a key would be out of place there -/
  required : Bool
  index : Nat
  line : Nat
  column : Nat
deriving DecidableEq, Repr

/-- What the scanner has read, and where it stands. -/
structure Scanner where
  cursor : Cursor
  /-- the tokens so far, the last one first -/
  tokens : List Token
  /-- the columns of the open blocks, the innermost first -/
  blocks : List Nat
  /-- the place of a key inside the innermost bracket -/
  keyPlace : Option KeyPlace
  /-- the same for what encloses that bracket and so on; one entry for each open bracket -/
  enclosing : List (Option KeyPlace)
  /-- whether a key may begin here -/
  keyAllowed : Bool
deriving Repr

namespace Scanner

/-- The scanner at the start of a text. -/
def start (text : List Char) : Scanner := ⟨.start text, [], [], none, [], true⟩

/-- Whether a bracket is open. -/
def inFlow (s : Scanner) : Bool := !s.enclosing.isEmpty

/-- The least column of what belongs to the innermost block. -/
def floor (s : Scanner) : Nat :=
  match s.blocks with
  | [] => 0
  | n :: _ => n + 1

/-! ### Blocks -/

/-- Add a token. -/
def emit (s : Scanner) (t : Token) : Scanner := { s with tokens := t :: s.tokens }

/-- Put tokens in at a position, the last one first. -/
def insertAt (s : Scanner) (position : Nat) (ts : List Token) : Scanner :=
  let behind := s.tokens.length - position
  { s with tokens := s.tokens.take behind ++ ts ++ s.tokens.drop behind }

/-- Open a block at a column, unless one is open there or a bracket is open.  Its token goes to
    `position`. -/
def openBlock (s : Scanner) (column position : Nat) (t : Token) : Scanner :=
  if s.inFlow ∨ column < s.floor then s
  else { s.insertAt position [t] with blocks := column :: s.blocks }

/-- Close the blocks of columns from `least` on. -/
def closeBlocks (s : Scanner) (least : Nat) : Scanner :=
  if s.inFlow then s
  else
    let closed := (s.blocks.takeWhile (least ≤ ·)).length
    { s with
      tokens := List.replicate closed .closeBlock ++ s.tokens
      blocks := s.blocks.drop closed }

/-! ### Keys -/

/-- Give up the place of a key; fails if a key had to be there. -/
def dropKey? (s : Scanner) : Option Scanner :=
  if s.keyPlace.any (·.required) then none else some { s with keyPlace := none }

/-- Note that a key may begin here, if one may. -/
def noteKey? (s : Scanner) : Option Scanner :=
  if !s.keyAllowed then some s
  else do
    let s ← s.dropKey?
    let c := s.cursor
    let required := !s.inFlow && s.blocks.head? == some c.column
    return { s with keyPlace := some ⟨s.tokens.length, required, c.index, c.line, c.column⟩ }

/-- Whether the text since the place is too long for a key. -/
def isStale (s : Scanner) (k : KeyPlace) : Bool :=
  k.line < s.cursor.line || k.index + 1024 < s.cursor.index

/-- A place of a key as it is seen from here: gone when the text since it is too long.  Fails if
    a key had to be there. -/
def refresh? (s : Scanner) : Option KeyPlace → Option (Option KeyPlace)
  | none => some none
  | some k => if !s.isStale k then some (some k) else if k.required then none else some none

/-- Drop the places since which the text is too long for a key. -/
def dropStaleKeys? (s : Scanner) : Option Scanner := do
  let keyPlace ← s.refresh? s.keyPlace
  let enclosing ← s.enclosing.mapM s.refresh?
  return { s with keyPlace, enclosing }

/-! ### Gaps between tokens -/

/-- Pass blanks, comments and line breaks, at most `fuel` lines.  Outside of brackets a tab may
    not stand where a key may begin, and a new line may begin with a key. -/
def skipGaps : Nat → Scanner → Scanner
  | 0, s => s
  | fuel + 1, s =>
    let mark := s.cursor.column == 0 && s.cursor.sees '\uFEFF'
    let c := if mark then s.cursor.advance else s.cursor
    let tabs := s.inFlow || !s.keyAllowed
    let c := (c.skipWhile fun x => x == ' ' || (tabs && x == '\t')).skipComment
    if c.break?.isSome then
      skipGaps fuel { s with cursor := c.advance, keyAllowed := s.keyAllowed || !s.inFlow }
    else { s with cursor := c }

/-! ### Tokens -/

/-- Add a token of `n` characters. -/
def take (s : Scanner) (n : Nat) (t : Token) : Scanner :=
  { s.emit t with cursor := s.cursor.pass n }

/-- Add a token that ends elsewhere. -/
def takeTo (s : Scanner) (c : Cursor) (t : Token) : Scanner := { s.emit t with cursor := c }

/-- Begin something that belongs to no block: all of them are closed. -/
def leaveBlocks? (s : Scanner) : Option Scanner := do
  return { (← (s.closeBlocks 0).dropKey?) with keyAllowed := false }

/-- An opening bracket. -/
def openBracket? (s : Scanner) (t : Token) : Option Scanner := do
  let s ← s.noteKey?
  let s := { s with
    keyPlace := none, enclosing := s.keyPlace :: s.enclosing, keyAllowed := true }
  return s.take 1 t

/-- A closing bracket. -/
def closeBracket? (s : Scanner) (t : Token) : Option Scanner := do
  let s ← s.dropKey?
  let s := match s.enclosing with
    | [] => s
    | k :: outer => { s with keyPlace := k, enclosing := outer }
  return { s.take 1 t with keyAllowed := false }

/-- The dash in front of an item. -/
def item? (s : Scanner) : Option Scanner := do
  if !s.inFlow && !s.keyAllowed then none
  let s ← (s.openBlock s.cursor.column s.tokens.length .openBlockSequence).dropKey?
  return { s.take 1 .item with keyAllowed := true }

/-- The question mark in front of a key. -/
def key? (s : Scanner) : Option Scanner := do
  if !s.inFlow && !s.keyAllowed then none
  let s ← (s.openBlock s.cursor.column s.tokens.length .openBlockMapping).dropKey?
  return { s.take 1 .key with keyAllowed := !s.inFlow }

/-- The colon in front of a value.  If a key may have begun before, it did. -/
def value? (s : Scanner) : Option Scanner :=
  match s.keyPlace with
  | some k =>
    let s := (s.insertAt k.position [.key]).openBlock k.column k.position .openBlockMapping
    some { s.take 1 .value with keyPlace := none, keyAllowed := false }
  | none => do
    if !s.inFlow && !s.keyAllowed then none
    let s := s.openBlock s.cursor.column s.tokens.length .openBlockMapping
    return { s.take 1 .value with keyAllowed := !s.inFlow }

/-- A token that may be or begin a key. -/
def keyPart? (s : Scanner) (read : Cursor → Option (Token × Cursor)) : Option Scanner := do
  let s ← s.noteKey?
  let (t, c) ← read s.cursor
  return { s.takeTo c t with keyAllowed := false }

/-- A block scalar. -/
def block? (s : Scanner) (style : Style) : Option Scanner := do
  let s ← s.dropKey?
  let (text, c) ← blockScalar? (style == .folded) s.blocks.head? s.cursor
  return { s.takeTo c (.scalar style (String.ofList text)) with keyAllowed := true }

/-- A plain scalar.  Behind one that does not end with its last word's line a key may begin. -/
def plainScalar? (s : Scanner) : Option Scanner := do
  let s ← s.noteKey?
  let p ← plain? s.inFlow s.floor s.cursor
  return { s.takeTo p.cursor (.scalar .plain (String.ofList p.text)) with keyAllowed := p.endsLine }

/-- Whether a plain scalar may begin with what stands here. -/
def beginsPlain (s : Scanner) (x : Char) : Bool :=
  let next := s.cursor.ahead? 1
  if x == '-' then !next.any isSpacing
  else if x == '?' || x == ':' then !s.inFlow && !isEdge next
  else !(isEdge (some x) || ",[]\x7b\x7d#&*!|>'\"%@\x60".toList.contains x)

/-- Read the token that begins with the character `x` here. -/
def token? (s : Scanner) (x : Char) : Option Scanner :=
  let c := s.cursor
  let edge := isEdge (c.ahead? 1)
  if c.column == 0 && x == '%' then do
    let s ← s.leaveBlocks?
    let (d, c) ← Directive.read? s.cursor
    return s.takeTo c (.directive d)
  else if c.isAtMark '-' then do return (← s.leaveBlocks?).take 3 .documentStart
  else if c.isAtMark '.' then do return (← s.leaveBlocks?).take 3 .documentEnd
  else if x == '[' then s.openBracket? .openSequence
  else if x == '\x7b' then s.openBracket? .openMapping
  else if x == ']' then s.closeBracket? .closeSequence
  else if x == '\x7d' then s.closeBracket? .closeMapping
  else if x == ',' then do return { (← s.dropKey?).take 1 .comma with keyAllowed := true }
  else if x == '-' && edge then s.item?
  else if x == '?' && (s.inFlow || edge) then s.key?
  else if x == ':' && (s.inFlow || edge) then s.value?
  else if x == '*' then s.keyPart? fun c => (anchorName? c).map fun (n, c) => (.alias n, c)
  else if x == '&' then s.keyPart? fun c => (anchorName? c).map fun (n, c) => (.anchor n, c)
  else if x == '!' then
    s.keyPart? fun c => (WrittenTag.read? s.inFlow c).map fun (t, c) => (.tag t, c)
  else if x == '|' && !s.inFlow then s.block? .literal
  else if x == '>' && !s.inFlow then s.block? .folded
  else if x == '\x27' || x == '\x22' then
    s.keyPart? fun c => (quoted? x c).map fun (t, c) => (.scalar .quoted (String.ofList t), c)
  else if s.beginsPlain x then s.plainScalar?
  else none

/-- Read on to the end, at most `fuel` tokens. -/
def run? : Nat → Scanner → Option Scanner
  | 0, _ => none
  | fuel + 1, s => do
    let s ← (s.skipGaps (s.cursor.rest.length + 1)).dropStaleKeys?
    let s := s.closeBlocks (s.cursor.column + 1)
    match s.cursor.next? with
    | none => s.leaveBlocks?
    | some x => run? fuel (← s.token? x)

end Scanner

/-- The tokens of a text. -/
def tokens? (text : List Char) : Option (List Token) :=
  if text.all isTextChar then
    ((Scanner.start text).run? (text.length + 1)).map fun s => s.tokens.reverse
  else none

end SyncFleet.Yaml

/-
  SyncFleet/Yaml/Scalar/Block.lean
  ================================
  **Block scalars: the lines that are indented below a bar or an angle bracket.**

  Below a bar the lines are kept as they are.  Below an angle bracket a line
  break between two lines that begin with no blank is folded.  The header may
  fix the indentation, which otherwise is that of the first line that is not
  empty, and says what becomes of the line breaks at the end.
-/
import SyncFleet.Yaml.Cursor

namespace SyncFleet.Yaml

/-- What becomes of the line breaks at the end of a block scalar. -/
inductive Chomping where
  /-- all of them are dropped -/
  | strip
  /-- the first one is kept -/
  | clip
  /-- all of them are kept -/
  | keep
deriving DecidableEq, Repr

/-- What the header of a block scalar says. -/
structure BlockHeader where
  chomping : Chomping
  /-- the indentation below the enclosing block, unless it is to be found out -/
  indentation : Option Nat
deriving DecidableEq, Repr

/-- The indicator of chomping, if one is here. -/
def readChomping (c : Cursor) : Chomping × Cursor :=
  if c.sees '+' then (.keep, c.advance)
  else if c.sees '-' then (.strip, c.advance)
  else (.clip, c)

/-- The indicator of indentation, a digit from 1 to 9, if one is here. -/
def readIndentation? (c : Cursor) : Option (Option Nat × Cursor) :=
  match c.next? with
  | some x =>
    if x = '0' then none
    else if x.isDigit then some (some (x.toNat - 48), c.advance)
    else some (none, c)
  | none => some (none, c)

/-- Read the header behind the bar or angle bracket, up to the end of its line.  The two
    indicators may come in either order. -/
def BlockHeader.read? (c : Cursor) : Option (BlockHeader × Cursor) := do
  let (chomping, c) := readChomping c
  let (indentation, c) ← readIndentation? c
  let (chomping, c) := if chomping = .clip then readChomping c else (chomping, c)
  return (⟨chomping, indentation⟩, ← c.finishLine?)

/-- Pass empty lines and the indentation of the line behind them, at most `fuel` lines: the line
    breaks passed, and the greatest column that was reached.  Tabs may not stand in the
    indentation. -/
def emptyLines? (indent : Option Nat) :
    Nat → List Char → Nat → Cursor → Option (List Char × Nat × Cursor)
  | 0, breaks, widest, c => some (breaks, widest, c)
  | fuel + 1, breaks, widest, c =>
    let spaces := (c.rest.takeWhile (· == ' ')).length
    let c := c.pass (match indent with
      | some n => min spaces (n - c.column)
      | none => spaces)
    let widest := max widest c.column
    if c.sees '\t' && indent.all (c.column < ·) then none
    else match c.break? with
      | some b => emptyLines? indent fuel (breaks ++ [b]) widest c.advance
      | none => some (breaks, widest, c)

/-- The part of a block scalar that has been read. -/
structure BlockText where
  text : List Char
  /-- the break of the last line -/
  lineBreak : List Char
  /-- the breaks of the empty lines behind it -/
  emptyBreaks : List Char
  /-- whether the last line begins with a blank -/
  isBlank : Bool
deriving DecidableEq, Repr

namespace BlockText

/-- The text in front of another line, which begins with a blank or not. -/
def joined (b : BlockText) (folds blank : Bool) : List Char :=
  if folds && b.lineBreak == ['\n'] && !b.isBlank && !blank then
    b.text ++ (if b.emptyBreaks.isEmpty then [' '] else b.emptyBreaks)
  else b.text ++ b.lineBreak ++ b.emptyBreaks

/-- The text when no line follows. -/
def chomped (b : BlockText) : Chomping → List Char
  | .strip => b.text
  | .clip => b.text ++ b.lineBreak
  | .keep => b.text ++ b.lineBreak ++ b.emptyBreaks

end BlockText

/-- Read on line by line, at most `fuel` lines, as long as lines begin at the indentation. -/
def blockLines? (folds : Bool) (indent : Nat) :
    Nat → BlockText → Cursor → Option (BlockText × Cursor)
  | 0, b, c => some (b, c)
  | fuel + 1, b, c =>
    if c.column ≠ indent ∨ c.isAtEnd then some (b, c)
    else do
      let blank := c.isAt isSpacing
      let (line, c) := c.takeWhile fun x => !isBreak x
      let lineBreak := c.break?.toList
      let c := c.advance
      let (breaks, _, c) ← emptyLines? (some indent) (c.rest.length + 1) [] 0 c
      blockLines? folds indent fuel ⟨b.joined folds blank ++ line, lineBreak, breaks, blank⟩ c

/-- Read the block scalar whose bar or angle bracket stands here.  `parent` is the column of the
    enclosing block. -/
def blockScalar? (folds : Bool) (parent : Option Nat) (c : Cursor) :
    Option (List Char × Cursor) := do
  let (header, c) ← BlockHeader.read? c.advance
  let fixed := header.indentation.map (parent.getD 0 + ·)
  let (breaks, widest, c) ← emptyLines? fixed (c.rest.length + 1) [] 0 c
  let least := match parent with
    | some n => n + 1
    | none => 1
  let indent := fixed.getD (max widest least)
  let (b, c) ← blockLines? folds indent (c.rest.length + 1) ⟨[], [], breaks, false⟩ c
  return (b.chomped header.chomping, c)

end SyncFleet.Yaml

/-
  SyncFleet/Utility/Text/Paragraph.lean
  =====================================
  **Filling paragraphs.**

  Lines are broken where that costs least.  It costs something to miss the
  goal for the width, to have lines of different widths, and to break a
  sentence near its beginning or end; breaks behind sentences are cheap.
-/
import SyncFleet.Utility.Amount
import SyncFleet.Utility.Option
import SyncFleet.Utility.Text.Layout

namespace SyncFleet.Utility.Text

open Unix Tool

/-! ### Words -/

/-- A word of a paragraph. -/
structure Word where
  text : Bytes
  /-- how many blanks follow it -/
  space : Nat
  /-- whether it begins with an opening sign -/
  isOpening : Bool
  /-- whether it ends like a sentence -/
  isPeriod : Bool
  /-- whether it ends with a sign -/
  isPunctuated : Bool
  /-- whether it ends a sentence -/
  isFinal : Bool
deriving Inhabited

/-- How paragraphs are filled. -/
structure Filling where
  width : Nat
  goal : Nat
  /-- what lines begin with, without the blanks around it -/
  start : Bytes
  /-- how many blanks stand in front of that -/
  lead : Nat
  /-- how long that is with the blanks behind it -/
  startLength : Nat
  /-- lines are only broken, and not joined -/
  isSplit : Bool
  /-- the second line says how the rest is indented -/
  isCrown : Bool
  /-- the first line has an indentation of its own -/
  isTagged : Bool
  /-- blanks are made even -/
  isUniform : Bool

/-- The column behind blanks at the start of a text, what is behind them, and whether there is a tab
    among them. -/
def behindBlanks (column : Nat) (text : Bytes) : Nat × Bytes × Bool :=
  let blanks := text.takeWhile isBlank
  (blanks.foldl (fun n c => if c = '\t' then (n / 8 + 1) * 8 else n + 1) column,
    text.drop blanks.length, blanks.contains '\t')

/-- A line behind its start. -/
structure LineHead where
  /-- the column at which its start begins -/
  indent : Nat
  column : Nat
  rest : Bytes
  /-- whether nothing follows, not even a line feed -/
  isLast : Bool
  /-- whether there is a tab in front of the rest -/
  tabs : Bool
deriving Inhabited

/-- How much of one text another one begins with. -/
def sharedLength : Bytes → Bytes → Nat
  | a :: as, b :: bs => if a = b then sharedLength as bs + 1 else 0
  | _, _ => 0

/-- A line behind its start. -/
def Filling.headOf (k : Filling) (isLast : Bool) (line : Bytes) : LineHead :=
  let (column, rest, tabs) := behindBlanks 0 line
  if k.start.isEmpty then ⟨min k.lead column, column, rest, isLast, tabs⟩
  else
    let n := sharedLength k.start rest
    if n < k.start.length then ⟨column, column + n, rest.drop n, isLast, tabs⟩
    else
      let (behind, rest, more) := behindBlanks (column + n) (rest.drop n)
      ⟨column, behind, rest, isLast, tabs || more⟩

/-- A word with what its punctuation says. -/
def wordOf (text : Bytes) (space : Nat) (isEnd isLast isUniform : Bool) : Word :=
  let core := text.reverse.dropWhile fun c => ")]'\"".toList.contains c
  let last := core.headD (text.headD ' ')
  let isPeriod := ".?!".toList.contains last
  let isFinal := (isEnd && isLast) || (isPeriod && (isEnd || 1 < space))
  { text, isPeriod, isFinal
    space := if isEnd || isUniform then if isFinal then 2 else 1 else space
    isOpening := "(['\x60\"".toList.contains (text.headD ' ')
    isPunctuated := inClass "punct" (text.getLast?.getD ' ') }

/-- The words of a line from a column on, at most `fuel`, and whether there is a tab behind one. -/
def lineWords (isLast isUniform : Bool) : Nat → Nat → Bytes → List Word × Bool
  | 0, _, _ => ([], false)
  | _, _, [] => ([], false)
  | fuel + 1, column, c :: rest =>
    let text := c :: rest.takeWhile (!isSpace ·)
    let behind := column + text.length
    let (next, rest, tabs) := behindBlanks behind (rest.drop (text.length - 1))
    let word := wordOf text (next - behind) rest.isEmpty isLast isUniform
    let (words, more) := lineWords isLast isUniform fuel next rest
    (word :: words, tabs || more)

/-! ### Costs -/

/-- The cost of a line that misses the goal. -/
def shortCost (n : Int) : Int := n * 10 * (n * 10)

/-- The cost of lines that differ. -/
def raggedCost (n : Int) : Int := shortCost n / 2

/-- What is known of the lines from a word on: their cost, where the first one ends, and how long it
    is. -/
structure Breaking where
  cost : Int
  next : Nat
  length : Int
deriving Inhabited

/-- The cost of a line that begins with a word. -/
def baseCost (words : Array Word) (i : Nat) : Int :=
  let this := words.getD i default
  let before := words.getD (i - 1) default
  let behind : Int :=
    if i = 0 then 0
    else if before.isPeriod then if before.isFinal then -2500 else 360000
    else if before.isPunctuated then -1600
    else if 1 < i && (words.getD (i - 2) default).isFinal then
      40000 / (before.text.length + 2)
    else 0
  let front : Int :=
    if this.isOpening then -1600
    else if this.isFinal then 22500 / (this.text.length + 2)
    else 0
  4900 + behind + front

/-- The best end of a line that begins with word `i`, is `length` long up to word `w`, and may have
    at most `fuel` words more. -/
def bestBreak (k : Filling) (words : Array Word) (known : Nat → Breaking) (i : Nat)
    (lastLength : Int) : Nat → Nat → Int → Option Breaking → Option Breaking
  | 0, _, _, best => best
  | fuel + 1, w, length, best =>
    let size := words.size
    let behind := known w
    let lineCost : Int := if w = size then 0
      else shortCost (k.goal - length)
        + (if behind.next = size then 0 else raggedCost (length - behind.length))
    let cost := lineCost + behind.cost
      + (if i = 0 && 0 < lastLength then raggedCost (length - lastLength) else 0)
    let best := match best with
      | some b => if cost < b.cost then some ⟨cost, w, length⟩ else some b
      | none => some ⟨cost, w, length⟩
    if w = size then best
    else
      let longer := length + (words.getD (w - 1) default).space + (words.getD w default).text.length
      if longer < k.width then bestBreak k words known i lastLength fuel (w + 1) longer best
      else best

/-- The breaks from every word on; the last one stands for the end. -/
def breaksOf (k : Filling) (words : Array Word) (first other : Nat) (lastLength : Int) :
    Array Breaking :=
  let size := words.size
  -- breaks are found from the end on, so the ones that are known come in reverse
  let found := (List.range size).foldl (fun (found : Array Breaking) n =>
    let i := size - 1 - n
    let indent : Nat := if i = 0 then first else other
    let length : Int := indent + (words.getD i default).text.length
    let known := fun w => found.getD (size - w) default
    match bestBreak k words known i lastLength (size + 1) (i + 1) length none with
    | some b => found.push { b with cost := b.cost + baseCost words i }
    | none => found.push default) #[⟨0, size, 0⟩]
  found.reverse

/-! ### Paragraphs -/

/-- Where a filling stands. -/
structure FillState where
  /-- whether a tab has been read -/
  tabs : Bool
  other : Nat
  /-- the length of the line that was written last -/
  lastLength : Int

/-- Blanks from one column to another, with tabs if there may be some, of at most `fuel`. -/
def blanksTo (tabs : Bool) : Nat → Nat → Nat → Bytes
  | 0, _, _ => []
  | fuel + 1, column, goal =>
    if goal ≤ column then []
    else
      let stop := goal / 8 * 8
      let next := (column / 8 + 1) * 8
      if tabs && column + 1 < stop then
        '\t' :: blanksTo tabs fuel next goal
      else List.replicate (goal - column) ' '

/-- The text of a line from a column on, and the column behind it. -/
def lineText (tabs : Bool) : Nat → List Word → Bytes × Nat
  | column, [] => ([], column)
  | column, [w] => (w.text, column + w.text.length)
  | column, w :: rest =>
    let behind := column + w.text.length
    let (text, last) := lineText tabs (behind + w.space) rest
    (w.text ++ blanksTo tabs (w.space + 1) behind (behind + w.space) ++ text, last)

/-- Write words as a line. -/
def Filling.putWords (k : Filling) (s : FillState) (startIndent indent : Nat)
    (words : List Word) : Tool FillState := do
  let column := startIndent + k.start.length
  let gap := blanksTo s.tabs (startIndent + 1) 0 startIndent ++ k.start
    ++ blanksTo s.tabs (indent + 1) column indent
  let (text, last) := lineText s.tabs (max column indent) words
  putLine (gap ++ text)
  return { s with lastLength := last }

/-- Write lines from word `i` on up to word `stop`, at most `fuel`. -/
def Filling.putLines (k : Filling) (startIndent first : Nat) (words : Array Word)
    (breaks : Array Breaking) (stop : Nat) : Nat → Nat → FillState → Tool FillState
  | 0, _, s => return s
  | fuel + 1, i, s => do
    if stop ≤ i then return s
    let next := max (i + 1) (breaks.getD i default).next
    let indent := if i = 0 then first else s.other
    let s ← k.putWords s startIndent indent (words.toList.drop i |>.take (next - i))
    k.putLines startIndent first words breaks stop fuel next s

/-- The place near the end of a long paragraph where it is cut, found in at most `fuel` lines from
    word `w` on. -/
def cutPoint (breaks : Array Breaking) (size : Nat) : Nat → Nat → Nat → Option Int → Nat
  | 0, _, point, _ => point
  | fuel + 1, w, point, best =>
    if size ≤ w then point
    else
      let b := breaks.getD w default
      let here := b.cost - (breaks.getD b.next default).cost
      let better : Bool := best.all fun x => here < x
      let best := if better then here else best.getD here
      cutPoint breaks size fuel (max (w + 1) b.next) (if better then w else point) (some (best + 9))

/-- How many words, and how many bytes, a paragraph has at most before a part of it is written. -/
def mostWords : Nat := 998

/-- How many bytes a paragraph has at most before a part of it is written. -/
def mostBytes : Nat := 5000

/-- Add words to a paragraph, of which a part is written if it gets too long. -/
def Filling.addWords (k : Filling) (startIndent first : Nat) :
    List Word → Array Word × FillState → Tool (Array Word × FillState)
  | [], r => return r
  | w :: rest, (words, s) => do
    let bytes := words.foldl (fun n w => n + w.text.length) 0
    if words.size = mostWords || (!words.isEmpty && mostBytes < bytes + w.text.length) then
      let breaks := breaksOf k words first s.other s.lastLength
      let point := cutPoint breaks words.size words.size (breaks.getD 0 default).next words.size
        none
      let s ← k.putLines startIndent first words breaks point words.size 0 s
      k.addWords startIndent first rest (((words.extract point words.size).push w), s)
    else k.addWords startIndent first rest (words.push w, s)

/-- Whether a line goes on with a paragraph. -/
def Filling.continues (k : Filling) (startIndent : Nat) (h : LineHead) : Bool :=
  h.indent = startIndent && h.indent + k.startLength ≤ h.column && !h.rest.isEmpty

/-- The indentation of the lines behind the first one. -/
def Filling.otherIndent (k : Filling) (s : FillState) (first : Nat) (next : LineHead)
    (isSame : Bool) : Nat :=
  if k.isSplit then first
  else if k.isCrown then if isSame then next.column else first
  else if k.isTagged then
    if isSame && next.column ≠ first then next.column
    else if s.other = first then if first = 0 then 3 else 0
    else s.other
  else first

/-- A line that is not part of a paragraph, as it is. -/
def Filling.copied (k : Filling) (tabs : Bool) (h : LineHead) : Bytes :=
  if h.indent < h.column || !h.rest.isEmpty then
    let gap := blanksTo tabs (h.indent + 1) 0 h.indent
    let start := k.start.take (h.column - h.indent)
    let column := h.indent + start.length
    gap ++ start
      ++ (if h.rest.isEmpty then [] else blanksTo tabs (h.column + 1) column h.column)
      ++ (if h.rest.isEmpty && h.isLast && h.indent + k.start.length ≤ h.column then ['\n'] else [])
      ++ h.rest
  else []

/-- Add the lines that go on with a paragraph. -/
def Filling.gather (k : Filling) (startIndent first : Nat) (fits : LineHead → Bool) :
    List LineHead → Array Word × FillState → Tool (List LineHead × Array Word × FillState)
  | [], (words, s) => return ([], words, s)
  | h :: rest, (words, s) => do
    let s := { s with tabs := s.tabs || h.tabs }
    if !(k.continues startIndent h && fits h) then return (h :: rest, words, s)
    let (more, tabs) := lineWords h.isLast k.isUniform (h.rest.length + 1) h.column h.rest
    let r ← k.addWords startIndent first more (words, { s with tabs := s.tabs || tabs })
    k.gather startIndent first fits rest r

/-- Write the paragraphs of some lines, at most `fuel`. -/
def Filling.paragraphs (k : Filling) : Nat → List LineHead → FillState → Tool Unit
  | 0, _, _ => return
  | _, [], _ => return
  | fuel + 1, h :: rest, s => do
    let s := { s with tabs := s.tabs || h.tabs }
    if h.rest.isEmpty || h.indent < k.lead || h.column < h.indent + k.startLength then
      put (k.copied s.tabs h)
      if !h.isLast then put ['\n']
      if h.isLast then return
      k.paragraphs fuel rest s
    else
      let first := h.column
      let (start, tabs) := lineWords h.isLast k.isUniform (h.rest.length + 1) h.column h.rest
      let r ← k.addWords h.indent first start
        (#[], { s with lastLength := 0, tabs := s.tabs || tabs })
      let next := rest.headD default
      let isSame := k.continues h.indent next
      let s := { r.2 with
        other := k.otherIndent r.2 first next isSame, tabs := r.2.tabs || next.tabs }
      let (rest, words, s) ←
        if k.isSplit then pure (rest, r.1, s)
        else if k.isCrown || k.isTagged then
          if isSame && (k.isCrown || next.column ≠ first) then
            k.gather h.indent first (·.column = s.other) rest (r.1, s)
          else pure (rest, r.1, s)
        else k.gather h.indent first (·.column = s.other) rest (r.1, s)
      let last := words.size - 1
      let words := words.modify last fun w => { w with isPeriod := true, isFinal := true }
      let breaks := breaksOf k words first s.other s.lastLength
      let s ← k.putLines h.indent first words breaks words.size words.size 0 s
      k.paragraphs fuel rest s

/-- The most columns that a line may have. -/
def greatestColumns : Nat := 2500

/-- Fill the paragraphs of files. -/
def fmt (arguments _environment : List Bytes) : Tool Unit := do
  let arguments := match arguments with
    | first :: rest => withNumber "-w" first :: rest
    | [] => []
  let (c, names) ← options ["c|crown-margin", "p|prefix=", "s|split-only", "t|tagged-paragraph",
    "u|uniform-spacing", "w|width=", "g|goal="] arguments
  let width? ← (c.value? "w").mapM (amountWithin "" "invalid width" 0 greatestColumns)
  let goal? ← (c.value? "g").mapM
    (amountWithin "" "invalid width" 0 (width?.getD greatestColumns))
  let width := match width?, goal? with
    | some w, _ => w
    | none, some g => g + 10
    | none, none => 75
  let text := (c.value? "p").getD []
  let trimmed := text.dropWhile (· == ' ')
  let start := (trimmed.reverse.dropWhile (· == ' ')).reverse
  let k : Filling := {
    width, goal := goal?.getD (width * 187 / 200), start, lead := text.length - trimmed.length
    startLength := trimmed.length, isSplit := c.has "s", isCrown := c.has "c"
    isTagged := c.has "t", isUniform := c.has "u" }
  for name in if names.isEmpty then [['-']] else names do
    let opened ← if name = ['-'] then pure (.ok 0) else sys (Sys.openFile name .toRead 0)
    match opened with
    | .error e =>
      complainOf ("cannot open ".toList ++ inQuotes name ++ " for reading".toList) e
    | .ok n =>
      let bytes := ((← sys (Sys.readAll n)).toOption).getD .empty
      if n ≠ 0 then ask (Op.close n)
      let lines := linesOf (Bytes.ofByteArray bytes)
      let heads := lines.map fun line => k.headOf (line.getLast? ≠ some '\n') (chomp line)
      let heads := heads ++ [⟨0, 0, [], true, false⟩]
      k.paragraphs (heads.length + 1) heads ⟨false, 0, 0⟩

end SyncFleet.Utility.Text

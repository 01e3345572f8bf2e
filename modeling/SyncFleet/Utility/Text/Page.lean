/-
  SyncFleet/Utility/Text/Page.lean
  ================================
  **Pages: lines in columns, below a heading.**

  Columns are filled one after the other, or row by row, or each with a file
  of its own.  Blanks are written only when something follows them, as tabs
  where that is possible.
-/
import SyncFleet.Utility.Amount
import SyncFleet.Utility.Moment.Writing
import SyncFleet.Utility.Option
import SyncFleet.Utility.Text.Numbering
import SyncFleet.Utility.Text.Split

namespace SyncFleet.Utility.Text

open Unix Tool

/-! ### How pages look -/

/-- How bytes that cannot be seen are written. -/
inductive Unseen where
  | asTheyAre
  /-- as letters behind a caret, or as octal digits -/
  | carets
  | octal
deriving DecidableEq, Repr

/-- How columns are filled. -/
inductive ColumnOrder where
  | down
  | across
  /-- each column is a file -/
  | parallel
deriving DecidableEq, Repr

/-- How pages look. -/
structure PageStyle where
  columns : Nat
  order : ColumnOrder
  /-- how many lines of text a page has -/
  bodyLines : Nat
  /-- whether there is a heading and room below the text -/
  hasHeading : Bool
  feedsForms : Bool
  isDouble : Bool
  truncates : Bool
  /-- whether tabs in lines become blanks, and blanks tabs -/
  expandsTabs : Bool
  makesTabs : Bool
  inputTab : Char × Nat
  outputTab : Char × Nat
  columnWidth : Nat
  lineWidth : Nat
  separator : Bytes
  separates : Bool
  margin : Nat
  /-- what follows a number, and how many digits it has -/
  numbers : Option (Char × Nat)
  /-- how many columns a number takes with what follows it -/
  numberWidth : Nat
  unseen : Unseen
  firstPage : Nat
  lastPage : Option Nat

namespace PageStyle

/-- Whether lines are kept until their page is complete. -/
def stores (k : PageStyle) : Bool := k.order = .down && 1 < k.columns

/-- Where a column starts. -/
def start (k : PageStyle) (column : Nat) : Nat :=
  if column = 0 then k.margin + k.separator.length
  else if !k.truncates then 0
  else
    let extra := if k.order = .parallel then k.numberWidth else 0
    k.margin + extra + column * (k.columnWidth + k.separator.length)

end PageStyle

/-! ### Lines -/

/-- A byte of a line at a column as it is written, and the column behind it. -/
def PageStyle.clump (k : PageStyle) (column : Nat) (c : Char) : Bytes × Nat :=
  let octal := '\\' :: padLeft 3 '0' (octal c.toNat)
  if c = k.inputTab.1 || c = '\t' then
    let step := if c = k.inputTab.1 then k.inputTab.2 else 8
    let width := step - column % step
    (if k.expandsTabs then List.replicate width ' ' else [c], column + width)
  else if isPrint c then ([c], column + 1)
  else match k.unseen with
    | .octal => (octal, column + 4)
    | .carets =>
      if c.toNat < 128 then (['^', byte (c.toNat ^^^ 64)], column + 2) else (octal, column + 4)
    | .asTheyAre => if c = '\x08' then (if column = 0 then [] else [c], column - 1) else ([c], column)

/-- The text of a line from a column on as far as it fits, and the column behind it. -/
def PageStyle.fitting (k : PageStyle) : Nat → Bytes → List Bytes → Bytes × Nat
  | column, [], done => (done.reverse.flatten, column)
  | column, c :: rest, done =>
    let (text, next) := k.clump column c
    if k.truncates && k.columnWidth < next then (done.reverse.flatten, column)
    else k.fitting next rest (text :: done)

/-- A number with what follows it. -/
def PageStyle.numberText (k : PageStyle) (n : Int) : Bytes :=
  match k.numbers with
  | none => []
  | some (mark, digits) =>
    let text := padLeft digits ' ' (integer n)
    text.drop (text.length - digits)
      ++ (if mark = '\t' && 1 < k.columns then List.replicate (k.numberWidth - digits) ' '
        else [mark])

/-- A line of a column: its text, and the column behind it. -/
structure PageCell where
  text : Bytes
  width : Nat

/-- The cell of a line with a number, if there is one. -/
def PageStyle.cell (k : PageStyle) (number : Option Int) (line : Bytes) : PageCell :=
  let label := (number.map k.numberText).getD []
  let shift := if number.isSome && k.truncates && k.order ≠ .parallel then k.numberWidth else 0
  match line with
  | [] => ⟨label, shift⟩
  | c :: rest =>
    let (text, next) := k.clump 0 c
    if k.truncates && k.columnWidth < next then ⟨[], 0⟩
    else
      let (more, width) := k.fitting (next + shift) rest []
      ⟨label ++ text ++ more, width⟩

/-! ### Rows -/

/-- Where a row stands that is being written. -/
structure Carriage where
  column : Nat
  /-- blanks that have not been written yet -/
  spaces : Nat
  /-- separators that have not been written yet -/
  separators : Nat
  /-- in reverse -/
  text : List Bytes

/-- Blanks from one column to another, as at most `fuel` tabs where that is possible. -/
def tabsTo (mark : Char) (step : Nat) : Nat → Nat → Nat → Bytes
  | 0, _, _ => []
  | fuel + 1, column, goal =>
    let next := column + (step - column % step)
    if column + 1 < goal && next ≤ goal then mark :: tabsTo mark step fuel next goal
    else List.replicate (goal - column) ' '

/-- Write the blanks that are due. -/
def PageStyle.writeSpaces (k : PageStyle) (r : Carriage) : Carriage :=
  let goal := r.column + r.spaces
  let text := tabsTo k.outputTab.1 k.outputTab.2 (r.spaces + 1) r.column goal
  ⟨goal, 0, r.separators, text :: r.text⟩

/-- Write a byte. -/
def PageStyle.writeByte (k : PageStyle) (r : Carriage) (c : Char) : Carriage :=
  if !k.makesTabs then { r with text := [c] :: r.text }
  else if c = ' ' then { r with spaces := r.spaces + 1 }
  else
    let r := if 0 < r.spaces then k.writeSpaces r else r
    let column := if isPrint c then r.column + 1 else if c = '\x08' then r.column - 1 else r.column
    { r with column, text := [c] :: r.text }

/-- Go to a column. -/
def PageStyle.padTo (k : PageStyle) (r : Carriage) (column : Nat) : Carriage :=
  if k.makesTabs then { r with spaces := column - r.column }
  else
    let text := List.replicate (column - r.column) ' '
    { r with column := max column r.column, text := text :: r.text }

/-- Write the separators that are due, of which only the first one is written out. -/
def PageStyle.writeSeparators (k : PageStyle) (r : Carriage) : Carriage :=
  let flush := fun (r : Carriage) => if 0 < r.spaces then k.writeSpaces r else r
  let write := fun (r : Carriage) (c : Char) =>
    if c = ' ' then { r with spaces := r.spaces + 1 }
    else
      let r := flush r
      { r with column := r.column + 1, text := [c] :: r.text }
  let r := if 0 < r.separators then k.separator.foldl write r else r
  { flush r with separators := 0 }

/-- Go to the start of a column. -/
def PageStyle.align (k : PageStyle) (r : Carriage) (column : Nat) : Carriage :=
  let start := k.start column
  let r := if k.separator.length < start then k.padTo r (start - k.separator.length) else r
  if k.separates then k.writeSeparators r else r

/-- Leave a column empty; the first one may have a number all the same. -/
def PageStyle.leaveEmpty (k : PageStyle) (number : Option Int) (r : Carriage) (column : Nat) :
    Carriage :=
  let r := k.align r column
  match number, column with
  | some n, 0 => (k.numberText n).foldl k.writeByte r
  | _, _ => r

/-- Leave the columns in front of the first one that is not empty. -/
def PageStyle.leaveFirst (k : PageStyle) (number : Option Int) (r : Carriage) : Carriage :=
  let r := (List.range r.separators).foldl (fun r column =>
    let r := k.leaveEmpty number r column
    { r with separators := r.separators + 1 }) { r with separators := 0 }
  { r with spaces := if k.truncates then k.columnWidth else 0 }

/-- Write a cell into a column. -/
def PageStyle.writeCell (k : PageStyle) (r : Carriage) (column : Nat) (cell : PageCell) :
    Carriage :=
  let r := cell.text.foldl k.writeByte (k.align r column)
  if k.stores && r.spaces = 0 then
    let back := if column = 0 then k.separator.length else 0
    { r with column := k.start column + cell.width - back }
  else r

/-- Write cells from a column on, of which some are missing; `isEmpty` says that there has been none
    so far, and `number` stands in front of the first column if that is empty. -/
def PageStyle.writeCells (k : PageStyle) (number : Option Int) :
    Bool → Nat → List (Option PageCell) → Carriage → Carriage
  | _, _, [], r => r
  | isEmpty, column, cell :: rest, r =>
    let isParallel := k.order == ColumnOrder.parallel
    let r := match cell with
      | none => if isParallel && !isEmpty then k.leaveEmpty number r column else r
      | some cell =>
        let r := if isParallel && isEmpty && 0 < column then k.leaveFirst number r else r
        k.writeCell r column cell
    let r := if k.separates then { r with separators := r.separators + 1 } else r
    k.writeCells number (isEmpty && cell.isNone) (column + 1) rest r

/-- The text of a row. -/
def PageStyle.row (k : PageStyle) (number : Option Int) (cells : List (Option PageCell)) : Bytes :=
  (k.writeCells number true 0 cells ⟨0, 0, 0, []⟩).text.reverse.flatten

/-! ### Pages -/

/-- A line with its number, if it has one. -/
abbrev PageLine := Bytes × Option Int

/-- Lines with their numbers, from one on. -/
def PageStyle.numbered (k : PageStyle) (start : Int) (lines : List Bytes) : List PageLine :=
  lines.zipIdx.map fun (line, i) => (line, if k.numbers.isSome then some (start + i) else none)

/-- The rows of a page whose columns are filled one after the other, with as even a length as can
    be. -/
def PageStyle.rowsDown (k : PageStyle) (lines : List PageLine) : List (List (Option PageCell)) :=
  let total := lines.length
  let lengthOf := fun j => total / k.columns + (if j < total % k.columns then 1 else 0)
  let (columns, _) := (List.range k.columns).foldl (fun (done, rest) j =>
    (done ++ [(rest.take (lengthOf j)).map fun (l, n) => k.cell n l], rest.drop (lengthOf j)))
    (([] : List (List PageCell)), lines)
  (List.range (lengthOf 0)).map fun i => columns.map fun column => column[i]?

/-- The rows of the pages of one file. -/
def PageStyle.pages (k : PageStyle) (start : Int) (lines : List Bytes) : List (List Bytes) :=
  let lines := k.numbered start lines
  let rowsOf := fun (page : List PageLine) =>
    if k.stores then k.rowsDown page
    else (chunksOf k.columns (page.length + 1) page).map fun (row : List PageLine) =>
      row.map fun (line, number) => some (k.cell number line)
  (chunksOf (k.bodyLines * k.columns) (lines.length + 1) lines).map fun page =>
    (rowsOf page).map (k.row none)

/-- The rows of the pages of files that stand side by side. -/
def PageStyle.parallelPages (k : PageStyle) (start : Int) (files : List (List Bytes)) :
    List (List Bytes) :=
  let height := files.foldl (fun n f => max n f.length) 0
  let rowOf := fun (i : Nat) =>
    let number := if k.numbers.isSome then some (start + i) else none
    k.row number (files.zipIdx.map fun (f, j) =>
      f[i]?.map fun line => k.cell (if j = 0 then number else none) line)
  let rows := (List.range height).map rowOf
  chunksOf k.bodyLines (rows.length + 1) rows

/-- The heading of a page. -/
def PageStyle.headingText (k : PageStyle) (date title : Bytes) (page : Nat) : Bytes :=
  let number := "Page ".toList ++ decimal page
  let free := k.lineWidth - date.length - title.length - number.length
  let left := free / 2
  let gap := fun n => List.replicate (max n 1) ' '
  let margin := List.replicate k.margin ' '
  ['\n', '\n'] ++ margin ++ date ++ gap left ++ title ++ gap (free - left) ++ number
    ++ ['\n', '\n', '\n']

/-- Write pages. -/
def PageStyle.putPages (k : PageStyle) (date title : Bytes) (pages : List (List Bytes)) :
    Tool Unit := do
  if pages.length < k.firstPage && !pages.isEmpty then
    warn ("starting page number ".toList ++ decimal k.firstPage ++ " exceeds page count ".toList
      ++ decimal pages.length)
  for (rows, i) in pages.zipIdx do
    let page := i + 1
    if k.firstPage ≤ page && k.lastPage.all (page ≤ ·) then
      if k.hasHeading then put (k.headingText date title page)
      for (row, j) in rows.zipIdx do
        put (row ++ ['\n'])
        let isLast := j + 1 = rows.length && page = pages.length
        if k.isDouble && !(isLast && k.stores && !k.hasHeading) then put ['\n']
      if k.hasHeading then
        if k.feedsForms then put ['\x0c']
        else
          let height := if k.isDouble then 2 else 1
          put (List.replicate ((k.bodyLines - rows.length) * height + 5) '\n')

/-! ### Options -/

/-- A mark and a number that are the value of an option. -/
def markAndNumber (letter : Char) (usual : Char × Nat) (text : Option Bytes) :
    Tool (Char × Nat) := do
  match text.getD [] with
  | [] => return usual
  | text =>
    let (mark, rest) := match text with
      | c :: more => if c.isDigit then (usual.1, text) else (c, more)
      | [] => (usual.1, text)
    if rest.isEmpty then return (mark, usual.2)
    match natOf? rest with
    | some (n + 1) => return (mark, n + 1)
    | _ => misuse (("'-" ++ String.ofList [letter]
        ++ "' extra characters or invalid number in the argument: ").toList ++ quoted text)

/-- A range of pages. -/
def pageRange? (text : Bytes) : Option (Nat × Option Nat) :=
  match digitsAt 10 text with
  | (n + 1, _, []) => some (n + 1, none)
  | (n + 1, _, ':' :: rest) => match natOf? rest with
    | some m => if n < m then some (n + 1, some m) else none
    | none => none
  | _ => none

/-- Arguments of which numbers behind dashes are columns and numbers behind plus signs are
    pages. -/
def pageArgument (argument : Bytes) : Bytes :=
  match argument with
  | '-' :: d :: rest => if d.isDigit then "--columns=".toList ++ d :: rest else argument
  | '+' :: rest => if (pageRange? rest).isSome then "--pages=".toList ++ rest else argument
  | _ => argument

/-- The lines of files; those that cannot be opened are reported. -/
def linesOfFiles (isQuiet : Bool) (names : List Bytes) : Tool (List (Bytes × List Bytes)) := do
  let mut found := []
  for name in names do
    let opened ← if name = ['-'] then pure (.ok 0) else sys (Sys.openFile name .toRead 0)
    match opened with
    | .ok n =>
      let r ← sys (Sys.readAll n)
      if n ≠ 0 then ask (Op.close n)
      match r with
      | .ok bytes => found := (name, (linesOf (Bytes.ofByteArray bytes)).map chomp) :: found
      | .error e => complainOf (shown name) e
    | .error e =>
      if isQuiet then modify fun s => { s with status := 1 }
      else complainOf (shown name) e
  return found.reverse

/-- The kinds of options of pages. -/
def pageOptions : List String :=
  ["pages=", "columns=", "a|across", "b", "c|show-control-chars", "d|double-space", "D|date-format=",
    "e|expand-tabs?", "f|F|form-feed", "h|header=", "i|output-tabs?", "J|join-lines", "l|length=",
    "m|merge", "n|number-lines?", "N|first-line-number=", "o|indent=", "r|no-file-warnings",
    "s|separator?", "S|sep-string?", "t|omit-header", "T|omit-pagination",
    "v|show-nonprinting", "w|width=", "W|page-width="]

/-- Put lines into pages. -/
def pr (arguments environment : List Bytes) : Tool Unit := do
  let (c, names) ← options pageOptions (arguments.map pageArgument)
  let read := fun (key : String) (what : String) (least : Nat) => (c.value? key).mapM fun text =>
    amountWithin "" what least 0x7fffffff text
  let columns? ← read "columns" "invalid number of columns" 1
  let length ← read "l" "'-l PAGE_LENGTH' invalid number of lines" 1
  let margin ← read "o" "'-o MARGIN' invalid line offset" 0
  let width ← read "w" "'-w PAGE_WIDTH' invalid number of characters" 1
  let wide ← read "W" "'-W PAGE_WIDTH' invalid number of characters" 1
  let firstNumber ← (c.value? "N").mapM
    (signedWithin "'-N NUMBER' invalid starting line number" (-0x80000000))
  let inputTab ← markAndNumber 'e' ('\t', 8) (c.value? "e")
  let outputTab ← markAndNumber 'i' ('\t', 8) (c.value? "i")
  let number ← markAndNumber 'n' ('\t', 5) (c.value? "n")
  let (firstPage, lastPage) ← match c.value? "pages" with
    | none => pure (1, none)
    | some text => match pageRange? text with
      | some r => pure r
      | none => misuse ("invalid page range ".toList ++ quoted text)
  let isParallel := c.has "m" && !names.isEmpty
  if c.has "m" && columns?.isSome then
    die "cannot specify number of columns when printing in parallel".toList
  if c.has "m" && c.has "a" then
    die "cannot specify both printing across and printing in parallel".toList
  -- old options stand for new ones
  let several : Bool := c.has "m" || columns?.isSome
  let oldSeparates : Bool := c.last? ["s", "S"] = some "s"
  let oldWidth : Bool := c.last? ["w", "W"] = some "w"
  let sign := (if c.has "S" then c.value? "S" else c.value? "s").getD []
  let mut truncates : Bool := c.has "W"
  let mut separates : Bool := c.has "S"
  let mut joins : Bool := c.has "J"
  if oldWidth then
    truncates := truncates || several
    separates := separates || (several && oldSeparates)
    joins := joins || !several
  else if !separates && oldSeparates && several then
    separates := truncates || !sign.isEmpty
    joins := joins || !truncates
  let hasHeading : Bool := !(c.has "t" || c.has "T") && 10 < length.getD 66
  let lines := if hasHeading then length.getD 66 - 10 else length.getD 66
  let columns := if isParallel then names.length else columns?.getD 1
  let separator := if columns ≤ 1 then sign
    else if !separates then if joins then ['\t'] else [' ']
    else if !joins && sign = ['\t'] then [' '] else sign
  let lineWidth := (if c.has "W" then wide else width).getD 72
  let numbers := if c.has "n" then some number else none
  let numberWidth := match numbers with
    | some (mark, digits) => if mark = '\t' then digits + (8 - digits % 8) else digits + 1
    | none => 0
  let used := (if isParallel then numberWidth else 0) + (columns - 1) * separator.length
  let k : PageStyle := {
    columns, order := if isParallel then .parallel else if c.has "a" then .across else .down
    bodyLines := if c.has "d" then max 1 (lines / 2) else lines, hasHeading
    feedsForms := c.has "f", isDouble := c.has "d"
    truncates := (truncates || 1 < columns) && !joins
    expandsTabs := c.has "e" || (1 < columns && separator ≠ ['\t'])
    makesTabs := c.has "i" || 1 < columns
    inputTab, outputTab, columnWidth := (lineWidth - used) / columns, lineWidth, separator
    separates := separates || 1 < columns, margin := margin.getD 0, numbers, numberWidth
    unseen := if c.has "v" then .octal else if c.has "c" then .carets else .asTheyAre
    firstPage, lastPage }
  if k.columnWidth = 0 then die "page width too narrow".toList
  let zone := Moment.zoneOf environment
  let now ← look fun s => s.clock
  let dateOf := fun (moment : Int) =>
    Moment.formatted zone moment ((c.value? "D").getD "%Y-%m-%d %H:%M".toList)
  let skipped : Nat := (firstPage - 1) * k.bodyLines * (if isParallel then 1 else k.columns)
  let start : Int := match firstNumber with
    | some n => n - skipped
    | none => 1
  let files ← linesOfFiles (c.has "r") (if names.isEmpty then [['-']] else names)
  if isParallel then
    let k := { k with columns := files.length }
    if !files.isEmpty then
      k.putPages (dateOf now) ((c.value? "h").getD []) (k.parallelPages start (files.map Prod.snd))
  else
    for (name, lines) in files do
      let isInput := name = ['-']
      let t ← if isInput then pure none else status? name true
      k.putPages (dateOf ((t.map (·.modified)).getD now))
        ((c.value? "h").getD (if isInput then [] else name)) (k.pages start lines)

end SyncFleet.Utility.Text

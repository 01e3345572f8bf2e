/-
  SyncFleet/Utility/Text/Field.lean
  =================================
  **Parts of lines: selected columns, and lines side by side.**
-/
import SyncFleet.Utility.Option
import SyncFleet.Utility.LineSource

namespace SyncFleet.Utility.Text

open Unix Tool

/-! ### Selections -/

/-- A range of positions that count from one; the last one may be open. -/
structure Span where
  first : Nat
  last : Option Nat
deriving DecidableEq, Repr

/-- What is selected: bytes or fields. -/
inductive Selected where
  | bytes
  | characters
  | fields
deriving DecidableEq, Repr

/-- How far the reading of a range has come. -/
structure SpanReading where
  /-- whether a dash has been read -/
  hasDash : Bool := false
  hasFirst : Bool := false
  hasLast : Bool := false
  first : Nat := 1
  value : Nat := 0

namespace SpanReading

/-- What is said of a position zero. -/
def fromOne (what : Selected) : String :=
  if what = .fields then "fields are numbered from 1"
  else "byte/character positions are numbered from 1"

/-- The range that has been read, or what is wrong with it. -/
def finish (what : Selected) (r : SpanReading) : Except String Span :=
  if r.hasDash then
    if !r.hasFirst && !r.hasLast then .error "invalid range with no endpoint: -"
    else if !r.hasLast then .ok ⟨r.first, none⟩
    else if r.value < r.first then .error "invalid decreasing range"
    else .ok ⟨r.first, some r.value⟩
  else if r.value = 0 then .error (fromOne what) else .ok ⟨r.value, some r.value⟩

end SpanReading

/-- The ranges of a list, which are separated by commas or blanks, or what is wrong with them. -/
def spansFrom (what : Selected) (r : SpanReading) : Bytes → Except String (List Span)
  | [] => return [← r.finish what]
  | c :: rest => do
    if c = '-' then
      if r.hasDash then
        throw (if what = .fields then "invalid field range" else "invalid byte or character range")
      if r.hasFirst && r.value = 0 then throw (SpanReading.fromOne what)
      let first := if r.hasFirst then r.value else 1
      spansFrom what { r with hasDash := true, first, value := 0 } rest
    else if c = ',' || isBlank c then
      let span ← r.finish what
      return span :: (← spansFrom what {} rest)
    else if c.isDigit then
      let value := 10 * r.value + (c.toNat - 48)
      if UInt64.size - 1 ≤ value then
        let digits := decimal r.value ++ (c :: rest).takeWhile Char.isDigit
        throw ((if what = .fields then "field number " else "byte/character offset ")
          ++ (quoted digits).name ++ " is too large")
      spansFrom what { r with
        hasFirst := r.hasFirst || !r.hasDash, hasLast := r.hasLast || r.hasDash, value } rest
    else
      throw ((if what = .fields then "invalid field value " else "invalid byte/character position ")
        ++ (quoted (c :: rest)).name)

/-- The ranges of a list. -/
def spansOf (what : Selected) (text : Bytes) : Except String (List Span) := spansFrom what {} text

/-- Whether a position is in one of some ranges. -/
def inSpans (spans : List Span) (n : Nat) : Bool :=
  spans.any fun s => s.first ≤ n && s.last.all (n ≤ ·)

/-- The ranges as runs of positions: whether one begins a range. -/
def beginsSpan (spans : List Span) (n : Nat) : Bool :=
  spans.any (·.first = n) && !(spans.any fun s => s.first < n && s.last.all (n ≤ ·))

/-- How a line is cut. -/
structure Cutting where
  what : Selected
  spans : List Span
  complement : Bool
  delimiter : Char
  /-- what stands between the selected parts, if not what stood between them -/
  output : Option Bytes
  onlyDelimited : Bool

/-- Whether a position is selected. -/
def Cutting.takes (k : Cutting) (n : Nat) : Bool := inSpans k.spans n != k.complement

/-- Cut a line without the byte that ends it; none if nothing is to be written of it. -/
def Cutting.cut (k : Cutting) (line : Bytes) : Option Bytes :=
  match k.what with
  | .fields =>
    let fields := splitAt k.delimiter line
    if fields.length ≤ 1 then if k.onlyDelimited then none else some line
    else
      let taken := (fields.zipIdx 1).filterMap fun (f, i) => if k.takes i then some f else none
      some (List.intercalate (k.output.getD [k.delimiter]) taken)
  | _ =>
    let taken := (line.zipIdx 1).filter fun (_, i) => k.takes i
    match k.output with
    | none => some (taken.map Prod.fst)
    | some between =>
      some ((taken.foldl (fun ((out : List Bytes), (last : Nat)) (c, i) =>
        let starts := !out.isEmpty && (last + 1 ≠ i || (!k.complement && beginsSpan k.spans i))
        ((if starts then between ++ [c] else [c]) :: out, i)) ([], 0)).1.reverse.flatten)

/-- Write selected parts of lines. -/
def cut (arguments _environment : List Bytes) : Tool Unit := do
  let (c, names) ← options ["b|bytes=", "c|characters=", "d|delimiter=", "f|fields=", "n",
    "s|only-delimited", "z|zero-terminated", "complement", "output-delimiter="] arguments
  let lists := c.options.filter fun o => ["b", "c", "f"].contains o.1
  if 1 < lists.length then misuse "only one list may be specified".toList
  let (what, list) ← match lists with
    | [("b", v)] => pure (Selected.bytes, v.getD [])
    | [("c", v)] => pure (Selected.characters, v.getD [])
    | [("f", v)] => pure (Selected.fields, v.getD [])
    | _ => misuse "you must specify a list of bytes, characters, or fields".toList
  let delimiter ← match c.value? "d" with
    | some [] => pure '\x00'
    | some [d] => pure d
    | some _ => misuse "the delimiter must be a single character".toList
    | none => pure '\t'
  if what ≠ .fields then
    if (c.value? "d").isSome then
      misuse "an input delimiter may be specified only when operating on fields".toList
    if c.has "s" then
      misuse ("suppressing non-delimited lines makes sense\n\tonly when operating on fields").toList
  let spans ← match spansOf what list with
    | .ok spans => pure spans
    | .error message => misuse message.toList
  let k : Cutting := ⟨what, spans, c.has "complement", delimiter,
    (c.value? "output-delimiter").map fun b => if b.isEmpty then ['\x00'] else b, c.has "s"⟩
  let stop := if c.has "z" then '\x00' else '\n'
  overLinesOfEach stop (fun _ line => do
    if let some text := k.cut (chop stop line) then put (text ++ [stop])) names ()

/-! ### Side by side -/

/-- The delimiters that a text names, of at most `fuel` bytes; some of them are empty. -/
def delimitersOf : Nat → Bytes → Option (List Bytes)
  | 0, _ => some []
  | _, [] => some []
  | _, ['\\'] => none
  | fuel + 1, '\\' :: c :: rest =>
    (delimitersOf fuel rest).map ((match c with
      | '0' => []
      | 'b' => ['\x08']
      | 'f' => ['\x0c']
      | 'n' => ['\n']
      | 'r' => ['\r']
      | 't' => ['\t']
      | 'v' => ['\x0b']
      | c => [c]) :: ·)
  | fuel + 1, c :: rest => (delimitersOf fuel rest).map ([c] :: ·)

/-- Texts joined by delimiters that are used in turn. -/
def joinedBy (delimiters : List Bytes) (texts : List Bytes) : Bytes :=
  let n := delimiters.length
  (texts.zipIdx.map fun (t, i) =>
    (if i = 0 ∨ n = 0 then [] else (delimiters[(i - 1) % n]?).getD []) ++ t).flatten

/-- Write rows of lines until all files have come to their ends, at most `fuel`. -/
def pasteRows (stop : Char) (delimiters : List Bytes) : Nat → List LineSource → Tool Unit
  | 0, _ => return ()
  | fuel + 1, sources => do
    let (lines, sources) ← nextLines stop sources []
    if lines.any Option.isSome then
      put (joinedBy delimiters (lines.map fun l => chop stop (l.getD [])) ++ [stop])
      pasteRows stop delimiters fuel sources

/-- Write lines of files side by side, or all lines of each in one. -/
def paste (arguments _environment : List Bytes) : Tool Unit := do
  let (c, names) ← options ["d|delimiters=", "s|serial", "z|zero-terminated"] arguments
  let stop := if c.has "z" then '\x00' else '\n'
  let text := (c.value? "d").getD ['\t']
  let delimiters ← match delimitersOf (text.length + 1) text with
    | some ds => pure (if text.isEmpty then [[]] else ds)
    | none =>
      die ("delimiter list ends with an unescaped backslash: ".toList ++ text)
  let names := if names.isEmpty then [['-']] else names
  if c.has "s" then
    for name in names do
      if let some bytes ← content? name then
        let lines := (piecesOf stop (Bytes.ofByteArray bytes)).map (chop stop)
        put (joinedBy delimiters lines ++ [stop])
  else
    let sources ← names.mapM LineSource.ofFile
    pasteRows stop delimiters mostPieces sources

end SyncFleet.Utility.Text

/-
  SyncFleet/Utility/Text/Split.lean
  =================================
  **Files cut into pieces, and files written several times.**
-/
import SyncFleet.Utility.Amount
import SyncFleet.Utility.Option
import SyncFleet.Utility.Regular

namespace SyncFleet.Utility.Text

open Unix Tool

/-! ### Several outputs -/

/-- Open the files that are written besides the output. -/
def openOutputs (appends : Bool) : List Bytes → Tool (List (Bytes × Nat))
  | [] => return []
  | name :: rest => do
    match ← sys (Sys.openFile name (if appends then .toAppend else .toWrite) 0o666) with
    | .ok n => return (name, n) :: (← openOutputs appends rest)
    | .error e =>
      complainOf (shown name) e
      openOutputs appends rest

/-- Write a piece to all outputs; those that fail are left out from then on. -/
def writeOutputs (piece : ByteArray) : List (Bytes × Nat) → Tool (List (Bytes × Nat))
  | [] => return []
  | (name, n) :: rest => do
    match ← sys (Sys.writeBytes n piece) with
    | .ok _ => return (name, n) :: (← writeOutputs piece rest)
    | .error e =>
      complainOf (if n = 1 then "'standard output'".toList else shown name) e
      writeOutputs piece rest

/-- Copy the input to the output and to files. -/
def tee (arguments _environment : List Bytes) : Tool Unit := do
  let (c, names) ← options ["a|append", "i|ignore-interrupts", "p", "output-error?"] arguments
  if let some word := c.value? "output-error" then
    let _ ← choice "--output-error" [["warn"], ["warn-nopipe"], ["exit"], ["exit-nopipe"]] word
  let files ← openOutputs (c.has "a") names
  let _ ← piecesFrom ['-'] 0 (fun outputs piece => writeOutputs piece outputs) mostPieces
    ((['-'], 1) :: files)

/-! ### Pieces -/

/-- How the ends of names are formed. -/
structure Endings where
  start : Bytes
  digits : Bytes
  length : Nat
  /-- whether more letters are used when there are no names left -/
  grows : Bool
  first : Nat
  behind : Bytes

/-- A number in some digits, at least of a length. -/
def inDigits (digits : Bytes) : Nat → Nat → Bytes
  | 0, _ => []
  | length + 1, n =>
    inDigits digits length (n / digits.length) ++ [digits.getD (n % digits.length) '0']

/-- The name of the piece of a number; none if there is no name left.  Where names grow, the last
    digit in front announces that two more follow. -/
def Endings.name? (e : Endings) (i : Nat) : Option Bytes :=
  let base := e.digits.length
  let n := e.first + i
  if !e.grows then
    if n < Nat.pow base e.length then some (e.start ++ inDigits e.digits e.length n ++ e.behind)
    else none
  else
    let last := e.digits.getLast?.getD 'z'
    let rec grow : Nat → Nat → Nat → Bytes → Bytes
      | 0, _, _, front => front
      | fuel + 1, length, n, front =>
        let count := (base - 1) * Nat.pow base (length - 1)
        if n < count then front ++ inDigits e.digits length n
        else grow fuel (length + 1) (n - count) (front ++ [last])
    some (e.start ++ grow 20 e.length n [] ++ e.behind)

/-- Write a piece to a file of its own. -/
def Endings.write (e : Endings) (isLoud : Bool) (i : Nat) (piece : ByteArray) : Tool Unit := do
  match e.name? i with
  | none => die "output file suffixes exhausted".toList
  | some name =>
    if isLoud then putLine ("creating file ".toList ++ quoted name)
    match ← writeFile name .toWrite piece with
    | .ok _ => pure ()
    | .error e => dieOf (shown name) e

/-- Lists of a length. -/
def chunksOf {α : Type} (size : Nat) : Nat → List α → List (List α)
  | 0, _ => []
  | _, [] => []
  | fuel + 1, xs => xs.take size :: chunksOf size fuel (xs.drop size)

/-- Lines put together as long as they fit into a size; longer lines are cut. -/
def fitted (size : Nat) : Nat → List Bytes → Bytes → List Bytes
  | 0, _, part => if part.isEmpty then [] else [part]
  | _, [], part => if part.isEmpty then [] else [part]
  | fuel + 1, line :: rest, part =>
    if part.length + line.length ≤ size then fitted size fuel rest (part ++ line)
    else if !part.isEmpty then part :: fitted size fuel (line :: rest) []
    else line.take size :: fitted size fuel (line.drop size :: rest) []

/-- The number of the chunk into which a byte at a place falls. -/
def chunkAt (size count place : Nat) : Nat :=
  let each := size / count
  let more := size % count
  if place < (each + 1) * more then place / (each + 1)
  else if each = 0 then count - 1
  else more + (place - (each + 1) * more) / each

/-- Lines in as many chunks as are wanted, each where its first byte falls. -/
def lineChunks (size count : Nat) (lines : List Bytes) : List Bytes :=
  let (chunks, _) := lines.foldl (fun ((chunks : Array (List Bytes)), (place : Nat)) line =>
    (chunks.modify (chunkAt size count place) (line :: ·), place + line.length))
    ((List.replicate count []).toArray, 0)
  chunks.toList.map fun c => c.reverse.flatten

/-- A number of chunks as it is written: its kind, the chunk that is wanted, and the number. -/
def chunksText (text : Bytes) : Option Char × Option Bytes × Bytes :=
  let (kind, rest) : Option Char × Bytes := match text with
    | 'l' :: '/' :: rest => (some 'l', rest)
    | 'r' :: '/' :: rest => (some 'r', rest)
    | rest => (none, rest)
  match splitAt '/' rest with
  | [k, n] => (kind, some k, n)
  | _ => (kind, none, rest)

/-- Cut a file into pieces. -/
def split (arguments _environment : List Bytes) : Tool Unit := do
  let digits := (List.range 10).map fun n => String.ofList (decimal n)
  let (c, operands) ← options (["a|suffix-length=", "additional-suffix=", "b|bytes=",
    "C|line-bytes=", "d", "numeric-suffixes?", "x", "hex-suffixes?", "e|elide-empty-files",
    "filter=", "l|lines=", "n|number=", "t|separator=", "u|unbuffered", "verbose"] ++ digits)
    arguments
  let old := (c.options.filter fun o => digits.contains o.1).map fun o => o.1
  let ways := c.options.filter fun o => ["b", "C", "l", "n"].contains o.1
  if 1 < ways.length + (if old.isEmpty then 0 else 1) then
    misuse "cannot split in more than one way".toList
  let stop ← match c.value? "t" with
    | none => pure '\n'
    | some ['\\', '0'] => pure '\x00'
    | some [t] => pure t
    | some [] => die "empty record separator".toList
    | some text => die ("multi-character separator ".toList ++ quoted text)
  let endingDigits : Bytes := match c.last? ["d", "numeric-suffixes", "x", "hex-suffixes"] with
    | none => "abcdefghijklmnopqrstuvwxyz".toList
    | some k => if k = "d" || k = "numeric-suffixes" then "0123456789".toList
      else "0123456789abcdef".toList
  let firstText := (c.value? "numeric-suffixes").orElse fun _ => c.value? "hex-suffixes"
  let first ← match firstText with
    | none => pure 0
    | some text =>
      match digitsAt (if (c.value? "hex-suffixes").isSome then 16 else 10) text with
      | (n, _ + 1, []) => pure n
      | _ => misuse (quoted text ++ ": invalid start value for numerical suffix".toList)
  if let extra :: _ := operands.drop 2 then extraOperand extra
  let name := operands.headD ['-']
  let behind := (c.value? "additional-suffix").getD []
  if behind.contains '/' then
    misuse ("invalid suffix ".toList ++ quoted behind ++ ", contains directory separator".toList)
  let (way, text) := match ways with
    | (k, v) :: _ => (k, v.getD [])
    | [] => ("l", if old.isEmpty then "1000".toList else (String.join old).toList)
  let (kind, wanted, numberText) := chunksText text
  let label := match way with
    | "l" => "invalid number of lines"
    | "n" => "invalid number of chunks"
    | _ => "invalid number of bytes"
  let number := if way = "n" then numberText else text
  let wrong := (label ++ ": ").toList ++ quoted number
  let size ← match amountOf (if way = "b" || way = "C" then "bEGKkMmPQRTYZ0" else "")
      greatestNatural number with
    | .ok 0 => die wrong
    | .ok n => pure n
    | .error .tooGreat => pure greatestNatural
    | .error .malformed => die wrong
  let chunk ← wanted.mapM fun text => do
    match natOf? text with
    | some (k + 1) =>
      if k < size then pure k else die ("invalid chunk number: ".toList ++ quoted text)
    | _ => die ("invalid chunk number: ".toList ++ quoted text)
  let lengthText ← (c.value? "a").mapM fun text =>
    match natOf? text with
    | some n => pure n
    | none => die ("invalid suffix length: ".toList ++ quoted text)
  let needed := fun (count : Nat) =>
    ((List.range 30).find? fun n => count ≤ Nat.pow endingDigits.length n).getD 2
  let length := match lengthText with
    | some (n + 1) => n + 1
    | _ => if way = "n" then max 2 (needed (size + first)) else 2
  let grows := lengthText.isNone && way ≠ "n" && firstText.isNone
  let e : Endings := ⟨(operands.drop 1).headD ['x'], endingDigits, length, grows, first, behind⟩
  let n ← if name = ['-'] then pure 0
    else match ← sys (Sys.openFile name .toRead 0) with
      | .ok n => pure n
      | .error e => die ("cannot open ".toList ++ inQuotes name ++ " for reading: ".toList
          ++ e.message.toList)
  match ← sys (Sys.readAll n) with
  | .error e => die (shown name ++ (": read error: " ++ e.message).toList)
  | .ok bytes =>
    let lines := piecesOf stop (Bytes.ofByteArray bytes)
    let pieces : List ByteArray := match way, kind with
      | "l", _ =>
        (chunksOf size (lines.length + 1) lines).map fun ls => Bytes.toByteArray ls.flatten
      | "b", _ =>
        (List.range ((bytes.size + size - 1) / size)).map fun i =>
          bytes.extract (i * size) ((i + 1) * size)
      | "C", _ => (fitted size (bytes.size + lines.length + 1) lines []).map Bytes.toByteArray
      | _, none =>
        let each := bytes.size / size
        let more := bytes.size % size
        (List.range size).map fun i =>
          let start := i * each + min i more
          bytes.extract start (start + each + (if i < more then 1 else 0))
      | _, some 'l' => (lineChunks bytes.size size lines).map Bytes.toByteArray
      | _, some _ =>
        (List.range size).map fun i =>
          Bytes.toByteArray ((lines.zipIdx.filter fun (_, j) => j % size = i).flatMap Prod.fst)
    match chunk with
    | some k =>
      flush
      if let .error e ← sys (Sys.writeBytes 1 (pieces.getD k .empty)) then failToWrite e
    | none =>
      let pieces := if c.has "e" then pieces.filter (!·.isEmpty) else pieces
      let _ ← pieces.foldlM (fun i piece => do
        e.write (c.has "verbose") i piece
        return i + 1) 0

/-! ### Pieces at places -/

/-- A place at which a file is cut. -/
inductive Cut where
  /-- in front of a line -/
  | line (number : Nat)
  /-- some lines away from a line that an expression matches; what stands before it may be left
      out -/
  | found (r : Regular) (offset : Int) (skips : Bool)

/-- A place, how often it comes again, and its text. -/
structure CutRule where
  place : Cut
  /-- none means as often as it can be found -/
  repeats : Option Nat
  text : Bytes

/-- How often a place comes again, as an operand says. -/
def repeatsOf (text : Bytes) : Tool (Option Nat) := do
  let inner := (text.drop 1).dropLast
  if text.length < 2 || text.getLast? ≠ some '\x7d' then
    die (quoted text ++ ": '\x7d' is required in repeat count".toList)
  if inner = ['*'] then return none
  match natOf? inner with
  | some n => return some n
  | none => die (quoted text ++ ": integer required between '\x7b' and '\x7d'".toList)

/-- Read the place that an operand names, or how often the last one comes again; the last places come
    first. -/
def addCut (rules : List CutRule) (text : Bytes) : Tool (List CutRule) := do
  match text, rules with
  | '/' :: more, _ => return ⟨← found text '/' more false, some 0, text⟩ :: rules
  | '%' :: more, _ => return ⟨← found text '%' more true, some 0, text⟩ :: rules
  | '\x7b' :: _, last :: earlier => return { last with repeats := ← repeatsOf text } :: earlier
  | _, _ =>
    match natOf? text with
    | some 0 => die (quoted text ++ ": line number must be greater than zero".toList)
    | some n => return ⟨.line n, some 0, text⟩ :: rules
    | none => die (quoted text ++ ": invalid pattern".toList)
where
  /-- A place that is found by an expression. -/
  found (text : Bytes) (mark : Char) (more : Bytes) (skips : Bool) : Tool Cut := do
    let behind := (more.reverse.dropWhile (· != mark))
    if behind.isEmpty then
      die (text ++ ": closing delimiter '".toList ++ mark :: "' missing".toList)
    let expression := (behind.drop 1).reverse
    let offset ← match more.drop (expression.length + 1) with
      | [] => pure 0
      | digits => match intOf? digits with
        | some n => pure n
        | none => die (quoted text ++ ": integer expected after delimiter".toList)
    match Regular.ofBytes expression with
    | .ok (r, _) => return .found r offset skips
    | .error e => die (quoted text ++ ": invalid regular expression: ".toList ++ e.toList)

/-- How pieces at places are written. -/
structure Cutter where
  start : Bytes
  /-- what stands around the number of a piece -/
  name : Nat → Bytes
  isQuiet : Bool
  keeps : Bool
  omitsEmpty : Bool
  omitsMatched : Bool

/-- How far cutting has come: the lines that are left, the number of the first of them, and how many
    pieces there are. -/
structure CutState where
  lines : List Bytes
  number : Nat
  pieces : Nat

/-- Write a piece. -/
def Cutter.write (k : Cutter) (s : CutState) (lines : List Bytes) : Tool CutState := do
  if lines.isEmpty && k.omitsEmpty then return s
  let text := lines.flatten
  match ← writeFile (k.start ++ k.name s.pieces) .toWrite (Bytes.toByteArray text) with
  | .error e => dieOf (shown (k.start ++ k.name s.pieces)) e
  | .ok _ =>
    if !k.isQuiet then putLine (decimal text.length)
    return { s with pieces := s.pieces + 1 }

/-- Report that a place is missing; pieces that have been written are removed unless they are
    kept. -/
def Cutter.miss (k : Cutter) (s : CutState) (rule : CutRule) (what : String) (time : Nat)
    (rest : List Bytes) : Tool CutState := do
  let s ← k.write s rest
  warn (quoted rule.text ++ (": " ++ what).toList
    ++ (if time = 0 then [] else " on repetition ".toList ++ decimal time))
  if !k.keeps then
    for i in List.range s.pieces do
      ask (Op.unlink (k.start ++ k.name i))
  stop 1

/-- Cut at a place again and again, at most `fuel` times; `time` counts them. -/
def Cutter.cut (k : Cutter) (rule : CutRule) : Nat → Nat → CutState → Tool (CutState × Bool)
  | 0, _, s => return (s, false)
  | fuel + 1, time, s => do
    let isEnough : Bool := rule.repeats.any (· < time)
    if isEnough then return (s, false)
    match rule.place with
    | .line n =>
      let goal := n * (time + 1)
      let count := goal - s.number
      if s.lines.length < count || (s.lines.length = count && s.number ≤ goal && s.lines.isEmpty)
      then
        if rule.repeats.isNone then return (s, false)
        let s ← k.miss s rule "line number out of range" time s.lines
        return (s, true)
      let piece := s.lines.take count
      let s ← k.write s piece
      let drop := if k.omitsMatched then count + 1 else count
      k.cut rule fuel (time + 1) { s with lines := s.lines.drop drop, number := s.number + drop }
    | .found r offset skips =>
      let skipped := if 0 < time then 1 else 0
      match (s.lines.drop skipped).findIdx? fun l => r.occursIn (chomp l) with
      | none =>
        if rule.repeats.isNone then
          if skips then return ({ s with lines := [] }, true)
          return (s, false)
        let s ← k.miss s rule "match not found" time (if skips then [] else s.lines)
        return (s, true)
      | some i =>
        let place : Int := (i + skipped : Nat) + offset
        if place < 0 || (s.lines.length : Int) < place then
          let s ← k.miss s rule "line number out of range" time (if skips then [] else s.lines)
          return (s, true)
        let count := place.toNat
        let s ← if skips then pure s else k.write s (s.lines.take count)
        let drop := if k.omitsMatched then count + 1 else count
        k.cut rule fuel (time + 1) { s with lines := s.lines.drop drop, number := s.number + drop }

/-- Cut a file at places. -/
def csplit (arguments _environment : List Bytes) : Tool Unit := do
  let (c, operands) ← options ["b|suffix-format=", "f|prefix=", "k|keep-files", "n|digits=",
    "s|silent|quiet|q", "suppress-matched", "z|elide-empty-files"] arguments
  let digits ← match c.value? "n" with
    | none => pure 2
    | some text => amount "" "invalid number" text
  let name : Nat → Bytes := fun i =>
    match c.value? "b" with
    | none => padLeft digits '0' (decimal i)
    | some format =>
      let before := format.takeWhile (· != '%')
      let spec := format.drop (before.length + 1)
      let flags := spec.takeWhile fun c => "0-#\x27 +".toList.contains c
      let (width, _, rest) := digitsAt 10 (spec.drop flags.length)
      let letter := rest.headD 'd'
      let text := match letter with
        | 'x' => Nat.toDigits 16 i
        | 'X' => (Nat.toDigits 16 i).map Char.toUpper
        | 'o' => octal i
        | _ => decimal i
      let text := if flags.contains '-' then padRight width text
        else padLeft width (if flags.contains '0' then '0' else ' ') text
      before ++ text ++ rest.drop 1
  let k : Cutter := ⟨(c.value? "f").getD "xx".toList, name, c.has "s", c.has "k", c.has "z",
    c.has "suppress-matched"⟩
  match operands with
  | [] => missOperand
  | [file] => missOperandAfter file
  | file :: places =>
    let n ← if file = ['-'] then pure 0
      else match ← sys (Sys.openFile file .toRead 0) with
        | .ok n => pure n
        | .error e => die ("cannot open ".toList ++ inQuotes file ++ " for reading: ".toList
            ++ e.message.toList)
    let rules := (← places.foldlM addCut []).reverse
    match ← sys (Sys.readAll n) with
    | .error e => dieOf "read error".toList e
    | .ok bytes =>
      let lines := linesOf (Bytes.ofByteArray bytes)
      let mut s : CutState := ⟨lines, 1, 0⟩
      let mut isOver := false
      for rule in rules do
        if !isOver then
          let (new, ended) ← k.cut rule (lines.length + 2) 0 s
          s := new
          isOver := ended
      let _ ← k.write s s.lines

end SyncFleet.Utility.Text

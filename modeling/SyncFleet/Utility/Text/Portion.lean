/-
  SyncFleet/Utility/Text/Portion.lean
  ===================================
  **The beginnings and ends of files.**
-/
import SyncFleet.Utility.Amount
import SyncFleet.Utility.Option

namespace SyncFleet.Utility.Text

open Unix Tool

/-- How much of a file is wanted. -/
structure Portion where
  isLines : Bool
  size : Nat
  /-- whether the size says how much is left out at the other end -/
  fromOther : Bool

/-- The letters of units. -/
def portionLetters : String := "bkKmMGTPEZYRQ0"

/-- How a portion is called. -/
def portionLabel (isLines : Bool) : String :=
  if isLines then "invalid number of lines" else "invalid number of bytes"

/-- A file as it is called in messages and titles. -/
def fileTitle (name : Bytes) : Bytes := if name = ['-'] then "standard input".toList else name

/-- The title of a file, behind an empty line unless it is the first. -/
def title (isFirst : Bool) (name : Bytes) : Bytes :=
  (if isFirst then [] else ['\n']) ++ "==> ".toList ++ fileTitle name ++ " <==\n".toList

/-- Open a file of which a portion is wanted. -/
def openPortion (name : Bytes) : Tool (Option Nat) := do
  if name = ['-'] then return some 0
  match ← sys (Sys.openFile name .toRead 0) with
  | .ok n => return some n
  | .error e =>
    complain ("cannot open ".toList ++ inQuotes name ++ " for reading: ".toList
      ++ e.message.toList)
    return none

/-- Report what went wrong with reading a file. -/
def complainOfReading (name : Bytes) (e : Refusal) : Tool Unit :=
  complainOf ("error reading ".toList ++ inQuotes (fileTitle name)) e

/-- Write bytes at once. -/
def putBytes (bytes : ByteArray) : Tool Unit := do
  if !bytes.isEmpty then
    flush
    if let .error e ← sys (Sys.writeBytes 1 bytes) then failToWrite e

/-! ### Beginnings -/

/-- Where the line of a number ends in some bytes: how many lines are missing, and the place. -/
def endOfLine (stop : Char) (lines : Nat) (bytes : ByteArray) : Nat × Nat :=
  let found := bytes.foldl (fun ((left : Nat), (place : Nat), (i : Nat)) x =>
    if left = 0 then (left, place, i + 1)
    else if x.toNat = stop.toNat then (left - 1, i + 1, i + 1) else (left, i + 1, i + 1)) (lines, 0, 0)
  (found.1, found.2.1)

/-- Write some lines of a descriptor; what has been read behind them is given back if that can be
    done. -/
def headLines (stop : Char) (name : Bytes) (descriptor : Nat) : Nat → Nat → Tool Unit
  | 0, _ => return ()
  | _, 0 => return ()
  | fuel + 1, lines => do
    match ← sys (Sys.read descriptor 8192) with
    | .error e => complainOfReading name e
    | .ok bytes =>
      if !bytes.isEmpty then
        let (left, place) := endOfLine stop lines bytes
        if place < bytes.size then
          if let .ok position ← request (Op.position descriptor) then
            ask (Op.seek descriptor (position - (bytes.size - place)))
        putBytes (bytes.extract 0 place)
        headLines stop name descriptor fuel left

/-- Write some bytes of a descriptor. -/
def headBytes (name : Bytes) (descriptor : Nat) : Nat → Nat → Tool Unit
  | 0, _ => return ()
  | _, 0 => return ()
  | fuel + 1, count => do
    match ← sys (Sys.read descriptor (min 8192 count)) with
    | .error e => complainOfReading name e
    | .ok bytes =>
      if !bytes.isEmpty then
        putBytes bytes
        headBytes name descriptor fuel (count - bytes.size)

/-- Write the beginning of a file. -/
def headFile (stop : Char) (p : Portion) (name : Bytes) (descriptor : Nat) : Tool Unit := do
  if !p.fromOther then
    if p.isLines then headLines stop name descriptor mostPieces p.size
    else headBytes name descriptor mostPieces p.size
  else match ← sys (Sys.readAll descriptor) with
    | .error e => complainOfReading name e
    | .ok bytes =>
      if p.isLines then
        let lines := piecesOf stop (Bytes.ofByteArray bytes)
        put (lines.take (lines.length - p.size)).flatten
      else putBytes (bytes.extract 0 (bytes.size - p.size))

/-- The options of an argument that is a number behind a dash, with letters behind it. -/
def oldHead (argument : Bytes) : Tool (Option (List Bytes)) := do
  match argument with
  | '-' :: d :: more =>
    if !d.isDigit then return none
    let (_, count, letters) := digitsAt 10 (d :: more)
    let digits := (d :: more).take count
    let mut unit : Bytes := []
    let mut inBytes := false
    let mut others := []
    for c in letters do
      match c with
      | 'c' =>
        inBytes := true
        unit := []
      | 'b' | 'k' | 'm' =>
        inBytes := true
        unit := [c]
      | 'l' => inBytes := false
      | 'q' | 'v' => others := ['-', c] :: others
      | 'z' => others := ['-', c] :: others
      | c => misuse ("invalid trailing option -- ".toList ++ [c])
    return some (((if inBytes then "-c".toList else "-n".toList) ++ digits ++ unit) :: others)
  | _ => return none

/-- Write the beginnings of files. -/
def head (arguments _environment : List Bytes) : Tool Unit := do
  let arguments ← match arguments with
    | a :: rest => do
      match ← oldHead a with
      | some new => pure (new ++ rest)
      | none => pure arguments
    | [] => pure []
  let (c, names) ← options ["c|bytes=", "n|lines=", "q|quiet|silent", "v|verbose",
    "z|zero-terminated", "presume-input-pipe"] arguments
  let mut p : Portion := ⟨true, 10, false⟩
  for (o, v) in c.options do
    if o = "c" || o = "n" then
      let text := v.getD []
      let fromOther := text.head? = some '-'
      let size ← amount portionLetters (portionLabel (o = "n"))
        (if fromOther then text.drop 1 else text)
      p := ⟨o = "n", size, fromOther⟩
  let names := if names.isEmpty then [['-']] else names
  let isTitled : Bool := match c.last? ["q", "v"] with
    | some k => k = "v"
    | none => 1 < names.length
  let mut isFirst := true
  for name in names do
    if let some n ← openPortion name then
      if isTitled then
        put (title isFirst name)
        isFirst := false
      flush
      headFile (if c.has "z" then '\x00' else '\n') p name n
      if n ≠ 0 then ask (Op.close n)

/-! ### Ends -/

/-- The end of some bytes. -/
def tailOf (stop : Char) (p : Portion) (bytes : ByteArray) : ByteArray :=
  if !p.isLines then
    if p.fromOther then bytes.extract (p.size - 1) bytes.size
    else bytes.extract (bytes.size - p.size) bytes.size
  else
    let pieces := piecesOf stop (Bytes.ofByteArray bytes)
    Bytes.toByteArray (if p.fromOther then pieces.drop (p.size - 1)
      else pieces.drop (pieces.length - p.size)).flatten

/-- Write what is added to files, looking for it again and again, at most `fuel` times. -/
def follow (names : List (Bytes × Nat)) (pause : Nat) : Nat → Option Bytes → Tool Unit
  | 0, _ => return ()
  | fuel + 1, last => do
    let mut last := last
    for (name, n) in names do
      if let .ok bytes ← sys (Sys.readAll n) then
        if !bytes.isEmpty then
          if 1 < names.length && last ≠ some name then put (title false name)
          last := some name
          putBytes bytes
    sys (Sys.sleep pause)
    follow names pause fuel last

/-- The options of an argument that is a number behind a sign, with letters behind it. -/
def oldTail (arguments : List Bytes) : List Bytes :=
  match arguments with
  | (sign :: more) :: rest =>
    let (_, count, letters) := digitsAt 10 more
    let isOld := (sign = '-' ∨ sign = '+') ∧ (0 < count ∨ sign = '+' ∧ !letters.isEmpty)
    let unit := letters.takeWhile fun c => c == 'b' || c == 'c' || c == 'l'
    let behind := letters.drop unit.length
    if isOld ∧ unit.length ≤ 1 ∧ (behind = [] ∨ behind = ['f'])
        ∧ (rest.length ≤ 1 ∨ rest.length = 2 ∧ rest.head? = some ['-', '-']) then
      let digits := if count = 0 then ['1', '0'] else more.take count
      let number := (if sign = '+' then ['+'] else []) ++ digits
      let option := match unit with
        | ['b'] => "-c".toList ++ number ++ ['b']
        | ['c'] => "-c".toList ++ number
        | _ => "-n".toList ++ number
      [option] ++ (if behind.isEmpty then [] else ["-f".toList]) ++ rest
    else arguments
  | _ => arguments

/-- Write the ends of files. -/
def tail (arguments _environment : List Bytes) : Tool Unit := do
  let digits := (List.range 10).map fun n => String.ofList (decimal n)
  let (c, names) ← options (["c|bytes=", "f", "follow?", "F", "n|lines=", "max-unchanged-stats=",
    "pid=", "q|quiet|silent", "retry", "s|sleep-interval=", "v|verbose", "z|zero-terminated"]
    ++ digits) (oldTail arguments)
  let mut p : Portion := ⟨true, 10, false⟩
  for (o, v) in c.options do
    if o = "c" || o = "n" then
      let text := v.getD []
      let fromOther := text.head? = some '+'
      let text' := if text.head? = some '-' then text.drop 1 else text
      let size ← amount portionLetters (portionLabel (o = "n")) text'
      p := ⟨o = "n", size, fromOther⟩
    else if digits.contains o then
      die ("option used in invalid context -- " ++ o).toList
  let names := if names.isEmpty then [['-']] else names
  let follows := c.has "f" || c.has "F" || c.has "follow"
  let isTitled : Bool := match c.last? ["q", "v"] with
    | some k => k = "v"
    | none => 1 < names.length
  let stop := if c.has "z" then '\x00' else '\n'
  let mut isFirst := true
  let mut opened := []
  for name in names do
    if let some n ← openPortion name then
      if isTitled then
        put (title isFirst name)
        isFirst := false
      match ← sys (Sys.readAll n) with
      | .error e => complainOfReading name e
      | .ok bytes =>
        putBytes (tailOf stop p bytes)
        let isPipe ← look fun s => (s.openFile? n).any fun (_, f) => (s.status f.inode).isPipe
        if follows && !isPipe then opened := (name, n) :: opened
        else if n ≠ 0 then ask (Op.close n)
  if follows then
    flush
    if opened.isEmpty then
      if names ≠ [['-']] then complain "no files remaining".toList
    else follow opened.reverse 1000000000 mostPieces (opened.head?.map Prod.fst)

end SyncFleet.Utility.Text

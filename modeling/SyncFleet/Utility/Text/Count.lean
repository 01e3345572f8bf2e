/-
  SyncFleet/Utility/Text/Count.lean
  =================================
  **Counts of lines, words and bytes.**
-/
import SyncFleet.Utility.Option

namespace SyncFleet.Utility.Text

open Unix Tool

/-- What is counted in a file. -/
structure Counts where
  lines : Nat
  words : Nat
  bytes : Nat
  /-- the length of the longest line -/
  longest : Nat
  /-- how long the present line is -/
  position : Nat
  inWord : Bool

namespace Counts

/-- Nothing has been counted. -/
def none : Counts := ⟨0, 0, 0, 0, 0, false⟩

/-- End a word. -/
def endWord (n : Counts) : Counts :=
  { n with words := if n.inWord then n.words + 1 else n.words, inWord := false }

/-- Count a byte. -/
def add (n : Counts) (x : UInt8) : Counts :=
  let c := Char.ofNat x.toNat
  let n := { n with bytes := n.bytes + 1 }
  let ended : Counts := { n with longest := max n.longest n.position, position := 0 }
  match c with
  | '\n' => { ended with lines := n.lines + 1 }.endWord
  | '\r' | '\x0c' => ended.endWord
  | '\t' => { n with position := n.position + (8 - n.position % 8) }.endWord
  | ' ' => { n with position := n.position + 1 }.endWord
  | '\x0b' => n.endWord
  | c => if isPrint c then { n with position := n.position + 1, inWord := true } else n

/-- End a file. -/
def finish (n : Counts) : Counts := { n.endWord with longest := max n.longest n.position }

/-- The counts of two files. -/
def plus (a b : Counts) : Counts :=
  ⟨a.lines + b.lines, a.words + b.words, a.bytes + b.bytes, max a.longest b.longest, 0, false⟩

end Counts

/-- The counts that are shown, in order. -/
def shownCounts (keys : List String) (n : Counts) : List Nat :=
  [("l", n.lines), ("w", n.words), ("m", n.bytes), ("c", n.bytes), ("L", n.longest)].filterMap
    fun (k, v) => if keys.contains k then some v else none

/-- How wide the counts are written. -/
def countWidth (statuses : List (Option Status)) : Nat :=
  let found := statuses.filterMap id
  let total := (found.filter (·.isFile)).foldl (fun n t => n + t.size) 0
  max (decimal total).length (if found.all (·.isFile) then 1 else 7)

/-- Count lines, words and bytes of files. -/
def wc (arguments _environment : List Bytes) : Tool Unit := do
  let (c, names) ← options ["c|bytes", "m|chars", "l|lines", "L|max-line-length", "w|words",
    "files0-from=", "total="] arguments
  let keys := ["l", "w", "m", "c", "L"].filter c.has
  let keys := if keys.isEmpty then ["l", "w", "c"] else keys
  let total ← match c.value? "total" with
    | some word => choice "--total" [["auto"], ["always"], ["only"], ["never"]] word
    | none => pure "auto"
  let named ← match c.value? "files0-from" with
    | some list => do
      if let extra :: _ := names then
        warn ("extra operand ".toList ++ quoted extra)
        let _ ← writeTo 2 "file operands cannot be combined with --files0-from\n".toList
        pointToHelp
      match ← content? list with
      | some bytes => pure (some ((piecesOf '\x00' (Bytes.ofByteArray bytes)).map (chop '\x00')))
      | none => stop 1
    | none => pure (if names.isEmpty then none else some names)
  let isListed := (c.value? "files0-from").isSome
  let files := named.getD [['-']]
  let width ← if isListed || (files.length = 1 && keys.length = 1) then pure 1
    else do
      let statuses ← files.mapM fun name => do
        let t ← request (if name = ['-'] then Op.statusOf 0 else Op.status name true)
        return t.toOption
      pure (countWidth statuses)
  let row := fun (n : Counts) (name : Option Bytes) =>
    List.intercalate [' '] ((shownCounts keys n).map fun x => padLeft width ' ' (decimal x))
      ++ (match name with
        | some name => ' ' :: shownName name
        | none => []) ++ ['\n']
  let isOnly := total = "only"
  let mut sum := Counts.none
  for name in files do
    let (n, isThere) ← overPieces name (fun (n : Counts) piece => do
      return piece.foldl Counts.add n) Counts.none
    if isThere then
      let n := n.finish
      sum := sum.plus n
      if !isOnly then put (row n (if named.isSome then some name else none))
  if isOnly then
    put (List.intercalate [' '] ((shownCounts keys sum).map decimal) ++ ['\n'])
  else if total = "always" || (total = "auto" && 1 < files.length) then
    put (row sum (some "total".toList))
where
  /-- A name in a row: in quotes if it has more than one line. -/
  shownName (name : Bytes) : Bytes := if name.contains '\n' then inQuotes name else name

end SyncFleet.Utility.Text

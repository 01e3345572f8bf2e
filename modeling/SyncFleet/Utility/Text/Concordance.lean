/-
  SyncFleet/Utility/Text/Concordance.lean
  =======================================
  **Concordances: every word of a text with what stands around it.**

  Words are sorted, and each is shown in the middle of a line.  What does not
  fit on one side of the word is shown at the other end of the line.
-/
import SyncFleet.Utility.Amount
import SyncFleet.Utility.Option
import SyncFleet.Utility.Regular

namespace SyncFleet.Utility.Text

open Unix Tool

/-- An occurrence of a word in a text: where it begins and ends, and where the sentence does. -/
structure Occurrence where
  start : Nat
  stop : Nat
  left : Nat
  right : Nat
  reference : Bytes
deriving Repr

/-- How a concordance is made and shown. -/
structure Concordance where
  text : Array Char
  isWordByte : Char → Bool
  /-- the gap between the parts of a line -/
  gap : Nat
  half : Nat
  /-- what shows that something is missing -/
  mark : Bytes
  longestWord : Nat

/-- A part of a text, from one position to another. -/
abbrev Extent := Nat × Nat

namespace Concordance

/-- The byte at a position. -/
def byteAt (k : Concordance) (i : Nat) : Char := k.text.getD i ' '

/-- The first position from one on at which there is no white space. -/
def skipWhite (k : Concordance) (limit : Nat) : Nat → Nat → Nat
  | 0, i => i
  | fuel + 1, i =>
    if i < limit && isSpace (k.byteAt i) then skipWhite k limit fuel (i + 1) else i

/-- The last position up to one in front of which there is no white space. -/
def skipWhiteBack (k : Concordance) (limit : Nat) : Nat → Nat
  | 0 => 0
  | i + 1 => if limit < i + 1 && isSpace (k.byteAt i) then skipWhiteBack k limit i else i + 1

/-- The position behind the rest of a word. -/
def skipWord (k : Concordance) (limit : Nat) : Nat → Nat → Nat
  | 0, i => i
  | fuel + 1, i =>
    if i < limit && k.isWordByte (k.byteAt i) then skipWord k limit fuel (i + 1) else i

/-- The position behind a word or another byte. -/
def skipOne (k : Concordance) (limit i : Nat) : Nat :=
  if k.isWordByte (k.byteAt i) then k.skipWord limit (limit - i + 1) i else i + 1

/-- Go on over words and bytes as long as a position is below two limits, at most `fuel` times: the
    position before the last one, and that one. -/
def extend (k : Concordance) (right most : Nat) : Nat → Nat → Nat → Nat × Nat
  | 0, done, i => (done, i)
  | fuel + 1, done, i =>
    if i < right && i < most then extend k right most fuel i (k.skipOne right i) else (done, i)

/-- Go on over words and bytes until less than some width is left before a limit. -/
def narrow (k : Concordance) (limit width : Nat) : Nat → Nat → Nat
  | 0, i => i
  | fuel + 1, i => if i + width < limit then narrow k limit width fuel (k.skipOne limit i) else i

/-- The text of an extent. -/
def field (k : Concordance) (e : Extent) : Bytes :=
  ((k.text.extract e.1 e.2).toList).map fun c => if isSpace c then ' ' else c

/-- The line of an occurrence, without its reference. -/
def line (k : Concordance) (o : Occurrence) (isLong : Bool) : Bytes :=
  let size := k.text.size
  let markLength := k.mark.length
  let beforeWidth := k.half - k.gap - 2 * markLength
  let afterWidth := k.half - 2 * markLength
  let (done, i) := k.extend o.right (o.start + afterWidth + 1) (size + 1) o.stop o.stop
  let afterStop := if i ≤ o.start + afterWidth then i else done
  let afterCut := afterStop < o.right
  let afterStop := k.skipWhiteBack o.start afterStop
  let leftField := if k.half + k.longestWord < o.start - o.left then
      k.skipOne o.start (o.start - (k.half + k.longestWord))
    else o.left
  let beforeStop := k.skipWhiteBack leftField o.start
  let beforeStart := k.narrow beforeStop beforeWidth (size + 1) leftField
  let beforeCut := o.left < k.skipWhiteBack 0 beforeStart
  let beforeStart := k.skipWhite size (size + 1) beforeStart
  let tailWidth := beforeWidth - (beforeStop - beforeStart) - k.gap
  let tailStart := k.skipWhite size (size + 1) afterStop
  let (tail, afterCut, tailCut) : Extent × Bool × Bool :=
    if tailWidth = 0 then ((0, 0), afterCut, false)
    else
      let (done, i) := k.extend o.right (tailStart + tailWidth) (size + 1) tailStart tailStart
      let stop := if i < tailStart + tailWidth then i else done
      if tailStart < stop then
        ((tailStart, k.skipWhiteBack tailStart stop), false, stop < o.right)
      else ((0, 0), afterCut, false)
  let headWidth := afterWidth - (afterStop - o.start) - k.gap
  let headStop := k.skipWhiteBack 0 beforeStart
  let (head, beforeCut, headCut) : Extent × Bool × Bool :=
    if headWidth = 0 then ((0, 0), beforeCut, false)
    else
      let start := k.narrow headStop headWidth (size + 1) leftField
      if start < headStop then
        ((k.skipWhite headStop (size + 1) start, headStop), false, o.left < start)
      else ((0, 0), beforeCut, false)
  let flag := fun (isCut : Bool) => if isCut then k.mark else []
  let blanks := fun (n : Nat) => List.replicate n ' '
  let tailText := if tail.1 < tail.2 then k.field tail ++ flag tailCut else []
  let beforeText := flag beforeCut ++ k.field (beforeStart, beforeStop)
  let afterText := k.field (o.start, afterStop) ++ flag afterCut
  let headText := if head.1 < head.2 then flag headCut ++ k.field head else []
  tailText ++ blanks (k.half - k.gap - beforeText.length - tailText.length) ++ beforeText
    ++ blanks k.gap ++ afterText
    ++ (if !headText.isEmpty || isLong then blanks (k.half - afterText.length - headText.length)
      else [])
    ++ headText

/-- The words from a position up to a limit, at most `fuel`. -/
def wordsFrom (k : Concordance) (limit : Nat) : Nat → Nat → List Extent
  | 0, _ => []
  | fuel + 1, i =>
    if limit ≤ i then []
    else if k.isWordByte (k.byteAt i) then
      let stop := k.skipWord limit (limit - i + 1) i
      (i, stop) :: wordsFrom k limit fuel stop
    else wordsFrom k limit fuel (i + 1)

/-- The sentences of a text from a position on, at most `fuel`: where each begins, and where its
    last word ends. -/
def sentencesFrom (k : Concordance) (r : Regular) : Nat → Nat → Bytes → List Extent
  | 0, _, _ => []
  | _, _, [] => []
  | fuel + 1, i, text =>
    let next := match r.searchFrom (text.length + 1) ⟨none, text, 0, []⟩ with
      | some (_, q) => if q.position = 0 then text.length else q.position
      | none => text.length
    (i, k.skipWhiteBack i (i + next)) :: sentencesFrom k r fuel (i + next) (text.drop next)

end Concordance

/-- What ends a sentence. -/
def sentenceEnd : String := "[.?!][]\"')\x7d]*\\($\\|\t\\|  \\)[ \t\n]*"

/-- The words of a file, one in a line. -/
def wordTable (fold : Char → Char) (name : Bytes) : Tool (List Bytes) := do
  match ← content? name with
  | some bytes => return (linesOf (Bytes.ofByteArray bytes)).map fun line => (chomp line).map fold
  | none => stop 1

/-- Make a concordance. -/
def ptx (arguments _environment : List Bytes) : Tool Unit := do
  let (c, names) ← options ["A|auto-reference", "b|break-file=", "F|flag-truncation=",
    "f|ignore-case", "G|traditional", "g|gap-size=", "i|ignore-file=", "M|macro-name=",
    "O|format?", "o|only-file=", "R|right-side-refs", "r|references", "S|sentence-regexp=",
    "T", "t|typeset-mode", "W|word-regexp=", "w|width="] arguments
  let gap ← match c.value? "g" with
    | some text => amountWithin "" "invalid gap width" 1 0x7fffffff text
    | none => pure 3
  let width ← match c.value? "w" with
    | some text => amountWithin "" "invalid line width" 1 0x7fffffff text
    | none => pure 72
  let fold := fun (x : Char) => if c.has "f" then x.toUpper else x
  let ignored ← (c.value? "i").mapM (wordTable fold)
  let only ← (c.value? "o").mapM (wordTable fold)
  let breaks ← match c.value? "b" with
    | some name => content? name
    | none => pure none
  let breaks := breaks.map Bytes.ofByteArray
  let isWordByte := fun (x : Char) => match breaks with
    | some bytes => !bytes.contains x
    | none => if c.has "G" then !isSpace x else x.isAlpha
  let pattern := match c.value? "S" with
    | some text => text
    | none => if c.has "G" || c.has "r" then ['\n'] else sentenceEnd.toList
  let sentence ← match Regular.ofBytes pattern with
    | .ok (r, _) => pure r
    | .error message => die (message.toList ++ " (for regexp ".toList ++ quoted pattern ++ [')'])
  let mut found : List (Bytes × Concordance × Occurrence) := []
  for (name, text) in ← contents names do
    let bytes := text.toArray
    let k : Concordance := ⟨bytes, isWordByte, gap, width / 2, ['/'], 0⟩
    for (left, right) in k.sentencesFrom sentence (text.length + 1) 0 text do
      for (start, stop) in k.wordsFrom right (right - left + 1) left do
        let word := ((bytes.extract start stop).toList).map fold
        let row := ((bytes.extract 0 start).toList.filter (· == '\n')).length + 1
        let reference := if c.has "A" then
            (if name = ['-'] then [] else name) ++ ':' :: decimal row
          else []
        if !ignored.any (·.contains word) && only.all (·.contains word) then
          found := (word, k, ⟨start, stop, left, right, reference⟩) :: found
  let longest := found.foldl (fun n (w, _) => max n w.length) 0
  let referenceWidth := found.foldl (fun n (_, _, o) => max n o.reference.length) 0
  let isRight := c.has "R"
  let lineWidth := if c.has "A" && !isRight then width - (referenceWidth + gap) else width
  let mark := (c.value? "F").getD ['/']
  let sorted := found.reverse.mergeSort fun (a, _) (b, _) => compareBytes a b != .gt
  for (_, k, o) in sorted do
    let k := { k with half := lineWidth / 2, longestWord := longest, mark }
    let front := if c.has "A" && !isRight then
        padRight (referenceWidth + gap) (o.reference ++ [':'])
      else []
    let behind := if c.has "A" && isRight then List.replicate gap ' ' ++ o.reference else []
    putLine (front ++ k.line o (!behind.isEmpty) ++ behind)

end SyncFleet.Utility.Text

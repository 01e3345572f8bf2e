/-
  SyncFleet/Utility/Text/Numbering.lean
  =====================================
  **Numbering lines.**

  A page has a head, a body and a foot, each of which begins with a line of
  marks and says by itself which of its lines are numbered.
-/
import SyncFleet.Utility.Amount
import SyncFleet.Utility.Option
import SyncFleet.Utility.Regular

namespace SyncFleet.Utility.Text

open Unix Tool

/-- Which lines have a number. -/
inductive NumberedLines where
  | all
  | nonempty
  | none
  | matching (r : Regular)

/-- The parts of a page. -/
inductive Section where
  | head
  | body
  | foot
deriving DecidableEq, Repr

/-- How a number is written. -/
inductive NumberPlace where
  | left
  | right
  | rightWithZeros
deriving DecidableEq, Repr

/-- How lines are numbered. -/
structure Numbering where
  styleOf : Section → NumberedLines
  /-- what marks are made of -/
  mark : Bytes
  start : Int
  step : Int
  /-- how many empty lines count as one -/
  joined : Nat
  place : NumberPlace
  restarts : Bool
  separator : Bytes
  width : Nat

/-- What a page is at. -/
structure NumberingState where
  part : Section
  number : Int
  empties : Nat

/-- The part of a page that a line of marks begins. -/
def Numbering.sectionOf? (k : Numbering) (line : Bytes) : Option Section :=
  if k.mark.length < 2 then none
  else if line = k.mark ++ k.mark ++ k.mark then some .head
  else if line = k.mark ++ k.mark then some .body
  else if line = k.mark then some .foot
  else none

/-- A number in front of a line. -/
def Numbering.label (k : Numbering) (n : Int) : Bytes :=
  let text := match k.place with
    | .left => padRight k.width (integer n)
    | .right => padLeft k.width ' ' (integer n)
    | .rightWithZeros =>
      let sign : Bytes := if n < 0 then ['-'] else []
      sign ++ padLeft (k.width - sign.length) '0' (decimal n.natAbs)
  text ++ k.separator

/-- Write a line behind its number. -/
def Numbering.line (k : Numbering) (s : NumberingState) (line : Bytes) : Tool NumberingState := do
  match k.sectionOf? line with
  | some part =>
    put ['\n']
    return { s with part, number := if k.restarts then k.start else s.number }
  | none =>
    let (isNumbered, empties) := match k.styleOf s.part with
      | .all =>
        if k.joined ≤ 1 || !line.isEmpty then (true, 0)
        else if s.empties + 1 = k.joined then (true, 0)
        else (false, s.empties + 1)
      | .nonempty => (!line.isEmpty, s.empties)
      | .none => (false, s.empties)
      | .matching r => (r.occursIn line, s.empties)
    if isNumbered && 0x7FFFFFFFFFFFFFFF < s.number then die "line number overflow".toList
    let label := if isNumbered then k.label s.number
      else List.replicate (k.width + k.separator.length) ' '
    putLine (label ++ line)
    return { s with number := if isNumbered then s.number + k.step else s.number, empties }

/-- The style that a text names. -/
def numberedLinesOf (part : String) (text : Bytes) : Tool (Option NumberedLines) := do
  match text with
  | 'p' :: pattern =>
    match Regular.ofBytes pattern with
    | .ok (r, _) => return some (.matching r)
    | .error message => die message.toList
  | ['a'] => return some .all
  | ['t'] => return some .nonempty
  | ['n'] => return some .none
  | _ =>
    warn (("invalid " ++ part ++ " numbering style: ").toList ++ quoted text)
    return none

/-- The number that a text spells, with a sign if it has one. -/
def signedWithin (label : String) (least : Int) (text : Bytes) : Tool Int :=
  match intOf? (text.dropWhile isSpace) with
  | some n =>
    let wrong := (label ++ ": ").toList ++ quoted text
    if n < -0x8000000000000000 || 0x7FFFFFFFFFFFFFFF < n then
      die (wrong ++ ": Value too large for defined data type".toList)
    else if n < least then die (wrong ++ ": Numerical result out of range".toList)
    else pure n
  | none => die ((label ++ ": ").toList ++ quoted text)

/-- Number lines. -/
def nl (arguments _environment : List Bytes) : Tool Unit := do
  let (c, names) ← options ["b|body-numbering=", "d|section-delimiter=", "f|footer-numbering=",
    "h|header-numbering=", "i|line-increment=", "l|join-blank-lines=", "n|number-format=",
    "p|no-renumber", "s|number-separator=", "v|starting-line-number=",
    "w|number-width="] arguments
  let mut isWell := true
  let mut head : NumberedLines := .none
  let mut body : NumberedLines := .nonempty
  let mut foot : NumberedLines := .none
  let mut place := NumberPlace.right
  for (key, value) in c.options do
    let text := value.getD []
    match key with
    | "h" => match ← numberedLinesOf "header" text with
      | some style => head := style
      | none => isWell := false
    | "b" => match ← numberedLinesOf "body" text with
      | some style => body := style
      | none => isWell := false
    | "f" => match ← numberedLinesOf "footer" text with
      | some style => foot := style
      | none => isWell := false
    | "n" => match Bytes.name text with
      | "ln" => place := .left
      | "rn" => place := .right
      | "rz" => place := .rightWithZeros
      | _ =>
        warn ("invalid line numbering format: ".toList ++ quoted text)
        isWell := false
    | _ => pure ()
  let read := fun (key label : String) (least usual : Int) => match c.value? key with
    | some text => signedWithin label least text
    | none => pure usual
  let start ← read "v" "invalid starting line number" (-0x8000000000000000) 1
  let step ← read "i" "invalid line number increment" (-0x8000000000000000) 1
  let joined ← read "l" "invalid line number of blank lines" 1 1
  let width ← read "w" "invalid line number field width" 1 6
  if !isWell then pointToHelp
  let mark := match c.value? "d" with
    | none => "\\:".toList
    | some [x] => [x, ':']
    | some text => text
  let parts := (head, body, foot)
  let k : Numbering := {
    styleOf := fun part => match part with
      | .head => parts.1
      | .body => parts.2.1
      | .foot => parts.2.2
    mark, start, step, joined := joined.toNat, place, restarts := !c.has "p"
    separator := (c.value? "s").getD ['\t'], width := width.toNat }
  let _ ← overLinesOfEach '\n' (fun s line => k.line s (chomp line)) names
    ⟨.body, k.start, 0⟩

end SyncFleet.Utility.Text

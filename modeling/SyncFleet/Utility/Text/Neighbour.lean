/-
  SyncFleet/Utility/Text/Neighbour.lean
  =====================================
  **Equal lines that follow each other.**
-/
import SyncFleet.Utility.Amount
import SyncFleet.Utility.LineSource
import SyncFleet.Utility.Option

namespace SyncFleet.Utility.Text

open Unix Tool

/-- Which part of a line is compared, and how. -/
structure Comparison where
  fields : Nat
  bytes : Nat
  most : Option Nat
  ignoresCase : Bool

/-- Whether a byte stands between fields. -/
def isBetweenFields (c : Char) : Bool := isBlank c || c == '\n'

/-- A text without some fields at its start; blanks in front of a field belong to it. -/
def withoutFields : Nat → Bytes → Bytes
  | 0, text => text
  | _, [] => []
  | n + 1, text => withoutFields n ((text.dropWhile isBetweenFields).dropWhile (!isBetweenFields ·))

/-- The part of a line that is compared. -/
def Comparison.part (k : Comparison) (line : Bytes) : Bytes :=
  let text := (withoutFields k.fields line).drop k.bytes
  let text := match k.most with
    | some n => text.take n
    | none => text
  if k.ignoresCase then text.map Char.toUpper else text

/-- Which lines are written. -/
structure Choice where
  /-- lines without an equal neighbour -/
  single : Bool
  /-- the first of equal lines -/
  first : Bool
  /-- the others of equal lines -/
  later : Bool
  counts : Bool

/-- Where empty lines stand between groups. -/
inductive Grouping where
  | none
  | before
  | behind
  | both
  | between
deriving DecidableEq, Repr

/-- A line that waits for its neighbour, with its compared part and how many equal ones stand in
    front of it. -/
structure Waiting where
  line : Bytes
  part : Bytes
  earlier : Nat

/-- Write a line if it is one of those that are wanted. -/
def Waiting.write (choice : Choice) (w : Waiting) (isEqual : Bool) (earlier : Nat) : Tool Unit :=
  let wanted :=
    if earlier = 0 then choice.single else if isEqual then choice.later else choice.first
  if wanted then
    put ((if choice.counts then padLeft 7 ' ' (decimal (earlier + 1)) ++ [' '] else []) ++ w.line)
  else pure ()

/-- Look at lines one after the other, at most `fuel`; `isFirst` says that no group has been
    written. -/
def chooseLines (k : Comparison) (choice : Choice) (grouping : Grouping) (stop : Char) :
    Nat → LineSource → Bool → Option Waiting → Tool Unit
  | 0, _, _, _ => return ()
  | fuel + 1, source, isFirst, last => do
    let (line, source) ← LineSource.next stop source
    match line, last with
    | none, none => return ()
    | none, some w => w.write choice false w.earlier
    | some line, none =>
      let line := chop stop line ++ [stop]
      chooseLines k choice grouping stop fuel source isFirst (some ⟨line, k.part line.dropLast, 0⟩)
    | some line, some w =>
      let line := chop stop line ++ [stop]
      let part := k.part line.dropLast
      let isEqual : Bool := part = w.part
      let earlier := if isEqual then w.earlier + 1 else w.earlier
      let isFirst := isFirst && (isEqual || earlier = 0)
      if isEqual && earlier = 1 && (grouping = .before || (grouping = .between && !isFirst)) then
        put [stop]
      if !isEqual || choice.later then
        w.write choice isEqual earlier
        chooseLines k choice grouping stop fuel source isFirst
          (some ⟨line, part, if isEqual then earlier else 0⟩)
      else chooseLines k choice grouping stop fuel source isFirst (some { w with earlier })

/-- Write lines as they come, at most `fuel`: all of them with groups, else the first of each. -/
def groupLines (k : Comparison) (grouping : Grouping) (stop : Char) :
    Nat → LineSource → Option Bytes → Tool Unit
  | 0, _, _ => return ()
  | fuel + 1, source, last => do
    let (line, source) ← LineSource.next stop source
    match line with
    | none =>
      if (grouping = .both || grouping = .behind) && last.isSome then put [stop]
    | some line =>
      let line := chop stop line ++ [stop]
      let part := k.part line.dropLast
      let isNew : Bool := last ≠ some part
      if isNew && (grouping = .before || grouping = .both
          || (last.isSome && (grouping = .behind || grouping = .between))) then
        put [stop]
      if isNew || grouping ≠ .none then put line
      groupLines k grouping stop fuel source (some part)

/-- Options of which the numbers stand behind a dash. -/
def oldUniq (argument : Bytes) : Bytes :=
  match argument with
  | '-' :: d :: _ => if d.isDigit then "-f".toList ++ argument.drop 1 else argument
  | _ => argument

/-- Write lines without their equal neighbours, or only some of them. -/
def uniq (arguments _environment : List Bytes) : Tool Unit := do
  let (c, names) ← options ["c|count", "d|repeated", "D", "all-repeated?", "f|skip-fields=",
    "group?", "i|ignore-case", "s|skip-chars=", "u|unique", "w|check-chars=",
    "z|zero-terminated"] (arguments.map oldUniq)
  let number := fun (key label : String) => do
    match c.value? key with
    | none => return none
    | some text => match amountOf "" greatestNatural text with
      | .ok n => return some n
      | .error .tooGreat => return some greatestNatural
      | .error .malformed => die (text ++ (": invalid number of " ++ label).toList)
  let fields ← number "f" "fields to skip"
  let bytes ← number "s" "bytes to skip"
  let most ← number "w" "bytes to compare"
  let repeated : Grouping ← match c.value? "all-repeated" with
    | none => pure .none
    | some word => do
      match ← choice "--all-repeated" [["none"], ["prepend"], ["separate"]] word with
      | "prepend" => pure Grouping.before
      | "separate" => pure .between
      | _ => pure .none
  let grouping : Option Grouping ← if !c.has "group" then pure none
    else match c.value? "group" with
    | none => pure (some .between)
    | some word => do
      match ← choice "--group" [["prepend"], ["append"], ["separate"], ["both"]] word with
      | "prepend" => pure (some .before)
      | "append" => pure (some .behind)
      | "both" => pure (some .both)
      | _ => pure (some .between)
  let showsAll := c.has "D" || c.has "all-repeated"
  if grouping.isSome && (c.has "c" || c.has "d" || c.has "u" || showsAll) then
    misuse "--group is mutually exclusive with -c/-d/-D/-u".toList
  if showsAll && c.has "c" then
    misuse "printing all duplicated lines and repeat counts is meaningless".toList
  if let extra :: _ := names.drop 2 then extraOperand extra
  let input := names.headD ['-']
  let output := (names.drop 1).headD ['-']
  if input ≠ ['-'] then
    match ← sys (Sys.openFile input .toRead 0) with
    | .ok n =>
      ask (Op.duplicateTo n 0)
      ask (Op.close n)
    | .error e => dieOf (shown input) e
  if output ≠ ['-'] then
    match ← sys (Sys.openFile output .toWrite 0o666) with
    | .ok n =>
      ask (Op.duplicateTo n 1)
      ask (Op.close n)
    | .error e => dieOf (shown output) e
  let k : Comparison := ⟨fields.getD 0, bytes.getD 0, most, c.has "i"⟩
  let choice : Choice := ⟨!(c.has "d" || showsAll), !c.has "u", showsAll, c.has "c"⟩
  let stop := if c.has "z" then '\x00' else '\n'
  let source : LineSource := ⟨input, 0, [], [], false⟩
  if choice.single && choice.first && !choice.counts then
    groupLines k (grouping.getD .none) stop mostPieces source none
  else chooseLines k choice repeated stop mostPieces source true none

end SyncFleet.Utility.Text

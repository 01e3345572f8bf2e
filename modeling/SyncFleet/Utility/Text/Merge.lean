/-
  SyncFleet/Utility/Text/Merge.lean
  =================================
  **Two sorted files side by side: common lines, and lines joined by a field.**

  Both programs read the files line by line and notice lines that stand out of
  order.  Unless it is asked for, that is only of interest once a line has had
  no partner.
-/
import SyncFleet.Utility.Amount
import SyncFleet.Utility.LineSource
import SyncFleet.Utility.Option
import SyncFleet.Utility.Text.Neighbour

namespace SyncFleet.Utility.Text

open Unix Tool

/-- Whether files are looked at for lines out of order. -/
inductive OrderCheck where
  | never
  | always
  /-- only if a line has no partner -/
  | unpaired
deriving DecidableEq, Repr

/-- What options say about it. -/
def orderCheckOf (c : Chosen) : OrderCheck :=
  match c.last? ["check-order", "nocheck-order"] with
  | some "check-order" => .always
  | some _ => .never
  | none => .unpaired

/-! ### Common lines -/

/-- A file of which lines are read, with the last ones that were, without the byte that ends them,
    the newest first. -/
structure Side where
  source : LineSource
  isThere : Bool
  past : List Bytes

namespace Side

/-- The line at which one stands. -/
def line? (s : Side) : Option Bytes := if s.isThere then s.past.head? else none

end Side

/-- The columns of common lines. -/
structure Columns where
  hasFirst : Bool
  hasSecond : Bool
  hasBoth : Bool
  between : Bytes
  stop : Char
  check : OrderCheck

/-- How the search for common lines has gone: how many lines of each column there are, and whether
    the files are known to be out of order. -/
structure Tally where
  first : Nat
  second : Nat
  both : Nat
  warned : Bool × Bool

/-- Whether one of the files is out of order. -/
def Tally.isWarned (t : Tally) : Bool := t.warned.1 || t.warned.2

/-- Look whether the two newest lines of a file are in order. -/
def Columns.checkOrder (k : Columns) (isFirst : Bool) (s : Side) (t : Tally) : Tool Tally := do
  let known := if isFirst then t.warned.1 else t.warned.2
  let isMeant := k.check = .always || (k.check = .unpaired && 0 < t.first + t.second)
  match s.past with
  | new :: old :: _ =>
    if isMeant && !known && compareBytes old new = .gt then
      let message := ("file " ++ (if isFirst then "1" else "2") ++ " is not in sorted order").toList
      if k.check = .always then die message
      warn message
      return { t with warned := if isFirst then (true, t.warned.2) else (t.warned.1, true) }
    return t
  | _ => return t

/-- Read the next line of a file. -/
def Columns.advance (k : Columns) (isFirst : Bool) (s : Side) (t : Tally) :
    Tool (Side × Tally) := do
  let (line, source) ← LineSource.next k.stop s.source
  match line with
  | some line =>
    let s := { s with source, past := chop k.stop line :: s.past.take 1 }
    return (s, ← k.checkOrder isFirst s t)
  | none => return ({ s with source, isThere := false }, ← k.checkOrder isFirst s t)

/-- Read the first line of a file. -/
def Columns.begin (k : Columns) (name : Bytes) : Tool Side := do
  let (line, source) ← LineSource.next k.stop (← LineSource.ofFile name)
  match line with
  | some line => return ⟨source, true, [chop k.stop line]⟩
  | none => return ⟨source, false, []⟩

/-- Write lines in their columns, at most `fuel`. -/
def Columns.write (k : Columns) : Nat → Side → Side → Tally → Tool Tally
  | 0, _, _, t => return t
  | fuel + 1, a, b, t => do
    let column := fun (isShown : Bool) (indents : List Bool) (line : Bytes) =>
      if isShown then
        put ((indents.filter id).flatMap (fun _ => k.between) ++ line ++ [k.stop])
      else pure ()
    let order := match a.line?, b.line? with
      | some x, some y => some (compareBytes x y)
      | some _, none => some .lt
      | none, some _ => some .gt
      | none, none => none
    match order with
    | none => return t
    | some .eq =>
      column k.hasBoth [k.hasFirst, k.hasSecond] (b.past.headD [])
      let t := { t with both := t.both + 1 }
      let (a, t) ← k.advance true a t
      let (b, t) ← k.advance false b t
      k.write fuel a b t
    | some .lt =>
      column k.hasFirst [] (a.past.headD [])
      let (a, t) ← k.advance true a { t with first := t.first + 1 }
      k.write fuel a b t
    | some .gt =>
      column k.hasSecond [k.hasFirst] (b.past.headD [])
      let (b, t) ← k.advance false b { t with second := t.second + 1 }
      k.write fuel a b t

/-- The two names of files among operands. -/
def twoNames (operands : List Bytes) : Tool (Bytes × Bytes) :=
  match operands with
  | [] => missOperand
  | [a] => missOperandAfter a
  | [a, b] => pure (a, b)
  | _ :: _ :: extra :: _ => extraOperand extra

/-- Write the lines of two files in three columns: of the first, of the second, of both. -/
def comm (arguments _environment : List Bytes) : Tool Unit := do
  let (c, operands) ← options ["1", "2", "3", "check-order", "nocheck-order",
    "output-delimiter=", "total", "z|zero-terminated"] arguments
  let between := match c.value? "output-delimiter" with
    | some [] => ['\x00']
    | some text => text
    | none => ['\t']
  if (c.values "output-delimiter").any (· ≠ (c.value? "output-delimiter").getD []) then
    die "multiple output delimiters specified".toList
  let k : Columns := ⟨!c.has "1", !c.has "2", !c.has "3", between,
    if c.has "z" then '\x00' else '\n', orderCheckOf c⟩
  let (x, y) ← twoNames operands
  let a ← k.begin x
  let b ← k.begin y
  let t ← k.write mostPieces a b ⟨0, 0, 0, (false, false)⟩
  if c.has "total" then
    put (List.intercalate between
      [decimal t.first, decimal t.second, decimal t.both, "total".toList] ++ [k.stop])
  if t.isWarned then die "input is not in sorted order".toList

/-! ### Joined lines -/

/-- What is written of joined lines. -/
inductive Piece where
  /-- the field by which lines are joined -/
  | common
  | field (ofFirst : Bool) (index : Nat)

/-- How lines are joined. -/
structure Joining where
  /-- the fields by which lines are joined, which count from zero -/
  field : Bool → Nat
  /-- whether lines without a partner are written -/
  alone : Bool → Bool
  paired : Bool
  ignoresCase : Bool
  /-- what stands between fields, if not blanks -/
  tab : Option Char
  /-- what is written for a field that is missing or empty -/
  filler : Bytes
  pieces : Option (List Piece)
  /-- whether all lines have as many fields as the first one -/
  isUniform : Bool
  hasHeader : Bool
  check : OrderCheck
  stop : Char

/-- A line with its fields. -/
structure Fields where
  line : Bytes
  fields : List Bytes

/-- The fields of a text between runs of blanks, at most `fuel`. -/
def blankFields : Nat → Bytes → List Bytes
  | 0, _ => []
  | fuel + 1, text =>
    let field := text.takeWhile (!isBetweenFields ·)
    let rest := text.drop field.length
    match rest with
    | [] => [field]
    | _ :: _ => field :: blankFields fuel (rest.dropWhile isBetweenFields)
/-- The fields of a line. -/
def Joining.fieldsOf (k : Joining) (line : Bytes) : Fields :=
  if line.isEmpty then ⟨line, []⟩
  else match k.tab with
    | some '\n' => ⟨line, [line]⟩
    | some tab => ⟨line, splitAt tab line⟩
    | none =>
      let text := line.dropWhile isBetweenFields
      if text.isEmpty then ⟨line, []⟩ else ⟨line, blankFields (text.length + 1) text⟩

/-- The order of two lines by their fields. -/
def Joining.compare (k : Joining) (x : Fields) (i : Nat) (y : Fields) (j : Nat) : Ordering :=
  let fold := fun (text : Bytes) => if k.ignoresCase then text.map Char.toUpper else text
  compareBytes (fold ((x.fields[i]?).getD [])) (fold ((y.fields[j]?).getD []))

/-- A file of which lines are joined. -/
structure JoinSide where
  source : LineSource
  /-- the line that was read last, and its number -/
  last : Option Fields
  number : Nat
  /-- the lines that are looked at -/
  lines : List Fields
  warned : Bool

/-- How joining has gone. -/
structure Joined where
  first : JoinSide
  second : JoinSide
  hasAlone : Bool

namespace Joined

/-- One of the files. -/
def side (j : Joined) (isFirst : Bool) : JoinSide := if isFirst then j.first else j.second

/-- Change one of the files. -/
def withSide (j : Joined) (isFirst : Bool) (s : JoinSide) : Joined :=
  if isFirst then { j with first := s } else { j with second := s }

end Joined

/-- Read the next line of a file. -/
def Joining.read (k : Joining) (isFirst : Bool) (j : Joined) : Tool (Option Fields × Joined) := do
  let s := j.side isFirst
  let (line, source) ← LineSource.next k.stop s.source
  match line with
  | none => return (none, j.withSide isFirst { s with source })
  | some line =>
    let fields := k.fieldsOf (chop k.stop line)
    let i := k.field isFirst
    let number := s.number + 1
    let isMeant := k.check = .always || (k.check = .unpaired && j.hasAlone)
    let isLess := s.last.any fun old => k.compare old i fields i = .gt
    let mut warned := s.warned
    if isMeant && !warned && isLess then
      let message := source.name ++ ':' :: decimal number ++ ": is not sorted: ".toList
        ++ chop '\n' fields.line
      if k.check = .always then die message
      warn message
      warned := true
    return (some fields, j.withSide isFirst { s with source, last := some fields, number, warned })

/-- Look at the next line of a file, after the others or in their place. -/
def Joining.advance (k : Joining) (isFirst keeps : Bool) (j : Joined) : Tool (Bool × Joined) := do
  let (line, j) ← k.read isFirst j
  let s := j.side isFirst
  let before := if keeps then s.lines else []
  return (line.isSome, j.withSide isFirst { s with lines := before ++ line.toList })

/-- Write a joined line, or one without a partner. -/
def Joining.write (k : Joining) (count : Bool → Nat) (x y : Option Fields) : Tool Unit := do
  let between := k.tab.getD ' '
  let field := fun (line : Option Fields) (i : Nat) =>
    match line.bind (·.fields[i]?) with
    | none | some [] => k.filler
    | some text => text
  let common := match x with
    | none => field y (k.field false)
    | some _ => field x (k.field true)
  let others := fun (line : Option Fields) (isFirst : Bool) =>
    let n := if k.isUniform then count isFirst else (line.map (·.fields.length)).getD 0
    ((List.range n).filter (· ≠ k.field isFirst)).map (field line)
  let pieces := match k.pieces with
    | some pieces => pieces.map fun p => match p with
      | .common => common
      | .field true i => field x i
      | .field false i => field y i
    | none => common :: others x true ++ others y false
  put (List.intercalate [between] pieces ++ [k.stop])

/-- Read lines of a file as long as they match a line of the other one, at most `fuel`; whether the
    file is at its end. -/
def Joining.gather (k : Joining) (isFirst : Bool) : Nat → Joined → Tool (Bool × Joined)
  | 0, j => return (true, j)
  | fuel + 1, j => do
    let (isThere, j) ← k.advance isFirst true j
    if !isThere then return (true, j)
    match (j.side isFirst).lines.getLast?, (j.side (!isFirst)).lines.head? with
    | some x, some y =>
      if k.compare x (k.field isFirst) y (k.field !isFirst) = .eq then k.gather isFirst fuel j
      else return (false, j)
    | _, _ => return (false, j)

/-- The matching lines of a file, and the file with the line behind them. -/
def JoinSide.matching (s : JoinSide) (isOver : Bool) : List Fields × JoinSide :=
  if isOver then (s.lines, { s with lines := [] })
  else (s.lines.dropLast, { s with lines := s.lines.getLast?.toList })

/-- Join lines until a file is at its end, at most `fuel`. -/
def Joining.join (k : Joining) (count : Bool → Nat) : Nat → Joined → Tool Joined
  | 0, j => return j
  | fuel + 1, j => do
    match j.first.lines.head?, j.second.lines.head? with
    | some x, some y =>
      match k.compare x (k.field true) y (k.field false) with
      | .lt =>
        if k.alone true then k.write count x none
        let (_, j) ← k.advance true false j
        k.join count fuel { j with hasAlone := true }
      | .gt =>
        if k.alone false then k.write count none y
        let (_, j) ← k.advance false false j
        k.join count fuel { j with hasAlone := true }
      | .eq =>
        let (isOver, j) ← k.gather true mostPieces j
        let (isOver', j) ← k.gather false mostPieces j
        let (xs, first) := j.first.matching isOver
        let (ys, second) := j.second.matching isOver'
        if k.paired then
          for x in xs do
            for y in ys do
              k.write count x y
        k.join count fuel { j with first, second }
    | _, _ => return j

/-- Read the lines that are left of a file, at most `fuel`. -/
def Joining.drain (k : Joining) (count : Bool → Nat) (isFirst : Bool) :
    Nat → Joined → Tool Joined
  | 0, j => return j
  | fuel + 1, j => do
    let (line, j) ← k.read isFirst j
    match line with
    | none => return j
    | some line =>
      if k.alone isFirst then
        if isFirst then k.write count line none else k.write count none line
      else if (j.side isFirst).warned then return j
      k.drain count isFirst fuel j

/-- Look at the end of a file of which the other one has run out. -/
def Joining.finish (k : Joining) (count : Bool → Nat) (isFirst : Bool) (j : Joined) :
    Tool Joined := do
  let looks := k.check ≠ .never && !(j.first.warned && j.second.warned)
  match (j.side isFirst).lines.head? with
  | some line =>
    if k.alone isFirst || looks then
      if k.alone isFirst then
        if isFirst then k.write count line none else k.write count none line
      let hasAlone := j.hasAlone || !(j.side (!isFirst)).lines.isEmpty
      k.drain count isFirst mostPieces { j with hasAlone }
    else return j
  | none => return j

/-- The number of a field, which counts from one. -/
def fieldNumber (text : Bytes) : Tool Nat := do
  match amountOf "" greatestNatural text with
  | .ok (n + 1) => return n
  | .error .tooGreat => return greatestNatural
  | _ => die ("invalid field number: ".toList ++ quoted text)

/-- A part of what is to be written. -/
def pieceOf (text : Bytes) : Tool Piece := do
  match text with
  | ['0'] => return .common
  | '0' :: _ => die ("invalid field specifier: ".toList ++ quoted text)
  | '1' :: '.' :: n => return .field true (← fieldNumber n)
  | '2' :: '.' :: n => return .field false (← fieldNumber n)
  | '1' :: _ | '2' :: _ => die ("invalid field specifier: ".toList ++ quoted text)
  | _ => die ("invalid file number in field spec: ".toList ++ quoted text)

/-- The field that options say for a file. -/
def joinField (c : Chosen) (key : String) : Tool Nat := do
  let mut found : Option Nat := none
  for (k, v) in c.options do
    if k = key || k = "j" then
      let n ← fieldNumber (v.getD [])
      match found with
      | some m =>
        if m ≠ n then
          die ("incompatible join fields ".toList ++ decimal (m + 1) ++ ", ".toList
            ++ decimal (n + 1))
      | none => found := some n
  return found.getD 0

/-- Join the lines of two files by a field that they have in common. -/
def join (arguments _environment : List Bytes) : Tool Unit := do
  let (c, operands) ← options ["a=", "e=", "i|ignore-case", "1=", "2=", "j=", "o=", "t=", "v=",
    "z|zero-terminated", "check-order", "nocheck-order", "header"] arguments
  for (key, v) in c.options do
    if key = "a" || key = "v" then
      match amountOf "" greatestNatural (v.getD []) with
      | .ok 1 | .ok 2 => pure ()
      | _ => die ("invalid field number: ".toList ++ quoted (v.getD []))
  let isNumber := fun (n : Nat) (text : Bytes) =>
    (amountOf "" greatestNatural text).toOption = some n
  let alone := fun (isFirst : Bool) =>
    (c.values "a" ++ c.values "v").any (isNumber (if isFirst then 1 else 2))
  let first ← joinField c "1"
  let second ← joinField c "2"
  let tab ← match c.value? "t" with
    | none => pure none
    | some [] => pure (some '\n')
    | some ['\\', '0'] => pure (some '\x00')
    | some [t] => pure (some t)
    | some text => die ("multi-character tab ".toList ++ quoted text)
  if (c.values "t").any (· ≠ (c.value? "t").getD []) then die "incompatible tabs".toList
  if (c.values "e").any (· ≠ (c.value? "e").getD []) then
    die "conflicting empty-field replacement strings".toList
  let formats := c.values "o"
  let isUniform := formats.contains "auto".toList
  let mut pieces := []
  for format in formats do
    if format ≠ "auto".toList then
      for text in splitAt ',' (format.map fun c => if isBlank c then ',' else c) do
        pieces := pieces ++ [← pieceOf text]
  let (x, y) ← twoNames operands
  if x = ['-'] && y = ['-'] then die "both files cannot be standard input".toList
  let k : Joining := ⟨fun isFirst => if isFirst then first else second, alone, !c.has "v",
    c.has "i", tab, (c.value? "e").getD [], if pieces.isEmpty then none else some pieces,
    isUniform, c.has "header", orderCheckOf c, if c.has "z" then '\x00' else '\n'⟩
  let begin := fun name => do return (⟨← LineSource.ofFile name, none, 0, [], false⟩ : JoinSide)
  let a ← begin x
  let b ← begin y
  let (_, j) ← k.advance true false ⟨a, b, false⟩
  let (_, j) ← k.advance false false j
  let number := fun (s : JoinSide) => (s.lines.head?.map (·.fields.length)).getD 0
  let firstNumber := number j.first
  let secondNumber := number j.second
  let count := fun (isFirst : Bool) => if isFirst then firstNumber else secondNumber
  let j ← if k.hasHeader && (!j.first.lines.isEmpty || !j.second.lines.isEmpty) then do
      k.write count j.first.lines.head? j.second.lines.head?
      let forget := fun (s : JoinSide) => { s with last := none }
      let j := { j with first := forget j.first, second := forget j.second }
      let (_, j) ← if j.first.lines.isEmpty then pure (true, j) else k.advance true false j
      let (_, j) ← if j.second.lines.isEmpty then pure (true, j) else k.advance false false j
      pure j
    else pure j
  let j ← k.join count mostPieces j
  let j ← k.finish count true j
  let j ← k.finish count false j
  if j.first.warned || j.second.warned then die "input is not in sorted order".toList

end SyncFleet.Utility.Text

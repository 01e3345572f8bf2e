/-
  SyncFleet/Utility/Text/Layout.lean
  ==================================
  **The layout of lines: their breaks and their tabs.**
-/
import SyncFleet.Utility.Amount
import SyncFleet.Utility.Option

namespace SyncFleet.Utility.Text

open Unix Tool

/-! ### Breaks -/

/-- How lines are broken. -/
structure Folding where
  width : Nat
  /-- lines are broken behind blanks if that can be done -/
  atBlanks : Bool
  /-- every byte takes one column -/
  inBytes : Bool

/-- The column behind a byte. -/
def Folding.behind (k : Folding) (column : Nat) (c : Char) : Nat :=
  if k.inBytes then column + 1
  else match c with
    | '\x08' => column - 1
    | '\r' => 0
    | '\t' => column + 8 - column % 8
    | _ => column + 1

/-- Add a byte to a part of a line that is given in reverse, at the end of some column; parts that
    are complete come first.  There are at most `fuel` breaks. -/
def Folding.add (k : Folding) (c : Char) :
    Nat → List Bytes → Nat → Bytes → List Bytes × Nat × Bytes
  | 0, done, column, part => (done, column, part)
  | fuel + 1, done, column, part =>
    let next := k.behind column c
    if next ≤ k.width then (done, next, c :: part)
    else
      let behind := part.takeWhile (!isBlank ·)
      if k.atBlanks && behind.length < part.length then
        k.add c fuel ((part.drop behind.length).reverse :: done)
          (behind.reverse.foldl k.behind 0) behind
      else if part.isEmpty then (done, next, [c])
      else k.add c fuel (part.reverse :: done) 0 []

/-- A line in parts that fit. -/
def Folding.broken (k : Folding) (line : Bytes) : Bytes :=
  let (done, _, part) := line.foldl (fun (done, column, part) c =>
    if c = '\n' then (done, column, c :: part)
    else k.add c (part.length + 2) done column part) ([], 0, [])
  (done.reverse.flatMap (· ++ ['\n'])) ++ part.reverse

/-- Arguments of which a number behind a dash is an option by itself. -/
def withNumber (letter : String) (argument : Bytes) : Bytes :=
  match argument with
  | '-' :: d :: _ => if d.isDigit then letter.toList ++ argument.drop 1 else argument
  | _ => argument

/-- Break lines that are too long. -/
def fold (arguments _environment : List Bytes) : Tool Unit := do
  let (c, names) ← options ["b|bytes", "s|spaces", "w|width="] (arguments.map (withNumber "-w"))
  let width ← match c.value? "w" with
    | some text => amountWithin "" "invalid number of columns" 1 (greatestNatural - 9) text
    | none => pure 80
  let k : Folding := ⟨width, c.has "s", c.has "b"⟩
  overLinesOfEach '\n' (fun _ line => put (k.broken line)) names ()

/-! ### Tabs -/

/-- Where tabs lead to. -/
structure TabStops where
  stops : List Nat
  /-- multiples of it follow the last one -/
  multiples : Option Nat
  /-- steps of it follow the last one -/
  step : Option Nat

/-- The next stop behind a column, if there is one. -/
def TabStops.next? (t : TabStops) (column : Nat) : Option Nat :=
  match t.stops, t.multiples, t.step with
  | [], none, none => some (column + 8 - column % 8)
  | [n], none, none => some (column + n - column % n)
  | stops, multiples, step =>
    match stops.find? (column < ·), multiples, step with
    | some n, _, _ => some n
    | none, some n, _ => some (column + n - column % n)
    | none, none, some n =>
      let last := stops.getLast?.getD 0
      some (column + n - (column - last) % n)
    | none, none, none => none

/-- Read a list of stops. -/
def tabStopsOf (text : Bytes) (t : TabStops) : Tool TabStops := do
  let mut t := t
  for piece in splitAt ',' (text.map fun c => if isBlank c then ',' else c) do
    if piece ≠ [] then
      let (sign, digits) : Option Char × Bytes := match piece with
        | '/' :: ds => (some '/', ds)
        | '+' :: ds => (some '+', ds)
        | ds => (none, ds)
      match natOf? digits with
      | none =>
        let rest := digits.dropWhile Char.isDigit
        if rest.head?.any (fun c => c = '/' || c = '+') && rest.length < digits.length then
          let specifier := [rest.headD '/']
          die ("'".toList ++ specifier ++ "' specifier not at start of number: ".toList
            ++ quoted rest)
        die ("tab size contains invalid character(s): ".toList ++ quoted rest)
      | some n =>
        if greatestNatural < n then die ("tab stop is too large ".toList ++ quoted digits)
        match sign with
        | some '/' =>
          if t.multiples.isSome then die "'/' specifier only allowed with the last value".toList
          t := { t with multiples := if n = 0 then none else some n }
        | some _ =>
          if t.step.isSome then die "'+' specifier only allowed with the last value".toList
          t := { t with step := if n = 0 then none else some n }
        | none => t := { t with stops := t.stops ++ [n] }
  return t

/-- The stops that options say. -/
def tabStops (texts : List Bytes) : Tool TabStops := do
  let t ← texts.foldlM (fun t text => tabStopsOf text t) (⟨[], none, none⟩ : TabStops)
  let mut last : Option Nat := none
  for n in t.stops do
    if n = 0 then die "tab size cannot be 0".toList
    if last.any (n ≤ ·) then die "tab sizes must be ascending".toList
    last := some n
  if t.multiples.isSome && t.step.isSome then
    die "'/' specifier is mutually exclusive with '+'".toList
  return t

/-- Arguments of which numbers behind a dash are stops. -/
def withStops (argument : Bytes) : Bytes :=
  match argument with
  | '-' :: d :: _ => if d.isDigit || d = ',' then "-t".toList ++ argument.drop 1 else argument
  | _ => argument

/-- Where one is in a line of which tabs are expanded. -/
structure Expanding where
  column : Nat
  /-- whether tabs are still expanded -/
  isOn : Bool
  out : Bytes

/-- Expand the tabs of a line. -/
def expanded (t : TabStops) (all : Bool) (line : Bytes) : Bytes :=
  (line.foldl (fun (s : Expanding) c =>
    if !s.isOn then { s with out := c :: s.out }
    else match c with
      | '\t' =>
        let next := (t.next? s.column).getD (s.column + 1)
        { s with column := next, out := List.replicate (next - s.column) ' ' ++ s.out }
      | '\x08' => { column := s.column - 1, isOn := all, out := c :: s.out }
      | c => { column := s.column + 1, isOn := all || isBlank c, out := c :: s.out })
    ⟨0, true, []⟩).out.reverse

/-- Write files with blanks for their tabs. -/
def expand (arguments _environment : List Bytes) : Tool Unit := do
  let (c, names) ← options ["i|initial", "t|tabs="] (arguments.map withStops)
  let t ← tabStops (c.values "t")
  overLines '\n' (fun _ line => put (expanded t (!c.has "i") line)) names ()

/-- Where one is in a line of which blanks become tabs. -/
structure Unexpanding where
  column : Nat
  isOn : Bool
  /-- whether a blank has been read last -/
  inBlanks : Bool
  /-- blanks that have not been written yet, in reverse -/
  pending : Bytes
  /-- whether the first of them stands just before a stop -/
  isSingle : Bool
  out : Bytes

/-- Write the blanks that have not been written yet. -/
def Unexpanding.release (s : Unexpanding) : Unexpanding :=
  let pending := if 1 < s.pending.length && s.isSingle then s.pending.dropLast ++ ['\t']
    else s.pending
  if pending.isEmpty then s
  else { s with out := pending ++ s.out, pending := [], isSingle := false }

/-- Read a byte of a line of which blanks become tabs. -/
def Unexpanding.add (t : TabStops) (all : Bool) (s : Unexpanding) (c : Char) : Unexpanding :=
  if !s.isOn then { s with out := c :: s.out }
  else if isBlank c then
    match t.next? s.column with
    | none =>
      let s := s.release
      { s with isOn := false, out := c :: s.out }
    | some next =>
      let column := if c = '\t' then next else s.column + 1
      if c ≠ '\t' && !(s.inBlanks && column = next) then
        { s with
          column, pending := c :: s.pending, inBlanks := true
          isSingle := s.isSingle || column = next }
      else
        let kept := if s.isSingle && !s.pending.isEmpty then ['\t'] else []
        let s := ({ s with column, pending := kept } : Unexpanding).release
        { s with inBlanks := true, out := '\t' :: s.out }
  else
    let column := if c = '\x08' then s.column - 1 else s.column + 1
    let s := s.release
    { s with column, inBlanks := false, isOn := all, out := c :: s.out }

/-- Write files with tabs for their blanks. -/
def unexpand (arguments _environment : List Bytes) : Tool Unit := do
  let (c, names) ← options ["a|all", "first-only", "t|tabs="] (arguments.map withStops)
  let t ← tabStops (c.values "t")
  let all := (c.has "a" || c.has "t") && !c.has "first-only"
  overLines '\n' (fun _ line =>
    let s := line.foldl (Unexpanding.add t all) ⟨0, true, true, [], false, []⟩
    put s.release.out.reverse) names ()

end SyncFleet.Utility.Text

/-
  SyncFleet/Utility/Number/Sequence.lean
  ======================================
  **Numbers in even steps.**

  Whole numbers are computed exactly.  Others are numbers of a format, each the
  first one plus a multiple of the step, written with as many places as their
  bounds have.
-/
import SyncFleet.Unix.Conversion
import SyncFleet.Utility.Option

namespace SyncFleet.Utility.Number

open Unix Tool

/-! ### Bounds -/

/-- A bound: its value, how wide it is written, and how many places it has, if that is known. -/
structure Bound where
  value : Floating
  width : Nat
  places : Option Nat

/-- The width and places that a decimal numeral asks for. -/
def shapeOf (text : Bytes) : Nat × Nat :=
  let front := text.takeWhile (· != '.')
  let behind := text.drop front.length
  let hasPoint := !behind.isEmpty
  let mantissa := text.takeWhile fun c => c != 'e' && c != 'E'
  let fraction := ((behind.drop 1).takeWhile fun c => c != 'e' && c != 'E').length
  let lacksDigit := front.getLast?.all (!·.isDigit)
  let width := text.length
  let width := if !hasPoint then width else if fraction = 0 then width - 1
    else if lacksDigit then width + 1 else width
  if mantissa.length = text.length then (width, if hasPoint then fraction else 0)
  else
    let exponent := (intOf? (text.drop (mantissa.length + 1))).getD 0
    let width := width - (text.length - mantissa.length)
    let n := exponent.natAbs
    if exponent < 0 then
      let width := if !hasPoint || fraction = 0 then width + 1 else width
      (width + n, fraction + n)
    else
      let places := fraction - n
      let width := if hasPoint && places = 0 && fraction ≠ 0 then width - 1 else width
      (width + (n - fraction), places)

/-- The bound that a text spells. -/
def boundOf (text : Bytes) : Tool Bound := do
  let (value, rest, _) := Floating.read extendedFormat text
  if rest.length = text.length || !rest.isEmpty then
    misuse ("invalid floating point argument: ".toList ++ quoted text)
  if value.magnitude = .notANumber then
    misuse ("invalid 'not-a-number' argument: ".toList ++ quoted text)
  let text := text.dropWhile fun c => isSpace c || c == '+'
  let isHex := text.any fun c => c == 'x' || c == 'X'
  let plain := if !text.contains '.' && !text.contains 'p' then some 0 else none
  if isHex || value.magnitude = .infinite then return ⟨value, 0, plain⟩
  let (width, places) := shapeOf text
  return ⟨value, width, some places⟩

/-- The whole number of a bound that has no places. -/
def Bound.whole? (b : Bound) : Option Int :=
  match b.places, b.value.quotient? with
  | some 0, some (n, d) =>
    if n % d = 0 ∧ n.natAbs / d < 0x4000000000000000 then some (n / d) else none
  | _, _ => none

/-! ### Formats -/

/-- A format with one conversion. -/
structure NumberFormat where
  start : Bytes
  conversion : Conversion
  stop : Bytes

/-- The text up to a conversion, with percent signs undone, of at most `fuel` bytes, and what is
    behind its sign. -/
def literalAt : Nat → Bytes → Bytes × Option Bytes
  | 0, text => (text, none)
  | _, [] => ([], none)
  | fuel + 1, '%' :: '%' :: rest =>
    let (text, behind) := literalAt fuel rest
    ('%' :: text, behind)
  | _, '%' :: rest => ([], some rest)
  | fuel + 1, c :: rest =>
    let (text, behind) := literalAt fuel rest
    (c :: text, behind)

/-- The format that a text describes. -/
def numberFormatOf (text : Bytes) : Tool NumberFormat := do
  let shownText := "format ".toList ++ quoted text
  let (start, behind) := literalAt (text.length + 1) text
  match behind with
  | none => die (shownText ++ " has no % directive".toList)
  | some rest =>
    let flags := rest.takeWhile fun c => "-+#0 \x27".toList.contains c
    let (width, _, rest) := digitsAt 10 (rest.drop flags.length)
    let (places, rest) : Option Nat × Bytes := match rest with
      | '.' :: more =>
        let (n, _, rest) := digitsAt 10 more
        (some n, rest)
      | rest => (none, rest)
    let rest := if rest.head? = some 'L' then rest.drop 1 else rest
    match rest with
    | [] => die (shownText ++ " ends in %".toList)
    | letter :: rest =>
      if !"efgaEFGA".toList.contains letter then
        die (shownText ++ " has unknown %".toList ++ letter :: " directive".toList)
      let (stop, more) := literalAt (rest.length + 1) rest
      if more.isSome then die (shownText ++ " has too many % directives".toList)
      return ⟨start, ⟨flags, width, places, letter⟩, stop⟩

/-- A number in a format. -/
def NumberFormat.text (f : NumberFormat) (x : Floating) : Bytes :=
  f.start ++ f.conversion.floating extendedFormat x ++ f.stop

/-- The format that bounds ask for, where all numbers may have the same width. -/
def usualFormat (isEven : Bool) (first step last : Bound) : NumberFormat :=
  match first.places, step.places, last.places with
  | some p, some q, some r =>
    let places := max p q
    if !isEven then ⟨[], ⟨[], 0, some places, 'f'⟩, []⟩
    else
      let firstWidth := first.width + (places - p)
      let lastWidth := last.width + places - r
      let lastWidth := if r ≠ 0 && places = 0 then lastWidth - 1 else lastWidth
      let lastWidth := if r = 0 && places ≠ 0 then lastWidth + 1 else lastWidth
      let firstWidth := if p = 0 && places ≠ 0 then firstWidth + 1 else firstWidth
      ⟨[], ⟨['0'], max firstWidth lastWidth, some places, 'f'⟩, []⟩
  | _, _, _ => ⟨[], ⟨[], 0, none, 'g'⟩, []⟩

/-! ### Writing -/

/-- Write whole numbers, at most `fuel`. -/
def writeWholes (text : Int → Bytes) (between : Bytes) (step : Int) (last : Option Int) :
    Nat → Bool → Int → Tool Bool
  | 0, isFirst, _ => return !isFirst
  | fuel + 1, isFirst, x => do
    if last.any fun l => if step < 0 then x < l else l < x then return !isFirst
    put ((if isFirst then [] else between) ++ text x)
    writeWholes text between step last fuel false (x + step)

/-- Write numbers of a format, at most `fuel`; `index` counts them. -/
def writeFloatings (f : NumberFormat) (between : Bytes) (first step last : Floating) :
    Nat → Nat → Floating → Tool Unit
  | 0, _, _ => return ()
  | fuel + 1, index, x => do
    put (f.text x)
    let next := Floating.add extendedFormat first
      (Floating.mul extendedFormat (Floating.ofInt extendedFormat (index + 1 : Nat)) step)
    let isOver := if step.isNegative then next.less last else last.less next
    if !isOver then
      put between
      writeFloatings f between first step last fuel (index + 1) next
    else
      let text := f.text next
      let inner := (text.drop f.start.length).take (text.length - f.start.length - f.stop.length)
      let (value, _, _) := Floating.read extendedFormat inner
      if value.quotient?.isSome && !(value.less last) && !(last.less value) && text ≠ f.text x then
        put (between ++ text)

/-- Arguments up to the first one that is no option, where numbers below zero are none; whether the
    next one is the value of an option. -/
def splitNumbers : Bool → List Bytes → List Bytes × List Bytes
  | _, [] => ([], [])
  | true, a :: rest =>
    let (front, behind) := splitNumbers false rest
    (a :: front, behind)
  | false, a :: rest =>
    match a with
    | ['-', '-'] => ([], rest)
    | '-' :: c :: more =>
      if c.isDigit || c = '.' then ([], a :: rest)
      else
        let takesValue := (c = 'f' || c = 's') && more.isEmpty
          || a = "--format".toList || a = "--separator".toList
        let (front, behind) := splitNumbers takesValue rest
        (a :: front, behind)
    | _ => ([], a :: rest)

/-- Write numbers from a first one to a last one. -/
def seq (arguments _environment : List Bytes) : Tool Unit := do
  let (front, operands) := splitNumbers false arguments
  let (c, more) ← leadingOptions ["f|format=", "s|separator=", "w|equal-width"] front
  let operands := more ++ operands
  if operands.isEmpty then missOperand
  if let extra :: _ := operands.drop 3 then extraOperand extra
  let format ← (c.value? "f").mapM numberFormatOf
  if format.isSome && c.has "w" then
    misuse "format string may not be specified when printing equal width strings".toList
  let between := (c.value? "s").getD ['\n']
  let plain? := fun (text : Bytes) => if text.all Char.isDigit then natOf? text else none
  let one : Bound := ⟨Floating.ofInt extendedFormat 1, 1, some 0⟩
  let (firstText, stepText, lastText) : Bytes × Bytes × Bytes := match operands with
    | [last] => (['1'], ['1'], last)
    | [first, last] => (first, ['1'], last)
    | [first, step, last] => (first, step, last)
    | _ => (['1'], ['1'], ['0'])
  let isSimple := format.isNone && !c.has "w"
  match isSimple, plain? firstText, plain? stepText, plain? lastText with
  | true, some a, some (s + 1), some z =>
    let wrote ← writeWholes integer between (s + 1 : Nat) (some z) mostPieces true a
    if wrote then put ['\n']
  | _, _, _, _ =>
    let given ← operands.mapM boundOf
    let (first, step, last) := match given with
      | [last] => (one, one, last)
      | [first, last] => (first, one, last)
      | [first, step, last] => (first, step, last)
      | _ => (one, one, one)
    if step.value.isZero && operands.length = 3 then
      misuse ("invalid Zero increment value: ".toList ++ quoted stepText)
    let f := format.getD (usualFormat (c.has "w") first step last)
    match format.isNone, first.whole?, step.whole?, last.whole?, last.value.magnitude with
    | true, some a, some s, some z, _ =>
      let width := f.conversion.width
      let text := fun (n : Int) => if c.has "w" then
          (if n < 0 then ['-'] else []) ++ padLeft (width - (if n < 0 then 1 else 0)) '0'
            (decimal n.natAbs)
        else integer n
      let wrote ← writeWholes text between s (some z) mostPieces true a
      if wrote then put ['\n']
    | true, some a, some s, none, .infinite =>
      if last.value.isNegative = (s < 0 : Bool) then
        let wrote ← writeWholes integer between s none mostPieces true a
        if wrote then put ['\n']
    | _, _, _, _, _ =>
      let isOver := if step.value.isNegative then first.value.less last.value
        else last.value.less first.value
      if !isOver then
        writeFloatings f between first.value step.value last.value mostPieces 0 first.value
        put ['\n']

end SyncFleet.Utility.Number

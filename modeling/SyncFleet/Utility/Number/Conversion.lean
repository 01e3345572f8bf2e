/-
  SyncFleet/Utility/Number/Conversion.lean
  ========================================
  **Numbers with units, and numbers without.**

  A number is a quotient, so that nothing is lost before it is rounded.
-/
import SyncFleet.Utility.Amount
import SyncFleet.Utility.Option
import SyncFleet.Utility.Text.Field

namespace SyncFleet.Utility.Number

open Unix Tool

/-- The ways in which units are written. -/
inductive UnitStyle where
  | none
  | auto
  | thousands
  | binary
  /-- units of powers of 1024 with an `i` -/
  | binaryLong
deriving DecidableEq, Repr

/-- How numbers are rounded. -/
inductive Rounding where
  | up
  | down
  | fromZero
  | towardsZero
  | nearest
deriving DecidableEq, Repr

/-- The quotient of two numbers, rounded. -/
def Rounding.divide (r : Rounding) (n : Int) (d : Nat) : Int :=
  let floor := n.fdiv d
  let ceiling := -((-n).fdiv d)
  match r with
  | .up => ceiling
  | .down => floor
  | .fromZero => if n < 0 then floor else ceiling
  | .towardsZero => if n < 0 then ceiling else floor
  | .nearest => if n < 0 then -((2 * -n + d).fdiv (2 * d)) else (2 * n + d).fdiv (2 * d)

/-- What is wrong with a number. -/
inductive Misread where
  | number
  | suffix
  | forbidden
  | missing
  | tooLarge
deriving DecidableEq, Repr

/-- What is said of a number that is wrong. -/
def Misread.message (m : Misread) (text : Bytes) : Bytes :=
  match m with
  | .number => "invalid number: ".toList ++ quoted text
  | .suffix => "invalid suffix in input: ".toList ++ quoted text
  | .forbidden =>
    "rejecting suffix in input: ".toList ++ quoted text ++ " (consider using --from)".toList
  | .missing =>
    "missing 'i' suffix in input: ".toList ++ quoted text ++ " (e.g Ki/Mi/Gi)".toList
  | .tooLarge => "value too large to be converted: ".toList ++ quoted text

/-- A number: a quotient, and how many places it was written with. -/
structure Value where
  number : Int
  divisor : Nat
  places : Nat

/-- The number that a text spells, with a unit if that is allowed. -/
def valueOf (style : UnitStyle) (text : Bytes) : Except Misread Value := do
  let (isNegative, body) := match text with
    | '-' :: rest => (true, rest)
    | rest => (false, rest)
  let (whole, count, rest) := digitsAt 10 body
  let (digits, places, rest) := match rest with
    | '.' :: more =>
      let (part, k, rest) := digitsAt 10 more
      if k = 0 then (whole, 0, '.' :: more) else (whole * Nat.pow 10 k + part, k, rest)
    | rest => (whole, 0, rest)
  if count = 0 && places = 0 then throw .number
  if 27 < count then throw .tooLarge
  let rest' := rest.dropWhile isBlank
  let signed : Int := if isNegative then -(digits : Int) else digits
  let plain : Value := ⟨signed, Nat.pow 10 places, places⟩
  match rest' with
  | [] => return plain
  | c :: more =>
    let power? := if c = 'K' || c.isUpper then unitPower? c else none
    match power? with
    | none => throw .suffix
    | some p =>
      if style = .none then throw .forbidden
      let hasI := more.head? = some 'i'
      let behind := if hasI && (style = .auto || style = .binaryLong) then more.drop 1 else more
      if style = .binaryLong && !hasI then throw .missing
      if !behind.isEmpty then throw .suffix
      let base := match style with
        | .thousands => 1000
        | .auto => if hasI then 1024 else 1000
        | _ => 1024
      return { plain with number := signed * Nat.pow base p, places := 0 }

/-- How numbers are written. -/
structure Writing where
  style : UnitStyle
  rounding : Rounding
  places : Option Nat
  width : Nat
  isLeft : Bool
  zeros : Nat
  start : Bytes
  stop : Bytes
  suffix : Bytes

/-- A whole number with a point in front of its last digits. -/
def withPlaces (places : Nat) (n : Int) : Bytes :=
  let digits := padLeft (places + 1) '0' (decimal n.natAbs)
  let front := digits.take (digits.length - places)
  (if n < 0 then ['-'] else []) ++ front
    ++ (if places = 0 then [] else '.' :: digits.drop (digits.length - places))

/-- Digits filled up with zeros behind their sign. -/
def withZeros (width : Nat) (text : Bytes) : Bytes :=
  match text with
  | '-' :: rest => '-' :: padLeft (width - 1) '0' rest
  | text => padLeft width '0' text

/-- The power of a base by which a quotient is divided so that it is below the base, at most
    `fuel`. -/
def powerOf (base : Nat) : Nat → Int → Nat → Nat
  | 0, _, _ => 0
  | fuel + 1, n, d =>
    if n.natAbs < base * d then 0 else powerOf base fuel n (d * base) + 1

/-- The text of a number. -/
def Writing.text (k : Writing) (v : Value) : Bytes :=
  match k.style with
  | .none =>
    let places := k.places.getD v.places
    withZeros k.zeros
      (withPlaces places (k.rounding.divide (v.number * Nat.pow 10 places) v.divisor))
  | style =>
    let base := if style = .thousands then 1000 else 1024
    let power := powerOf base 10 v.number v.divisor
    let divisor := v.divisor * Nat.pow base power
    let isSmall := v.number.natAbs < 10 * divisor
    let kept := match k.places with
      | some p => min (power * 3) p
      | none => if isSmall then 1 else 0
    let rounded := k.rounding.divide (v.number * Nat.pow 10 kept) divisor
    let (power, whole, divisor) : Nat × Int × Nat :=
      if base * Nat.pow 10 kept ≤ rounded.natAbs then (power + 1, rounded, Nat.pow 10 kept * base)
      else (power, rounded, Nat.pow 10 kept)
    let showsPlace := whole ≠ 0 && whole.natAbs < 10 * divisor && 0 < power
    let places := k.places.getD (if showsPlace then 1 else 0)
    let digits := Rounding.nearest.divide (whole * Nat.pow 10 places) divisor
    withZeros k.zeros (withPlaces places digits)
      ++ (if power = 0 then [] else [powerLetters.getD (power - 1) 'K'])
      ++ (if power ≠ 0 && style = .binaryLong then ['i'] else [])

/-- How fields are converted. -/
structure Converting where
  source : UnitStyle
  sourceUnit : Nat
  goalUnit : Nat
  writing : Writing
  fields : List Text.Span
  delimiter : Option Char
  isAuto : Bool
  /-- what happens with a number that is wrong: `abort`, `fail`, `warn` or `ignore` -/
  invalid : String

/-- The status that says that a number is wrong. -/
def misreadStatus : Nat := 2

/-- Convert a field. -/
def Converting.field (k : Converting) (index : Nat) (text : Bytes) : Tool Bytes := do
  if !Text.inSpans k.fields index then return text
  let w := k.writing
  let body := if !w.suffix.isEmpty && w.suffix.length < text.length && w.suffix.isSuffixOf text then
      text.take (text.length - w.suffix.length)
    else text
  let start := body.dropWhile isBlank
  match valueOf k.source start with
  | .error e =>
    if k.invalid ≠ "ignore" then warn (e.message start)
    match k.invalid with
    | "fail" => modify fun s => { s with status := misreadStatus }
    | "abort" => stop misreadStatus
    | _ => pure ()
    return text
  | .ok v =>
    let v := { v with
      number := v.number * k.sourceUnit, divisor := v.divisor * k.goalUnit }
    let number := w.text v ++ w.suffix
    let width := if k.isAuto then
        if start.length < body.length || 1 < index then body.length else 0
      else w.width
    let padded := if w.isLeft then padRight width number else padLeft width ' ' number
    return w.start ++ padded ++ w.stop

/-- The fields of a line between blanks; blanks in front of a field belong to it, up to the one that
    ends the field before, of at most `fuel`. -/
def blankParts : Nat → Bytes → List Bytes
  | 0, _ => []
  | fuel + 1, text =>
    let blanks := text.takeWhile isBlank
    let word := (text.drop blanks.length).takeWhile (!isBlank ·)
    match text.drop (blanks.length + word.length) with
    | [] => [blanks ++ word]
    | _ :: rest => (blanks ++ word) :: blankParts fuel rest

/-- Write a line with its fields converted. -/
def Converting.line (k : Converting) (line : Bytes) : Tool Unit := do
  let parts := match k.delimiter with
    | some d => splitAt d line
    | none => blankParts (line.length + 1) line
  for (part, i) in parts.zipIdx 1 do
    if 1 < i then put [k.delimiter.getD ' ']
    put (← k.field i part)

/-- A size of a unit. -/
def unitSize (text : Bytes) : Tool Nat := do
  let wrong := "invalid unit size: ".toList ++ quoted text
  match digitsAt 10 text with
  | (n, count, rest) =>
    let (base, letters) := if rest.getLast? = some 'i' then (1024, rest.dropLast) else (1000, rest)
    let unit := match letters with
      | [] => some 1
      | [c] => (unitPower? c).map (Nat.pow base)
      | _ => none
    match unit with
    | some u =>
      if count = 0 && letters.isEmpty || count ≠ 0 && n = 0 then die wrong
      return (if count = 0 then 1 else n) * u
    | none => die wrong

/-- The words for ways to write units. -/
def styleWords (withAuto : Bool) : List (List String) :=
  [["none"]] ++ (if withAuto then [["auto"]] else []) ++ [["si"], ["iec"], ["iec-i"]]

/-- The way that a word names. -/
def styleOf (word : String) : UnitStyle :=
  match word with
  | "auto" => .auto
  | "si" => .thousands
  | "iec" => .binary
  | "iec-i" => .binaryLong
  | _ => .none

/-- The words for ways to round. -/
def roundingWords : List (List String) :=
  [["up"], ["down"], ["from-zero"], ["towards-zero"], ["nearest"]]

/-- The words for what happens with a number that is wrong. -/
def invalidWords : List (List String) := [["abort"], ["fail"], ["warn"], ["ignore"]]

/-- Convert numbers with units. -/
def numfmt (arguments _environment : List Bytes) : Tool Unit := do
  let (c, operands) ← options ["d|delimiter=", "debug", "field=", "format=", "from=", "from-unit=",
    "grouping", "header?", "invalid=", "padding=", "round=", "suffix=", "to=", "to-unit=",
    "z|zero-terminated"] arguments
  let source ← (c.value? "from").mapM (choice "--from" (styleWords true))
  let goal ← (c.value? "to").mapM (choice "--to" (styleWords false))
  let rounding ← (c.value? "round").mapM (choice "--round" roundingWords)
  let invalid ← (c.value? "invalid").mapM (choice "--invalid" invalidWords)
  let delimiter ← match c.value? "d" with
    | none => pure none
    | some [d] => pure (some d)
    | some [] => pure (some '\x00')
    | some _ => die "the delimiter must be a single character".toList
  let padding ← match c.value? "padding" with
    | none => pure (0 : Int)
    | some text => match intOf? text with
      | some 0 => die ("invalid padding value ".toList ++ quoted text)
      | some n => pure n
      | none => die ("invalid padding value ".toList ++ quoted text)
  let header ← match c.has "header", c.value? "header" with
    | false, _ => pure 0
    | true, none => pure 1
    | true, some text => match natOf? text with
      | some (n + 1) => pure (n + 1)
      | _ => die ("invalid header value ".toList ++ quoted text)
  let fields ← match c.value? "field" with
    | none => pure [⟨1, some 1⟩]
    | some ['-'] => pure [⟨1, none⟩]
    | some text => match Text.spansOf .fields text with
      | .ok spans => pure spans
      | .error message => misuse message.toList
  let mut w : Writing := {
    style := styleOf (goal.getD "none"), places := none, width := padding.natAbs
    isLeft := padding < 0, zeros := 0, start := [], stop := [], suffix := (c.value? "suffix").getD []
    rounding := match rounding with
      | some "up" => .up
      | some "down" => .down
      | some "towards-zero" => .towardsZero
      | some "nearest" => .nearest
      | _ => .fromZero }
  if let some format := c.value? "format" then
    let start := format.takeWhile (· != '%')
    match format.drop start.length with
    | [] => die ("format ".toList ++ quoted format ++ " has no % directive".toList)
    | _ :: rest =>
      let flags := rest.takeWhile fun c => "0-\x27 ".toList.contains c
      let (width, _, rest) := digitsAt 10 (rest.drop flags.length)
      let (places, rest) : Option Nat × Bytes := match rest with
        | '.' :: more =>
          let (n, _, rest) := digitsAt 10 more
          (some n, rest)
        | rest => (none, rest)
      match rest with
      | 'f' :: stop =>
        if flags.contains '0' then w := { w with zeros := width }
        else if width ≠ 0 then w := { w with width, isLeft := flags.contains '-' }
        w := { w with places, start, stop }
      | [] => die ("format ".toList ++ quoted format ++ " ends in %".toList)
      | _ => die ("invalid format ".toList ++ quoted format
          ++ ", directive must be %[0]['][-][N][.][N]f".toList)
  let sourceUnit ← ((c.value? "from-unit").mapM unitSize)
  let goalUnit ← ((c.value? "to-unit").mapM unitSize)
  let k : Converting := {
    source := styleOf (source.getD "none"), sourceUnit := sourceUnit.getD 1
    goalUnit := goalUnit.getD 1, writing := w, fields, delimiter
    isAuto := w.width = 0 && w.zeros = 0 && delimiter.isNone, invalid := invalid.getD "abort" }
  let stop := if c.has "z" then '\x00' else '\n'
  if !operands.isEmpty then
    for text in operands do
      k.line text
      put [stop]
  else
    let _ ← overLines stop (fun (n : Nat) line => do
      let text := chop stop line
      if n < header then put text else k.line text
      put [stop]
      return n + 1) [] 0

end SyncFleet.Utility.Number

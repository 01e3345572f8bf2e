/-
  SyncFleet/Utility/Text/Translation.lean
  =======================================
  **Bytes put for others, deleted or squeezed.**

  Sets of bytes are written as bytes, ranges, classes and repetitions.  The
  first set is mapped to the second one, byte by byte.
-/
import SyncFleet.Utility.Option

namespace SyncFleet.Utility.Text

open Unix Tool

/-! ### Sets -/

/-- An element of a set. -/
inductive SetElement where
  | one (c : Char)
  | range (first last : Char)
  | named (name : String)
  | equals (c : Char)
  /-- a byte again and again: as often as given, or to fill up the set -/
  | repeated (c : Char) (count : Option Nat)
deriving DecidableEq, Repr

/-- A byte of a set as it is written, and whether it was escaped. -/
abbrev SetByte := Char × Bool

/-- The bytes of a text with their escapes undone, of at most `fuel` bytes, and whether a backslash
    stands at its end. -/
def setBytes : Nat → Bytes → List SetByte × Bool
  | 0, _ => ([], false)
  | _, [] => ([], false)
  | _, ['\\'] => ([('\\', false)], true)
  | fuel + 1, '\\' :: c :: rest =>
    let (x, rest) : Char × Bytes :=
      match digitsAt 8 ((c :: rest).take 3) with
      | (n, k + 1, _) =>
        if n < 256 then (byte n, (c :: rest).drop (k + 1))
        else (byte (n / 8), (c :: rest).drop k)
      | _ =>
        (match c with
          | 'a' => '\x07'
          | 'b' => '\x08'
          | 'f' => '\x0c'
          | 'n' => '\n'
          | 'r' => '\r'
          | 't' => '\t'
          | 'v' => '\x0b'
          | c => c, rest)
    let (bs, open') := setBytes fuel rest
    ((x, true) :: bs, open')
  | fuel + 1, c :: rest =>
    let (bs, open') := setBytes fuel rest
    ((c, false) :: bs, open')

/-- The text up to a byte and a closing bracket, and what is behind them. -/
def upToBracket (c : Char) : Bytes → List SetByte → Option (Bytes × List SetByte)
  | done, (x, q) :: (y, r) :: rest =>
    if x = c && !q && y = ']' && !r then some (done.reverse, rest)
    else upToBracket c (x :: done) ((y, r) :: rest)
  | _, _ => none

/-- A byte that is shown in a message. -/
def setShown (c : Char) : String := String.ofList (if isPrint c then [c] else escapeOf c)

/-- Whether a star, digits and a closing bracket stand at the start of a text. -/
def isRepetition : List SetByte → Bool
  | ('*', false) :: rest =>
    match rest.dropWhile fun p => p.1.isDigit with
    | (']', false) :: _ => true
    | _ => false
  | _ => false

/-- A repetition at the start of a text, behind its bracket: the byte, how often it stands, and what
    is behind it. -/
def repetition? (text : List SetByte) :
    Option (Except String (Char × Option Nat × List SetByte)) :=
  match text with
  | (c, _) :: ('*', false) :: rest =>
    let count := (rest.takeWhile fun p => !(p.1 == ']' && !p.2)).map Prod.fst
    match rest.drop count.length with
    | _ :: behind =>
      if count.isEmpty then some (.ok (c, none, behind))
      else
        let n := if count.head? = some '0' then octal? count else natOf? count
        match n with
        | some 0 => some (.ok (c, none, behind))
        | some n => some (.ok (c, some n, behind))
        | none =>
          some (.error ("invalid repeat count '" ++ String.ofList count ++ "' in [c*n] construct"))
    | [] => none
  | _ => none

/-- The elements of a set, of at most `fuel` bytes, or what is wrong with it. -/
def setElements : Nat → List SetByte → Except String (List SetElement)
  | 0, _ => .ok []
  | _, [] => .ok []
  | fuel + 1, (c, q) :: rest => do
    let simple : Except String (List SetElement) := do
      match rest with
      | ('-', false) :: (last, _) :: more =>
        if last < c then
          throw ("range-endpoints of '" ++ setShown c ++ "-" ++ setShown last
            ++ "' are in reverse collating sequence order")
        return .range c last :: (← setElements fuel more)
      | _ => return .one c :: (← setElements fuel rest)
    let repeats : Except String (List SetElement) := do
      match repetition? rest with
      | some r =>
        let (x, count, behind) ← r
        return .repeated x count :: (← setElements fuel behind)
      | none => simple
    if c = '[' && !q then
      match rest with
      | (kind, false) :: inside =>
        if kind = ':' || kind = '=' then
          match upToBracket kind [] inside with
          | some (name, behind) =>
            if name.isEmpty then
              throw (if kind = ':' then "missing character class name '[::]'"
                else "missing equivalence class character '[==]'")
            else if kind = ':' then
              if classNames.contains name.name then
                return .named name.name :: (← setElements fuel behind)
              else if isRepetition inside then repeats
              else throw ("invalid character class '" ++ name.name ++ "'")
            else match name with
              | [x] => return .equals x :: (← setElements fuel behind)
              | _ =>
                if isRepetition inside then repeats
                else throw (name.name ++ ": equivalence class operand must be a single character")
          | none => repeats
        else repeats
      | _ => repeats
    else simple

/-- All bytes. -/
def allBytes : Bytes := (List.range 256).map Char.ofNat

/-- The bytes of an element; what fills up a set stands so often. -/
def SetElement.bytes (fill : Nat) : SetElement → Bytes
  | .one c | .equals c => [c]
  | .range a b => (List.range (b.toNat + 1 - a.toNat)).map fun i => Char.ofNat (a.toNat + i)
  | .named name => allBytes.filter (inClass name)
  | .repeated c count => List.replicate (count.getD fill) c

/-- The bytes of a set that is filled up to a size. -/
def bytesOfSet (size : Nat) (set : List SetElement) : Bytes :=
  let fixed := (set.flatMap (SetElement.bytes 0)).length
  set.flatMap (SetElement.bytes (size - fixed))

/-! ### Translation -/

/-- What is done with bytes. -/
structure Translation where
  /-- what each byte becomes -/
  target : Array UInt8
  deletes : Array Bool
  /-- which bytes are written once where they stand in a row -/
  squeezes : Array Bool

/-- Whether each byte is in a set. -/
def members (set : Bytes) : Array Bool :=
  set.foldl (fun (a : Array Bool) c => a.setIfInBounds c.toNat true) (Array.replicate 256 false)

/-- Every byte for itself. -/
def identity : Array UInt8 := ((List.range 256).map UInt8.ofNat).toArray

/-- What is asked for. -/
structure Wishes where
  complement : Bool
  deletes : Bool
  squeezes : Bool
  truncates : Bool

/-- Whether a set ends with a class. -/
def endsWithClass (set : List SetElement) : Bool :=
  match set.getLast? with
  | some (.named _) => true
  | _ => false

/-- Where classes of letters of one case begin among the bytes of a set. -/
def caseClasses (fill : Nat) : Nat → List SetElement → List Nat
  | _, [] => []
  | place, e :: rest =>
    let more := caseClasses fill (place + (e.bytes fill).length) rest
    match e with
    | .named "upper" | .named "lower" => place :: more
    | _ => more

/-- What is done with bytes by two sets, or what is wrong with them. -/
def Translation.ofSets (w : Wishes) (first second : List SetElement) (hasSecond : Bool) :
    Except String Translation := do
  let isFill := fun (e : SetElement) => e matches .repeated _ none
  if first.any isFill then throw "the [c*] repeat construct may not appear in string1"
  let translates := hasSecond && !w.deletes
  let set := bytesOfSet 0 first
  let source := if w.complement then allBytes.filter (!set.contains ·) else set
  if 1 < (second.filter isFill).length then
    throw "only one [c*] repeat construct may appear in string2"
  if !translates then
    if second.any isFill then
      throw "the [c*] construct may appear in string2 only when translating"
    let squeezed := if hasSecond then bytesOfSet 0 second else source
    return ⟨identity, if w.deletes then members source else members [],
      if w.squeezes then members squeezed else members []⟩
  if second.any (· matches .equals _) then
    throw "[=c=] expressions may not appear in string2 when translating"
  if second.any fun e => match e with
      | .named name => name != "upper" && name != "lower"
      | _ => false then
    throw ("when translating, the only character classes that may appear in\n"
      ++ "string2 are 'upper' and 'lower'")
  let goal := bytesOfSet source.length second
  if !w.complement then
    let fill := source.length - (bytesOfSet 0 second).length
    let own := caseClasses 0 0 first
    if (caseClasses fill 0 second).any fun place => !own.contains place then
      throw "misaligned [:upper:] and/or [:lower:] construct"
  if goal.length < source.length && !w.truncates then
    if goal.isEmpty then throw "when not truncating set1, string2 must be non-empty"
    if endsWithClass second then
      throw ("when translating with string1 longer than string2,\n"
        ++ "the latter string must not end with a character class")
  if w.complement && first.any (· matches .named _) && goal.eraseDups.length ≠ 1 then
    throw ("when translating with complemented character classes,\n"
      ++ "string2 must map all characters in the domain to one")
  let last := goal.getLastD '\x00'
  let source' := if w.truncates then source.take goal.length else source
  let pairs := source'.zip (goal ++ List.replicate (source'.length - goal.length) last)
  let target := pairs.foldl (fun (a : Array UInt8) (x, y) =>
    a.setIfInBounds x.toNat (UInt8.ofNat y.toNat)) identity
  return ⟨target, members [], if w.squeezes then members goal else members []⟩

/-- Translate some bytes behind the last one that was written. -/
def Translation.apply (t : Translation) (last : Option UInt8) (bytes : ByteArray) :
    Option UInt8 × ByteArray :=
  bytes.foldl (fun ((last : Option UInt8), (out : ByteArray)) x =>
    if t.deletes.getD x.toNat false then (last, out)
    else
      let y := t.target.getD x.toNat x
      if last == some y && t.squeezes.getD y.toNat false then (last, out)
      else (some y, out.push y)) (last, .empty)

/-- Translate the input. -/
def tr (arguments _environment : List Bytes) : Tool Unit := do
  let (c, sets) ← leadingOptions ["c|complement", "C", "d|delete", "s|squeeze-repeats",
    "t|truncate-set1"] arguments
  let w : Wishes := ⟨c.has "c" || c.has "C", c.has "d", c.has "s", c.has "t"⟩
  let least := if w.deletes == w.squeezes then 2 else 1
  let most := if w.deletes && !w.squeezes then 1 else 2
  let explain := fun (text : String) => do
    let _ ← writeTo 2 (text ++ "\n").toList
    pointToHelp
  match sets with
  | [] => missOperand
  | [a] =>
    if least = 2 then
      warn ("missing operand after ".toList ++ quoted a)
      explain (if w.squeezes
        then "Two strings must be given when both deleting and squeezing repeats."
        else "Two strings must be given when translating.")
  | _ =>
    if most < sets.length then
      warn ("extra operand ".toList ++ quoted (sets.getD most []))
      if sets.length = 2 then
        explain "Only one string may be given when deleting without squeezing repeats."
      else pointToHelp
  let parse := fun (text : Bytes) => do
    let (bytes, isOpen) := setBytes (text.length + 1) text
    if isOpen then
      warn "warning: an unescaped backslash at end of string is not portable".toList
    match setElements (bytes.length + 1) bytes with
    | .ok set => pure set
    | .error message => die message.toList
  let first ← parse (sets.headD [])
  let second ← match sets[1]? with
    | some text => parse text
    | none => pure []
  match Translation.ofSets w first second (1 < sets.length) with
  | .error message => die message.toList
  | .ok t =>
    let _ ← overPieces ['-'] (fun last piece => do
      let (last, out) := t.apply last piece
      if let .error e ← sys (Sys.writeBytes 1 out) then failToWrite e
      return last) none

end SyncFleet.Utility.Text

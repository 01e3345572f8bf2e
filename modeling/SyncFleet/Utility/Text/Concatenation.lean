/-
  SyncFleet/Utility/Text/Concatenation.lean
  =========================================
  **Files one after the other: as they are, made visible, or backwards.**
-/
import SyncFleet.Utility.Option

namespace SyncFleet.Utility.Text

open Unix Tool

/-! ### Making bytes visible -/

/-- How lines and bytes are shown. -/
structure Appearance where
  numbers : Bool
  /-- only lines that are not empty are numbered -/
  numbersText : Bool
  /-- of empty lines in a row only one is shown -/
  squeezes : Bool
  showsEnds : Bool
  showsTabs : Bool
  showsUnseen : Bool

/-- A byte below 128 as it is shown. -/
def visibleLow (c : Char) : Bytes :=
  if c.toNat < 32 then ['^', Char.ofNat (c.toNat + 64)]
  else if c.toNat = 127 then ['^', '?'] else [c]

/-- A byte as it is shown. -/
def visible (a : Appearance) (c : Char) : Bytes :=
  if c = '\t' then if a.showsTabs then ['^', 'I'] else [c]
  else if !a.showsUnseen then [c]
  else if 128 ≤ c.toNat then 'M' :: '-' :: visibleLow (Char.ofNat (c.toNat - 128))
  else visibleLow c

/-- Where one is in the lines of the files. -/
structure Place where
  number : Nat
  /-- how many line feeds stand behind one, from the second on; none within a line -/
  feeds : Option Nat
  /-- whether a carriage return has not been shown yet -/
  holdsReturn : Bool

/-- The number of a line. -/
def lineNumber (n : Nat) : Bytes := padLeft 6 ' ' (decimal n) ++ ['\t']

/-- Show a byte. -/
def showByte (a : Appearance) (p : Place) (c : Char) : Place × Bytes :=
  if c = '\n' then
    let feeds := match p.feeds with
      | none => 0
      | some n => n + 1
    if a.squeezes && 2 ≤ feeds then ({ p with feeds := some 2, holdsReturn := false }, [])
    else
      let counts := 0 < feeds && a.numbers && !a.numbersText
      ({ p with
          number := if counts then p.number + 1 else p.number
          feeds := some feeds, holdsReturn := false },
        (if counts then lineNumber p.number else [])
          ++ (if p.holdsReturn then if a.showsEnds then ['^', 'M'] else ['\r'] else [])
          ++ (if a.showsEnds then ['$', '\n'] else ['\n']))
  else
    let counts := p.feeds.isSome && a.numbers
    let holds := c = '\r' && a.showsEnds && !a.showsUnseen
    ({ p with
        number := if counts then p.number + 1 else p.number
        feeds := none, holdsReturn := holds },
      (if p.holdsReturn then ['\r'] else []) ++ (if counts then lineNumber p.number else [])
        ++ (if holds then [] else visible a c))

/-- Whether a file that is read is the one that is written, which would never end. -/
def feedsItself (source : Nat) : Op Bool := do
  let s ← get
  match s.openFile? source, s.openFile? 1 with
  | some (_, f), some (_, g) =>
    let t := s.status f.inode
    return t.isFile && f.inode = g.inode
      && f.position < (if g.appends then t.size else g.position)
  | _, _ => return false

/-- Copy a file to the output as it is, or shown as asked for. -/
def catFile (appearance : Option Appearance) (p : Place) (name : Bytes) : Tool Place := do
  match ← openInput name with
  | none => return p
  | some (n, closes) =>
    let p ← if let .ok true ← request (feedsItself n) then do
        complain (shown name ++ ": input file is output file".toList)
        pure p
      else match appearance with
        | none => piecesFrom name n (fun p piece => do
            if let .error e ← sys (Sys.writeBytes 1 piece) then failToWrite e
            return p) mostPieces p
        | some a => piecesFrom name n (fun p piece => do
            let (p, out) := piece.foldl (fun ((p : Place), (out : List Bytes)) x =>
              let (p, text) := showByte a p (Char.ofNat x.toNat)
              (p, text :: out)) (p, [])
            put out.reverse.flatten
            return p) mostPieces p
    if closes then ask (Op.close n)
    return p

/-- Copy files to the output. -/
def cat (arguments _environment : List Bytes) : Tool Unit := do
  let (c, names) ← options ["A|show-all", "b|number-nonblank", "e", "n|number", "s|squeeze-blank",
    "t", "u", "v|show-nonprinting", "E|show-ends", "T|show-tabs"] arguments
  let showsUnseen := c.has "A" || c.has "e" || c.has "t" || c.has "v"
  let a : Appearance := ⟨c.has "n" || c.has "b", c.has "b", c.has "s",
    c.has "A" || c.has "e" || c.has "E", c.has "A" || c.has "t" || c.has "T", showsUnseen⟩
  let isPlain := !(a.numbers || a.squeezes || a.showsEnds || a.showsTabs || a.showsUnseen)
  if let .error e ← request (Op.statusOf 1) then dieOf "standard output".toList e
  let mut p : Place := ⟨1, some 0, false⟩
  for name in if names.isEmpty then [['-']] else names do
    p ← catFile (if isPlain then none else some a) p name
  if p.holdsReturn then put ['\r']

/-! ### Backwards -/

/-- The parts of a text behind every occurrence of a separator, or in front of each.  Parts come in
    reverse, and so do the bytes of the one that is being put together. -/
def partsBy (separator : Bytes) (isBefore : Bool) :
    Nat → Bytes → Bytes → List Bytes → List Bytes
  | 0, _, _, done => done
  | _, [], part, done => if part.isEmpty then done else part.reverse :: done
  | fuel + 1, c :: rest, part, done =>
    if separator.isPrefixOf (c :: rest) then
      let rest := (c :: rest).drop separator.length
      if isBefore then
        partsBy separator isBefore fuel rest separator.reverse
          (if part.isEmpty then done else part.reverse :: done)
      else partsBy separator isBefore fuel rest [] ((part.reverse ++ separator) :: done)
    else partsBy separator isBefore fuel rest (c :: part) done

/-- A text with its parts in reverse order. -/
def backwards (separator : Bytes) (isBefore : Bool) (text : Bytes) : Bytes :=
  (partsBy separator isBefore (text.length + 1) text [] []).flatten

/-- Write files with their lines in reverse order. -/
def tac (arguments _environment : List Bytes) : Tool Unit := do
  let (c, names) ← options ["b|before", "r|regex", "s|separator="] arguments
  let separator := match c.value? "s" with
    | some [] => ['\x00']
    | some s => s
    | none => ['\n']
  for name in if names.isEmpty then [['-']] else names do
    let opened ← if name = ['-'] then pure (.ok 0) else sys (Sys.openFile name .toRead 0)
    match opened with
    | .error e => complain ("failed to open ".toList ++ inQuotes name ++ " for reading: ".toList
        ++ e.message.toList)
    | .ok n =>
      match ← sys (Sys.readAll n) with
      | .ok bytes => put (backwards separator (c.has "b") (Bytes.ofByteArray bytes))
      | .error _ => complain (shown name ++ ": read error: Invalid argument".toList)
      if name ≠ ['-'] then ask (Op.close n)

end SyncFleet.Utility.Text

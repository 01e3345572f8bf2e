/-
  SyncFleet/Utility/Text/Dump.lean
  ================================
  **Bytes shown as numbers and characters.**
-/
import SyncFleet.Unix.Floating
import SyncFleet.Utility.Amount
import SyncFleet.Utility.Option

namespace SyncFleet.Utility.Text

open Unix Tool

/-! ### Ways to show bytes -/

/-- What the bytes of a field are shown as. -/
inductive FieldKind where
  | name
  | character
  | signed
  | unsigned
  | octal
  | hexadecimal
  | floating
deriving DecidableEq, Repr

/-- A way to show bytes: what they are, how many make a field, and whether printable ones are shown
    behind. -/
structure Show where
  kind : FieldKind
  size : Nat
  hasTrailer : Bool := false
deriving DecidableEq, Repr

/-- How wide a field is. -/
def Show.width (s : Show) : Nat :=
  match s.kind with
  | .name | .character => 3
  | .signed => (decimal (Nat.pow 2 (8 * s.size - 1))).length + 1
  | .unsigned => (decimal (Nat.pow 2 (8 * s.size) - 1)).length
  | .octal => (8 * s.size + 2) / 3
  | .hexadecimal => 2 * s.size
  | .floating => if s.size = 4 then 15 else if s.size = 8 then 24 else 45

/-- The names of bytes that cannot be seen. -/
def byteNames : List String :=
  ["nul", "soh", "stx", "etx", "eot", "enq", "ack", "bel", "bs", "ht", "nl", "vt", "ff", "cr",
    "so", "si", "dle", "dc1", "dc2", "dc3", "dc4", "nak", "syn", "etb", "can", "em", "sub", "esc",
    "fs", "gs", "rs", "us", "sp"]

/-- The format of floating-point numbers of a size. -/
def formatOfSize (size : Nat) : FloatFormat :=
  if size = 4 then ⟨24, -149, 128⟩ else if size = 8 then doubleFormat else extendedFormat

/-- The floating-point number of some bits. -/
def floatingOfBits (size n : Nat) : Floating :=
  let format := formatOfSize size
  let stored := if size = 16 then 64 else format.bits - 1
  let exponentBits := if size = 4 then 8 else if size = 8 then 11 else 15
  let fraction := n % Nat.pow 2 stored
  let exponent := n / Nat.pow 2 stored % Nat.pow 2 exponentBits
  let isNegative := n / Nat.pow 2 (stored + exponentBits) % 2 = 1
  let most := Nat.pow 2 exponentBits - 1
  let lead := if size = 16 then 0 else Nat.pow 2 stored
  ⟨isNegative,
    if exponent = most then
      if fraction % Nat.pow 2 (format.bits - 1) = 0 then .infinite else .notANumber
    else if exponent = 0 then .finite fraction format.least
    else .finite (lead + fraction) (format.least + exponent - 1)⟩

/-- The shortest text of a finite number that leads back to it, of at least some digits that
    count. -/
def shortest (format : FloatFormat) (whole : Nat) (power : Int) (least most : Nat) : Bytes :=
  let same := fun (digits : Nat) =>
    let text := Floating.general whole power digits false
    let (x, _, _) := Floating.read format text
    x.quotient?.any fun (a, b) =>
      let (c, d) := if 0 ≤ power then (whole * Nat.pow 2 power.toNat, 1)
        else (whole, Nat.pow 2 (-power).toNat)
      a * d = (c : Int) * b
  let digits := ((List.range (most - least)).map (least + ·)).find? same
  Floating.general whole power (digits.getD most) false

/-- The text of a floating-point number of a size. -/
def floatingText (size : Nat) (x : Floating) : Bytes :=
  let format := formatOfSize size
  (if x.isNegative then ['-'] else []) ++ match x.magnitude with
    | .infinite => "inf".toList
    | .notANumber => "nan".toList
    | .finite whole power =>
      if whole = 0 then ['0']
      else
        let isSmall := Floating.bitLength whole < format.bits
        let (least, most) := if size = 4 then (6, 9) else if size = 8 then (15, 17) else (18, 21)
        shortest format whole power (if isSmall then 1 else least) most

/-- The text of a field. -/
def Show.text (s : Show) (n : Nat) : Bytes :=
  match s.kind with
  | .name =>
    let c := n % 128
    if c = 127 then "del".toList
    else match byteNames[c]? with
      | some name => name.toList
      | none => [Char.ofNat c]
  | .character =>
    match Char.ofNat n with
    | '\x00' => "\\0".toList
    | c =>
      match escapeLetter? c with
      | some x => ['\\', x]
      | none => if isPrint c then [c] else padLeft 3 '0' (Unix.octal n)
  | .signed =>
    let half := Nat.pow 2 (8 * s.size - 1)
    integer (if n < half then (n : Int) else (n : Int) - 2 * half)
  | .unsigned => decimal n
  | .octal => padLeft s.width '0' (Unix.octal n)
  | .hexadecimal => padLeft s.width '0' (Nat.toDigits 16 n)
  | .floating => floatingText s.size (floatingOfBits s.size n)

/-! ### Reading the ways -/

/-- The size at the start of a text, as a letter or a number. -/
def sizeAt (isFloating : Bool) (text : Bytes) : Nat × Bytes :=
  let letter : Option Nat := match text.head?, isFloating with
    | some 'C', false => some 1
    | some 'S', false => some 2
    | some 'I', false => some 4
    | some 'L', false => some 8
    | some 'F', true => some 4
    | some 'D', true => some 8
    | some 'L', true => some 16
    | _, _ => none
  match letter with
  | some n => (n, text.drop 1)
  | none =>
    match digitsAt 10 text with
    | (_, 0, rest) => (if isFloating then 8 else 4, rest)
    | (n, _, rest) => (n, rest)

/-- The ways that a text describes, of at most `fuel`. -/
def showsOf (all : Bytes) : Nat → Bytes → Tool (List Show)
  | 0, _ => return []
  | _, [] => return []
  | fuel + 1, c :: rest => do
    let kind : Option FieldKind := match c with
      | 'a' => some .name
      | 'c' => some .character
      | 'd' => some .signed
      | 'u' => some .unsigned
      | 'o' => some .octal
      | 'x' => some .hexadecimal
      | 'f' => some .floating
      | _ => none
    match kind with
    | none => die ("invalid character '".toList ++ c :: "' in type string ".toList ++ quoted all)
    | some kind =>
      let (size, rest) := if kind = .name || kind = .character then (1, rest)
        else sizeAt (kind = .floating) rest
      let sizes := if kind = .floating then [4, 8, 16] else [1, 2, 4, 8]
      if !sizes.contains size then
        warn ("invalid type string ".toList ++ quoted all ++ ";".toList)
        let _ ← writeTo 2 ("this system doesn't provide a ".toList ++ decimal size
          ++ (if kind = .floating then "-byte floating point type\n" else
            "-byte integral type\n").toList)
        stop 1
      let hasTrailer := rest.head? = some 'z'
      let rest := if hasTrailer then rest.drop 1 else rest
      return ⟨kind, size, hasTrailer⟩ :: (← showsOf all fuel rest)

/-- The types that letters stand for. -/
def oldTypes : List (String × String) :=
  [("a", "a"), ("b", "o1"), ("c", "c"), ("d", "u2"), ("e", "fD"), ("f", "fF"), ("F", "fD"),
    ("h", "x2"), ("i", "dI"), ("l", "dL"), ("o", "o2"), ("s", "d2"), ("x", "x2"), ("B", "o2"),
    ("D", "u4"), ("H", "x4"), ("I", "dL"), ("L", "dL"), ("O", "o4"), ("X", "x4")]

/-! ### Blocks -/

/-- How bytes are dumped. -/
structure Dump where
  shows : List Show
  /-- the base of addresses; none are written if it is zero -/
  base : Nat
  blockSize : Nat
  showsAll : Bool
  isBig : Bool

/-- An address. -/
def Dump.address (k : Dump) (n : Nat) : Bytes :=
  match k.base with
  | 0 => []
  | 10 => padLeft 7 '0' (decimal n)
  | 16 => padLeft 6 '0' (Nat.toDigits 16 n)
  | _ => padLeft 7 '0' (Unix.octal n)

/-- The widest row of a block. -/
def Dump.widest (k : Dump) : Nat :=
  k.shows.foldl (fun n s => max n ((s.width + 1) * (k.blockSize / s.size))) 0

/-- The number of some bytes. -/
def Dump.number (k : Dump) (bytes : Bytes) : Nat :=
  (if k.isBig then bytes else bytes.reverse).foldl (fun n c => 256 * n + c.toNat) 0

/-- A row of a block. -/
def Dump.row (k : Dump) (s : Show) (block : Bytes) : Bytes :=
  let fields := k.blockSize / s.size
  let blank := (k.blockSize - block.length) / s.size
  let pad := k.widest - s.width * fields
  let filled := block ++ List.replicate (k.blockSize - block.length) '\x00'
  let cells := (List.range (fields - blank)).map fun j =>
    let i := fields - j
    let before := if j = 0 then pad else pad * i / fields
    let width := before - pad * (i - 1) / fields + s.width
    let bytes := (filled.drop (j * s.size)).take s.size
    padLeft width ' ' (s.text (k.number bytes))
  let trailer := if !s.hasTrailer then []
    else List.replicate (blank * s.width + pad * blank / fields) ' ' ++ "  >".toList
      ++ block.map (fun c => if isPrint c then c else '.') ++ ['<']
  cells.flatten ++ trailer

/-- The rows of a block. -/
def Dump.block (k : Dump) (position : Nat) (block : Bytes) : Bytes :=
  (k.shows.zipIdx.map fun (s, i) =>
    let address := k.address position
    (if i = 0 then address else List.replicate address.length ' ') ++ k.row s block ++ ['\n']).flatten

/-- How far dumping has come. -/
structure DumpState where
  position : Nat
  /-- bytes that make no block yet -/
  left : Bytes
  last : Option Bytes
  /-- whether the last block was left out -/
  isSame : Bool

/-- Show whole blocks, at most `fuel`. -/
def Dump.blocks (k : Dump) : Nat → DumpState → Tool DumpState
  | 0, s => return s
  | fuel + 1, s => do
    let block := s.left.take k.blockSize
    if block.length < k.blockSize then return s
    let isSame : Bool := !k.showsAll && s.last = some block
    if !isSame then put (k.block s.position block)
    else if !s.isSame then putLine ['*']
    k.blocks fuel ⟨s.position + k.blockSize, s.left.drop k.blockSize, some block, isSame⟩

/-- Texts of at least some printable bytes with a null character behind them, with their places. -/
def textsIn (least : Nat) : Nat → Nat → Bytes → Nat → List Char → List (Nat × Bytes)
  | _, _, _, _, [] => []
  | base, place, part, count, c :: rest =>
    if isPrint c then textsIn least base (place + 1) (c :: part) (count + 1) rest
    else
      let found := if c = '\x00' && least ≤ count then [(place - count, part.reverse)] else []
      found ++ textsIn least base (place + 1) [] 0 rest

/-- The place from which a text is shown, as it was written once. -/
def oldOffset? (text : Bytes) : Option Nat :=
  let text := if text.head? = some '+' then text.drop 1 else text
  let (text, unit) := if text.getLast? = some 'b' then (text.dropLast, 512) else (text, 1)
  let (base, digits) : Nat × Bytes :=
    if text.getLast? = some '.' then (10, text.dropLast)
    else match text with
      | '0' :: 'x' :: ds => (16, ds)
      | 'x' :: ds => (16, ds)
      | ds => (8, ds)
  match digitsAt base digits with
  | (n, _ + 1, []) => some (n * unit)
  | _ => none

/-- Leave out bytes of files: the files that are left, opened, and how many bytes are missing. -/
def skipFiles : List Bytes → Nat → Tool (Nat × List Bytes × ByteArray)
  | [], n => return (n, [], .empty)
  | name :: rest, n => do
    match ← content? name with
    | none => skipFiles rest n
    | some bytes =>
      if bytes.size < n || (bytes.size = n && !rest.isEmpty) then skipFiles rest (n - bytes.size)
      else return (0, rest, bytes.extract n bytes.size)

/-- Show the bytes of files. -/
def od (arguments _environment : List Bytes) : Tool Unit := do
  let (c, operands) ← options (["A|address-radix=", "endian=", "j|skip-bytes=", "N|read-bytes=",
    "S", "strings?", "t|format=", "v|output-duplicates", "w?", "width?", "traditional"]
    ++ oldTypes.map Prod.fst) arguments
  let count := fun (letter : String) => do
    match c.value? letter with
    | none => return none
    | some text =>
      let (base, digits) : Nat × Bytes := match text with
        | '0' :: 'x' :: ds => (16, ds)
        | '0' :: 'X' :: ds => (16, ds)
        | '0' :: d :: ds => if d.isDigit then (8, d :: ds) else (10, text)
        | ds => (10, ds)
      let (n, k, unit) := digitsAt base digits
      match (if k = 0 then none else unitOf? "bkKmMGTPEZYRQ0B".toList unit) with
      | some u => return some (n * (if unit = ['B'] then 1 else u))
      | none => die (("invalid -" ++ letter ++ " argument ").toList ++ quoted text)
  let base ← match c.value? "A" with
    | none => pure 8
    | some ['d'] => pure 10
    | some ['o'] => pure 8
    | some ['x'] => pure 16
    | some ['n'] => pure 0
    | some text =>
      die ("invalid output address radix ".toList ++ quoted text
        ++ "; it must be one character from [doxn]".toList)
  let isBig ← match c.value? "endian" with
    | none => pure false
    | some word => do pure ((← choice "--endian" [["little"], ["big"]] word) = "big")
  let skip ← count "j"
  let limit ← count "N"
  let mut shows := []
  for (key, v) in c.options do
    if key = "t" then shows := shows ++ (← showsOf (v.getD []) ((v.getD []).length + 1) (v.getD []))
    else if let some text := oldTypes.lookup key then
      shows := shows ++ (← showsOf text.toList (text.length + 1) text.toList)
  let isModern := ["A", "j", "N", "t", "v", "S", "strings", "w", "width"].any c.has
  let (operands, skip) := match isModern, operands with
    | false, [one] =>
      match (if one.head? = some '+' then oldOffset? one else none) with
      | some n => ([], some n)
      | none => ([one], skip)
    | false, [one, two] =>
      match (if two.head?.any fun c => c = '+' || c.isDigit then oldOffset? two else none) with
      | some n => ([one], some n)
      | none => ([one, two], skip)
    | _, operands => (operands, skip)
  let ways : List Show := if shows.isEmpty then [⟨.octal, 2, false⟩] else shows
  let multiple := ways.foldl (fun n s => Nat.lcm n s.size) 1
  let usual := if multiple < 16 then multiple * (16 / multiple) else multiple
  let blockSize ← if !(c.has "w" || c.has "width") then pure usual
    else match (c.value? "w").orElse fun _ => c.value? "width" with
      | none => pure 32
      | some text =>
        match natOf? text with
        | some n =>
          if 0 < n && n % multiple = 0 then pure n
          else do
            warn ("warning: invalid width ".toList ++ decimal n ++ "; using ".toList
              ++ decimal multiple ++ " instead".toList)
            pure multiple
        | none => die ("invalid -w argument ".toList ++ quoted text)
  let k : Dump := ⟨ways, base, blockSize, c.has "v", isBig⟩
  let names := if operands.isEmpty then [['-']] else operands
  let (names, first) ← match skip with
    | none | some 0 => pure (names, ByteArray.empty)
    | some n => do
      let (missing, rest, bytes) ← skipFiles names n
      if 0 < missing then die "cannot skip past end of combined input".toList
      pure (rest, bytes)
  let start := skip.getD 0
  if c.has "S" || c.has "strings" then
    let least := ((c.value? "strings").bind natOf?).getD 3
    let all ← names.foldlM (fun (all : ByteArray) name => do
      return all ++ ((← content? name).getD .empty)) first
    let text := Bytes.ofByteArray (all.extract 0 (limit.getD all.size))
    for (place, found) in textsIn least 0 start [] 0 text do
      putLine (k.address place ++ (if base = 0 then [] else [' ']) ++ found)
  else
    let s : DumpState := ⟨start, [], none, false⟩
    let step := fun ((s : DumpState), (left : Option Nat)) (piece : ByteArray) => do
      let piece := match left with
        | some n => piece.extract 0 n
        | none => piece
      let s := { s with left := s.left ++ Bytes.ofByteArray piece }
      return (← k.blocks (s.left.length + 1) s, left.map (· - piece.size))
    let (s, left) ← step (s, limit) first
    let mut s := s
    let mut left := left
    for name in names do
      match left with
      | some 0 => pure ()
      | some n =>
        if let some (d, closes) ← openInput name then
          let (new, rest) ← limited name d step n s n
          s := new
          left := some rest
          if closes then ask (Op.close d)
      | none =>
        let ((new, _), _) ← overPieces name step (s, none)
        s := new
    if !s.left.isEmpty then put (k.block s.position s.left)
    if base ≠ 0 then putLine (k.address (s.position + s.left.length))
where
  /-- Go through at most some bytes of a file, in at most `fuel` pieces. -/
  limited (name : Bytes) (d : Nat)
      (step : DumpState × Option Nat → ByteArray → Tool (DumpState × Option Nat)) :
      Nat → DumpState → Nat → Tool (DumpState × Nat)
    | 0, s, n => return (s, n)
    | _, s, 0 => return (s, 0)
    | fuel + 1, s, n => do
      match ← sys (Sys.read d (min n 0x8000)) with
      | .error e =>
        complainOf (shown name) e
        return (s, n)
      | .ok piece =>
        if piece.isEmpty then return (s, n)
        let (s, left) ← step (s, some n) piece
        limited name d step fuel s (left.getD 0)

end SyncFleet.Utility.Text

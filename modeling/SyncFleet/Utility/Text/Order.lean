/-
  SyncFleet/Utility/Text/Order.lean
  =================================
  **Lines in order.**

  Lines are compared by keys, one after the other, and by all their bytes if
  no key tells them apart.  A key is a part of a line and a method by which
  such parts are compared.
-/
import SyncFleet.Unix.Floating
import SyncFleet.Utility.Amount
import SyncFleet.Utility.LineSource
import SyncFleet.Utility.Option
import SyncFleet.Utility.Text.Neighbour
import SyncFleet.Utility.Text.Version

namespace SyncFleet.Utility.Text

open Unix Tool

/-! ### Keys -/

/-- How parts of lines are compared: letters, of which some exclude each other. -/
structure KeyOrdering where
  letters : Bytes
  skipsStart : Bool
  skipsEnd : Bool
deriving Repr

namespace KeyOrdering

/-- No letters. -/
def plain : KeyOrdering := ⟨[], false, false⟩

/-- Whether a letter is given. -/
def has (o : KeyOrdering) (c : Char) : Bool := o.letters.contains c

/-- Whether nothing is said but perhaps that lines come in reverse. -/
def isPlain (o : KeyOrdering) : Bool := o.letters.all (· == 'r') && !o.skipsStart && !o.skipsEnd

/-- Add a letter. -/
def add (o : KeyOrdering) (c : Char) : KeyOrdering :=
  if o.has c || (c = 'i' && o.has 'd') then o
  else if c = 'd' then { o with letters := o.letters.filter (· != 'i') ++ [c] }
  else { o with letters := o.letters ++ [c] }

/-- The letters that exclude each other, if there are too many. -/
def conflict? (o : KeyOrdering) : Option Bytes :=
  let methods := "ghMnRV".toList.filter o.has
  let sorted := ("dfghiMnRV".toList).filter o.has
  let ignores := o.has 'd' || o.has 'i'
  let versions := o.has 'V' || o.has 'R' || ignores
  let others := (methods.filter fun c => c != 'V' && c != 'R').length
  if 1 < others + (if versions then 1 else 0) then some sorted else none

end KeyOrdering

/-- The letters by which lines are compared. -/
def orderLetters : Bytes := "dfghiMnRrV".toList

/-- A part of lines, and how it is compared.  Fields and bytes count from zero; the part ends with a
    field, or with some bytes of it. -/
structure SortKey where
  firstField : Nat
  firstByte : Nat
  lastField : Option Nat
  lastByte : Nat
  ordering : KeyOrdering
deriving Repr

/-- What stands between fields, if not blanks. -/
abbrev Tab := Option Char

/-- How many bytes some fields take, up to the next one. -/
def fieldsLength (tab : Tab) : Nat → Bytes → Nat
  | 0, _ => 0
  | _, [] => 0
  | n + 1, text =>
    let length := match tab with
      | some tab => min text.length ((text.takeWhile (· != tab)).length + 1)
      | none =>
        let blanks := (text.takeWhile isBetweenFields).length
        blanks + ((text.drop blanks).takeWhile (!isBetweenFields ·)).length
    length + fieldsLength tab n (text.drop length)

/-- How many blanks a text begins with. -/
def blanksAt (text : Bytes) : Nat := (text.takeWhile isBetweenFields).length

/-- Where a key begins in a line. -/
def SortKey.start (k : SortKey) (tab : Tab) (line : Bytes) : Nat :=
  let n := fieldsLength tab k.firstField line
  let n := if k.ordering.skipsStart then n + blanksAt (line.drop n) else n
  min line.length (n + k.firstByte)

/-- Where a key ends in a line. -/
def SortKey.stop (k : SortKey) (tab : Tab) (line : Bytes) : Nat :=
  match k.lastField with
  | none => line.length
  | some field =>
    if k.lastByte = 0 then
      let n := fieldsLength tab (field + 1) line
      match tab with
      | some tab =>
        if fieldsLength (some tab) field line < n && (line.drop (n - 1)).head? = some tab then n - 1
        else n
      | none => n
    else
      let n := fieldsLength tab field line
      let n := if k.ordering.skipsEnd then n + blanksAt (line.drop n) else n
      min line.length (n + k.lastByte)

/-- The part of a line that a key stands for, without what does not count. -/
def SortKey.part (k : SortKey) (tab : Tab) (line : Bytes) : Bytes :=
  let start := k.start tab line
  let text := (line.drop start).take (k.stop tab line - start)
  let text := if k.ordering.has 'd' then text.filter fun c => isBetweenFields c || c.isAlphanum
    else if k.ordering.has 'i' then text.filter isPrint else text
  if k.ordering.has 'f' then text.map Char.toUpper else text

/-! ### Methods -/

/-- A decimal numeral: whether it is below zero, its digits without a point, and how many of them
    stand behind it. -/
structure Numeral where
  isNegative : Bool
  digits : Nat
  places : Nat
deriving Repr

/-- The numeral at the start of a text, which stands for zero if there is none, and what is behind
    it. -/
def numeralAt (text : Bytes) : Numeral × Bytes :=
  let text := text.dropWhile isBetweenFields
  let (isNegative, text) := match text with
    | '-' :: rest => (true, rest)
    | text => (false, text)
  let (whole, _, rest) := digitsAt 10 text
  match rest with
  | '.' :: more =>
    let (part, n, rest) := digitsAt 10 more
    (⟨isNegative, whole * Nat.pow 10 n + part, n⟩, rest)
  | rest => (⟨isNegative, whole, 0⟩, rest)

/-- The order of two numerals by their values. -/
def compareNumerals (a b : Numeral) : Ordering :=
  let value := fun (x y : Numeral) =>
    let n : Int := x.digits * Nat.pow 10 y.places
    if x.isNegative then -n else n
  compareInt (value a b) (value b a)

/-- The size of the unit behind a numeral. -/
def unitRank (text : Bytes) : Int :=
  let (n, rest) := numeralAt text
  if n.digits = 0 then 0
  else match rest.head?.bind unitPower? with
    | some p => if n.isNegative then -(p : Int) else p
    | none => 0

/-- The months. -/
def monthNames : List String :=
  ["JAN", "FEB", "MAR", "APR", "MAY", "JUN", "JUL", "AUG", "SEP", "OCT", "NOV", "DEC"]

/-- The number of the month that a text begins with; zero if there is none. -/
def monthOf (text : Bytes) : Nat :=
  let word := ((text.dropWhile isBetweenFields).take 3).map Char.toUpper
  match monthNames.findIdx? (·.toList = word) with
  | some i => i + 1
  | none => 0

/-- A number of a text without a meaning. -/
def scrambled (text : Bytes) : Nat :=
  let h := text.foldl (fun h c => (h * 1099511628211 + c.toNat + 77) % UInt64.size) 14695981039346656
  (h / 65536 * 6364136223846793005 + h) % UInt64.size / 1024

/-- The order of two texts that begin with floating-point numbers; texts that do not come first, and
    then those that are no numbers. -/
def compareFloating (a b : Bytes) : Ordering :=
  let rank := fun (text : Bytes) =>
    let (x, rest, _) := Floating.read extendedFormat text
    if rest.length = text.length then (0, x)
    else if x.magnitude = Magnitude.notANumber then (1, x) else (2, x)
  let (i, x) := rank a
  let (j, y) := rank b
  if i < j then .lt else if j < i then .gt
  else if i < 2 then .eq
  else if x.less y then .lt else if y.less x then .gt else .eq

/-- The order of two parts of lines. -/
def KeyOrdering.compare (o : KeyOrdering) (a b : Bytes) : Ordering :=
  if o.has 'n' then compareNumerals (numeralAt a).1 (numeralAt b).1
  else if o.has 'h' then
    match compareInt (unitRank a) (unitRank b) with
    | .eq => compareNumerals (numeralAt a).1 (numeralAt b).1
    | o => o
  else if o.has 'g' then compareFloating a b
  else if o.has 'M' then compareInt (monthOf a) (monthOf b)
  else if o.has 'R' then
    match compareInt (scrambled a) (scrambled b) with
    | .eq => compareBytes a b
    | o => o
  else if o.has 'V' then compareVersions a b
  else compareBytes a b

/-! ### Sorting -/

/-- How lines are sorted. -/
structure Sorting where
  keys : List SortKey
  tab : Tab
  isReverse : Bool
  /-- equal lines are only written once -/
  isUnique : Bool
  /-- lines with equal keys keep their order -/
  isStable : Bool
  stop : Char

/-- The opposite order. -/
def opposite : Ordering → Ordering
  | .lt => .gt
  | .eq => .eq
  | .gt => .lt

/-- A line with the parts that its keys stand for. -/
abbrev Keyed := Bytes × List Bytes

namespace Sorting

/-- A line with its parts. -/
def keyed (s : Sorting) (line : Bytes) : Keyed := (line, s.keys.map fun k => k.part s.tab line)

/-- The order of two lines by the parts of some keys. -/
def compareParts : List SortKey → List Bytes → List Bytes → Ordering
  | k :: ks, a :: as, b :: bs =>
    match k.ordering.compare a b with
    | .eq => compareParts ks as bs
    | o => if k.ordering.has 'r' then opposite o else o
  | _, _, _ => .eq

/-- The order of two lines. -/
def compare (s : Sorting) (a b : Keyed) : Ordering :=
  let o := compareParts s.keys a.2 b.2
  if o ≠ .eq || (!s.keys.isEmpty && (s.isUnique || s.isStable)) then o
  else
    let o := compareBytes a.1 b.1
    if s.isReverse then opposite o else o

/-- Lines of which each is followed by a different one. -/
def withoutRepeats (s : Sorting) : List Keyed → List Keyed
  | a :: b :: rest =>
    match withoutRepeats s (b :: rest) with
    | c :: more => if s.compare a c = .eq then a :: more else a :: c :: more
    | [] => [a]
  | lines => lines

/-- Lines in order. -/
def sorted (s : Sorting) (lines : List Bytes) : List Bytes :=
  let lines := (lines.map s.keyed).mergeSort fun a b => s.compare a b ≠ .gt
  (if s.isUnique then s.withoutRepeats lines else lines).map Prod.fst

/-- Put two rows of lines together, always taking the lesser of the first ones. -/
def merge2 (s : Sorting) : Nat → List Keyed → List Keyed → List Keyed → List Keyed
  | 0, _, _, done => done.reverse
  | _, [], bs, done => done.reverseAux bs
  | _, as, [], done => done.reverseAux as
  | fuel + 1, a :: as, b :: bs, done =>
    if s.compare a b ≠ .gt then s.merge2 fuel as (b :: bs) (a :: done)
    else s.merge2 fuel (a :: as) bs (b :: done)

/-- Put rows of lines together. -/
def merged (s : Sorting) (rows : List (List Bytes)) : List Bytes :=
  let lines := (rows.map (·.map s.keyed)).foldl (fun all row =>
    s.merge2 (all.length + row.length + 1) all row []) []
  (if s.isUnique then s.withoutRepeats lines else lines).map Prod.fst

/-- The first line that is out of order, with its number. -/
def disorder? (s : Sorting) : Nat → Keyed → List Bytes → Option (Nat × Bytes)
  | _, _, [] => none
  | n, last, line :: rest =>
    let line := s.keyed line
    let o := s.compare last line
    if o = .gt || (s.isUnique && o = .eq) then some (n, line.1)
    else s.disorder? (n + 1) line rest

end Sorting

/-! ### Reading keys -/

/-- What is wrong with the description of a key. -/
abbrev Misfit := String × Option Bytes

/-- A number of a description. -/
def keyNumber (label : String) (text : Bytes) : Except Misfit (Nat × Bytes) :=
  let start := text.dropWhile isSpace
  let start := if start.head? = some '+' then start.drop 1 else start
  match digitsAt 10 start with
  | (_, 0, _) => .error (label, some text)
  | (n, _, rest) => .ok (min n greatestNatural, rest)

/-- Read letters onto an ordering; a blank that is skipped belongs to one end or to both. -/
def orderingAt (start stop : Bool) : Bytes → KeyOrdering → KeyOrdering × Bytes
  | [], o => (o, [])
  | c :: rest, o =>
    if c = 'b' then
      orderingAt start stop rest
        { o with skipsStart := o.skipsStart || start, skipsEnd := o.skipsEnd || stop }
    else if orderLetters.contains c then orderingAt start stop rest (o.add c)
    else (o, c :: rest)

/-- The key that a text describes. -/
def sortKeyOf (text : Bytes) : Except Misfit SortKey := do
  let (first, rest) ← keyNumber "invalid number at field start" text
  if first = 0 then throw ("field number is zero", none)
  let (firstByte, rest) ← match rest with
    | '.' :: more => do
      let (n, rest) ← keyNumber "invalid number after '.'" more
      if n = 0 then throw ("character offset is zero", none)
      pure (n - 1, rest)
    | rest => pure (0, rest)
  let (o, rest) := orderingAt true false rest .plain
  let stray : Misfit := ("stray character in field spec", none)
  match rest with
  | [] => return ⟨first - 1, firstByte, none, 0, o⟩
  | ',' :: more => do
    let (last, rest) ← keyNumber "invalid number after ','" more
    if last = 0 then throw ("field number is zero", none)
    let (lastByte, rest) ← match rest with
      | '.' :: more => keyNumber "invalid number after '.'" more
      | rest => pure (0, rest)
    let (o, rest) := orderingAt false true rest o
    if !rest.isEmpty then throw stray
    return ⟨first - 1, firstByte, some (last - 1), lastByte, o⟩
  | _ => throw stray

/-- The names of methods and their letters. -/
def sortMethods : List (String × Char) :=
  [("general-numeric", 'g'), ("human-numeric", 'h'), ("month", 'M'), ("numeric", 'n'),
    ("random", 'R'), ("version", 'V')]

/-- Sort the lines of files. -/
def sort (arguments _environment : List Bytes) : Tool Unit := do
  let (c, names) ← options ["b|ignore-leading-blanks", "c", "C", "check?", "d|dictionary-order",
    "f|ignore-case", "g|general-numeric-sort", "h|human-numeric-sort", "i|ignore-nonprinting",
    "k|key=", "m|merge", "M|month-sort", "n|numeric-sort", "o|output=", "r|reverse",
    "R|random-sort", "s|stable", "S|buffer-size=", "t|field-separator=", "T|temporary-directory=",
    "u|unique", "V|version-sort", "z|zero-terminated", "sort=", "parallel=", "batch-size=",
    "compress-program=", "debug", "files0-from=", "random-source="] arguments
  let mut overall := KeyOrdering.plain
  let mut keys := []
  let mut tab : Tab := none
  for (key, v) in c.options do
    let text := v.getD []
    if key = "b" then overall := { overall with skipsStart := true, skipsEnd := true }
    else if key = "sort" then
      let word ← choice "--sort" (sortMethods.map fun m => [m.1]) text
      overall := overall.add ((sortMethods.lookup word).getD 'n')
    else if key = "k" then
      match sortKeyOf text with
      | .ok k => keys := keys ++ [k]
      | .error (label, none) =>
        die ((label ++ ": invalid field specification ").toList ++ quoted text)
      | .error (label, some rest) =>
        die ((label ++ ": invalid count at start of ").toList ++ quoted rest)
    else if key = "t" then
      let new ← match text with
        | [] => die "empty tab".toList
        | [t] => pure t
        | ['\\', '0'] => pure '\x00'
        | _ => die ("multi-character tab ".toList ++ quoted text)
      if tab.any (· ≠ new) then die "incompatible tabs".toList
      tab := some new
    else match key.toList with
      | [l] => if orderLetters.contains l then overall := overall.add l
      | _ => pure ()
  let described := keys.map fun k =>
    if k.ordering.isPlain && !k.ordering.has 'r' then { k with ordering := overall } else k
  let used := if keys.isEmpty && !overall.isPlain then [⟨0, 0, none, 0, overall⟩] else described
  for k in used do
    if let some letters := k.ordering.conflict? then
      die ("options '-".toList ++ letters ++ "' are incompatible".toList)
  let silent ← match c.value? "check" with
    | none => pure (c.has "C")
    | some word => do
      let word ← choice "--check" [["quiet", "silent"], ["diagnose-first"]] word
      pure (word = "quiet" || c.has "C")
  let checks := c.has "c" || c.has "C" || c.has "check"
  let names ← match c.value? "files0-from" with
    | none => pure names
    | some list => do
      if let extra :: _ := names then
        warn ("extra operand ".toList ++ quoted extra)
        let _ ← writeTo 2 "file operands cannot be combined with --files0-from\n".toList
        pointToHelp
      match ← content? list with
      | some bytes => pure ((piecesOf '\x00' (Bytes.ofByteArray bytes)).map (chop '\x00'))
      | none => stop 2
  let names := if names.isEmpty then [['-']] else names
  let s : Sorting := ⟨used, tab, overall.has 'r', c.has "u", c.has "s",
    if c.has "z" then '\x00' else '\n'⟩
  if checks then
    if let _ :: extra :: _ := names then
      misuse ("extra operand ".toList ++ quoted extra ++ " not allowed with -".toList
        ++ (if silent then ['C'] else ['c']))
    if c.has "o" then
      die (if silent then "options '-Co' are incompatible" else
        "options '-co' are incompatible").toList
  let read := fun (name : Bytes) => do
    let n ← if name = ['-'] then pure 0
      else match ← sys (Sys.openFile name .toRead 0) with
        | .ok n => pure n
        | .error e =>
          die ((if checks then "open failed: " else "cannot read: ").toList ++ shown name
            ++ (": " ++ e.message).toList)
    match ← sys (Sys.readAll n) with
    | .error e => die ("read failed: ".toList ++ shown name ++ (": " ++ e.message).toList)
    | .ok bytes =>
      if n ≠ 0 then ask (Op.close n)
      return (piecesOf s.stop (Bytes.ofByteArray bytes)).map (chop s.stop)
  if checks then
    for name in names.take 1 do
      match ← read name with
      | [] => pure ()
      | line :: rest =>
        if let some (n, line) := s.disorder? 2 (s.keyed line) rest then
          if !silent then
            warn (shown name ++ ':' :: decimal n ++ ": disorder: ".toList ++ line)
          stop 1
  else
    if !c.has "m" then
      for name in names do
        if name ≠ ['-'] then
          if let .error e ← request (Op.status name true) then
            die ("cannot read: ".toList ++ shown name ++ (": " ++ e.message).toList)
    let rows ← names.mapM read
    let lines := if c.has "m" then s.merged rows else s.sorted rows.flatten
    if let some name := c.value? "o" then
      match ← sys (Sys.openFile name .toWrite 0o666) with
      | .ok n =>
        ask (Op.duplicateTo n 1)
        ask (Op.close n)
      | .error e => die ("open failed: ".toList ++ shown name ++ (": " ++ e.message).toList)
    for line in lines do
      put (line ++ [s.stop])

end SyncFleet.Utility.Text

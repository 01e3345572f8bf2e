/-
  SyncFleet/Utility/File/Creation.lean
  ====================================
  **New files and directories.**
-/
import SyncFleet.Utility.Amount
import SyncFleet.Utility.File.Mode
import SyncFleet.Utility.File.Naming
import SyncFleet.Utility.Moment.Reading
import SyncFleet.Utility.Moment.Writing

namespace SyncFleet.Utility.File

open Unix Tool

/-! ### Directories -/

/-- The permissions that an option gives to a new file. -/
def newMode (text : Option Bytes) (plain : Nat) (isDirectory : Bool) :
    Tool (Option Nat) := do
  match text with
  | none => return none
  | some text =>
    match modeChanges? text with
    | none => die ("invalid mode ".toList ++ quoted text)
    | some changes => return some (changedMode changes isDirectory (← mask) plain)

/-- Say that a directory has been made. -/
def sayMade (isLoud : Bool) (path : Bytes) : Tool Unit := do
  if isLoud then
    putLine ((← get).name ++ ": created directory ".toList ++ inQuotes path)

/-- Report that a directory could not be made. -/
def complainOfMaking (path : Bytes) (e : Refusal) : Tool Unit :=
  complainOf ("cannot create directory ".toList ++ inQuotes path) e

/-- The paths on the way to a path: its beginnings that end with a name. -/
def waysTo (path : Bytes) : List Bytes :=
  ((List.range path.length).filter fun i =>
    path[i]? ≠ some '/' && (path[i + 1]?).all (· = '/')).map fun i => path.take (i + 1)

/-- Make the directories on the way to a path; whether they are there now. -/
def makeWays (isLoud : Bool) : List Bytes → Tool Bool
  | [] => return true
  | way :: rest => do
    match ← status way true with
    | .ok t =>
      if t.isDirectory then makeWays isLoud rest
      else
        complainOfMaking way .notDirectory
        return false
    | .error _ =>
      match ← request (do
        Op.makeDirectory way 0o777
        let t ← Op.status way true
        Op.changeMode way (t.mode ||| 0o300) true) with
      | .ok _ =>
        sayMade isLoud way
        makeWays isLoud rest
      | .error e =>
        complainOfMaking way e
        return false

/-- Make a directory, with those on the way to it if that is asked for. -/
def makeDirectory (withWays isLoud : Bool) (mode : Option Nat) (path : Bytes) : Tool Unit := do
  let ways := if withWays then (waysTo (withoutSlashes path)).dropLast else []
  if ← makeWays isLoud ways then
    let isThere ← if withWays then isDirectory path else pure false
    if !isThere then
      match ← request (Op.makeDirectory path 0o777) with
      | .ok _ =>
        sayMade isLoud path
        if let some mode := mode then ask (Op.changeMode path mode true)
      | .error e => complainOfMaking path e

/-- Make directories. -/
def mkdir (arguments _environment : List Bytes) : Tool Unit := do
  let (c, names) ← options ["m|mode=", "p|parents", "v|verbose", "Z", "context?"] arguments
  if names.isEmpty then missOperand
  let mode ← newMode (c.value? "m") 0o777 true
  for name in names do
    makeDirectory (c.has "p") (c.has "v") mode name

/-- Remove directories above a path as long as they are empty. -/
def removeParents (isLoud ignores : Bool) : Nat → Bytes → Tool Unit
  | 0, _ => return ()
  | fuel + 1, path => do
    let path := withoutSlashes path
    if path.contains '/' && path ≠ ['/'] then
      let parent := withoutSlashes (path.reverse.dropWhile (· != '/')).reverse
      if isLoud then putLine ((← get).name ++ ": removing directory, ".toList ++ inQuotes parent)
      match ← request (Op.removeDirectory parent) with
      | .ok _ => removeParents isLoud ignores fuel parent
      | .error e =>
        if !(ignores && e = .notEmpty) then
          complainOf ("failed to remove directory ".toList ++ inQuotes parent) e

/-- Remove empty directories. -/
def rmdir (arguments _environment : List Bytes) : Tool Unit := do
  let (c, names) ← options ["p|parents", "v|verbose", "ignore-fail-on-non-empty"] arguments
  if names.isEmpty then missOperand
  let ignores := c.has "ignore-fail-on-non-empty"
  for name in names do
    if c.has "v" then putLine ((← get).name ++ ": removing directory, ".toList ++ inQuotes name)
    match ← request (Op.removeDirectory name) with
    | .ok _ => if c.has "p" then removeParents (c.has "v") ignores (name.length + 1) name
    | .error e =>
      if !(ignores && e = .notEmpty) then
        complainOf ("failed to remove ".toList ++ inQuotes name) e

/-! ### Pipes and devices -/

/-- Make pipes with names. -/
def mkfifo (arguments _environment : List Bytes) : Tool Unit := do
  let (c, names) ← options ["m|mode=", "Z", "context?"] arguments
  if names.isEmpty then missOperand
  let mode ← newMode (c.value? "m") 0o666 false
  for name in names do
    match ← request (do
      Op.makeNode name (.pipe .empty 0x10000 0 0) 0o666
      if let some mode := mode then Op.changeMode name mode true) with
    | .ok _ => pure ()
    | .error e => complainOf ("cannot create fifo ".toList ++ inQuotes name) e

/-- Make a pipe or a device with a name. -/
def mknod (arguments _environment : List Bytes) : Tool Unit := do
  let (c, operands) ← options ["m|mode=", "Z", "context?"] arguments
  let mode ← newMode (c.value? "m") 0o666 false
  match operands with
  | [] => missOperand
  | [name] => missOperandAfter name
  | name :: kind :: rest =>
    let make := fun (node : Node) => do
      match ← request (do
        Op.makeNode name node 0o666
        if let some mode := mode then Op.changeMode name mode true) with
      | .ok _ => pure ()
      | .error e => dieOf (shown name) e
    match kind.head?, rest with
    | some 'p', [] => make (.pipe .empty 0x10000 0 0)
    | some 'p', extra :: _ => do
      warn ("extra operand ".toList ++ quoted extra)
      let _ ← writeTo 2 "Fifos do not have major and minor device numbers.\n".toList
      pointToHelp
    | some k, major :: minor :: more => do
      if let extra :: _ := more then extraOperand extra
      if k = 'c' || k = 'u' || k = 'b' then
        match natOf? major, natOf? minor with
        | some 1, some 3 => make (.device .null)
        | some 1, some 5 => make (.device .zero)
        | some 1, some 7 => make (.device .full)
        | some 1, some 8 => make (.device .random)
        | none, _ => die ("invalid major device number ".toList ++ quoted major)
        | _, none => die ("invalid minor device number ".toList ++ quoted minor)
        | _, _ => make (.device .terminal)
      else misuse ("invalid device type ".toList ++ quoted kind)
    | _, last => do
      warn ("missing operand after ".toList ++ quoted (last.getLast?.getD kind))
      let _ ← writeTo 2 "Special files require major and minor device numbers.\n".toList
      pointToHelp

/-! ### Files for a while -/

/-- Characters of names without a meaning. -/
def nameLetters : Bytes :=
  "abcdefghijklmnopqrstuvwxyzABCDEFGHIJKLMNOPQRSTUVWXYZ0123456789".toList

/-- Letters for a name, made from random bytes. -/
def chanceLetters (count : Nat) : Tool Bytes := do
  match ← sys (Sys.openFile "/dev/urandom".toList .toRead 0) with
  | .error _ => return List.replicate count 'x'
  | .ok n =>
    let r ← sys (Sys.read n count)
    ask (Op.close n)
    match r with
    | .ok bytes =>
      return bytes.toList.map fun x => nameLetters.getD (x.toNat % nameLetters.length) 'x'
    | .error _ => return List.replicate count 'x'

/-- Make a file or directory with a name that nobody else has. -/
def mktemp (arguments environment : List Bytes) : Tool Unit := do
  let (c, operands) ← options ["d|directory", "q|quiet", "u|dry-run", "p=", "tmpdir?", "t",
    "suffix=", "V"] arguments
  if 1 < operands.length then misuse "too many templates".toList
  let isPlaced := operands.isEmpty || c.has "p" || c.has "tmpdir" || c.has "t"
  let template := operands.headD "tmp.XXXXXXXXXX".toList
  let lastX := template.reverse.findIdx? (· == 'X')
  let (stem, suffix) ← match c.value? "suffix", lastX with
    | some suffix, _ =>
      if template.getLast? ≠ some 'X' then
        die ("with --suffix, template ".toList ++ quoted template ++ " must end in X".toList)
      pure (template, suffix)
    | none, some n => pure (template.take (template.length - n), template.drop (template.length - n))
    | none, none => pure (template, [])
  if suffix.contains '/' then
    die ("invalid suffix ".toList ++ quoted suffix ++ ", contains directory separator".toList)
  let count := (stem.reverse.takeWhile (· == 'X')).length
  if count < 3 then die ("too few X's in template ".toList ++ quoted template)
  let home := (binding? environment "TMPDIR".toList).filter (!·.isEmpty)
  let directory := if c.has "t" then (home.orElse fun _ => c.value? "p").getD "/tmp".toList
    else ((c.value? "tmpdir").orElse fun _ => (c.value? "p").orElse fun _ => home).getD
      "/tmp".toList
  if isPlaced && c.has "t" && template.contains '/' then
    die ("invalid template, ".toList ++ quoted template ++ ", contains directory separator".toList)
  if isPlaced && !c.has "t" && template.head? = some '/' then
    die ("invalid template, ".toList ++ quoted template
      ++ "; with --tmpdir, it may not be absolute".toList)
  let full := fun (name : Bytes) => if isPlaced then inside directory name else name
  let name := full (stem.take (stem.length - count) ++ (← chanceLetters count) ++ suffix)
  let r ← if c.has "u" then pure (.ok ())
    else if c.has "d" then request (Op.makeDirectory name 0o700)
    else do
      match ← sys (Sys.openFile name { writes := true, creates := true, isNew := true } 0o600) with
      | .ok n =>
        ask (Op.close n)
        pure (.ok ())
      | .error e => pure (.error e)
  match r with
  | .ok _ => putLine name
  | .error e =>
    let what := if c.has "d" then "failed to create directory via template "
      else "failed to create file via template "
    if c.has "q" then stop 1 else dieOf (what.toList ++ quoted (full (stem ++ suffix))) e

/-! ### Times -/

/-- The times of day that a word may stand for: that of reading, or of changing. -/
def timeWords : List (List String) := [["atime", "access", "use"], ["mtime", "modify"]]

/-- Set the times of files, which are made if there are none. -/
def touch (arguments environment : List Bytes) : Tool Unit := do
  let (c, operands) ← options ["a", "c|no-create", "d|date=", "f", "h|no-dereference", "m",
    "r|reference=", "t=", "time="] arguments
  let word ← (c.value? "time").mapM (choice "--time" timeWords)
  let onlyAccess := c.has "a" || word = some "atime"
  let onlyChange := c.has "m" || word = some "mtime"
  let now ← look fun s => s.clock
  let ahead := (Moment.zoneOf environment).ahead
  let mut given : Option (Int × Int) := none
  if c.has "t" && (c.has "d" || c.has "r") then
    misuse "cannot specify times from more than one source".toList
  if let some path := c.value? "r" then
    match ← status path !c.has "h" with
    | .ok t => given := some (t.accessed, t.modified)
    | .error e => dieOf ("failed to get attributes of ".toList ++ inQuotes path) e
  if let some text := c.value? "d" then
    let read := fun (base : Int) => do
      match Moment.ofText? ahead base text with
      | some moment => return moment
      | none => die ("invalid date format ".toList ++ quoted text)
    match given with
    | some (a, m) => given := some (← read a, ← read m)
    | none =>
      let moment ← read now
      given := some (moment, moment)
  if let some text := c.value? "t" then
    match Moment.ofDigits? true ahead now text with
    | some moment => given := some (moment, moment)
    | none => die ("invalid date format ".toList ++ quoted text)
  if operands.isEmpty then misuse "missing file operand".toList
  for name in operands do
    if name = ['-'] then
      match ← request (Op.statusOf 1) with
      | .ok _ => pure ()
      | .error e => complainOf "standard output".toList e
    else
      let isThere := (← status? name !c.has "h").isSome
      let mut made : Except Refusal Unit := .ok ()
      if !isThere && !c.has "c" && !c.has "h" then
        match ← sys (Sys.openFile name { writes := true, creates := true } 0o666) with
        | .ok n => ask (Op.close n)
        | .error e => made := .error e
      let (accessed, modified) := given.getD (now, now)
      let set := Op.changeTimes name
        (if onlyChange && !onlyAccess then none else some accessed)
        (if onlyAccess && !onlyChange then none else some modified) !c.has "h"
      match made with
      | .error e => complainOf ("cannot touch ".toList ++ inQuotes name) e
      | .ok _ =>
        if let .error e ← request set then
          if !(c.has "c" && e = .noEntry) then
            complainOf ("setting times of ".toList ++ inQuotes name) e

/-! ### Sizes -/

/-- How a size is set. -/
inductive Resizing where
  | to
  | by (isLess : Bool)
  | atLeast
  | atMost
  | roundDown
  | roundUp
deriving DecidableEq, Repr

/-- The way in which a size is given, and its number. -/
def resizingOf (text : Bytes) : Resizing × Bytes :=
  match text.dropWhile isSpace with
  | '+' :: rest => (.by false, rest)
  | '-' :: rest => (.by true, rest)
  | '>' :: rest => (.atLeast, rest.dropWhile isSpace)
  | '<' :: rest => (.atMost, rest.dropWhile isSpace)
  | '/' :: rest => (.roundDown, rest.dropWhile isSpace)
  | '%' :: rest => (.roundUp, rest.dropWhile isSpace)
  | rest => (.to, rest)

/-- The size of a file after it has been set. -/
def Resizing.apply (r : Resizing) (n size : Nat) : Nat :=
  match r with
  | .to => n
  | .by false => size + n
  | .by true => size - n
  | .atLeast => max size n
  | .atMost => min size n
  | .roundDown => size / n * n
  | .roundUp => (size + n - 1) / n * n

/-- Set the sizes of files. -/
def truncate (arguments _environment : List Bytes) : Tool Unit := do
  let (c, names) ← options ["c|no-create", "o|io-blocks", "r|reference=", "s|size="] arguments
  let (way, n) ← match c.value? "s" with
    | none => pure (Resizing.to, none)
    | some text =>
      let (way, digits) := resizingOf text
      let wrong := "Invalid number: ".toList ++ quoted text
      match amountOf "EgGkKmMPQRtTYZ0" greatestNatural digits with
      | .ok n =>
        if n = 0 && (way = .roundDown || way = .roundUp) then die "division by zero".toList
        pure (way, some n)
      | .error .tooGreat => die (wrong ++ ": Value too large for defined data type".toList)
      | .error .malformed => die wrong
  if n.isNone && !c.has "r" then
    misuse "you must specify either '--size' or '--reference'".toList
  if n.isSome && c.has "r" && way = .to then
    misuse "you must specify a relative '--size' with '--reference'".toList
  if c.has "o" && n.isNone then misuse "'--io-blocks' was specified but '--size' was not".toList
  if names.isEmpty then misuse "missing file operand".toList
  let other ← match c.value? "r" with
    | none => pure none
    | some path =>
      match ← status path true with
      | .ok t => pure (some t.size)
      | .error e => dieOf ("cannot stat ".toList ++ inQuotes path) e
  for name in names do
    let o : Opening := { writes := true, creates := !c.has "c" }
    match ← sys (Sys.openFile name o 0o666) with
    | .error e =>
      if !(c.has "c" && e = .noEntry) then
        complainOf ("cannot open ".toList ++ inQuotes name ++ " for writing".toList) e
    | .ok d =>
      if let .ok t ← request (Op.statusOf d) then
        let n := n.map fun n => if c.has "o" then n * 4096 else n
        let size := match n, other with
          | some n, _ => way.apply n (other.getD t.size)
          | none, some size => size
          | none, none => t.size
        if let .error e ← request (Op.truncate d size) then
          complainOf ("failed to truncate ".toList ++ inQuotes name ++ " at ".toList
            ++ decimal size ++ " bytes".toList) e
      ask (Op.close d)

end SyncFleet.Utility.File

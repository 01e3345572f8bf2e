/-
  SyncFleet/Utility/File/Link.lean
  ================================
  **Links between files.**
-/
import SyncFleet.Utility.File.Naming

namespace SyncFleet.Utility.File

open Unix Tool

/-- Give a file another name. -/
def link (arguments _environment : List Bytes) : Tool Unit := do
  let (_, names) ← options [] arguments
  match names with
  | [] => missOperand
  | [a] => missOperandAfter a
  | [a, b] =>
    if let .error e ← request (Op.link a b false) then
      dieOf ("cannot create link ".toList ++ inQuotes b ++ " to ".toList ++ inQuotes a) e
  | _ :: _ :: extra :: _ => extraOperand extra

/-! ### Files that are kept aside -/

/-- How the names of files are formed that are kept aside before they are replaced. -/
structure Backups where
  /-- one of `none`, `simple`, `numbered` and `existing` -/
  way : String
  suffix : Bytes

/-- The words for ways to keep files aside. -/
def backupWords : List (List String) :=
  [["none", "off"], ["simple", "never"], ["existing", "nil"], ["numbered", "t"]]

/-- What options and the environment say about files that are kept aside. -/
def backupsOf (c : Chosen) (environment : List Bytes) : Tool Backups := do
  let suffix := ((c.value? "S").orElse fun _ =>
    binding? environment "SIMPLE_BACKUP_SUFFIX".toList).getD ['~']
  let suffix := if suffix.isEmpty || suffix.contains '/' then ['~'] else suffix
  let isAsked := c.has "b" || c.has "backup" || c.has "S"
  if !isAsked then return ⟨"none", suffix⟩
  match (c.value? "backup").orElse fun _ => binding? environment "VERSION_CONTROL".toList with
  | some word => return ⟨← choice "backup type" backupWords word, suffix⟩
  | none => return ⟨"existing", suffix⟩

/-- The number of a name that is kept aside, if it has one. -/
def backupNumber? (name other : Bytes) : Option Nat :=
  let start := name ++ ".~".toList
  if start.isPrefixOf other && other.getLast? = some '~' then
    natOf? ((other.drop start.length).dropLast)
  else none

/-- The name under which a file is kept aside. -/
def Backups.nameFor (b : Backups) (path : Bytes) : Tool (Option Bytes) := do
  if b.way = "none" then return none
  let siblings := ((← request (Op.entries (parentOf path))).toOption).getD []
  let numbers := siblings.filterMap fun (name, _) => backupNumber? (lastName path) name
  if b.way = "numbered" || (b.way = "existing" && !numbers.isEmpty) then
    return some (path ++ ".~".toList ++ decimal (numbers.foldl max 0 + 1) ++ ['~'])
  return some (path ++ b.suffix)

/-! ### Making links -/

/-- How links are made. -/
structure Linking where
  isSymbolic : Bool
  isForced : Bool
  asks : Bool
  isLoud : Bool
  isRelative : Bool
  /-- a link is followed before another name is given to its file -/
  follows : Bool
  backups : Backups

/-- The path of a file as seen from the place of a link. -/
def relativeSource (source place : Bytes) : Op Bytes := do
  let goal ← canonical .none true false source
  let top ← canonical .none true false (parentOf place)
  return relative (namesOf top) (namesOf goal)

/-- Make one link. -/
def Linking.make (k : Linking) (source place : Bytes) : Tool Unit := do
  if !k.isSymbolic then
    match ← status source k.follows with
    | .error e =>
      complainOf ("failed to access ".toList ++ inQuotes source) e
      return
    | .ok t =>
      if t.isDirectory then
        complain (shown source ++ ": hard link not allowed for directory".toList)
        return
  let there ← status? place false
  let mut kept : Option Bytes := none
  if k.isForced || k.asks || k.backups.way ≠ "none" then
    if let some t := there then
      if t.isDirectory then
        complain (shown place ++ ": cannot overwrite directory".toList)
        return
      if (!k.isSymbolic && (← status? source k.follows).any (·.inode = t.inode)
            && lastName source = lastName place && parentOf source = parentOf place)
          || (k.isSymbolic && source = place) then
        complain (inQuotes source ++ " and ".toList ++ inQuotes place
          ++ " are the same file".toList)
        return
      if k.asks then
        if !(← agrees ("replace ".toList ++ inQuotes place ++ "? ".toList)) then return
      if let some aside := ← k.backups.nameFor place then
        if let .ok _ ← request (Op.rename place aside) then kept := some aside
      if kept.isNone then ask (Op.unlink place)
  let text ← if k.isSymbolic && k.isRelative then
      pure ((← request (relativeSource source place)).toOption.getD source)
    else pure source
  let r ← request (if k.isSymbolic then Op.makeLink text place else Op.link text place k.follows)
  match r with
  | .ok _ =>
    if k.isLoud then
      putLine ((match kept with
          | some aside => inQuotes aside ++ " ~ ".toList
          | none => []) ++ inQuotes place
        ++ (if k.isSymbolic then " -> " else " => ").toList ++ inQuotes text)
  | .error e =>
    let what := if !k.isSymbolic then
        if e = .exists || e = .noSpace then "failed to create hard link ".toList ++ inQuotes place
        else "failed to create hard link ".toList ++ inQuotes place ++ " => ".toList
          ++ inQuotes text
      else if e ≠ .nameTooLong && !text.isEmpty then
        "failed to create symbolic link ".toList ++ inQuotes place
      else "failed to create symbolic link ".toList ++ inQuotes place ++ " -> ".toList
        ++ inQuotes text
    complainOf what e

/-- Make links. -/
def ln (arguments environment : List Bytes) : Tool Unit := do
  let (c, names) ← options ["b", "backup?", "d|directory", "F", "f|force", "i|interactive",
    "L|logical", "n|no-dereference", "P|physical", "r|relative", "s|symbolic", "S|suffix=",
    "t|target-directory=", "T|no-target-directory", "v|verbose"] arguments
  let last := c.last? ["f", "i"]
  let k : Linking := ⟨c.has "s", last = some "f", last = some "i", c.has "v", c.has "r",
    c.last? ["L", "P"] = some "L", ← backupsOf c environment⟩
  if names.isEmpty then misuse "missing file operand".toList
  if c.has "r" && !c.has "s" then die "cannot do --relative without --symbolic".toList
  let into := fun (directory : Bytes) (sources : List Bytes) => do
    for source in sources do
      k.make source (inside directory (lastName source))
  if c.has "T" then
    if c.has "t" then die "cannot combine --target-directory and --no-target-directory".toList
    match names with
    | [a, b] => k.make a b
    | [a] => missOperandAfter a
    | _ => extraOperand (names.getD 2 [])
  else match c.value? "t", names with
    | some directory, names => do
      if !(← isDirectory directory) then
        let e := match ← status directory true with
          | .ok _ => Refusal.notDirectory
          | .error e => e
        dieOf ("target directory ".toList ++ inQuotes directory) e
      into directory names
    | none, [source] => into ['.'] [source]
    | none, names => do
      let target := names.getLast?.getD []
      let isLink := (← status? target false).any (·.isLink)
      if (← isDirectory target) && !(c.has "n" && isLink) then into target names.dropLast
      else match names with
        | [a, b] => k.make a b
        | _ => do
          let e := match ← status target true with
            | .ok _ => Refusal.notDirectory
            | .error e => e
          dieOf ("target ".toList ++ inQuotes target) e

end SyncFleet.Utility.File

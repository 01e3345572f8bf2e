/-
  SyncFleet/Utility/File/Copy.lean
  ================================
  **Copying and moving files.**

  A copy goes from a path to another one.  Directories are copied with all that
  is in them.  Files that have been made on the way are remembered, so that
  none of them is replaced by another one, and so that names of one file stay
  names of one file.
-/
import SyncFleet.Utility.Account
import SyncFleet.Utility.File.Creation
import SyncFleet.Utility.File.Link
import SyncFleet.Utility.File.Mode
import SyncFleet.Utility.File.Naming
import SyncFleet.Utility.File.Removal

namespace SyncFleet.Utility.File

open Unix Tool

/-- Which links among the sources are followed. -/
inductive Following where
  | never
  | named
  | always
deriving DecidableEq, Repr

/-- How files are copied. -/
structure Copying where
  /-- files get another path, and are not copied -/
  moves : Bool := false
  isRecursive : Bool := false
  following : Following := .always
  isForced : Bool := false
  asks : Bool := false
  /-- files that are there are left alone -/
  keepsOld : Bool := false
  /-- only older files are replaced -/
  updates : Bool := false
  isLoud : Bool := false
  makesNames : Bool := false
  makesLinks : Bool := false
  /-- files that are there are removed first -/
  removes : Bool := false
  keepsMode : Bool := false
  keepsTimes : Bool := false
  keepsOwners : Bool := false
  /-- names of one file stay such -/
  keepsNames : Bool := false
  onlyAttributes : Bool := false
  backups : Backups := ⟨"none", []⟩
  /-- the permissions of all new files -/
  mode : Option Nat := none
  /-- what is said of a directory that is not copied -/
  omission : String := "-r not specified; omitting directory "

/-- What has been copied so far: files with the paths of their copies, files that have been made,
    and the files that were named. -/
structure Copies where
  paths : List (Nat × Bytes) := []
  made : List Nat := []
  sources : List Nat := []
  /-- the directory that is made first, which is not copied into itself -/
  first : Option Nat := none

/-- A copy that is being made: its source and its goal, those that were named first, and how it has
    gone. -/
abbrev Outcome := Bool × Copies

/-- Say what is copied where. -/
def sayCopy (source goal : Bytes) (kept : Option Bytes) : Tool Unit :=
  putLine (inQuotes source ++ " -> ".toList ++ inQuotes goal ++ match kept with
    | some aside => " (backup: ".toList ++ inQuotes aside ++ [')']
    | none => [])

/-- Give a copy the owners, times and permissions of its source, as far as they are kept. -/
def Copying.finish (k : Copying) (t : Status) (goal : Bytes) (isNew : Bool) : Tool Unit := do
  let isLink := t.isLink
  if k.keepsOwners then ask (Op.changeOwner goal (some t.owner) (some t.group) false)
  if !isLink then
    if let some mode := k.mode then ask (Op.changeMode goal mode true)
    else if k.keepsMode then ask (Op.changeMode goal t.mode true)
    else if isNew && t.isDirectory then
      let mask ← mask
      ask (Op.changeMode goal (t.mode &&& 0o1777 &&& except mask) true)
  if k.keepsTimes then ask (Op.changeTimes goal (some t.accessed) (some t.modified) false)

/-- Copy what is in a file. -/
def Copying.content (k : Copying) (t : Status) (source goal : Bytes) (isNew : Bool) :
    Tool Bool := do
  let opened : Except Refusal (Option Nat) ← if k.onlyAttributes then pure (.ok none)
    else do pure ((← sys (Sys.openFile source .toRead 0)).map some)
  match opened with
  | .error e =>
    complainOf ("cannot open ".toList ++ inQuotes source ++ " for reading".toList) e
    return false
  | .ok input =>
    let o : Opening :=
      { writes := true, creates := isNew, isNew := isNew, truncates := !k.onlyAttributes }
    let mode := t.mode &&& (if k.mode.isSome then 0o600 else 0o777)
    let mut output ← sys (Sys.openFile goal o mode)
    if let .error _ := output then
      if !isNew && k.isForced then
        ask (Op.unlink goal)
        output ← sys (Sys.openFile goal { o with creates := true, isNew := true } mode)
    match output with
    | .error e =>
      let isDangling := e = .exists && (← status? goal false).any (·.isLink)
      if isDangling then
        complain ("not writing through dangling symlink ".toList ++ inQuotes goal)
      else
        let e := if e = .isDirectory && goal.getLast? = some '/' then Refusal.notDirectory else e
        complainOf ("cannot create regular file ".toList ++ inQuotes goal) e
      if let some n := input then ask (Op.close n)
      return false
    | .ok w =>
      let mut isWell := true
      if let some n := input then
        match ← sys (Sys.readAll n) with
        | .error e =>
          complainOf ("error reading ".toList ++ inQuotes source) e
          isWell := false
        | .ok bytes =>
          if let .error e ← sys (Sys.writeBytes w bytes) then
            complainOf ("error writing ".toList ++ inQuotes goal) e
            isWell := false
        ask (Op.close n)
      ask (Op.close w)
      return isWell

/-- Make room for a copy where a file is there already.  The answer tells whether the copy is made
    at all, whether it is well if it is not, the name under which the old file is kept, and whether
    the place is free now. -/
def Copying.clear (k : Copying) (isTop : Bool) (copies : Copies) (source goal : Bytes)
    (t old : Status) : Tool (Bool × Bool × Option Bytes × Bool) := do
  let refuse := fun (message : Bytes) => do
    complain message
    return (false, false, none, false)
  let isSame := t.inode = old.inode
    || (!k.moves && !k.makesLinks && t.isFile
        && (← status? goal true).any (·.inode = t.inode) && !k.removes)
  if isSame && !t.isDirectory then
    if k.makesNames then return (false, true, none, false)
    if k.moves && source ≠ goal && 1 < t.links && !t.isLink
        && (parentOf source ≠ parentOf goal || lastName source ≠ lastName goal) then
      ask (Op.unlink source)
      return (false, true, none, false)
    if !(k.backups.way ≠ "none" && !k.moves && source ≠ goal && t.inode ≠ old.inode) then
      return ← refuse (inQuotes source ++ " and ".toList ++ inQuotes goal
        ++ " are the same file".toList)
  else if isSame && k.moves && withoutSlashes source = withoutSlashes goal then
    return ← refuse (inQuotes source ++ " and ".toList ++ inQuotes goal
      ++ " are the same file".toList)
  if k.updates && !t.isDirectory && t.modified ≤ old.modified then return (false, true, none, false)
  if !t.isDirectory then
    if k.keepsOld then return (false, true, none, false)
    if old.isDirectory then
      return ← refuse ("cannot overwrite directory ".toList ++ inQuotes goal
        ++ " with non-directory".toList)
    if !(← agreesIf k.asks ("overwrite ".toList ++ inQuotes goal ++ "? ".toList)) then
      return (false, false, none, false)
    if isTop && k.backups.way = "none" && copies.made.contains old.inode then
      return ← refuse ("will not overwrite just-created ".toList ++ inQuotes goal
        ++ " with ".toList ++ inQuotes source)
  else if !old.isDirectory then
    return ← refuse ("cannot overwrite non-directory ".toList ++ inQuotes goal
      ++ " with directory ".toList ++ inQuotes source)
  if !t.isDirectory || k.moves then
    if let some aside := ← k.backups.nameFor goal then
      if !(old.isDirectory && !k.moves) then
        if let .ok _ ← request (Op.rename goal aside) then
          return (true, true, some aside, true)
  if !t.isDirectory && !k.moves && (k.removes || !t.isFile || (k.keepsNames && 1 < old.links)
      || ((k.makesNames || k.makesLinks) && k.isForced)) then
    if !(k.makesNames || k.makesLinks) || k.isForced || k.removes then
      if let .ok _ ← request (Op.unlink goal) then
        if k.isLoud then putLine ("removed ".toList ++ inQuotes goal)
        return (true, true, none, true)
  return (true, true, none, false)

/-- Copy a file or directory, at most `fuel` levels deep; `tops` are the paths that were named. -/
def Copying.copy (k : Copying) (tops : Bytes × Bytes) :
    Nat → Bool → Copies → Bytes → Bytes → Tool Outcome
  | 0, _, copies, _, _ => return (false, copies)
  | fuel + 1, isTop, copies, source, goal => do
    let follows := !k.moves && (k.following = .always || (isTop && k.following = .named))
    match ← status source follows with
    | .error e =>
      complainOf ("cannot stat ".toList ++ inQuotes source) e
      return (false, copies)
    | .ok t =>
      if t.isDirectory && !k.isRecursive && !k.moves then
        complain (k.omission.toList ++ inQuotes source)
        return (false, copies)
      if isTop && copies.sources.contains t.inode && k.backups.way = "none" then
        let there := (← status? goal false).any fun old => copies.made.contains old.inode
        if there then
          warn ((if t.isDirectory then "warning: source directory "
            else "warning: source file ").toList ++ inQuotes source
            ++ " specified more than once".toList)
          return (true, copies)
      let copies := if isTop then { copies with sources := t.inode :: copies.sources } else copies
      let looksThrough := t.isFile && !k.moves && !k.makesLinks && !k.makesNames
        && k.backups.way = "none" && !k.removes
      let old ← status? goal looksThrough
      let (goes, isWell, kept, isFreed) ← match old with
        | none => pure (true, true, none, false)
        | some old => k.clear isTop copies source goal t old
      if !goes then return (isWell, copies)
      let isNew := old.isNone || isFreed
      let noteMade := fun (copies : Copies) => do
        match ← status? goal false with
        | some new =>
          return ({ copies with
            made := new.inode :: copies.made
            paths := (t.inode, goal) :: copies.paths } : Copies)
        | none => return copies
      if k.moves then
        match ← request (Op.rename source goal) with
        | .ok _ =>
          if k.isLoud then
            putLine ("renamed ".toList ++ inQuotes source ++ " -> ".toList ++ inQuotes goal
              ++ match kept with
                | some aside => " (backup: ".toList ++ inQuotes aside ++ [')']
                | none => [])
          return (true, ← noteMade copies)
        | .error e =>
          if e = .invalid then
            complain ("cannot move ".toList ++ inQuotes source
              ++ " to a subdirectory of itself, ".toList ++ inQuotes goal)
          else if e = .notEmpty then
            complainOf ("cannot overwrite ".toList ++ inQuotes goal) e
          else
            complainOf ("cannot move ".toList ++ inQuotes source ++ " to ".toList
              ++ inQuotes goal) e
          return (false, copies)
      if k.isLoud && !t.isDirectory then sayCopy source goal kept
      let earlier := if k.keepsNames && 1 < t.links && !t.isDirectory then
          copies.paths.lookup t.inode
        else none
      if let some other := earlier then
        if !isNew then ask (Op.unlink goal)
        match ← request (Op.link other goal false) with
        | .ok _ => return (true, copies)
        | .error e =>
          complainOf ("cannot create hard link ".toList ++ inQuotes goal ++ " to ".toList
            ++ inQuotes other) e
          return (false, copies)
      if t.isDirectory then
        if copies.first = some t.inode then
          complain ("cannot copy a directory, ".toList ++ inQuotes tops.1
            ++ ", into itself, ".toList ++ inQuotes tops.2)
          return (false, copies)
        let made ← if old.isSome then pure (.ok ())
          else request (Op.makeDirectory goal ((t.mode &&& 0o777) ||| 0o700))
        match made with
        | .error e =>
          complainOf ("cannot create directory ".toList ++ inQuotes goal) e
          return (false, copies)
        | .ok _ =>
          if k.isLoud && old.isNone then sayCopy source goal none
          let mut copies := copies
          if copies.first.isNone then
            copies := { copies with first := (← status? goal true).map (·.inode) }
          let entries := ((← request (Op.entries source)).toOption).getD []
          let mut isWell := true
          for (name, _) in entries do
            let (one, new) ← k.copy tops fuel false copies (inside source name) (inside goal name)
            isWell := isWell && one
            copies := new
          k.finish t goal old.isNone
          return (isWell, copies)
      let made : Bool ←
        if k.makesLinks then do
          if source.head? ≠ some '/' && (parentOf goal) ≠ ['.'] then
            complain (shown goal
              ++ ": can make relative symbolic links only in current directory".toList)
            pure false
          else match ← request (Op.makeLink source goal) with
            | .ok _ => pure true
            | .error e =>
              complainOf ("cannot create symbolic link ".toList ++ inQuotes goal ++ " to ".toList
                ++ inQuotes source) e
              pure false
        else if k.makesNames then do
          match ← request (Op.link source goal follows) with
          | .ok _ => pure true
          | .error e =>
            complainOf ("cannot create hard link ".toList ++ inQuotes goal ++ " to ".toList
              ++ inQuotes source) e
            pure false
        else match t.node with
          | .link target => do
            match ← request (Op.makeLink target goal) with
            | .ok _ => pure true
            | .error e =>
              complainOf ("cannot create symbolic link ".toList ++ inQuotes goal) e
              pure false
          | .pipe .. =>
            if k.isRecursive then do
              match ← request (Op.makeNode goal (.pipe .empty 0x10000 0 0) (t.mode &&& 0o777)) with
              | .ok _ => pure true
              | .error e =>
                complainOf ("cannot create fifo ".toList ++ inQuotes goal) e
                pure false
            else k.content t source goal isNew
          | .device d =>
            if k.isRecursive then do
              match ← request (Op.makeNode goal (.device d) (t.mode &&& 0o777)) with
              | .ok _ => pure true
              | .error e =>
                complainOf ("cannot create special file ".toList ++ inQuotes goal) e
                pure false
            else k.content t source goal isNew
          | _ => k.content t source goal isNew
      if !made then return (false, copies)
      if !(k.makesLinks || k.makesNames) then k.finish t goal isNew
      return (true, ← noteMade copies)

/-! ### Sources and goals -/

/-- What options and operands say about sources and their goal. -/
inductive Goal where
  /-- a path -/
  | path (source goal : Bytes)
  /-- a directory -/
  | directory (sources : List Bytes) (goal : Bytes)

/-- Why a path is no directory. -/
def noDirectory (path : Bytes) : Tool Refusal := do
  match ← status path true with
  | .ok _ => return .notDirectory
  | .error e => return e

/-- The sources and their goal. -/
def goalOf (c : Chosen) (names : List Bytes) : Tool Goal := do
  let target := c.value? "t"
  match names with
  | [] => misuse "missing file operand".toList
  | [a] =>
    if target.isNone then misuse ("missing destination file operand after ".toList ++ quoted a)
  | _ => pure ()
  if c.has "T" then
    if target.isSome then
      die "cannot combine --target-directory (-t) and --no-target-directory (-T)".toList
    match names with
    | [a, b] => return .path a b
    | _ => extraOperand (names.getD 2 [])
  match target with
  | some directory =>
    if !(← isDirectory directory) then
      dieOf ("target directory ".toList ++ inQuotes directory) (← noDirectory directory)
    return .directory names directory
  | none =>
    let last := names.getLast?.getD []
    if ← isDirectory last then return .directory names.dropLast last
    match names with
    | [a, b] => return .path a b
    | _ => dieOf ("target ".toList ++ inQuotes last) (← noDirectory last)

/-- Where a source goes in a directory. -/
def placeIn (directory source : Bytes) : Bytes :=
  let name := lastName source
  if name = ['.', '.'] then directory else inside directory name

/-- Copy sources to their goal. -/
def Copying.run (k : Copying) (goal : Goal) : Tool Unit := do
  match goal with
  | .path a b =>
    let _ ← k.copy (a, b) mostDepth true {} a b
  | .directory sources directory =>
    let mut copies : Copies := {}
    for source in sources do
      let place := placeIn directory source
      let (_, new) ← k.copy (source, place) mostDepth true { copies with first := none } source place
      copies := new

/-! ### Programs -/

/-- What is kept of a file. -/
def keptWords : List (List String) :=
  [["mode"], ["timestamps"], ["ownership"], ["links"], ["context"], ["xattr"], ["all"]]

/-- The options of copying that keep something of a file. -/
def Copying.keep (k : Copying) (keeps : Bool) (text : Bytes) (label : String) : Tool Copying :=
  (splitAt ',' text).foldlM (fun (k : Copying) word => do
    return match ← choice label keptWords word with
    | "mode" => { k with keepsMode := keeps }
    | "timestamps" => { k with keepsTimes := keeps }
    | "ownership" => { k with keepsOwners := keeps }
    | "links" => { k with keepsNames := keeps }
    | "all" =>
      { k with keepsMode := keeps, keepsTimes := keeps, keepsOwners := keeps, keepsNames := keeps }
    | _ => k) k

/-- The words for when files are replaced. -/
def updateWords : List (List String) := [["all"], ["none"], ["none-fail"], ["older"]]

/-- How files are replaced, as an option says. -/
def Copying.replacing (k : Copying) (word : Option Bytes) : Tool Copying := do
  match ← (word.mapM (choice "--update" updateWords)) with
  | some "all" => return { k with updates := false, keepsOld := false }
  | some "none" | some "none-fail" => return { k with updates := false, keepsOld := true }
  | _ => return { k with updates := true }

/-- Copy files. -/
def cp (arguments environment : List Bytes) : Tool Unit := do
  let (c, names) ← options ["a|archive", "attributes-only", "b", "backup?", "copy-contents", "d",
    "debug", "f|force", "i|interactive", "H", "l|link", "L|dereference", "n|no-clobber",
    "P|no-dereference", "p", "preserve?", "no-preserve=", "parents", "R|r|recursive", "reflink?",
    "remove-destination", "sparse=", "strip-trailing-slashes", "s|symbolic-link", "S|suffix=",
    "t|target-directory=", "T|no-target-directory", "u", "update?", "v|verbose",
    "x|one-file-system", "Z", "context?", "keep-directory-symlink"] arguments
  let backups ← backupsOf c environment
  let mut k : Copying := {
    isForced := c.has "f", isLoud := c.has "v", makesNames := c.has "l", makesLinks := c.has "s"
    removes := c.has "remove-destination", onlyAttributes := c.has "attributes-only"
    isRecursive := c.has "R" || c.has "a", backups }
  let mut following : Option Following := none
  for (key, v) in c.options do
    match key with
    | "a" =>
      following := some .never
      k := { k with keepsMode := true, keepsTimes := true, keepsOwners := true, keepsNames := true }
    | "d" =>
      following := some .never
      k := { k with keepsNames := true }
    | "P" => following := some .never
    | "H" => following := some .named
    | "L" => following := some .always
    | "i" => k := { k with asks := true, keepsOld := false }
    | "n" => k := { k with asks := false, keepsOld := true }
    | "p" => k := { k with keepsMode := true, keepsTimes := true, keepsOwners := true }
    | "preserve" =>
      match v with
      | some text => k ← k.keep true text "--preserve"
      | none => k := { k with keepsMode := true, keepsTimes := true, keepsOwners := true }
    | "no-preserve" => k ← k.keep false (v.getD []) "--no-preserve"
    | "u" => k := { k with updates := true }
    | "update" => k ← k.replacing v
    | "sparse" =>
      let _ ← choice "--sparse" [["never"], ["auto"], ["always"]] (v.getD [])
    | "reflink" =>
      if let some word := v then
        let _ ← choice "--reflink" [["auto"], ["always"], ["never"]] word
    | _ => pure ()
  if k.makesNames && k.makesLinks then misuse "cannot make both hard and symbolic links".toList
  let plain : Following := if k.isRecursive || k.makesNames then .never else .always
  k := { k with following := following.getD plain }
  let names := if c.has "strip-trailing-slashes" then names.map withoutSlashes else names
  if !c.has "parents" then k.run (← goalOf c names)
  else
    match ← goalOf c names with
    | .path .. => misuse "with --parents, the destination must be a directory".toList
    | .directory sources directory =>
      let mut copies : Copies := {}
      for source in sources do
        let place := inside directory (source.dropWhile (· == '/'))
        let mut isWell := true
        for way in (waysTo (withoutSlashes source)).dropLast do
          let made := inside directory (way.dropWhile (· == '/'))
          if isWell && !(← isDirectory made) then
            let mode := ((← status? way true).map (·.mode)).getD 0o755
            match ← request (Op.makeDirectory made (mode &&& 0o777)) with
            | .ok _ =>
              if k.isLoud then putLine (way ++ " -> ".toList ++ made)
            | .error e =>
              complainOf ("cannot make directory ".toList ++ inQuotes made) e
              isWell := false
        if isWell then
          let (_, new) ← k.copy (source, place) mostDepth true { copies with first := none }
            source (withoutSlashes place)
          copies := new

/-- Move files. -/
def mv (arguments environment : List Bytes) : Tool Unit := do
  let (c, names) ← options ["b", "backup?", "debug", "f|force", "i|interactive", "n|no-clobber",
    "strip-trailing-slashes", "S|suffix=", "t|target-directory=", "T|no-target-directory", "u",
    "update?", "v|verbose", "Z|context", "no-copy", "exchange"] arguments
  let last := c.last? ["f", "i", "n"]
  let isForced : Bool := last = some "f"
  let asks : Bool := last = some "i"
  let keepsOld : Bool := last = some "n"
  let backups ← backupsOf c environment
  let mut k : Copying := {
    moves := true, isRecursive := true, following := .never, isForced, asks, keepsOld
    isLoud := c.has "v", updates := c.has "u", backups }
  if c.has "update" then k ← k.replacing (c.value? "update")
  let names := if c.has "strip-trailing-slashes" then names.map withoutSlashes else names
  k.run (← goalOf c names)

/-! ### Installing -/

/-- Make directories on the way to a path, and say so. -/
def installWays (isLoud : Bool) (paths : List Bytes) : Tool Bool := do
  for way in paths do
    if !(← isDirectory way) then
      match ← request (Op.makeDirectory way 0o755) with
      | .ok _ =>
        ask (Op.changeMode way 0o755 true)
        if isLoud then
          putLine ((← get).name ++ ": creating directory ".toList ++ inQuotes way)
      | .error e =>
        complainOf ("cannot create directory ".toList ++ inQuotes way)
          (if e = .exists then .notDirectory else e)
        return false
  return true

/-- Copy files and set their permissions. -/
def install (arguments environment : List Bytes) : Tool Unit := do
  let (c, names) ← options ["b", "backup?", "c", "C|compare", "d|directory", "D", "debug",
    "g|group=", "m|mode=", "o|owner=", "p|preserve-timestamps", "s|strip", "strip-program=",
    "S|suffix=", "t|target-directory=", "T|no-target-directory", "v|verbose", "Z",
    "preserve-context", "context?"] arguments
  let accounts ← accounts
  let mode := (← newMode (c.value? "m") 0 false).getD 0o755
  let directoryMode := (← newMode (c.value? "m") 0 true).getD 0o755
  let owner ← (c.value? "o").mapM fun text =>
    match Accounts.numberIn accounts.users text with
    | some n => pure n
    | none => die ("invalid user ".toList ++ quoted text)
  let group ← (c.value? "g").mapM fun text =>
    match Accounts.numberIn accounts.groups text with
    | some n => pure n
    | none => die ("invalid group ".toList ++ quoted text)
  let own := fun (path : Bytes) =>
    if owner.isSome || group.isSome then ask (Op.changeOwner path owner group true) else pure ()
  if c.has "d" then
    if c.has "t" then die "target directory not allowed when installing a directory".toList
    if names.isEmpty then misuse "missing file operand".toList
    for name in names do
      if ← installWays (c.has "v") (waysTo (withoutSlashes name)) then
        ask (Op.changeMode name directoryMode true)
        own name
  else
    let backups ← backupsOf c environment
    let k : Copying := {
      isLoud := c.has "v", removes := true, keepsTimes := c.has "p", mode := some mode
      omission := "omitting directory ", backups }
    if c.has "D" then
      if let some directory := c.value? "t" then
        let _ ← installWays (c.has "v") (waysTo (withoutSlashes directory))
      else match names with
        | [_, b] =>
          if !(← isDirectory b) || c.has "T" then
            if !(← installWays (c.has "v") (waysTo (withoutSlashes b)).dropLast) then
              stop (← get).status
        | _ => pure ()
    let target := c.value? "t"
    if let some directory := target then
      if !names.isEmpty && !(← isDirectory directory) then
        match ← status directory true with
        | .error e => dieOf ("failed to access ".toList ++ inQuotes directory) e
        | .ok _ => dieOf ("target directory ".toList ++ inQuotes directory) .notDirectory
    let goal ← goalOf c names
    k.run goal
    match goal with
    | .path _ b => own b
    | .directory sources directory => for source in sources do own (placeIn directory source)

end SyncFleet.Utility.File

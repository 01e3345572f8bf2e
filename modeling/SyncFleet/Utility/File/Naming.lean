/-
  SyncFleet/Utility/File/Naming.lean
  ==================================
  **Names of files: their parts, and the paths that they stand for.**
-/
import SyncFleet.Utility.Option

namespace SyncFleet.Utility.File

open Unix Tool

/-! ### Parts of names -/

/-- A text without the slashes at its end; one is left if there is nothing else. -/
def withoutSlashes (path : Bytes) : Bytes :=
  let kept := (path.reverse.dropWhile (· == '/')).reverse
  if kept.isEmpty && !path.isEmpty then ['/'] else kept

/-- The last name of a path. -/
def lastName (path : Bytes) : Bytes :=
  let path := withoutSlashes path
  if path = ['/'] then path else (path.reverse.takeWhile (· != '/')).reverse

/-- The path of the directory in which a file stands. -/
def parentOf (path : Bytes) : Bytes :=
  let kept := withoutSlashes path
  let front := (kept.reverse.dropWhile (· != '/')).reverse
  if front.isEmpty then (if kept = ['/'] then kept else ['.']) else withoutSlashes front

/-- A path for a name in a directory. -/
def inside (directory name : Bytes) : Bytes :=
  if directory.isEmpty then name
  else if directory.getLast? = some '/' then directory ++ name
  else directory ++ '/' :: name

/-- A name without an ending, unless nothing would be left. -/
def withoutSuffix (suffix name : Bytes) : Bytes :=
  if suffix.length < name.length && suffix.isSuffixOf name then
    name.take (name.length - suffix.length)
  else name

/-- The byte behind what is written. -/
def endOf (c : Chosen) : Char := if c.has "z" then '\x00' else '\n'

/-- Write the last names of paths. -/
def basename (arguments _environment : List Bytes) : Tool Unit := do
  let (c, names) ← leadingOptions ["a|multiple", "s|suffix=", "z|zero"] arguments
  let write := fun (suffix name : Bytes) =>
    put (withoutSuffix suffix (lastName name) ++ [endOf c])
  match names with
  | [] => missOperand
  | name :: rest =>
    if c.has "a" || c.has "s" then
      for n in name :: rest do write ((c.value? "s").getD []) n
    else match rest with
      | [] => write [] name
      | [suffix] => write suffix name
      | _ :: extra :: _ => extraOperand extra

/-- Write the paths of the directories in which files stand. -/
def dirname (arguments _environment : List Bytes) : Tool Unit := do
  let (c, names) ← leadingOptions ["z|zero"] arguments
  if names.isEmpty then missOperand
  for name in names do
    put (parentOf name ++ [endOf c])

/-! ### Paths without links -/

/-- Which parts of a path must exist. -/
inductive Existing where
  | all
  | allButLast
  | none
deriving DecidableEq, Repr

/-- The path that some names lead to from a directory, whose names come in reverse, in at most
    `fuel` steps. -/
def resolve (existing : Existing) (followsLinks : Bool) :
    Nat → Nat → List Bytes → List Bytes → Op (List Bytes)
  | 0, _, _, _ => throw .tooManySteps
  | _, _, done, [] => return done
  | fuel + 1, links, done, name :: rest => do
    if name = ['.'] then resolve existing followsLinks fuel links done rest
    else if name = ['.', '.'] then resolve existing followsLinks fuel links (done.drop 1) rest
    else
      let path := ((name :: done).reverse.map ('/' :: ·)).flatten
      let status := ((Op.status path false).run (← get)).1
      match status with
      | .error e =>
        if existing = .none || (existing = .allButLast && rest.isEmpty && e = .noEntry) then
          resolve existing followsLinks fuel links (name :: done) rest
        else throw e
      | .ok t =>
        match t.node with
        | .link target =>
          if !followsLinks then resolve existing followsLinks fuel links (name :: done) rest
          else match links with
            | 0 =>
              if existing = .none then
                resolve existing followsLinks fuel links (name :: done) rest
              else throw .tooManySteps
            | links + 1 =>
              let start := if target.head? = some '/' then [] else done
              resolve existing followsLinks fuel links start (namesOf target ++ rest)
        | .directory .. => resolve existing followsLinks fuel links (name :: done) rest
        | _ =>
          if !rest.isEmpty && existing ≠ .none then throw .notDirectory
          resolve existing followsLinks fuel links (name :: done) rest

/-- Steps to the directory above taken before links are followed. -/
def withoutSteps (names : List Bytes) : List Bytes :=
  (names.foldl (fun (done : List Bytes) name =>
    if name = ['.'] then done
    else if name = ['.', '.'] then done.drop 1
    else name :: done) []).reverse

/-- The path of a file from the top. -/
def canonical (existing : Existing) (followsLinks isLogical : Bool) (path : Bytes) :
    Op Bytes := do
  if path = [] then throw .noEntry
  let here ← if path.head? = some '/' then pure [] else namesOf <$> Op.directory
  let all := here ++ namesOf path
  let all := if isLogical then withoutSteps all else all
  let names ← resolve existing followsLinks (all.length + 0x10000) mostLinks [] all
  let found := if names.isEmpty then ['/'] else (names.reverse.map ('/' :: ·)).flatten
  if path.getLast? = some '/' && existing ≠ .none then
    match ((Op.status found true).run (← get)).1 with
    | .ok t => if !t.isDirectory then throw .notDirectory
    | .error _ => pure ()
  return found

/-- Which parts of paths must exist, as options say. -/
def existingOf (c : Chosen) : Option Existing :=
  match c.last? ["e", "f", "m"] with
  | some "e" => some .all
  | some "f" => some .allButLast
  | some _ => some .none
  | none => none

/-- Write what links hold, or the paths of files. -/
def readlink (arguments _environment : List Bytes) : Tool Unit := do
  let (c, names) ← options ["e|canonicalize-existing", "f|canonicalize",
    "m|canonicalize-missing", "n|no-newline", "q|quiet", "s|silent", "v|verbose", "z|zero"]
    arguments
  if names.isEmpty then missOperand
  let omitsEnd := c.has "n" && names.length = 1
  if c.has "n" && 1 < names.length then
    warn "ignoring --no-newline with multiple arguments".toList
  for name in names do
    let r ← request (match existingOf c with
      | some existing => canonical existing true false name
      | none => Op.readLink name)
    match r with
    | .ok path => put (if omitsEnd then path else path ++ [endOf c])
    | .error e =>
      if c.last? ["v", "q", "s"] = some "v" then complainOf (shown name) e
      else modify fun s => { s with status := s.failure }

/-- The way from a directory to a file. -/
def relative : List Bytes → List Bytes → Bytes
  | a :: start, b :: goal =>
    if a = b then relative start goal else joined (a :: start) (b :: goal)
  | start, goal => joined start goal
where
  /-- Steps up from a directory, and down along names. -/
  joined (start goal : List Bytes) : Bytes :=
    let names := start.map (fun _ => ['.', '.']) ++ goal
    if names.isEmpty then ['.'] else List.intercalate ['/'] names

/-- Write the paths of files from the top. -/
def realpath (arguments _environment : List Bytes) : Tool Unit := do
  let (c, names) ← options ["e|canonicalize-existing", "m|canonicalize-missing", "L|logical",
    "P|physical", "q|quiet", "s|no-symlinks|strip", "z|zero", "relative-to=", "relative-base="]
    arguments
  if names.isEmpty then missOperand
  let existing := (existingOf c).getD .allButLast
  let last := c.last? ["L", "P", "s"]
  let find := fun (name : Bytes) =>
    request (canonical existing (last != some "s") (last = some "L" || last = some "s") name)
  let directory := fun (name : Bytes) => do
    match ← find name with
    | .error e => dieOf (shown name) e
    | .ok path =>
      if existing = .all then
        match ← request (Op.status path true) with
        | .ok t => if !t.isDirectory then dieOf (shown name) .notDirectory
        | .error e => dieOf (shown name) e
      return path
  let goal ← (c.value? "relative-to").mapM directory
  let base ← (c.value? "relative-base").mapM directory
  let isIn := fun (path top : Bytes) => (namesOf top).isPrefixOf (namesOf path)
  let (goal, base) := match goal, base with
    | none, some b => (some b, some b)
    | some g, some b => if isIn g b then (some g, some b) else (none, none)
    | g, none => (g, none)
  for name in names do
    match ← find name with
    | .ok path =>
      let text := match goal with
        | some top =>
          if base.all (isIn path) then relative (namesOf top) (namesOf path) else path
        | none => path
      put (text ++ [endOf c])
    | .error e =>
      if c.has "q" then modify fun s => { s with status := s.failure }
      else complainOf (shown name) e

/-- Write the path of the working directory. -/
def pwd (arguments environment : List Bytes) : Tool Unit := do
  let (c, names) ← options ["L|logical", "P|physical"] arguments
  if !names.isEmpty then warn "ignoring non-option arguments".toList
  let here ← request (Op.status ['.'] true)
  let known ← match c.last? ["L", "P"], binding? environment "PWD".toList with
    | some "L", some path => do
      let isSame := match ← request (Op.status path true), here with
        | .ok t, .ok h => t.inode = h.inode
        | _, _ => false
      let isPlain := path.head? = some '/'
        && (namesOf path).all fun n => n ≠ ['.'] && n ≠ ['.', '.']
      pure (if isSame && isPlain then some path else none)
    | _, _ => pure none
  match known with
  | some path => putLine path
  | none =>
    match ← request Op.directory with
    | .ok path => putLine path
    | .error e => dieOf "failed to get current directory".toList e

/-- Look whether names may be names of files. -/
def pathchk (arguments _environment : List Bytes) : Tool Unit := do
  let (c, names) ← options ["p", "P", "portability"] arguments
  if names.isEmpty then missOperand
  let portable := c.has "p" || c.has "portability"
  let careful := c.has "P" || c.has "portability"
  let most := if portable then 14 else mostNameBytes
  let mostPath := if portable then 255 else mostPathBytes
  for name in names do
    let isPortable := fun (c : Char) =>
      c.isAlphanum || c == '.' || c == '_' || c == '-' || c == '/'
    let leading := (namesOf name).find? fun n => n.head? = some '-'
    if careful && leading.isSome then
      complain ("leading '-' in a component of file name ".toList ++ quoted name)
    else if (portable || careful) && name.isEmpty then
      complain "empty file name".toList
    else if portable && !name.all isPortable then
      let bad := name.filter (!isPortable ·)
      complain ("nonportable character ".toList ++ quoted (bad.take 1) ++ " in file name ".toList
        ++ quoted name)
    else if mostPath < name.length then
      complain ("limit ".toList ++ decimal mostPath ++ " exceeded by length ".toList
        ++ decimal name.length ++ " of file name ".toList ++ quoted name)
    else match (namesOf name).find? (most < ·.length) with
      | some long =>
        complain ("limit ".toList ++ decimal most ++ " exceeded by length ".toList
          ++ decimal long.length ++ " of file name component ".toList ++ quoted long)
      | none =>
        if !portable then
          match ← request (Op.status name false) with
          | .ok _ | .error .noEntry =>
            if name.isEmpty then complainOf (shown name) .noEntry
          | .error e => complainOf (shown name) e

end SyncFleet.Utility.File

/-
  SyncFleet/Storage/FileSystem.lean
  =================================
  **A file system as a map from places to files and directories.**

  Places lead down from a root directory that is always there.  A path is what
  is written: it may step back by `..`, stay by `.` and end in a slash, which
  asks for a directory.  Every operation first finds the place of its path,
  name by name through the directories above it, and says why it fails.
  Renaming replaces a file in one step.
-/

namespace SyncFleet.Storage

/-! ### Places and paths -/

/-- A place: the names on the way to it, from the root down. -/
abbrev Place := List String

/-- A path as it is written: its names, none of them empty. -/
structure Path where
  names : List String
  /-- whether a slash stands at the end, or no name at all -/
  endsInSlash : Bool
deriving DecidableEq, Repr

/-- The path that a text writes, seen from a directory unless it begins at the root. -/
def Path.ofText (directory : Place) (text : String) : Path :=
  let pieces := text.splitOn "/"
  let names := pieces.filter (· ≠ "")
  ⟨if text.startsWith "/" then names else directory ++ names, pieces.getLast? = some ""⟩

/-- Where a name leads from a place. -/
def follow (here : Place) (name : String) : Place :=
  if name = "." then here else if name = ".." then here.dropLast else here ++ [name]

/-- The place that a path leads to, whatever stands on the way. -/
def Path.place (p : Path) : Place := p.names.foldl follow []

/-- The text of a path. -/
def Path.text (p : Path) : String :=
  String.intercalate "/" p.names ++ (if p.endsInSlash ∧ p.names ≠ [] then "/" else "")

/-- The most bytes that a name may have. -/
def mostNameBytes : Nat := 255

/-- The most bytes that a path may have. -/
def mostPathBytes : Nat := 4095

/-! ### Entries and faults -/

/-- What stands at a place. -/
inductive Entry where
  | file (content : ByteArray)
  | directory

/-- Why an operation on files fails. -/
inductive FileFault where
  | notFound
  | isADirectory
  | notADirectory
  | alreadyExists
  /-- a name or a path is too long -/
  | nameTooLong
  /-- a text has a null character in it -/
  | invalidText
  /-- a directory is in use -/
  | busy
deriving DecidableEq, Repr

/-- The wording of a fault. -/
def FileFault.message : FileFault → String
  | .notFound => "no such file or directory"
  | .isADirectory => "is a directory"
  | .notADirectory => "not a directory"
  | .alreadyExists => "file exists"
  | .nameTooLong => "file name too long"
  | .invalidText => "file name contained an unexpected NUL byte"
  | .busy => "device or resource busy"

/-- The files and directories below the root, one entry for each place. -/
structure FileSystem where
  entries : List (Place × Entry)

namespace FileSystem

/-- The file system that holds the root directory alone. -/
def empty : FileSystem := ⟨[]⟩

/-- What stands at a place. -/
def get? (fs : FileSystem) (p : Place) : Option Entry :=
  if p = [] then some .directory else fs.entries.lookup p

/-- The file system with an entry at a place, in place of the one that was there. -/
def put (fs : FileSystem) (p : Place) (e : Entry) : FileSystem :=
  ⟨(p, e) :: fs.entries.filter (·.1 != p)⟩

/-- The file system with nothing at a place. -/
def erase (fs : FileSystem) (p : Place) : FileSystem := ⟨fs.entries.filter (·.1 != p)⟩

/-! ### Finding places -/

/-- The place that names lead to from a place.  All but the last have to lead to directories. -/
def walk (fs : FileSystem) : Place → List String → Except FileFault Place
  | here, [] => .ok here
  | here, name :: rest =>
    match fs.get? here with
    | none => .error .notFound
    | some (.file _) => .error .notADirectory
    | some .directory =>
      if name = "." then fs.walk here rest
      else if name = ".." then fs.walk here.dropLast rest
      else if mostNameBytes < name.utf8ByteSize then .error .nameTooLong
      else fs.walk (here ++ [name]) rest

/-- Whether a path can be handed to the file system at all. -/
def check (p : Path) : Except FileFault Unit :=
  if p.names.any (·.toList.contains '\x00') then .error .invalidText
  else if mostPathBytes < p.text.utf8ByteSize then .error .nameTooLong
  else .ok ()

/-- The place of a path, and what stands there. -/
def lookup (fs : FileSystem) (p : Path) : Except FileFault (Place × Option Entry) := do
  check p
  let place ← fs.walk [] p.names
  match fs.get? place, p.endsInSlash with
  | some (.file _), true => throw .notADirectory
  | e, _ => return (place, e)

/-! ### Operations -/

/-- The content of the file at a path. -/
def read (fs : FileSystem) (p : Path) : Except FileFault ByteArray := do
  match ← fs.lookup p with
  | (_, none) => throw .notFound
  | (_, some .directory) => throw .isADirectory
  | (_, some (.file content)) => return content

/-- Make an empty file at a path, or empty the one that is there. -/
def create (fs : FileSystem) (p : Path) : Except FileFault FileSystem := do
  match ← fs.lookup p with
  | (_, some .directory) => throw .isADirectory
  | (place, _) => if p.endsInSlash then throw .isADirectory else return fs.put place (.file .empty)

/-- Append bytes to the file that stands at a place.  A file that is open is written to without
    finding its path again. -/
def extend (fs : FileSystem) (place : Place) (bytes : ByteArray) : Except FileFault FileSystem :=
  match fs.get? place with
  | none => .error .notFound
  | some .directory => .error .isADirectory
  | some (.file content) => .ok (fs.put place (.file (content ++ bytes)))

/-- Whether a path ends in a step that is no name. -/
def endsInStep (p : Path) : Bool := p.names.getLast?.any fun n => n = "." ∨ n = ".."

/-- Move the file at a path to another path, over the file that is there. -/
def rename (fs : FileSystem) (source target : Path) : Except FileFault FileSystem := do
  let (origin, found) ← fs.lookup source
  let (place, there) ← fs.lookup target
  if endsInStep source ∨ endsInStep target then throw .busy
  match found, there with
  | none, _ => throw .notFound
  | some .directory, _ => throw .isADirectory
  | some (.file content), there =>
    if target.endsInSlash then throw .notADirectory
    match there with
    | some .directory => throw .isADirectory
    | _ => return (fs.erase origin).put place (.file content)

/-- Make a directory at a path where nothing is. -/
def makeDirectory (fs : FileSystem) (p : Path) : Except FileFault FileSystem := do
  match ← fs.lookup { p with endsInSlash := false } with
  | (_, some _) => throw .alreadyExists
  | (place, none) => return fs.put place .directory

/-- Remove the file at a path. -/
def remove (fs : FileSystem) (p : Path) : Except FileFault FileSystem := do
  match ← fs.lookup p with
  | (_, none) => throw .notFound
  | (_, some .directory) => throw .isADirectory
  | (place, some (.file _)) => return fs.erase place

/-- Write a whole file. -/
def write (fs : FileSystem) (p : Path) (bytes : ByteArray) : Except FileFault FileSystem := do
  (← fs.create p).extend p.place bytes

/-- What stands directly below a directory, by name. -/
def children (fs : FileSystem) (p : Place) : List (String × Entry) :=
  fs.entries.filterMap fun (q, e) =>
    match q.getLast? with
    | some name => if q.dropLast = p then some (name, e) else none
    | none => none

/-- Remove the directory at a path, below which nothing may stand. -/
def removeDirectory (fs : FileSystem) (p : Path) : Except FileFault FileSystem := do
  match ← fs.lookup p with
  | (_, none) => throw .notFound
  | (_, some (.file _)) => throw .notADirectory
  | (place, some .directory) =>
    if place = [] ∨ !(fs.children place).isEmpty then throw .busy else return fs.erase place

end FileSystem

end SyncFleet.Storage

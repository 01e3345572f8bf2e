/-
  SyncFleet/Metrics/DiskUsage.lean
  ================================
  **How many bytes the files below a directory hold.**

  A tree has files, directories and symbolic links.  The path of the directory
  to measure is resolved as paths are, links followed.  Below it every regular
  file counts once and no link is followed, so links can neither lead the walk
  in circles nor make it count twice.  A directory below is opened by its own
  path, which may be longer than a path can be, while all directories that it
  lies in are still open, and there may be too many of them.
-/
import SyncFleet.Storage.FileSystem
import SyncFleet.Text.Blank

namespace SyncFleet

/-- What stands at a place of a tree. -/
inductive Tree where
  | file (size : Nat)
  | link (target : String)
  | directory (children : List (String × Tree))
deriving Repr

namespace Tree

/-! ### Places -/

/-- The child of a name. -/
def child? (name : String) : Tree → Option Tree
  | .directory children => children.lookup name
  | _ => none

/-- What stands at a place: at the end of a list of names. -/
def at? : List String → Tree → Option Tree
  | [], t => some t
  | name :: rest, t => (t.child? name).bind (at? rest)

/-- What a tree is by itself, what a directory holds apart. -/
inductive Kind where
  | file (size : Nat)
  | link (target : String)
  | directory
deriving DecidableEq, Repr

/-- The kind of a tree. -/
def kind : Tree → Kind
  | .file size => .file size
  | .link target => .link target
  | .directory _ => .directory

/-- The kind of what stands at a place. -/
def kindAt? (root : Tree) (place : List String) : Option Kind := (root.at? place).map kind

/-! ### Paths -/

/-- Why a path does not lead to a directory. -/
inductive PathFault where
  | notFound
  | notADirectory
  /-- more links had to be followed than is allowed -/
  | tooManyLinks
  /-- a name or the path is too long -/
  | nameTooLong
  /-- the path has a null character in it -/
  | invalidText
deriving DecidableEq, Repr

/-- The names of a path.  A slash at its end stands for the directory itself. -/
def namesOf (path : String) : List String :=
  ((Text.partsOf path.toList).filter (!·.isEmpty)).map String.ofList

/-- Whether a path begins at the root. -/
def isAbsolute (path : String) : Bool := path.toList.head? == some '/'

/-- The place at which the names of a path begin: the root, or the place where the path is read. -/
def startOf (here : List String) (path : String) : List String :=
  if isAbsolute path then [] else here

/-- The path of an entry of the directory at a path. -/
def entryPath (path name : String) : String :=
  if path.toList.getLast? = some '/' then path ++ name else path ++ "/" ++ name

/-- The number of links that one path may lead through. -/
def linkLimit : Nat := 40

/-- The place that names lead to, one by one, from a place.  `kindAt` tells what stands where, and
    so many links may still be followed. -/
def resolve (kindAt : List String → Option Kind) :
    Nat → List String → List String → Except PathFault (List String)
  | _, place, [] => .ok place
  | links, place, name :: rest =>
    match kindAt place with
    | some .directory =>
      if name = "." then resolve kindAt links place rest
      else if name = ".." then resolve kindAt links place.dropLast rest
      else if Storage.mostNameBytes < name.utf8ByteSize then .error .nameTooLong
      else match kindAt (place ++ [name]) with
        | none => .error .notFound
        | some (.link target) =>
          match links with
          | 0 => .error .tooManyLinks
          | links + 1 => resolve kindAt links (startOf place target) (namesOf target ++ rest)
        | some _ => resolve kindAt links (place ++ [name]) rest
    | some _ => .error .notADirectory
    | none => .error .notFound
termination_by links _ names => (links, names.length)

/-- The place of the directory at a path, which is read at the place `here`. -/
def findDirectory (kindAt : List String → Option Kind) (here : List String) (path : String) :
    Except PathFault (List String) :=
  if '\x00' ∈ path.toList then .error .invalidText
  else if path = "" then .error .notFound
  else if Storage.mostPathBytes < path.utf8ByteSize then .error .nameTooLong
  else match resolve kindAt linkLimit (startOf here path) (namesOf path) with
    | .error fault => .error fault
    | .ok place =>
      match kindAt place with
      | some .directory => .ok place
      | some _ => .error .notADirectory
      | none => .error .notFound

/-! ### Measuring -/

/-- The entries of the directory at a place. -/
def entriesAt (root : Tree) (place : List String) : List (String × Tree) :=
  match root.at? place with
  | some (.directory children) => children
  | _ => []

/-- Why a directory is not measured. -/
inductive ScanFault where
  | path (fault : PathFault)
  /-- no further directory may be open -/
  | tooManyOpen
deriving DecidableEq, Repr

/-- The place of the directory at a path, once it is open.  So many directories may be open
    besides those that are. -/
def openDirectory (kindAt : List String → Option Kind) (here : List String) (streams : Nat)
    (path : String) : Except ScanFault (List String) :=
  if streams = 0 then .error .tooManyOpen else (findDirectory kindAt here path).mapError .path

mutual

/-- The bytes of the regular files of an entry, which stands at a path. -/
def entryUsage (kindAt : List String → Option Kind) (here : List String) (streams : Nat)
    (path : String) : Tree → Except ScanFault UInt64
  | .file size => return .ofNat size
  | .link _ => return 0
  | .directory children => do
    -- the path is resolved from its beginning and leads back to this entry, unless it is too long
    let _ ← openDirectory kindAt here streams path
    -- the directory stays open until all its entries are done
    entriesUsage kindAt here (streams - 1) path children

/-- The bytes of the regular files of the entries of the directory at a path. -/
def entriesUsage (kindAt : List String → Option Kind) (here : List String) (streams : Nat)
    (path : String) : List (String × Tree) → Except ScanFault UInt64
  | [] => return 0
  | (name, t) :: rest => do
    let size ← entryUsage kindAt here streams (entryPath path name) t
    return size + (← entriesUsage kindAt here streams path rest)

end

/-- The number of bytes below the directory at a path (`disk_usage`), which is read at the place
    `here`, when so many directories may be open at once. -/
def usageAt (root : Tree) (streams : Nat) (here : List String) (path : String) :
    Except ScanFault UInt64 := do
  let place ← openDirectory root.kindAt? here streams path
  entriesUsage root.kindAt? here (streams - 1) path (root.entriesAt place)

/-- The number of bytes below the directory at a path that is seen from the root of a tree, where
    the tree is one directory of a file system and nothing else is.  As many directories may be open
    as the longest path has bytes; so many lie in one another only where the path is too long. -/
def diskUsage (tree : Tree) (path : String) : Except PathFault Nat :=
  let root := Tree.directory [("srv", tree)]
  match root.usageAt Storage.mostPathBytes [] (if isAbsolute path then path else "/srv/" ++ path) with
  | .ok size => .ok size.toNat
  | .error (.path fault) => .error fault
  | .error .tooManyOpen => .error .nameTooLong

/-! ### Building -/

/-- The tree with something put at the end of a list of names, in place of what is there;
    directories on the way are made. -/
def put (t : Tree) : List String → Tree → Tree
  | [], new => new
  | name :: rest, new =>
    let children := match t with
      | .directory children => children
      | _ => []
    let below := (children.lookup name).getD (.directory [])
    .directory (children.filter (·.1 != name) ++ [(name, put below rest new)])

end Tree

end SyncFleet

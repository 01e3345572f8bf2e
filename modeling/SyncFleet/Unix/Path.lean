/-
  SyncFleet/Unix/Path.lean
  ========================
  **Finding files by their paths.**

  A path leads from a directory to a file, name by name.  Links on the way are
  followed, up to a number of them; a link at the end is followed if it is
  asked for, or if a slash stands behind it.
-/
import SyncFleet.Unix.System

namespace SyncFleet.Unix

/-- A change of a system that may be refused. -/
abbrev Op := ExceptT Refusal (StateM System)

/-- What is found at a path. -/
structure Found where
  /-- the directory in which the last name stands -/
  parent : Nat
  /-- the last name; none for a step that is no name -/
  name : Bytes
  inode : Option Nat
deriving Repr

/-- The names of a path. -/
def namesOf (path : Bytes) : List Bytes := (splitAt '/' path).filter (· ≠ [])

/-- The most bytes that a name may have. -/
def mostNameBytes : Nat := 255

/-- The most bytes that a path may have. -/
def mostPathBytes : Nat := 4095

/-- How many links may be followed on the way. -/
def mostLinks : Nat := 40

namespace System

/-- Whether a file is a directory. -/
def isDirectory (s : System) (i : Nat) : Bool := (s.inode i).node matches .directory ..

/-- Follow names from a directory, in at most `fuel` steps. -/
def walk (s : System) (follows : Bool) :
    Nat → Nat → Nat → List Bytes → Except Refusal Found
  | 0, _, _, _ => .error .tooManySteps
  | _, _, here, [] => .ok ⟨here, [], some here⟩
  | fuel + 1, links, here, name :: rest =>
    match (s.inode here).node with
    | .directory entries parent =>
      if name = ['.'] then s.walk follows fuel links here rest
      else if name = ['.', '.'] then s.walk follows fuel links parent rest
      else if mostNameBytes < name.length then .error .nameTooLong
      else match entries.lookup name with
        | none => if rest.isEmpty then .ok ⟨here, name, none⟩ else .error .noEntry
        | some i =>
          match (s.inode i).node with
          | .link target =>
            if rest.isEmpty && !follows then .ok ⟨here, name, some i⟩
            else match links with
              | 0 => .error .tooManySteps
              | links + 1 =>
                s.walk follows fuel links (if target.head? = some '/' then rootDirectory else here)
                  (namesOf target ++ rest)
          | .descriptor n =>
            match s.openFile? n with
            | none => .error .noEntry
            | some (_, f) =>
              if rest.isEmpty then .ok ⟨here, name, some f.inode⟩ else s.walk follows fuel links i rest
          | _ => if rest.isEmpty then .ok ⟨here, name, some i⟩ else s.walk follows fuel links i rest
    | _ => .error .notDirectory

/-- What a path leads to from a directory. -/
def find (s : System) (start : Nat) (path : Bytes) (follows : Bool) : Except Refusal Found :=
  if path = [] then .error .noEntry
  else if mostPathBytes < path.length then .error .nameTooLong
  else
    let names := namesOf path
    let slash := path.getLast? = some '/'
    let start := if path.head? = some '/' then rootDirectory else start
    match s.walk (follows || slash) (names.length + 0x40000) mostLinks start names with
    | .error e => .error e
    | .ok found =>
      match found.inode with
      | some i => if slash && !s.isDirectory i then .error .notDirectory else .ok found
      | none => .ok found

/-- The path of a directory from the top, in at most `fuel` steps; names come in reverse. -/
def namesTo (s : System) : Nat → Nat → List Bytes
  | 0, _ => []
  | fuel + 1, i =>
    if i = rootDirectory then []
    else match (s.inode i).node with
      | .directory _ parent =>
        match (s.inode parent).node with
        | .directory entries _ =>
          match entries.find? (·.2 = i) with
          | some (name, _) => name :: s.namesTo fuel parent
          | none => []
        | _ => []
      | _ => []

/-- The path of a directory. -/
def pathTo (s : System) (i : Nat) : Bytes :=
  match s.namesTo 4096 i with
  | [] => ['/']
  | names => (names.reverse.map ('/' :: ·)).flatten

end System

namespace Op

/-- What a path leads to. -/
def find (path : Bytes) (follows : Bool) : Op Found := do
  let s ← get
  match s.find s.task.directory path follows with
  | .ok found => return found
  | .error e => throw e

/-- The file that a path leads to. -/
def inodeAt (path : Bytes) (follows : Bool) : Op Nat := do
  match (← find path follows).inode with
  | some i => return i
  | none => throw .noEntry

end Op

end SyncFleet.Unix

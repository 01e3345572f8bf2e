/-
  SyncFleet/Shell/Lookup.lean
  ===========================
  **What names stand for: functions, commands of the shell itself and programs.**

  Programs are looked for in the directories that a variable names.  Where one
  has been found is remembered.
-/
import SyncFleet.Shell.Reading
import SyncFleet.Shell.Session

namespace SyncFleet.Shell

open Unix

/-- The names of the commands of the shell itself that are not special. -/
def ordinaryNames : List String :=
  ["alias", "bg", "cd", "command", "echo", "false", "fg", "getopts", "hash", "jobs", "kill",
    "printf", "pwd", "read", "test", "[", "true", "type", "ulimit", "umask", "unalias", "wait"]

/-- What a name stands for. -/
inductive Callee where
  | function (body : Command)
  | own (isSpecial : Bool)
  | program (path : Bytes)
  /-- nothing that can be run, and why -/
  | nothing (refusal : Refusal)

/-- Why a command cannot be run. -/
def refusalText : Refusal → Bytes
  | .noEntry | .notDirectory => "not found".toList
  | r => r.message.toList

/-- Whether a file can be run, or why not. -/
def runnableAt (path : Bytes) : Op Unit := do
  let t ← Op.status path true
  if !t.isFile || t.mode &&& 0o111 = 0 then throw .accessDenied

namespace Act

/-- The first file of a name that can be run in some directories, or why there is none. -/
def search (name : Bytes) : List Bytes → Refusal → Act (Except Refusal Bytes)
  | [], found => return .error found
  | d :: ds, found => do
    let path := if d.isEmpty then name else d ++ '/' :: name
    match ← request (runnableAt path) with
    | .ok _ => return .ok path
    | .error .noEntry | .error .notDirectory => search name ds found
    | .error e => search name ds e

/-- The directories in which programs are looked for. -/
def programPath : Act Bytes := do
  return (← lookup "PATH").getD []

/-- Find a program in the directories of a path, which is the shell's own if none is given. -/
def findProgram (path : Option Bytes) (name : Bytes) : Act Callee := do
  let known := (← get).hashed.lookup name
  match if path.isNone then known else none with
  | some found => return .program found
  | none =>
    match ← search name (splitAt ':' (path.getD (← programPath))) .noEntry with
    | .error e => return .nothing e
    | .ok found =>
      if path.isNone then
        modify fun s => { s with hashed := s.hashed.filter (·.1 ≠ name) ++ [(name, found)] }
      return .program found

/-- The first ordinary file of a name in some directories. -/
def searchFile (name : Bytes) : List Bytes → Act Bytes
  | [] => die (name ++ ": not found".toList)
  | d :: ds => do
    let path := if d.isEmpty then name else d ++ '/' :: name
    match ← request (Op.status path true) with
    | .ok t => if t.isFile then return path else searchFile name ds
    | .error _ => searchFile name ds

/-- Find what a name stands for.  `skips` says that functions are passed over. -/
def find (skips : Bool) (path : Option Bytes) (name : Bytes) : Act Callee := do
  if name.contains '/' then return .program name
  let n := String.ofList name
  let known := (← get).functions.lookup name
  match if skips then none else known with
  | some (.define _ _ body) => return .function body
  | _ =>
    if specialNames.contains n then return .own true
    else if ordinaryNames.contains n then return .own false
    else findProgram path name

end Act

end SyncFleet.Shell

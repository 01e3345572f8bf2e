/-
  SyncFleet/Unix/Execution.lean
  =============================
  **Programs, and how a process becomes one.**

  A program is stored as a file that says which one it is.  A file that begins
  with a number sign and an exclamation mark names its interpreter.
-/
import SyncFleet.Unix.Routine

namespace SyncFleet.Unix

/-- A program: what a process does with some arguments, of which the first is its name, and an
    environment. -/
abbrev Program := List Bytes → List Bytes → Routine

/-- Programs by name. -/
abbrev Library := Bytes → Option Program

/-- What a file begins with that holds a program. -/
def programMark : Bytes := "\x7fELF".toList

/-- A request to become the program at a path; the answer says why it is refused. -/
abbrev Executor := Bytes → List Bytes → List Bytes → Sys Refusal

/-- What a file that is to be run holds. -/
inductive Runnable where
  | program (name : Bytes)
  /-- a script for an interpreter, which may get an argument -/
  | script (interpreter : Bytes) (argument : Option Bytes)

/-- What a content holds that can be run. -/
def Runnable.ofContent? (content : Bytes) : Option Runnable :=
  if programMark.isPrefixOf content then some (.program (content.drop programMark.length))
  else match content with
    | '#' :: '!' :: rest =>
      let line := ((rest.take 256).takeWhile (· != '\n')).dropWhile isBlank
      let interpreter := line.takeWhile (!isBlank ·)
      let argument := (((line.drop interpreter.length).dropWhile isBlank).reverse.dropWhile
        isBlank).reverse
      if interpreter.isEmpty then none
      else some (.script interpreter (if argument.isEmpty then none else some argument))
    | _ => none

/-- What can be run at a path. -/
def Op.runnable (path : Bytes) : Op Runnable := do
  let i ← inodeAt path true
  let n := (← get).inode i
  match n.node with
  | .file content _ =>
    if n.mode &&& 0o111 = 0 then throw .accessDenied
    match Runnable.ofContent? (Bytes.ofByteArray (content.extract 0 300)) with
    | some r => return r
    | none => throw .badFormat
  | _ => throw .accessDenied

/-- What changes in the system when a process becomes a program. -/
def Op.shed : Op Unit :=
  modify fun s => s.modifyTask fun t =>
    { t with descriptors := t.descriptors.filter (!·.closes), caught := [], pending := [] }

/-- The most bytes that a single argument may have, with the one that ends it. -/
def mostArgumentBytes : Nat := 0x20000

/-- The most bytes that all arguments and the environment may have. -/
def mostBytes : Nat := 0x200000

/-- Whether arguments and an environment fit into a process. -/
def canBePassed (texts : List Bytes) : Bool :=
  texts.all (fun t => t.length < mostArgumentBytes)
    && texts.foldl (fun n t => n + t.length + 9) 0 ≤ mostBytes

/-- Become the program at a path, through at most `fuel` interpreters. -/
def execute (library : Library) : Nat → Executor
  | 0, _, _, _ => pure .tooManySteps
  | fuel + 1, path, arguments, environment => do
    if !canBePassed (arguments ++ environment) then return .tooManyArguments
    match ← Sys.request (Op.runnable path) with
    | .error e => return e
    | .ok (.program name) =>
      match library name with
      | some program =>
        Sys.attempt Op.shed
        Sys.become (program arguments environment)
      | none => return .noMemory
    | .ok (.script interpreter argument) =>
      execute library fuel interpreter
        (interpreter :: argument.toList ++ path :: arguments.drop 1) environment

/-- The value of a variable of an environment. -/
def binding? (environment : List Bytes) (name : Bytes) : Option Bytes :=
  (environment.find? fun e => (name ++ ['=']).isPrefixOf e).map (·.drop (name.length + 1))

/-- Where programs are looked for if nothing else is said. -/
def defaultPath : Bytes := "/bin:/usr/bin".toList

/-- The interpreter of files that do not say what they are. -/
def defaultInterpreter : Bytes := "/bin/sh".toList

/-- Become the program at a path; a file that does not say what it is is a script. -/
def executeOrInterpret (executor : Executor) : Executor := fun path arguments environment => do
  match ← executor path arguments environment with
  | .badFormat =>
    executor defaultInterpreter (defaultInterpreter :: path :: arguments.drop 1) environment
  | e => return e

/-- Become the program of a name, which is looked for in the directories that the environment
    names. -/
def executeByName (executor : Executor) (name : Bytes) (arguments environment : List Bytes) :
    Sys Refusal := do
  if name.isEmpty then return .noEntry
  let start := executeOrInterpret executor
  if name.contains '/' then start name arguments environment
  else
    let path := (binding? environment "PATH".toList).getD defaultPath
    let rec search : List Bytes → Refusal → Sys Refusal
      | [], found => return found
      | d :: ds, found => do
        let e ← start (if d.isEmpty then name else d ++ '/' :: name) arguments environment
        match e with
        | .noEntry | .notDirectory => search ds found
        | .accessDenied => search ds .accessDenied
        | e => return e
    search (splitAt ':' path) .noEntry

end SyncFleet.Unix

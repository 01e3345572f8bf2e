/-
  SyncFleet/Shell/Machine.lean
  ============================
  **The machine that runs commands: a fresh system for each.**

  A command starts with an empty input in a directory of its own.  What it
  writes goes through two pipes.  It is over when the shell has ended and
  nobody is left who could write.
-/
import SyncFleet.Attempt.Script
import SyncFleet.Shell.Invocation
import SyncFleet.Unix.Schedule
import SyncFleet.Unix.Start
import SyncFleet.Utility.Table

namespace SyncFleet.Shell

open Unix

/-! ### What a command needs -/

/-- Whether a text can be handed to another program: texts there end at the null character. -/
def isText (s : String) : Bool := s.all (· != '\x00')

/-- Whether all texts of a command can be handed to the shell. -/
def isPassable (c : SyncFleet.Command) : Bool :=
  isText c.script && c.environment.entries.all fun e => isText e.1 && isText e.2

/-- The least address space in bytes in which a program is started at all. -/
def leastToStart : Nat := 655360

/-- The least address space in bytes in which a program finds room for its library. -/
def leastToRun : Nat := 2936012

/-- What the shell says where there is no room for its library. -/
def noRoomMessage : String :=
  "/bin/sh: error while loading shared libraries: libc.so.6: "
    ++ "failed to map segment from shared object\n"

/-- The limit as the system keeps it: the greatest word means that there is none. -/
def keptLimit (limit : Option Nat) : Option Nat := limit.filter (· < UInt64.size - 1)

/-! ### Programs -/

/-- How many times processes may become programs inside of each other. -/
def mostPrograms : Nat := 100000

/-- How many interpreters there may be between a file and a program. -/
def mostInterpreters : Nat := 5

/-- The programs, which may start each other. -/
def library : Nat → Library
  | 0 => fun _ => none
  | fuel + 1 => fun name =>
    let executor := execute (library fuel) mostInterpreters
    if name = "dash".toList then some (program executor)
    else (Utility.ofName? name.name).map fun utility => utility executor

/-! ### The start -/

/-- The name under which the shell is started. -/
def shellName : String := "/bin/sh"

/-- The variables that every command sees, besides those of its own. -/
def inherited : List (String × String) := [("HOME", "/root"), ("PATH", defaultPath)]

/-- The environment of the shell, in the order of its texts. -/
def environmentOf (e : Environment) : List Bytes :=
  let entries := e.entries ++ inherited.filter fun v => !e.entries.any (·.1 = v.1)
  sortBytes (entries.map fun (name, value) => Bytes.ofString (name ++ "=" ++ value))

/-- How much may be on its way through the pipes that commands write to. -/
def endless : Nat := 0x4000000000000000

/-- A pipe that the first process reads from: the file at its other end, and the pipe. -/
def outputPipe : Op (Nat × Nat) := do
  let (_, w) ← Op.pipe
  let some (file, f) := (← get).openFile? w | throw .badDescriptor
  Op.close w
  modify fun s => s.modifyInode f.inode fun n =>
    match n.node with
    | .pipe content _ reads writes => { n with node := .pipe content endless reads writes }
    | _ => n
  return (file, f.inode)

/-- The process of the shell, which has number one. -/
def shellTask : Nat := 1

/-- The system in which a command is run, with some files, and the pipes that it writes to. -/
def prepared (files : List (String × ByteArray)) (c : SyncFleet.Command) : Op (Nat × Nat) := do
  Op.changeDirectory workplace.toList
  for (name, content) in files do
    Op.makeNode name.toList (.file content content.size) 0o644
  let (out, outPipe) ← outputPipe
  let (err, errPipe) ← outputPipe
  let null ← Op.openFile "/dev/null".toList .toRead 0
  modify fun s =>
    let limits := match keptLimit c.memoryLimit with
      | some bytes => [('v', ⟨some (bytes / 1024), some (bytes / 1024)⟩)]
      | none => []
    let task := { s.task with
      descriptors := [⟨0, null, false⟩, ⟨1, out, false⟩, ⟨2, err, false⟩]
      mask := 0o22
      limits := limits ++ s.task.limits }
    { s with tasks := s.tasks.push task, live := s.live ++ [shellTask] }
  return (outPipe, errPipe)

/-- What has been written to a pipe. -/
def writtenTo (s : System) (pipe : Nat) : ByteArray :=
  match (s.inode pipe).node with
  | .pipe content _ _ _ => content
  | _ => .empty

/-- How a command ends in a directory with some files. -/
def machine (files : List (String × ByteArray)) (c : SyncFleet.Command) : Ending :=
  if !isPassable c then .notStarted "nul byte found in provided data"
  else if (keptLimit c.memoryLimit).any (· < leastToStart) then .killed .empty .empty
  else if (keptLimit c.memoryLimit).any (· < leastToRun) then
    .exited 127 .empty noRoomMessage.toUTF8
  else
    match (prepared files c).run startSystem with
    | (.error e, _) => .notStarted e.message
    | (.ok (out, err), s) =>
      let executor := execute (library mostPrograms) mostInterpreters
      let arguments := [shellName.toList, "-c".toList, Bytes.ofString c.script]
      let shell := program executor arguments (environmentOf c.environment)
      let isOver := fun (s : System) =>
        (s.taskOf shellTask).fate.isSome && !s.holdsEnd out true && !s.holdsEnd err true
      let s := runRounds isOver mostRounds [(shellTask, shell)] s
      match (s.taskOf shellTask).fate with
      | some (.exited status) => .exited status (writtenTo s out) (writtenTo s err)
      | _ => .killed (writtenTo s out) (writtenTo s err)

end SyncFleet.Shell

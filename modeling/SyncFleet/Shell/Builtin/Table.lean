/-
  SyncFleet/Shell/Builtin/Table.lean
  ==================================
  **The shell's own commands that run no other commands, by name.**
-/
import SyncFleet.Shell.Builtin.Argument
import SyncFleet.Shell.Builtin.Names
import SyncFleet.Shell.Builtin.Processes
import SyncFleet.Shell.Builtin.Surroundings
import SyncFleet.Shell.Builtin.Variables
import SyncFleet.Shell.Condition
import SyncFleet.Shell.Format

namespace SyncFleet.Shell.Builtin

open Unix Act

/-! ### Commands that write texts or decide conditions -/

/-- Write arguments. -/
def echo : Builtin := fun arguments => do
  put (echoed arguments)
  return 0

/-- Write arguments by a format. -/
def printf : Builtin := fun arguments => do
  let (_, operands) ← options "" arguments
  match operands with
  | [] => die "usage: printf format [arg ...]".toList
  | format :: rest =>
    let (w, fault) := formatted format rest
    put w.text.reverse.flatten
    for r in w.reports.reverse do complain r
    match fault with
    | some message => die message
    | none => return if w.reports.isEmpty then 0 else 1

/-- Decide a condition; behind an opening bracket the closing one is needed. -/
def test (isBracket : Bool) : Builtin := fun arguments => do
  let operands ← if !isBracket then pure arguments
    else if arguments.getLast? = some [']'] then pure arguments.dropLast
    else die "missing ]".toList
  let files ← sys (Sys.look Surroundings.ofSystem)
  match holds files operands with
  | .ok holds => return if holds then 0 else 1
  | .error message => die message

/-! ### Commands that change what runs next, and the table -/

/-- Leave loops, or the bodies of loops; outside of loops there is nothing to leave. -/
def leave (halt : Nat → Halt) : Builtin := fun arguments => do
  let n ← match arguments.head? with
    | some a => number a
    | none => pure 1
  if n = 0 then die ("Illegal number: ".toList ++ arguments.headD [])
  let loops := (← get).loops
  if loops ≠ 0 then
    setStatus 0
    throw (halt (min n loops))
  return 0

/-- Leave a function or a file that is read. -/
def returns : Builtin := fun arguments => do
  match arguments.head? with
  | some a => setStatus (← number a)
  | none => pure ()
  throw .returned

/-- End the shell. -/
def exit : Builtin := fun arguments => do
  match arguments.head? with
  | some a =>
    let n ← number a
    modify fun s => { s with heldStatus := some n }
  | none => pure ()
  throw .exit

/-- The command of a name. -/
def ofName? : String → Option Builtin
  | ":" | "true" => some fun _ => return 0
  | "false" => some fun _ => return 1
  | "alias" => some setAliases
  | "bg" | "fg" => some resume
  | "break" => some (leave .left)
  | "cd" => some cd
  | "command" => some command
  | "continue" => some (leave .next)
  | "echo" => some echo
  | "exit" => some exit
  | "export" => some exports
  | "getopts" => some getopts
  | "hash" => some hash
  | "jobs" => some jobs
  | "kill" => some kill
  | "local" => some declareLocal
  | "printf" => some printf
  | "pwd" => some pwd
  | "read" => some read
  | "readonly" => some readonly
  | "return" => some returns
  | "set" => some set
  | "shift" => some shift
  | "test" => some (test false)
  | "[" => some (test true)
  | "times" => some times
  | "trap" => some trap
  | "type" => some type
  | "ulimit" => some ulimit
  | "umask" => some umask
  | "unalias" => some unsetAliases
  | "unset" => some unset
  | "wait" => some wait
  | _ => none

end SyncFleet.Shell.Builtin

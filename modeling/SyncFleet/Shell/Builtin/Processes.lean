/-
  SyncFleet/Shell/Builtin/Processes.lean
  ======================================
  **Commands about jobs and signals.**
-/
import SyncFleet.Shell.Builtin.Argument
import SyncFleet.Shell.Jobs

namespace SyncFleet.Shell.Builtin

open Unix Act

/-! ### Jobs -/

/-- The job that an argument names. -/
def jobOf (name : Bytes) : Act Job := do
  let jobs := (← get).jobs
  let current := fun (message : String) (j : Option Job) =>
    match j with
    | some j => (return j : Act Job)
    | none => die message.toList
  let other : Act Job := die ("No such job: ".toList ++ name)
  match name with
  | ['%'] | ['%', '+'] | ['%', '%'] => current "No current job" jobs.head?
  | ['%', '-'] => current "No previous job" jobs[1]?
  | '%' :: rest =>
    match natOf? rest with
    | some n =>
      match jobs.find? fun j => j.index = n with
      | some j => return j
      | none => other
    | none =>
      match rest with
      | ['?'] =>
        match jobs with
        | [j] => return j
        | [] => other
        | _ => die (name ++ ": ambiguous".toList)
      | _ => other
  | _ => other

/-- How a job is called in a list. -/
def stateText (j : Job) : Bytes :=
  if !j.isDone then "Running".toList
  else match (j.processes.getLast?).bind (·.2) with
    | some (.exited 0) => "Done".toList
    | some (.exited n) => "Done(".toList ++ decimal n ++ [')']
    | some (.killed n) => (Signal.description n).toList
    | none => []

/-- Show a job; one that has ended is forgotten. -/
def showJob (leaders numbers : Bool) (j : Job) : Act Unit := do
  let first := (j.processes.head?.map (·.1)).getD 0
  if leaders then put (decimal first ++ ['\n'])
  else
    let jobs := (← get).jobs
    let sign := if (jobs.head?.map (·.index)) = some j.index then '+'
      else if (jobs[1]?.map (·.index)) = some j.index then '-' else ' '
    let label := '[' :: decimal j.index ++ [']', ' ', sign, ' ']
    let start := label ++ (if numbers then decimal first ++ [' '] else []) ++ stateText j
    let rest := j.processes.drop 1
    let more : Bytes := if numbers then
        (rest.map fun (n, _) =>
          let line := " |\n".toList ++ List.replicate label.length ' ' ++ decimal n ++ [' ']
          line ++ List.replicate (max 1 (36 - line.length)) ' ').flatten
      else (rest.map fun _ => " | ".toList).flatten
    put (start ++ List.replicate (max 1 (33 - start.length)) ' ' ++ more ++ ['\n'])
    if j.isDone then removeJob j.index

/-- Show jobs. -/
def jobs : Builtin := fun arguments => do
  let (os, names) ← options "lp" arguments
  let last := os.getLast?.map Prod.fst
  let show' := showJob (last = some 'p') (last = some 'l')
  if names.isEmpty then
    noticeEnds
    for j in (← get).jobs do show' j
  else for name in names do show' (← jobOf name)
  return 0

/-- Bring a job to the front or to the back, which takes control of jobs. -/
def resume : Builtin := fun arguments => do
  let (_, names) ← options "" arguments
  let _ ← jobOf (names.headD ['%'])
  die ("job ".toList ++ names.headD "(null)".toList ++ " not created under job control".toList)

/-- How often processes may end while one waits. -/
def mostEnds : Nat := 1000000

/-- The status of a wait that a signal has ended. -/
def interruptedStatus : Act Nat := do
  let pending ← sys (Sys.look fun s => s.task.pending)
  return 128 + pending.getLastD 0

/-- Wait for the jobs that some arguments name; the status is that of the last. -/
def waitEach (status : Nat) : List Bytes → Act Nat
  | [] => return status
  | a :: rest => do
    let found ← if a.head? = some '%' then do pure (some (← jobOf a))
      else do
        let n ← number a
        pure ((← get).jobs.find? fun j => j.number = n)
    match found with
    | none => waitEach status rest
    | some job =>
      let isOver := fun (jobs : List Job) => (jobs.filter (·.index = job.index)).all Job.isDone
      if !(← awaitUnlessCaught (job.processes.map Prod.fst) isOver mostEnds) then return ← interruptedStatus
      modify fun s => { s with jobs := s.jobs.map fun j =>
        if j.index = job.index then { j with isKnown := true } else j }
      let jobs := (← get).jobs
      waitEach (((jobs.find? (·.index = job.index)).map Job.status).getD 127) rest

/-- Wait for jobs, or for all of them. -/
def wait : Builtin := fun arguments => do
  let (_, names) ← options "" arguments
  if !names.isEmpty then return ← waitEach 127 names
  if !(← awaitUnlessCaught [] (·.all Job.isDone) mostEnds) then return ← interruptedStatus
  modify fun s => { s with jobs := s.jobs.map fun j => { j with isKnown := true } }
  return 0

/-! ### Signals -/

/-- A signal that is known by its number alone. -/
def nameless : Signal := 16

/-- The signal of a number or a name; the end of the shell counts as number zero. -/
def signalOf? (text : Bytes) : Option Signal :=
  match text with
  | [] => none
  | _ =>
    if text.all Char.isDigit then (natOf? text).filter (· < Signal.count)
    else
      let name := String.ofList (text.map Char.toUpper)
      if name = "EXIT" then some 0 else (Signal.ofName? name).filter (· ≠ nameless)

/-- The name of a signal, or of the end of the shell. -/
def signalName (n : Signal) : String :=
  let number := String.ofList (decimal n)
  if n = 0 then "EXIT" else if n = nameless then number else (Signal.name? n).getD number

/-- Set what is done at a signal. -/
def setTrap (n : Signal) (action : Option Bytes) : Act Unit := do
  modify fun s =>
    let others := s.traps.filter (·.1 ≠ n)
    { s with traps := match action with
      | some a => (n, a) :: others
      | none => others }
  if n ≠ 0 ∧ !(← get).deafTo.contains n then
    sys (Sys.change fun s => ((), s.modifyTask fun t =>
      { t with
        caught := if action.any (!·.isEmpty) then n :: t.caught.filter (· ≠ n)
          else t.caught.filter (· ≠ n)
        ignored := if action = some [] then n :: t.ignored.filter (· ≠ n)
          else t.ignored.filter (· ≠ n) }))

/-- Set what is done at some signals, up to the first that is none. -/
def setTraps (action : Option Bytes) : List Bytes → Act Nat
  | [] => return 0
  | name :: names => do
    match signalOf? name with
    | some n =>
      setTrap n action
      setTraps action names
    | none =>
      writeTo 2 ("trap: ".toList ++ name ++ ": bad trap\n".toList)
      return 1

/-- Show or set what is done at signals. -/
def trap : Builtin := fun arguments => do
  let (_, operands) ← options "" arguments
  match operands with
  | [] =>
    let traps := (← get).traps.mergeSort fun a b => a.1 ≤ b.1
    for (n, action) in traps do
      put ("trap -- ".toList ++ inQuotes action ++ ' ' :: (signalName n).toList ++ ['\n'])
    return 0
  | [name] => setTraps none [name]
  | action :: names =>
    if action.all Char.isDigit && (signalOf? action).isSome then setTraps none operands
    else setTraps (if action = ['-'] then none else some action) names

/-- How signals are sent. -/
def killUsage : String :=
  "Usage: kill [-s sigspec | -signum | -sigspec] [pid | job]... or\nkill -l [exitstatus]"

/-- The signal that is sent, whether signals are listed, and the other arguments. -/
def killArguments (arguments : List Bytes) : Act (Option Signal × Bool × List Bytes) := do
  let sent := fun (text : Bytes) => (signalOf? text).filter fun n => n ≠ 0 || text = ['0']
  match arguments with
  | ('-' :: name) :: rest =>
    match sent name with
    | some n => return (some n, false, rest)
    | none =>
      let (os, operands) ← options "ls:" arguments
      let mut signal := none
      for (o, v) in os do
        if o = 's' then
          match sent v with
          | some n => signal := some n
          | none => die ("invalid signal number or name: ".toList ++ v)
      return (signal, os.any (·.1 = 'l'), operands)
  | _ => return (none, false, arguments)

/-- List signals, or name the one that a status tells of. -/
def listSignals (operands : List Bytes) : Act Nat := do
  match operands.head? with
  | none =>
    put ("0\n".toList)
    for n in (List.range Signal.count).drop 1 do
      put ((signalName n).toList ++ ['\n'])
    return 0
  | some a =>
    let n ← number a
    let n := if 128 < n then n - 128 else n
    if 0 < n ∧ n < Signal.count then
      put ((signalName n).toList ++ ['\n'])
      return 0
    else die ("invalid signal number or exit status: ".toList ++ a)

/-- Send a signal to processes. -/
def kill : Builtin := fun arguments => do
  let (signal, isListing, operands) ← killArguments arguments
  if isListing then
    if signal.isSome then die killUsage.toList
    return ← listSignals operands
  if operands.isEmpty then die killUsage.toList
  let signal := signal.getD Signal.terminate
  let mut status := 0
  for a in operands do
    let target : Int ← match a with
      | '%' :: _ => do pure (-(((← jobOf a).processes.head?.map (·.1)).getD 0 : Nat) : Int)
      | '-' :: n => do pure (-(← number n : Nat) : Int)
      | n => do pure ((← number n : Nat) : Int)
    if let .error e ← sys (Sys.kill target signal) then
      complain (e.message.toList ++ ['\n'])
      status := 1
  return status

end SyncFleet.Shell.Builtin

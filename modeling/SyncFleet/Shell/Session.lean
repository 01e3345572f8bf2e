/-
  SyncFleet/Shell/Session.lean
  ============================
  **What a shell knows.**

  A shell has variables, functions, aliases, traps and jobs of its own; what
  it shares with others is the system.  An `Act` changes both and may halt: by
  an exit, by a fault, or on the way out of a loop or a function.
-/
import SyncFleet.Shell.Program
import SyncFleet.Unix.Execution

namespace SyncFleet.Shell

open Unix

/-- A variable; it may be exported without having a value. -/
structure Variable where
  value : Option Bytes
  isExported : Bool
  isReadOnly : Bool
deriving Repr

/-- A command that runs in the background, or has. -/
structure Job where
  /-- the number by which the shell knows it -/
  index : Nat
  /-- the numbers of its processes, and how they have ended -/
  processes : List (Nat × Option Fate)
  /-- whether somebody has waited for it -/
  isKnown : Bool

namespace Job

/-- Whether all processes of a job have ended. -/
def isDone (j : Job) : Bool := j.processes.all (·.2.isSome)

/-- The process by whose number a job is known. -/
def number (j : Job) : Nat := (j.processes.getLast?.map (·.1)).getD 0

end Job

/-- What a function's own variables stand in front of. -/
inductive Shadowed where
  | binding (name : Bytes) (old : Option Variable)
  | options (old : List Char)

/-- The state of a shell.  A shell that it starts begins with a copy of it. -/
structure State where
  /-- the name under which it was called -/
  name : Bytes
  /-- variables, the oldest first -/
  bindings : List (Bytes × Variable)
  functions : List (Bytes × Command)
  aliases : List (Bytes × Bytes)
  parameters : List Bytes
  /-- the status of the last command -/
  status : Nat
  /-- the status of the last command whose output was put in a word -/
  outputStatus : Nat
  /-- the status that an exit without an argument takes while a trap runs -/
  heldStatus : Option Nat
  /-- the letters of the options that are on -/
  options : List Char
  /-- what to do at signals, and at the end, which counts as signal zero -/
  traps : List (Signal × Bytes)
  /-- the signals that were ignored from the start -/
  deafTo : List Signal
  /-- the working directory as it is shown -/
  directory : Bytes
  /-- how many loops are around the command that runs -/
  loops : Nat
  /-- how many functions run inside of each other -/
  depth : Nat
  /-- for each function that runs, what its variables stand in front of -/
  frames : List (List Shadowed)
  line : Nat
  /-- the command of the shell that runs, for its messages -/
  running : Option Bytes
  /-- jobs, the last one first -/
  jobs : List Job
  /-- the process that was started in the background last -/
  background : Option Nat
  /-- the number of the process of the outermost shell -/
  number : Nat
  /-- where programs have been found -/
  hashed : List (Bytes × Bytes)
  /-- the number of the argument in which the next option is looked for -/
  optionIndex : Nat
  /-- how far the options of an argument have been read -/
  optionOffset : Option Nat
  /-- output that has not been written yet, the last piece first -/
  output : List Bytes
  /-- descriptors that have been put aside, innermost first -/
  saved : List (List (Nat × Option Nat))

/-- Why commands stop before their end. -/
inductive Halt where
  /-- the shell ends, because it was told to -/
  | exit
  /-- the shell ends with the status of its last command -/
  | finish
  /-- the shell ends because of a fault -/
  | fault
  /-- some loops are left -/
  | left (loops : Nat)
  /-- the body of a loop is left, after some loops inside it -/
  | next (loops : Nat)
  /-- a function is left -/
  | returned
deriving DecidableEq, Repr

/-- A change of a shell and the system that may halt. -/
abbrev Act := ExceptT Halt (StateT State Sys)

namespace Act

/-- Do something that is not about the shell. -/
def sys {α : Type} (a : Sys α) : Act α := fun s => do return (.ok (← a), s)

/-- Ask the system for something. -/
def request {α : Type} (op : Op α) : Act (Except Refusal α) := sys (Sys.request op)

/-- Ask the system for something and do not care whether it is refused. -/
def ask (op : Op Unit) : Act Unit := sys (Sys.attempt op)

/-- Set the status of the last command. -/
def setStatus (n : Nat) : Act Unit := modify fun s => { s with status := n }

/-- Run something and catch why it halts. -/
def attempt {α : Type} (a : Act α) : Act (Except Halt α) := fun s => do
  let (r, s) ← a.run s
  return (.ok r, s)

/-- Run something, then something else whatever comes of it, and go on as the first ended. -/
def finally' {α : Type} (a : Act α) (b : Act Unit) : Act α := do
  let r ← attempt a
  b
  match r with
  | .ok x => return x
  | .error h => throw h

/-- Start a process that does something; its number is the answer. -/
def fork (child : Act Unit) (finish : State → Nat) : Act Nat := fun s => do
  let n ← Sys.fork (child.run s fun (_, s) => .ended (.exited (finish s)))
  return (.ok n, s)

/-! ### Messages -/

/-- Write to a descriptor at once. -/
def writeTo (descriptor : Nat) (text : Bytes) : Act Unit := do
  let _ ← sys (Sys.write descriptor text)

/-- Report something on the error stream. -/
def complain (message : Bytes) : Act Unit := do
  let s ← get
  let command := match s.running with
    | some c => c ++ ": ".toList
    | none => []
  writeTo 2 (s.name ++ ": ".toList ++ decimal s.line ++ ": ".toList ++ command ++ message
    ++ ['\n'])

/-- Report something and end the shell, or the command that it is about. -/
def die {α : Type} (message : Bytes) : Act α := do
  complain message
  setStatus 2
  throw .fault

/-! ### Output -/

/-- Add to the output. -/
def put (text : Bytes) : Act Unit := modify fun s => { s with output := text :: s.output }

/-- Write the output; whether that has worked. -/
def flush : Act Bool := do
  let pieces := (← get).output
  modify fun s => { s with output := [] }
  if pieces.isEmpty then return true
  match ← sys (Sys.write 1 pieces.reverse.flatten) with
  | .ok _ => return true
  | .error _ => return false

/-! ### Variables -/

/-- Whether an option is on. -/
def hasOption (c : Char) : Act Bool := do return (← get).options.contains c

/-- A variable. -/
def binding? (name : Bytes) : Act (Option Variable) := do return (← get).bindings.lookup name

/-- The value of a variable. -/
def lookup (name : String) : Act (Option Bytes) := do
  return (← binding? name.toList).bind (·.value)

/-- The letters of the options in the order in which they are shown. -/
def optionOrder : List Char := "pubaCEVvxsnmiIfe".toList

/-- The value of a variable or special parameter. -/
def value? (name : Bytes) : Act (Option Bytes) := do
  let s ← get
  match name with
  | ['?'] => return some (decimal s.status)
  | ['#'] => return some (decimal s.parameters.length)
  | ['$'] => return some (decimal s.number)
  | ['!'] => return s.background.map decimal
  | ['-'] => return some (optionOrder.filter s.options.contains)
  | ['0'] => return some s.name
  | _ =>
    match natOf? name with
    | some (n + 1) => return s.parameters[n]?
    | some 0 => return some s.name
    | none => return (s.bindings.lookup name).bind (·.value)

/-- Replace or add an entry, keeping the order. -/
def replaced {β : Type} (name : Bytes) (value : β) : List (Bytes × β) → List (Bytes × β)
  | [] => [(name, value)]
  | (n, old) :: rest =>
    if n = name then (name, value) :: rest else (n, old) :: replaced name value rest

/-- Put a variable in the place of the one of its name. -/
def putVariable (name : Bytes) (v : Variable) : Act Unit :=
  modify fun s => { s with
    bindings := replaced name v s.bindings
    hashed := if name = "PATH".toList then [] else s.hashed }

/-- A number that is not below zero and fits into 32 bits with a sign. -/
def numberOf? (text : Bytes) : Option Nat :=
  let start := text.dropWhile isSpace
  let digits := if start.head? = some '+' then start.drop 1 else start
  match digitsAt 10 digits with
  | (_, 0, _) => none
  | (n, _, rest) => if rest.all isSpace && n ≤ 0x7FFFFFFF then some n else none

/-- A number, or a fault. -/
def number (text : Bytes) : Act Nat := do
  match numberOf? text with
  | some n => return n
  | none => die ("Illegal number: ".toList ++ text)

/-- Change a variable, which may not be read-only, or a new one. -/
def changeVariable (name : Bytes) (f : Variable → Variable) : Act Unit := do
  if !isName name then die (name ++ ": bad variable name".toList)
  let v := (← binding? name).getD ⟨none, false, false⟩
  if v.isReadOnly then die (name ++ ": is read only".toList)
  let v := f v
  putVariable name v
  if name = "OPTIND".toList then
    let n ← number (v.value.getD ['1'])
    modify fun s => { s with optionIndex := max 1 n, optionOffset := none }

/-- Give a variable a value. -/
def assign (name value : Bytes) : Act Unit := do
  let exports ← hasOption 'a'
  changeVariable name fun v => { v with value := some value, isExported := v.isExported || exports }

/-- Remove a variable. -/
def forget (name : Bytes) : Act Unit := do
  if !isName name then die (name ++ ": bad variable name".toList)
  if let some v ← binding? name then
    if v.isReadOnly then die (name ++ ": is read only".toList)
    if ← hasOption 'a' then putVariable name ⟨none, true, false⟩
    else modify fun s => { s with
      bindings := s.bindings.filter (·.1 ≠ name)
      hashed := if name = "PATH".toList then [] else s.hashed }

/-- The place of a variable among those that are handed on. -/
def placeOf (name : Bytes) : Nat :=
  (name.foldl (fun n c => n + c.toNat) ((name.headD '\x00').toNat * 16)) % 39

/-- The environment of the programs that the shell starts. -/
def environment : Act (List Bytes) := do
  let vs := (← get).bindings.filterMap fun (n, v) =>
    if v.isExported then v.value.map (n, ·) else none
  let placed := vs.map fun v => (placeOf v.1, v)
  return (placed.mergeSort fun a b => a.1 ≤ b.1).map fun (_, n, v) => n ++ '=' :: v

/-! ### Variables of a function -/

/-- Remember what a variable is before it becomes one of the innermost frame's own. -/
def shadow (name : Bytes) : Act Unit := do
  let old ← binding? name
  modify fun s => { s with
    frames := match s.frames with
      | frame :: frames => (.binding name old :: frame) :: frames
      | [] => [] }

/-- Put back what the variables of the innermost frame stand in front of. -/
def unshadow : Act Unit := modify fun s =>
  match s.frames with
  | [] => s
  | frame :: frames =>
    frame.foldl (fun s e => match e with
      | .binding name (some v) => { s with bindings := replaced name v s.bindings }
      | .binding name none => { s with bindings := s.bindings.filter (·.1 ≠ name) }
      | .options old => { s with options := old }) { s with frames }

/-! ### Signals -/

/-- Take the caught signals that nobody has looked after yet. -/
def takePending : Act (List Signal) :=
  sys (Sys.change fun s =>
    let pending := s.task.pending
    (pending, if pending.isEmpty then s else s.modifyTask fun t => { t with pending := [] }))

/-- Whether some trap does something. -/
def hasTraps : Act Bool := do return (← get).traps.any (!·.2.isEmpty)

end Act

end SyncFleet.Shell

/-
  SyncFleet/Unix/Routine.lean
  ===========================
  **What a process does: steps on the system, one after the other.**

  A routine ends, or takes a step and goes on, or starts another process.  A
  step that cannot be taken yet is tried again later.  `Sys` is the monad in
  which routines are written: a value of it says what a process does from the
  value that it yields on.
-/
import SyncFleet.Unix.Files

namespace SyncFleet.Unix

/-- What a process does from now on. -/
inductive Routine where
  | ended (fate : Fate)
  /-- a step, which may have to wait: then it yields no routine -/
  | step (next : System → System × Option Routine)
  /-- the start of another process, whose number is passed on -/
  | fork (child : Routine) (next : Nat → Routine)

instance : Inhabited Routine := ⟨.ended (.exited 0)⟩

/-- What is done up to a value, as a function of what is done from there on. -/
def Sys (α : Type) : Type := (α → Routine) → Routine

instance : Monad Sys where
  pure a := fun next => next a
  bind m f := fun next => m fun a => f a next

namespace Sys

/-- Look at the system, and change it. -/
def change {α : Type} (f : System → α × System) : Sys α := fun next => .step fun s =>
  let (a, s) := f s
  (s, some (next a))

/-- Look at the system. -/
def look {α : Type} (f : System → α) : Sys α := fun next => .step fun s =>
  let a := f s
  (s, some (next a))

/-- Do something as soon as it can be done. -/
def await {α : Type} (f : System → System × Option α) : Sys α := fun next => .step fun s =>
  let (s, a) := f s
  (s, a.map next)

/-- Ask for something that may be refused. -/
def request {α : Type} (op : Op α) : Sys (Except Refusal α) := change op.run

/-- Ask for something and do not care whether it is refused. -/
def attempt {α : Type} (op : Op α) : Sys Unit := do
  let _ ← request op
  return ()

/-- End the process. -/
def finish {α : Type} (fate : Fate) : Sys α := fun _ => .ended fate

/-- Go on with another routine. -/
def become {α : Type} (r : Routine) : Sys α := fun _ => r

/-- Start another process; its number is the answer. -/
def fork (child : Routine) : Sys Nat := fun next => .fork child next

/-- Let time pass without doing anything. -/
def pause : Sys Unit := change fun s => ((), s)

/-! ### Files -/

/-- Read at most some bytes through a descriptor. -/
def read (descriptor count : Nat) : Sys (Except Refusal ByteArray) :=
  await fun s => s.read descriptor count

/-- Read at most some bytes through a descriptor, unless a caught signal comes first. -/
def readUnlessCaught (descriptor count : Nat) : Sys (Option (Except Refusal ByteArray)) :=
  await fun s =>
    match s.read descriptor count with
    | (s, some r) => (s, some (some r))
    | (s, none) => (s, if s.task.pending.isEmpty then none else some none)

/-- Write bytes through a descriptor, in at most `fuel` pieces: what is left of them. -/
def writeFrom (descriptor : Nat) : Nat → ByteArray → Sys (Except Refusal Unit)
  | 0, _ => pure (.ok ())
  | fuel + 1, bytes => do
    match ← await fun s => s.write descriptor bytes with
    | .error e => return .error e
    | .ok n =>
      if n < bytes.size then writeFrom descriptor fuel (bytes.extract n bytes.size)
      else return .ok ()

/-- Write bytes through a descriptor. -/
def writeBytes (descriptor : Nat) (bytes : ByteArray) : Sys (Except Refusal Unit) :=
  if bytes.isEmpty then pure (.ok ()) else writeFrom descriptor (bytes.size + 1) bytes

/-- Write a text through a descriptor. -/
def write (descriptor : Nat) (text : Bytes) : Sys (Except Refusal Unit) :=
  writeBytes descriptor (Bytes.toByteArray text)

/-- Open a file; a pipe with a name is open as soon as both of its ends are. -/
def openFile (path : Bytes) (o : Opening) (mode : Nat) : Sys (Except Refusal Nat) := do
  match ← request (do
    let f ← Op.openFile path o mode
    let n ← Op.attach f 0 o.closes
    return (n, f)) with
  | .error e => return .error e
  | .ok (n, f) =>
    let partners := fun (s : System) =>
      let file := s.files.getD f default
      match (s.inode file.inode).node with
      | .pipe _ _ reads writes => some (file, reads, writes)
      | _ => none
    match ← look partners with
    | some (file, reads, writes) =>
      let alone := o.reads != o.writes
      if alone then
        await fun s =>
          let met := match partners s with
            | some (_, r, w) =>
              s.holdsEnd file.inode o.reads || (if o.reads then writes < w else reads < r)
            | none => true
          (s, if met then some () else none)
      return .ok n
    | none => return .ok n

/-- Read everything that is left behind a descriptor, in at most `fuel` pieces. -/
def readAllFrom (descriptor : Nat) : Nat → ByteArray → Sys (Except Refusal ByteArray)
  | 0, got => pure (.ok got)
  | fuel + 1, got => do
    match ← read descriptor 0x10000 with
    | .error e => return .error e
    | .ok bytes =>
      if bytes.isEmpty then return .ok got else readAllFrom descriptor fuel (got ++ bytes)

/-- How many pieces of a file are read at most. -/
def mostPieces : Nat := 1000000

/-- Read everything that is left behind a descriptor. -/
def readAll (descriptor : Nat) : Sys (Except Refusal ByteArray) :=
  readAllFrom descriptor mostPieces .empty

/-! ### Processes -/

/-- The number of the process. -/
def number : Sys Nat := look fun s => System.numberOf s.current

/-- Send a signal to the process of a number; zero stands for all processes.  Groups of processes
    have no numbers. -/
def kill (number : Int) (signal : Signal) : Sys (Except Refusal Unit) := change fun s =>
  let send := fun (s : System) t => if signal = 0 then s else s.signal t signal
  if number = 0 then (.ok (), (s.live.filter (· ≠ 0)).foldl send s)
  else if number < 0 then (.error .noProcess, s)
  else match s.taskOfNumber? number.toNat with
    | some t => (.ok (), send s t)
    | none => (.error .noProcess, s)

/-- Notice which of some children have ended, once those that `isEnough` accepts have. -/
def collect (children : List Nat) (isEnough : List Nat → System → Bool) :
    Sys (List (Nat × Fate)) := await fun s =>
  let ended := children.filterMap fun n => do
    let t ← s.taskOfNumber? n
    return (n, ← (s.taskOf t).fate)
  if isEnough (ended.map Prod.fst) s then
    let tasks := ended.foldl (fun (ts : Array Task) (n, _) =>
      ts.modify (n - firstNumber) fun k => { k with reaped := true }) s.tasks
    ({ s with tasks }, some ended)
  else (s, none)

/-- Wait until a child of the process has ended, which is noticed by this. -/
def waitFor (child : Nat) : Sys Fate := await fun s =>
  match s.taskOfNumber? child with
  | some t =>
    match (s.taskOf t).fate with
    | some fate => (s.modifyTaskOf t fun k => { k with reaped := true }, some fate)
    | none => (s, none)
  | none => (s, some (.exited 127))

/-- Wait until a moment, or until something is found. -/
def waitUntil {α : Type} (moment : Option Nat) (f : System → System × Option α) :
    Sys (Option α) := do
  change fun s => ((), s.modifyTask fun t => { t with wakes := moment })
  let a ← await fun s =>
    let (s, a) := f s
    match a, moment with
    | some a, _ => (s, some (some a))
    | none, some m => if m ≤ s.now then (s, some none) else (s, none)
    | none, none => (s, none)
  change fun s => (a, s.modifyTask fun t => { t with wakes := none })

/-- Sleep for some nanoseconds. -/
def sleep (duration : Nat) : Sys Unit := do
  let now ← look fun s => s.now
  let _ ← waitUntil (α := Unit) (some (now + duration)) fun s => (s, none)
  return ()

end Sys

end SyncFleet.Unix

/-
  SyncFleet/Unix/System.lean
  ==========================
  **What a system holds: files, open files and processes.**

  Files are numbered, and directories give them names.  An open file has a
  position that all descriptors which stand for it share.  A process has
  descriptors, a working directory and an attitude to signals; what it does
  next is not part of the system.
-/
import SyncFleet.Unix.Bytes

namespace SyncFleet.Unix

/-! ### Why the system refuses what a program asks for -/

/-- Why the system refuses a request. -/
inductive Refusal where
  | notPermitted
  | noEntry
  | noProcess
  | interrupted
  | noDevice
  | tooManyArguments
  | badFormat
  | badDescriptor
  | noChild
  | noMemory
  | accessDenied
  | busy
  | exists
  | crossDevice
  | notDirectory
  | isDirectory
  | invalid
  | tooManyFiles
  | noTerminal
  | tooLarge
  | noSpace
  | noSeek
  | tooManyLinks
  | brokenPipe
  | nameTooLong
  | notEmpty
  | tooManySteps
  | notSupported
deriving DecidableEq, Repr

/-- The wording of a refusal. -/
def Refusal.message : Refusal → String
  | .notPermitted => "Operation not permitted"
  | .noEntry => "No such file or directory"
  | .noProcess => "No such process"
  | .interrupted => "Interrupted system call"
  | .noDevice => "No such device or address"
  | .tooManyArguments => "Argument list too long"
  | .badFormat => "Exec format error"
  | .badDescriptor => "Bad file descriptor"
  | .noChild => "No child processes"
  | .noMemory => "Cannot allocate memory"
  | .accessDenied => "Permission denied"
  | .busy => "Device or resource busy"
  | .exists => "File exists"
  | .crossDevice => "Invalid cross-device link"
  | .notDirectory => "Not a directory"
  | .isDirectory => "Is a directory"
  | .invalid => "Invalid argument"
  | .tooManyFiles => "Too many open files"
  | .noTerminal => "Inappropriate ioctl for device"
  | .tooLarge => "File too large"
  | .noSpace => "No space left on device"
  | .noSeek => "Illegal seek"
  | .tooManyLinks => "Too many links"
  | .brokenPipe => "Broken pipe"
  | .nameTooLong => "File name too long"
  | .notEmpty => "Directory not empty"
  | .tooManySteps => "Too many levels of symbolic links"
  | .notSupported => "Operation not supported"

/-! ### Signals: their numbers, names and descriptions -/

/-- A signal, by its number; zero stands for none. -/
abbrev Signal := Nat

namespace Signal

def hangup : Signal := 1
def interrupt : Signal := 2
def quit : Signal := 3
def kill : Signal := 9
def segmentation : Signal := 11
def pipe : Signal := 13
def terminate : Signal := 15
def child : Signal := 17
def fileSize : Signal := 25

/-- The names and descriptions of the signals, from the first on. -/
def table : List (String × String) :=
  [("HUP", "Hangup"), ("INT", "Interrupt"), ("QUIT", "Quit"), ("ILL", "Illegal instruction"),
    ("TRAP", "Trace/breakpoint trap"), ("ABRT", "Aborted"), ("BUS", "Bus error"),
    ("FPE", "Floating point exception"), ("KILL", "Killed"), ("USR1", "User defined signal 1"),
    ("SEGV", "Segmentation fault"), ("USR2", "User defined signal 2"), ("PIPE", "Broken pipe"),
    ("ALRM", "Alarm clock"), ("TERM", "Terminated"), ("STKFLT", "Stack fault"),
    ("CHLD", "Child exited"), ("CONT", "Continued"), ("STOP", "Stopped (signal)"),
    ("TSTP", "Stopped"), ("TTIN", "Stopped (tty input)"), ("TTOU", "Stopped (tty output)"),
    ("URG", "Urgent I/O condition"), ("XCPU", "CPU time limit exceeded"),
    ("XFSZ", "File size limit exceeded"), ("VTALRM", "Virtual timer expired"),
    ("PROF", "Profiling timer expired"), ("WINCH", "Window changed"), ("IO", "I/O possible"),
    ("PWR", "Power failure"), ("SYS", "Bad system call")]

/-- The first of the signals that programs may give a meaning to. -/
def firstFree : Signal := 34

/-- The greatest signal. -/
def last : Signal := 64

/-- How many signals there are, with the number that stands for none. -/
def count : Nat := last + 1

/-- The name of a signal; none for a number that is no signal. -/
def name? (n : Signal) : Option String :=
  if n = 0 then none
  else match table[n - 1]? with
    | some (name, _) => some name
    | none =>
      if n = firstFree then some "RTMIN"
      else if firstFree < n ∧ n ≤ firstFree + 15 then
        some ("RTMIN+" ++ String.ofList (decimal (n - firstFree)))
      else if firstFree + 15 < n ∧ n < last then
        some ("RTMAX-" ++ String.ofList (decimal (last - n)))
      else if n = last then some "RTMAX"
      else none

/-- What is said of a process that a signal has ended. -/
def description (n : Signal) : String :=
  if n = 0 then "Unknown signal 0"
  else match table[n - 1]? with
    | some (_, text) => text
    | none =>
      if firstFree ≤ n ∧ n ≤ last then
        "Real-time signal " ++ String.ofList (decimal (n - firstFree))
      else "Unknown signal " ++ String.ofList (decimal n)

/-- The signal of a name. -/
def ofName? (name : String) : Option Signal :=
  (List.range count).find? fun n => (name? n).any (· == name)

/-- The signals that do nothing to a process that has not asked for them. -/
def isHarmless (n : Signal) : Bool := [17, 18, 23, 28].contains n

/-- The signals that stop a process. -/
def isStop (n : Signal) : Bool := [19, 20, 21, 22].contains n

end Signal

/-! ### Files -/

/-- The kinds of devices. -/
inductive Device where
  | null
  | zero
  | full
  | random
  /-- a terminal, which no process has -/
  | terminal
deriving DecidableEq, Repr

/-- What a file is. -/
inductive Node where
  /-- bytes, behind which there are zeros up to a size -/
  | file (content : ByteArray) (size : Nat)
  /-- names and the numbers of their files, the oldest last, and the directory above -/
  | directory (entries : List (Bytes × Nat)) (parent : Nat)
  | link (target : Bytes)
  /-- what is on its way through a pipe, how much there may be, and how often the ends have been
      opened -/
  | pipe (content : ByteArray) (capacity reads writes : Nat)
  | device (device : Device)
  /-- the file that a descriptor of the process stands for -/
  | descriptor (number : Nat)

/-- A file with what is known about it.  Times are in nanoseconds. -/
structure Inode where
  node : Node
  /-- permissions -/
  mode : Nat
  links : Nat
  owner : Nat
  group : Nat
  accessed : Int
  modified : Int
  changed : Int

instance : Inhabited Inode := ⟨⟨.device .null, 0, 0, 0, 0, 0, 0, 0⟩⟩

/-- A file that is open. -/
structure OpenFile where
  inode : Nat
  position : Nat
  reads : Bool
  writes : Bool
  appends : Bool
deriving Repr, Inhabited

/-! ### Processes -/

/-- How a process has ended. -/
inductive Fate where
  | exited (status : Nat)
  | killed (signal : Signal)
deriving DecidableEq, Repr

/-- A descriptor of a process. -/
structure Descriptor where
  number : Nat
  /-- the number of its open file -/
  file : Nat
  /-- whether it is closed when the process becomes another program -/
  closes : Bool
deriving Repr

/-- A limit on what a process may use: what holds, and how far it may be raised. -/
structure Limit where
  soft : Option Nat
  hard : Option Nat
deriving DecidableEq, Repr

/-- A process. -/
structure Task where
  parent : Nat
  directory : Nat
  descriptors : List Descriptor
  /-- the permissions that new files do not get -/
  mask : Nat
  /-- limits by letter -/
  limits : List (Char × Limit)
  /-- the signals that do nothing to it -/
  ignored : List Signal
  /-- the signals that it looks after itself -/
  caught : List Signal
  /-- caught signals that it has not looked after yet -/
  pending : List Signal
  niceness : Int
  /-- when it wants to go on, if it sleeps -/
  wakes : Option Nat
  fate : Option Fate
  /-- whether its end has been noticed -/
  reaped : Bool
deriving Inhabited

/-- Let a process look after a caught signal later. -/
def Task.remember (n : Signal) (k : Task) : Task :=
  { k with pending := if k.pending.contains n then k.pending else k.pending ++ [n] }

/-! ### The system -/

/-- A system.  Time counts nanoseconds. -/
structure System where
  inodes : Array Inode
  files : Array OpenFile
  tasks : Array Task
  /-- the processes that have not ended -/
  live : List Nat
  now : Nat
  /-- the process that runs -/
  current : Nat
deriving Inhabited

/-- The directory at the top. -/
def rootDirectory : Nat := 0

/-- The number by which the first process is known. -/
def firstNumber : Nat := 4241

namespace System

/-- A file by its number. -/
def inode (s : System) (i : Nat) : Inode := s.inodes.getD i default

/-- A process. -/
def taskOf (s : System) (t : Nat) : Task := s.tasks.getD t default

/-- The process that runs. -/
def task (s : System) : Task := s.taskOf s.current

/-- Change the process that runs. -/
def modifyTask (s : System) (f : Task → Task) : System :=
  { s with tasks := s.tasks.modify s.current f }

/-- Change a process. -/
def modifyTaskOf (s : System) (t : Nat) (f : Task → Task) : System :=
  { s with tasks := s.tasks.modify t f }

/-- Change a file. -/
def modifyInode (s : System) (i : Nat) (f : Inode → Inode) : System :=
  { s with inodes := s.inodes.modify i f }

/-- Change an open file. -/
def modifyFile (s : System) (f : Nat) (g : OpenFile → OpenFile) : System :=
  { s with files := s.files.modify f g }

/-- The moment as files show it. -/
def clock (s : System) : Int := s.now

/-- A new file. -/
def addInode (s : System) (n : Inode) : Nat × System :=
  (s.inodes.size, { s with inodes := s.inodes.push n })

/-- A new open file. -/
def addFile (s : System) (f : OpenFile) : Nat × System :=
  (s.files.size, { s with files := s.files.push f })

/-- The number of the open file that a descriptor of the running process stands for. -/
def fileOf? (s : System) (descriptor : Nat) : Option Nat :=
  (s.task.descriptors.find? (·.number = descriptor)).map (·.file)

/-- The open file that a descriptor of the running process stands for. -/
def openFile? (s : System) (descriptor : Nat) : Option (Nat × OpenFile) := do
  let f ← s.fileOf? descriptor
  return (f, ← s.files[f]?)

/-- Whether some process holds the end of a pipe. -/
def holdsEnd (s : System) (pipe : Nat) (writing : Bool) : Bool :=
  s.live.any fun t => (s.taskOf t).descriptors.any fun d =>
    match s.files[d.file]? with
    | some f => f.inode == pipe && (if writing then f.writes else f.reads)
    | none => false

/-- The process of a number. -/
def taskOfNumber? (s : System) (number : Nat) : Option Nat :=
  let t := number - firstNumber
  if firstNumber ≤ number ∧ t < s.tasks.size ∧ !(s.taskOf t).reaped then some t else none

/-- The number by which a process is known. -/
def numberOf (t : Nat) : Nat := firstNumber + t

/-- End a process: its descriptors are closed, its children get another parent, and its own parent
    hears of it. -/
def endTask (s : System) (t : Nat) (fate : Fate) : System :=
  let s := s.modifyTaskOf t fun k => { k with fate := some fate, descriptors := [], wakes := none }
  let tasks := s.live.foldl (fun (ts : Array Task) u =>
    ts.modify u fun k => if k.parent = t then { k with parent := 0 } else k) s.tasks
  let tasks := tasks.modify (s.taskOf t).parent fun k =>
    if k.caught.contains Signal.child then k.remember Signal.child else k
  { s with tasks, live := s.live.filter (· != t) }

/-- Whether a process has been started by another one, through at most `fuel` others. -/
def isUnder (s : System) (above : Nat) : Nat → Nat → Bool
  | 0, _ => false
  | fuel + 1, t =>
    let p := (s.taskOf t).parent
    p == above || (p != 0 && isUnder s above fuel p)

/-- The processes that have not ended and have been started by a process, or by those that it has
    started. -/
def liveUnder (s : System) (above : Nat) : List Nat :=
  s.live.filter fun t => s.isUnder above s.tasks.size t

/-- What a signal does to a process. -/
def signal (s : System) (t : Nat) (n : Signal) : System :=
  let k := s.taskOf t
  if k.fate.isSome then s
  else if n = Signal.kill then s.endTask t (.killed n)
  else if k.ignored.contains n then s
  else if k.caught.contains n then
    s.modifyTaskOf t (·.remember n)
  else if Signal.isHarmless n || Signal.isStop n then s
  else s.endTask t (.killed n)

end System

end SyncFleet.Unix

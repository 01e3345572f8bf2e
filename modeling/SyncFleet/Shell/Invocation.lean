/-
  SyncFleet/Shell/Invocation.lean
  ===============================
  **The shell as a program: its arguments, its start and its end.**
-/
import SyncFleet.Shell.Run

namespace SyncFleet.Shell

open Unix

/-! ### The start -/

/-- The directories in which programs are looked for if the environment names none. -/
def defaultPath : String := "/usr/local/sbin:/usr/local/bin:/usr/sbin:/usr/bin:/sbin:/bin"

/-- The variables that every shell has. -/
def firstVariables : List (String × String) :=
  [("IFS", " \t\n"), ("PATH", defaultPath), ("PS1", "# "), ("PS2", "> "), ("PS4", "+ "),
    ("OPTIND", "1")]

/-- The variables that a shell has at its start.  It keeps to its own separators and begins to read
    options anew. -/
def variablesOf (environment : List Bytes) (parent : Nat) : List (Bytes × Variable) :=
  let own := firstVariables.map fun (name, value) =>
    (name.toList, (⟨some value.toList, false, false⟩ : Variable))
  let given := environment.filterMap fun e =>
    let name := e.takeWhile (· != '=')
    if isName name && name.length < e.length then some (name, e.drop (name.length + 1)) else none
  let fixed := ["IFS", "OPTIND"].map String.toList
  let vs := given.foldl (fun vs (name, value) =>
    let kept := if fixed.contains name then (vs.lookup name).bind (·.value) else some value
    Act.replaced name (⟨kept, true, false⟩ : Variable) vs) own
  Act.replaced "PPID".toList ⟨some (decimal parent), false, false⟩ vs

/-- The state of a shell that has just been started. -/
def startState (arguments environment : List Bytes) (s : System) : State where
  name := arguments.headD []
  bindings := variablesOf environment (System.numberOf s.task.parent)
  functions := []
  aliases := []
  parameters := []
  status := 0
  outputStatus := 0
  heldStatus := none
  options := []
  traps := []
  deafTo := s.task.ignored
  directory := []
  loops := 0
  depth := 0
  frames := []
  line := 0
  running := none
  jobs := []
  background := none
  number := System.numberOf s.current
  hashed := []
  optionIndex := 1
  optionOffset := none
  output := []
  saved := []

namespace Act

/-- Find out the working directory: the environment is right if it names it. -/
def findDirectory : Act Unit := do
  let shown := (← lookup "PWD").getD []
  let here ← request (Op.status ['.'] true)
  let there ← request (Op.status shown true)
  let isRight := match here, there with
    | .ok a, .ok b => shown.head? = some '/' && a.inode == b.inode
    | _, _ => false
  let directory ← if isRight then pure shown else Builtin.physicalDirectory
  modify fun s => { s with directory }
  changeVariable "PWD".toList fun v => { v with value := some directory, isExported := true }

/-! ### Arguments -/

/-- Take the options of an argument's letters; whether a script is among the arguments. -/
def startLetters (on : Bool) : Bytes → List Bytes → Act (Bool × List Bytes)
  | [], rest => return (false, rest)
  | 'c' :: letters, rest => do
    let (_, rest) ← startLetters on letters rest
    return (true, rest)
  | 'l' :: letters, rest => startLetters on letters rest
  | 'o' :: letters, rest => do
    Builtin.setNamedOption on rest.head?
    startLetters on letters (rest.drop 1)
  | c :: letters, rest => do
    if !Builtin.optionNames.any (·.2 = c) then die ("Illegal option -".toList ++ [c])
    Builtin.setOption on c
    if c = 'i' then complain "can't access tty; job control turned off".toList
    startLetters on letters rest

/-- Take the options in front of the operands, of at most `fuel` arguments. -/
def startOptions : Nat → List Bytes → Act (Bool × List Bytes)
  | 0, rest => return (false, rest)
  | fuel + 1, a :: rest => do
    match a with
    | ['-'] | ['-', '-'] => return (false, rest)
    | '-' :: letters =>
      let (isScript, rest) ← startLetters true letters rest
      let (more, rest) ← startOptions fuel rest
      return (isScript || more, rest)
    | '+' :: letters =>
      let (isScript, rest) ← startLetters false letters rest
      let (more, rest) ← startOptions fuel rest
      return (isScript || more, rest)
    | _ => return (false, a :: rest)
  | _, [] => return (false, [])

/-- How deep commands may be in each other. -/
def deepest : Nat := 10000000

/-- Run a script that is read from a descriptor. -/
def runFrom (executor : Executor) (descriptor : Nat) : Act Unit := do
  let content ← sys (Sys.readAll descriptor)
  if descriptor ≠ 0 then ask (Op.close descriptor)
  let text := (content.toOption.map Bytes.ofByteArray).getD []
  let _ ← lines executor deepest {} true (Source.ofText [] 1 text) 0

/-- Do what the arguments ask for. -/
def start (executor : Executor) (arguments : List Bytes) : Act Unit := do
  findDirectory
  let (isScript, operands) ← startOptions (arguments.length + 1) (arguments.drop 1)
  let zeroth := fun (operands : List Bytes) => modify fun (s : State) =>
    { s with name := operands.headD s.name, parameters := operands.drop 1 }
  if isScript then
    match operands with
    | [] => die "-c requires an argument".toList
    | text :: rest =>
      zeroth rest
      let isMore ← hasOption 's'
      let _ ← script executor deepest { isLast := !isMore } text
      if isMore then runFrom executor 0
  else
    let reads ← hasOption 's'
    if operands.isEmpty || reads then
      Builtin.setOption true 's'
      modify fun s => { s with parameters := operands }
      runFrom executor 0
    else
      let path := operands.headD []
      match ← sys (Sys.openFile path { reads := true, closes := true } 0) with
      | .error e => die (openingFault false path e)
      | .ok low =>
        let n ← request (Op.duplicate low leastHidden true)
        ask (Op.close low)
        zeroth operands
        runFrom executor (n.toOption.getD low)

end Act

/-- The shell. -/
def program (executor : Executor) : Program := fun arguments environment =>
  let run : Sys Nat := do
    let state ← Sys.look (startState arguments environment)
    let runner : Runner := Act.script executor Act.deepest {}
    let main : Act Unit := do Act.atEnd runner (← Act.attempt (Act.start executor arguments))
    let (_, state) ← StateT.run (ExceptT.run main) state
    return state.status % 256
  run fun status => .ended (.exited status)

end SyncFleet.Shell

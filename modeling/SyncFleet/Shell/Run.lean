/-
  SyncFleet/Shell/Run.lean
  ========================
  **Running commands.**

  Each command changes the shell and leaves a status.  Commands that have to
  run beside the shell, or apart from it, run in processes of their own, which
  begin with a copy of the shell.  Commands may be nested as deep as the fuel
  reaches, and each loop has a bound of its own.
-/
import SyncFleet.Shell.Builtin.Table
import SyncFleet.Shell.Redirect

namespace SyncFleet.Shell

open Unix

/-- How a command is run. -/
structure Manner where
  /-- somebody looks at whether it fails -/
  isTested : Bool := false
  /-- the process has nothing to do behind it -/
  isLast : Bool := false

/-- What runs a script in the shell; the status of its last command is the answer. -/
abbrev Runner := Bytes → Act Nat

namespace Act

/-! ### Traps and ends -/

/-- Do what is to be done at the caught signals that nobody has looked after yet.  The status stays
    as it was. -/
def runTraps (runner : Runner) : Act Unit := do
  let pending ← takePending
  if pending.isEmpty then return ()
  let s ← get
  let status := s.heldStatus.getD s.status
  let putBack : Act Unit := modify fun t => { t with heldStatus := s.heldStatus }
  modify fun t => { t with heldStatus := some status }
  for n in pending.mergeSort fun a b => a ≤ b do
    if let some action := (← get).traps.lookup n then
      if !action.isEmpty then
        match ← attempt (runner action) with
        | .ok _ => setStatus status
        | .error .returned =>
          putBack
          throw .returned
        | .error (.left n) =>
          setStatus status
          putBack
          throw (.left n)
        | .error (.next n) =>
          setStatus status
          putBack
          throw (.next n)
        | .error h => throw h
  putBack

/-- Take the status that an exit was given, if there was one. -/
def takeHeld : Act Unit :=
  modify fun s => { s with status := s.heldStatus.getD s.status, heldStatus := none }

/-- End the shell after it has halted: what is to be done at its end is done now. -/
def atEnd (runner : Runner) (r : Except Halt Unit) : Act Unit := do
  if let .error .exit := r then takeHeld
  let s ← get
  modify fun s => { s with heldStatus := none }
  match s.traps.lookup 0 with
  | none => pure ()
  | some action =>
    modify fun t => { t with
      traps := t.traps.filter (·.1 ≠ 0), heldStatus := some s.status, loops := 0 }
    match ← attempt (runner action) with
    | .error .fault | .error .finish => pure ()
    | _ => takeHeld
  let _ ← flush

/-- What changes in a shell when it becomes a process of its own. -/
def separate : Act Unit := do
  modify fun s => { s with jobs := [], output := [], traps := s.traps.filter (·.2.isEmpty) }
  sys (Sys.change fun s => ((), s.modifyTask fun t => { t with caught := [] }))

/-- Do something in a process of its own. -/
def forkShell (runner : Runner) (body : Act Unit) : Act Nat :=
  fork (do
    separate
    atEnd runner (← attempt body)) fun s => s.status % 256

/-- Leave the terminal's signals alone, as a process in the background does. -/
def ignoreTerminal : Act Unit := do
  modify fun s => { s with deafTo := [Signal.interrupt, Signal.quit] ++ s.deafTo }
  sys (Sys.change fun s => ((), s.modifyTask fun t =>
    { t with ignored := [Signal.interrupt, Signal.quit] ++ t.ignored }))

/-- Read nothing, as a process in the background does. -/
def readNothing : Act Unit := do
  ask (Op.close 0)
  let _ ← sys (Sys.openFile "/dev/null".toList .toRead 0)

/-! ### Frames -/

/-- Run something for which the shell has been changed, and undo the change unless the shell
    ends. -/
def withFrame (a : Act Nat) (undo : Act Unit) : Act Nat := do
  match ← attempt a with
  | .ok n =>
    undo
    return n
  | .error (.left n) =>
    undo
    throw (.left n)
  | .error (.next n) =>
    undo
    throw (.next n)
  | .error .returned =>
    undo
    throw .returned
  | .error h => throw h

/-- Put back variables until there are only some frames left, at most `fuel`. -/
def unwindTo (frames : Nat) : Nat → Act Unit
  | 0 => return ()
  | fuel + 1 => do
    if frames < (← get).frames.length then
      unshadow
      unwindTo frames fuel

/-- Run the body of a loop: whether the loop goes on. -/
def inLoop (a : Act Unit) : Act Bool := do
  match ← attempt a with
  | .ok _ => return true
  | .error (.left n) => if n ≤ 1 then return false else throw (.left (n - 1))
  | .error (.next n) => if n ≤ 1 then return true else throw (.next (n - 1))
  | .error h => throw h

/-- How many rounds a loop may take. -/
def mostRounds : Nat := 1000000000

/-- Take steps as long as they ask for more, at most `rounds`. -/
def iterate (step : Nat → Act (Bool × Nat)) : Nat → Nat → Act Nat
  | 0, status => return status
  | rounds + 1, status => do
    match ← step status with
    | (true, status) => iterate step rounds status
    | (false, status) => return status

/-- Run the body of a loop for each of some values of a variable. -/
def eachValue (name : Bytes) (body : Act Nat) : Nat → List Bytes → Act Nat
  | status, [] => return status
  | _, v :: vs => do
    assign name v
    let on ← inLoop (do let _ ← body)
    let status := (← get).status
    if on then eachValue name body status vs else return status

/-! ### Words of a command -/

/-- What is behind the word `command` and its options; none if it is to describe. -/
def pastCommand : List Bytes → Option (List Bytes × Bool)
  | [] => none
  | a :: rest =>
    match a with
    | ['-', '-'] => if rest.isEmpty then none else some (rest, false)
    | '-' :: c :: cs =>
      if (c :: cs).all (· == 'p') then (pastCommand rest).map fun r => (r.1, true) else none
    | _ => some (a :: rest, false)

/-- Whether arguments behind some fields are declarations. -/
def declares (functions : List (Bytes × Command)) : Nat → List Bytes → Bool
  | 0, _ => false
  | _, [] => false
  | fuel + 1, name :: rest =>
    if (functions.lookup name).isSome then false
    else if name = "command".toList then (pastCommand rest).any fun r => declares [] fuel r.1
    else ["alias", "export", "local", "readonly"].contains (String.ofList name)

/-- The fields of words, of which declarations are not split. -/
def argumentsOf (capture : Capture) : List Bytes → List Word → Act (List Bytes)
  | done, [] => return done
  | done, w :: ws => do
    let functions := (← get).functions
    let plain := do argumentsOf capture (done ++ (← fields capture w)) ws
    match assignment? w with
    | none => plain
    | some (name, value) =>
      if declares functions (done.length + 1) done then
        let text ← assigned capture value
        argumentsOf capture (done ++ [name ++ '=' :: text]) ws
      else plain

/-- A call of a command. -/
structure Call where
  arguments : List Bytes
  callee : Callee
  /-- whether it is special, so that its faults end the shell -/
  isSpecial : Bool
  /-- whether assignments in front of it hold only for it -/
  isLocal : Bool
  /-- whether functions are passed over -/
  skips : Bool
  /-- the directories in which programs are looked for, if not the shell's own -/
  path : Option Bytes

/-- Find what is called, at most `fuel` words deep. -/
def resolve (skips isFirst : Bool) (path : Option Bytes) : Nat → List Bytes → Act Call
  | 0, arguments => return ⟨arguments, .own false, false, true, skips, path⟩
  | fuel + 1, arguments => do
    let name := arguments.headD []
    let callee ← find skips path name
    match callee with
    | .own isSpecial =>
      let special := isSpecial && isFirst
      match if name = "command".toList then pastCommand (arguments.drop 1) else none with
      | some (rest, isDefault) =>
        resolve true false (if isDefault then some defaultPrograms else path) fuel rest
      | none => return ⟨arguments, callee, special, !special, skips, path⟩
    | _ => return ⟨arguments, callee, false, true, skips, path⟩
where
  /-- Where programs are looked for by default. -/
  defaultPrograms : Bytes := "/usr/local/sbin:/usr/local/bin:/usr/sbin:/usr/bin:/sbin:/bin".toList

/-! ### Programs -/

/-- Become a program.  A file that cannot be run but read is run by a shell.  If that fails, it is
    said why; the status tells too. -/
def becomeProgram (executor : Executor) (path : Bytes) (arguments : List Bytes) : Act Unit := do
  let environment ← environment
  let e ← sys (executor path arguments environment)
  let shell := "/bin/sh".toList
  let e ← if e = .badFormat then
      sys (executor shell (shell :: path :: arguments.drop 1) environment)
    else pure e
  refuse (arguments.headD []) e
where
  /-- Say why a program cannot be run. -/
  refuse (name : Bytes) (e : Refusal) : Act Unit := do
    complain (name ++ ": ".toList ++ refusalText e)
    setStatus (match e with
      | .noEntry | .notDirectory | .tooManySteps | .nameTooLong => 127
      | _ => 126)

/-- Run a program, in a process of its own unless there is nothing to do behind it. -/
def runProgram (executor : Executor) (m : Manner) (path : Bytes) (arguments : List Bytes) :
    Act Nat := do
  if m.isLast && !(← hasTraps) then
    becomeProgram executor path arguments
    throw .finish
  let job ← addJob
  let n ← fork (becomeProgram executor path arguments) (·.status)
  addProcess job n
  awaitJob job

/-- Show a command that is run. -/
def trace (prompt : Bytes) (texts : List Bytes) : Act Unit := do
  let copy := ((← get).saved.head?).bind fun frame => (frame.lookup 2).join
  writeTo (copy.getD 2) (prompt ++ List.intercalate [' '] texts ++ ['\n'])

/-- The parts of a text in which parameters are replaced. -/
def partsOf (text : Bytes) : Word :=
  match (Reader.parts (nestingOf text) .document).run (Source.ofText [] 1 text) with
  | .ok (w, _) => w
  | .error _ => [.text true text]

/-- How deep functions may be nested. -/
def mostDeep : Nat := 1000

section

variable (executor : Executor)

mutual

/-- Run a command. -/
def runCommand : Nat → Manner → Command → Act Nat
  | 0, _, _ => throw .finish
  | fuel + 1, m, c => do
    if ← hasOption 'n' then return (← get).status
    runTraps (script fuel {})
    let tested : Manner := { isTested := true }
    let inner : Manner := { isTested := m.isTested }
    let (status, isChecked) ← match c with
      | .simple line assignments words redirections => do
        atLine line
        pure (← simple fuel m assignments words redirections, true)
      | .redirected line body redirections => do
        atLine line
        let ts ← targets (capture fuel) redirections
        modify fun s => { s with saved := [] :: s.saved }
        finally' (do
          match ← redirectAll true ts with
          | none => pure (← runCommand fuel inner body, false)
          | some message =>
            complain message
            pure (2, true)) restore
      | .pipeline stages isBackground => do
        let job ← addJob
        pipe fuel m isBackground job none stages
        pure (← if isBackground then pure 0 else awaitJob job, true)
      | .negated body => do
        pure (if (← runCommand fuel tested body) = 0 then 1 else 0, false)
      | .both first second => do
        let status ← runCommand fuel tested first
        pure (← if status = 0 then runCommand fuel m second else pure status, false)
      | .either first second => do
        let status ← runCommand fuel tested first
        pure (← if status ≠ 0 then runCommand fuel m second else pure status, false)
      | .sequence first second => do
        let _ ← runCommand fuel inner first
        pure (← runCommand fuel m second, false)
      | .background line body redirections => do
        atLine line
        let ts ← targets (capture fuel) redirections
        let job ← addJob
        let n ← forkShell (script fuel {}) do
          ignoreTerminal
          readNothing
          apart fuel {} ts body
        addProcess job n
        modify fun s => { s with background := some n }
        pure (0, true)
      | .subshell line body redirections => do
        atLine line
        let ts ← targets (capture fuel) redirections
        if m.isLast && !(← hasTraps) then
          apart fuel inner ts body
          throw .finish
        let job ← addJob
        addProcess job (← forkShell (script fuel {}) (apart fuel inner ts body))
        pure (← awaitJob job, true)
      | .branch condition body otherwise => do
        if (← runCommand fuel tested condition) = 0 then pure (← runCommand fuel m body, false)
        else match otherwise with
          | some c => pure (← runCommand fuel m c, false)
          | none => pure (0, false)
      | .loop wanted condition body => do
        modify fun s => { s with loops := s.loops + 1 }
        let status ← finally' (iterate (loopStep fuel inner wanted condition body) mostRounds 0)
          (modify fun s => { s with loops := s.loops - 1 })
        pure (status, false)
      | .each line name words body => do
        atLine line
        let values ← fieldsOfAll (capture fuel) words
        modify fun s => { s with loops := s.loops + 1 }
        let status ← finally' (eachValue name (runCommand fuel inner body) 0 values)
          (modify fun s => { s with loops := s.loops - 1 })
        pure (status, false)
      | .choose line subject clauses => do
        atLine line
        let value ← text (capture fuel) subject
        pure (← choose fuel m value clauses, false)
      | .define line name body => do
        modify fun s => { s with functions := replaced name (.define line name body) s.functions }
        pure (0, false)
    setStatus status
    runTraps (script fuel {})
    if isChecked && !m.isTested && status ≠ 0 && (← hasOption 'e') then throw .finish
    return (← get).status
where
  /-- Note where a command begins. -/
  atLine (line : Nat) : Act Unit := modify fun s => { s with line }

/-- Take a step of a loop: run the condition, and the body if the loop goes on. -/
def loopStep : Nat → Manner → Bool → Command → Command → Nat → Act (Bool × Nat)
  | 0, _, _, _, _, status => return (false, status)
  | fuel + 1, m, wanted, condition, body, status => do
    match ← attempt (runCommand fuel { isTested := true } condition) with
    | .error (.left n) => if n ≤ 1 then return (false, status) else throw (.left (n - 1))
    | .error (.next n) => if n ≤ 1 then return (true, status) else throw (.next (n - 1))
    | .error h => throw h
    | .ok found =>
      if (found == 0) != wanted then return (false, status)
      let on ← inLoop (do let _ ← runCommand fuel m body)
      return (on, (← get).status)

/-- Run the first clause of which a pattern matches. -/
def choose : Nat → Manner → Bytes → List (List Word × Option Command) → Act Nat
  | 0, _, _, _ => throw .finish
  | _, _, _, [] => return 0
  | fuel + 1, m, value, (patterns, body) :: clauses => do
    let isMatched ← patterns.anyM fun w => do
      return globMatches (globs (← pattern (capture fuel) w)) value
    if isMatched then
      match body with
      | some c => runCommand fuel m c
      | none => return 0
    else choose fuel m value clauses

/-- Run a command in a process of its own, after its redirections. -/
def apart : Nat → Manner → List Target → Command → Act Unit
  | 0, _, _, _ => throw .finish
  | fuel + 1, m, ts, body => do
    if let some message ← redirectAll false ts then die message
    let _ ← runCommand fuel { m with isLast := true } body

/-- Start the stages of a pipeline, of which the first reads from a descriptor if there is one. -/
def pipe : Nat → Manner → Bool → Nat → Option Nat → List Command → Act Unit
  | 0, _, _, _, _, _ => throw .finish
  | _, _, _, _, _, [] => return ()
  | fuel + 1, m, isBackground, job, source, c :: cs => do
    if let .simple _ _ (w :: _) _ := c then
      if let some name := literal? w then if isName name then
        let _ ← find false none name
    let ends ← if cs.isEmpty then pure none else do
      match ← request Op.pipe with
      | .ok ends => pure (some ends)
      | .error _ => die "Pipe call failed".toList
    let isFirst := (((← get).jobs.find? (·.index = job)).map (·.processes.isEmpty)).getD true
    let n ← forkShell (script fuel {}) do
      if isBackground then
        ignoreTerminal
        if isFirst then readNothing
      if let some (r, _) := ends then ask (Op.close r)
      if let some r := source then
        ask (Op.duplicateTo r 0)
        ask (Op.close r)
      if let some (_, w) := ends then
        if 1 < w then
          ask (Op.duplicateTo w 1)
          ask (Op.close w)
      apart fuel { m with isLast := true } [] c
    addProcess job n
    if isBackground then modify fun s => { s with background := some n }
    if let some r := source then ask (Op.close r)
    if let some (_, w) := ends then ask (Op.close w)
    pipe fuel m isBackground job (ends.map Prod.fst) cs

/-- Run a simple command. -/
def simple : Nat → Manner → List (Bytes × Word) → List Word → List Redirection → Act Nat
  | 0, _, _, _, _ => throw .finish
  | fuel + 1, m, assignments, words, redirections => do
    modify fun s => { s with outputStatus := 0 }
    let arguments ← argumentsOf (capture fuel) [] words
    let call ← if arguments.isEmpty then
        pure ⟨[], .own false, false, false, false, none⟩
      else resolve false true none (arguments.length + 1) arguments
    let ts ← targets (capture fuel) redirections
    modify fun s => { s with saved := [] :: s.saved }
    let isExec := (call.callee matches .own _) && call.arguments.head? == some "exec".toList
    let hasFrame := call.isLocal && (!assignments.isEmpty || call.callee matches .function ..)
    if hasFrame then modify fun s => { s with frames := [] :: s.frames }
    let body : Act Nat := do
      if let some message ← redirectAll true ts then
        complain message
        setStatus 2
        if call.isSpecial then throw .fault else return 2
      let mut shown := []
      for (name, w) in assignments do
        let value ← assigned (capture fuel) w
        shown := (name ++ '=' :: value) :: shown
        let exports := call.isLocal || (isExec && 1 < call.arguments.length)
        if call.isLocal then shadow name
        if exports then
          changeVariable name fun v => { v with value := some value, isExported := true }
        else assign name value
      if ← hasOption 'x' then
        let prompt ← text (capture fuel) (partsOf ((← lookup "PS4").getD []))
        trace prompt (shown.reverse ++ call.arguments)
      if call.arguments.isEmpty then return (← get).outputStatus
      perform fuel m call
    let undo : Act Unit := if hasFrame then unshadow else pure ()
    match ← attempt (withFrame body undo) with
    | .ok n =>
      if isExec then letStay else restore
      return n
    | .error h =>
      restore
      throw h

/-- Perform a call. -/
def perform : Nat → Manner → Call → Act Nat
  | 0, _, _ => throw .finish
  | fuel + 1, m, call => do
    let name := call.arguments.headD []
    match call.callee with
    | .own _ => own fuel m call
    | _ =>
      match ← find call.skips call.path name with
      | .function body => function fuel m body call.arguments
      | .program path => runProgram executor m path call.arguments
      | .own _ => own fuel m call
      | .nothing e =>
        complain (name ++ ": ".toList ++ refusalText e)
        return 127

/-- Run a command of the shell itself. -/
def own : Nat → Manner → Call → Act Nat
  | 0, _, _ => throw .finish
  | fuel + 1, m, call => do
    let name := call.arguments.headD []
    let arguments := call.arguments.drop 1
    let before := (← get).running
    let frames := (← get).frames.length
    modify fun s => { s with running := some name }
    let body : Act Nat := match String.ofList name with
      | "eval" =>
        if arguments.isEmpty then return 0
        else script fuel { isTested := m.isTested } (List.intercalate [' '] arguments)
      | "." => readIn fuel arguments
      | "exec" => exec arguments
      | n =>
        match Builtin.ofName? n with
        | some builtin => builtin arguments
        | none => return 127
    let r ← attempt body
    let isWritten ← flush
    match r with
    | .ok status =>
      if !isWritten then complain (name ++ ": I/O error".toList)
      modify fun s => { s with running := before }
      return if isWritten then status else status ||| 1
    | .error h =>
      modify fun s => { s with running := before }
      if h ≠ .fault || call.isSpecial then throw h
      unwindTo frames ((← get).frames.length + 1)
      return (← get).status

/-- Become a program, if one is named. -/
def exec (arguments : List Bytes) : Act Nat := do
  let (_, operands) ← options "" arguments
  match operands with
  | [] => return 0
  | name :: _ =>
    let found ← if name.contains '/' then pure (.ok name)
      else search name (splitAt ':' (← programPath)) .noEntry
    match found with
    | .ok path => becomeProgram executor path operands
    | .error e => becomeProgram.refuse name e
    throw .finish

/-- Call a function. -/
def function : Nat → Manner → Command → List Bytes → Act Nat
  | 0, _, _, _ => throw .finish
  | fuel + 1, m, body, arguments => do
    let before ← get
    if mostDeep ≤ before.depth then
      die s!"Maximum function recursion depth ({mostDeep}) reached".toList
    modify fun s => { s with
      parameters := arguments.drop 1, depth := s.depth + 1, loops := 0
      optionIndex := 1, optionOffset := none }
    finally' (do
      match ← attempt (runCommand fuel { isTested := m.isTested } body) with
      | .ok _ | .error .returned => return (← get).status
      | .error h => throw h)
      (modify fun s => { s with
        parameters := before.parameters, depth := before.depth, loops := before.loops
        optionIndex := before.optionIndex, optionOffset := before.optionOffset })

/-- Run the commands of a file in this shell. -/
def readIn : Nat → List Bytes → Act Nat
  | 0, _ => throw .finish
  | fuel + 1, arguments => do
    let (_, operands) ← options "" arguments
    match operands.head? with
    | none => return 0
    | some name =>
      let path ← if name.contains '/' then pure name
        else searchFile name (splitAt ':' (← programPath))
      match ← sys (Sys.openFile path .toRead 0) with
      | .error e => die (openingFault false path e)
      | .ok n =>
        let content ← sys (Sys.readAll n)
        ask (Op.close n)
        modify fun s => { s with running := some path }
        match ← attempt (script fuel {} ((content.toOption.map Bytes.ofByteArray).getD [])) with
        | .ok status => return status
        | .error .returned => return (← get).status
        | .error h => throw h

/-- Run a script and get what it writes. -/
def capture : Nat → Option Command → Act Bytes
  | 0, _ => throw .finish
  | _, none => return []
  | fuel + 1, some c => do
    match ← request Op.pipe with
    | .error _ => die "Pipe call failed".toList
    | .ok (r, w) =>
      let job ← addJob
      let n ← forkShell (script fuel {}) do
        ask (Op.close r)
        if w ≠ 1 then
          ask (Op.duplicateTo w 1)
          ask (Op.close w)
        apart fuel {} [] c
      addProcess job n
      ask (Op.close w)
      let content ← sys (Sys.readAll r)
      ask (Op.close r)
      let status ← awaitJob job
      modify fun s => { s with outputStatus := status }
      return (content.toOption.map Bytes.ofByteArray).getD []

/-- Run a script in this shell. -/
def script : Nat → Manner → Bytes → Act Nat
  | 0, _, _ => throw .finish
  | fuel + 1, m, text => do
    lines fuel m false (Source.ofText [] 1 text) 0

/-- Run a script command by command; `shows` says that its lines may be shown. -/
def lines : Nat → Manner → Bool → Source → Nat → Act Nat
  | 0, _, _, _, _ => throw .finish
  | fuel + 1, m, shows, s, status => do
    let before := s.rest
    match ({ s with aliases := (← get).aliases }).nextLine with
    | .error e =>
      modify fun s => { s with line := e.line }
      die e.fault.message.toList
    | .ok (line, s) =>
      if shows then if ← hasOption 'v' then
        writeTo 2 (before.take (before.length - s.rest.length))
      match line with
      | .finish => return status
      | .command c isLast =>
        let status ← match c with
          | some c => runCommand fuel { m with isLast := m.isLast && isLast } c
          | none => pure status
        lines fuel m shows s status

end

end

end Act

end SyncFleet.Shell

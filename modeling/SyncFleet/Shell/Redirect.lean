/-
  SyncFleet/Shell/Redirect.lean
  =============================
  **Redirections: opening what descriptors stand for, and putting back what they stood for.**

  What a descriptor stood for is kept behind a number that scripts cannot
  name, until the redirections of a command are undone.
-/
import SyncFleet.Shell.Expansion
import SyncFleet.Shell.Lookup

namespace SyncFleet.Shell

open Unix

/-- A redirection whose word has been expanded. -/
structure Target where
  descriptor : Nat
  mode : Mode
  text : Bytes

namespace Act

/-- The least number of a descriptor that scripts cannot name. -/
def leastHidden : Nat := 10

/-- Expand the words of redirections. -/
def targets (capture : Capture) : List Redirection → Act (List Target)
  | [] => return []
  | .mk descriptor mode word :: rest => do
    let text ← Act.text capture word
    if mode = .duplicate ∧ text ≠ ['-'] ∧ !(text.length = 1 ∧ text.all Char.isDigit) then
      die "Syntax error: Bad fd number".toList
    return ⟨descriptor, mode, text⟩ :: (← targets capture rest)

/-- What is said of a file that cannot be opened. -/
def openingFault (creates : Bool) (path : Bytes) (e : Refusal) : Bytes :=
  let why := match e with
    | .noEntry | .notDirectory => if creates then "Directory nonexistent" else "No such file"
    | e => e.message
  ((if creates then "cannot create " else "cannot open ").toList ++ path
    ++ (": " ++ why).toList)

/-- Open the file of a redirection. -/
def openTarget (path : Bytes) (o : Opening) : Act (Except Bytes Nat) := do
  match ← sys (Sys.openFile path o 0o666) with
  | .ok n => return .ok n
  | .error e => return .error (openingFault o.creates path e)

/-- Open a file for writing where existing files are protected. -/
def openNew (path : Bytes) : Act (Except Bytes Nat) := do
  match ← request (Op.status path true) with
  | .error _ => openTarget path { writes := true, creates := true, isNew := true }
  | .ok t =>
    if t.isFile then return .error (openingFault true path .exists)
    else openTarget path { writes := true }

/-- Open what a redirection leads to: a new descriptor, or none for one that is there or closed. -/
def openFor (t : Target) : Act (Except Bytes (Option Nat)) := do
  let opened ← match t.mode with
    | .read => openTarget t.text .toRead
    | .write =>
      if ← hasOption 'C' then openNew t.text else openTarget t.text .toWrite
    | .overwrite => openTarget t.text .toWrite
    | .append => openTarget t.text .toAppend
    | .readWrite => openTarget t.text { reads := true, writes := true, creates := true }
    | .document =>
      match ← request (Op.filledPipe (Bytes.toByteArray t.text)) with
      | .ok n => pure (.ok n)
      | .error e => pure (.error e.message.toList)
    | .duplicate => return .ok none
  return opened.map some

/-- Keep what a descriptor stands for, if the redirections are undone later and it is not kept
    already. -/
def keep (descriptor : Nat) : Act Unit := do
  match (← get).saved with
  | [] => return ()
  | frame :: frames =>
    if frame.any (·.1 = descriptor) then return ()
    let copy ← request (Op.duplicate descriptor leastHidden true)
    modify fun s => { s with saved := ((descriptor, copy.toOption) :: frame) :: frames }

/-- Carry out a redirection; what is wrong comes as a message. -/
def redirect (keeps : Bool) (t : Target) : Act (Option Bytes) := do
  match ← openFor t with
  | .error message => return some message
  | .ok (some n) =>
    if n ≠ t.descriptor then
      if keeps then keep t.descriptor
      ask (Op.duplicateTo n t.descriptor)
      ask (Op.close n)
    else if keeps then
      modify fun s => { s with
        saved := match s.saved with
          | frame :: frames =>
            (if frame.any (·.1 = n) then frame else (n, none) :: frame) :: frames
          | [] => [] }
    return none
  | .ok none =>
    let source := natOf? t.text
    if source = some t.descriptor then return none
    if keeps then keep t.descriptor
    match source with
    | none =>
      ask (Op.close t.descriptor)
      return none
    | some n =>
      match ← request (Op.duplicateTo n t.descriptor) with
      | .ok _ => return none
      | .error e => return some (t.text ++ ": ".toList ++ e.message.toList)

/-- Carry out redirections up to the first that goes wrong. -/
def redirectAll (keeps : Bool) : List Target → Act (Option Bytes)
  | [] => return none
  | t :: ts => do
    match ← redirect keeps t with
    | some message => return some message
    | none => redirectAll keeps ts

/-- Put back what descriptors stood for before the innermost redirections. -/
def restore : Act Unit := do
  match (← get).saved with
  | [] => return ()
  | frame :: frames =>
    modify fun s => { s with saved := frames }
    for (descriptor, copy) in frame do
      match copy with
      | some n =>
        ask (Op.duplicateTo n descriptor)
        ask (Op.close n)
      | none => ask (Op.close descriptor)

/-- Let the innermost redirections stay. -/
def letStay : Act Unit := do
  match (← get).saved with
  | [] => return ()
  | frame :: frames =>
    modify fun s => { s with saved := frames }
    for (_, copy) in frame do
      if let some n := copy then ask (Op.close n)

end Act

end SyncFleet.Shell

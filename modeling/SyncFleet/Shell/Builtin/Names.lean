/-
  SyncFleet/Shell/Builtin/Names.lean
  ==================================
  **Commands about names: aliases, and what a name stands for.**
-/
import SyncFleet.Shell.Builtin.Argument
import SyncFleet.Shell.Lookup

namespace SyncFleet.Shell.Builtin

open Unix Act

/-! ### Aliases -/

/-- An alias as it can be written in a script. -/
def aliasText (name value : Bytes) : Bytes := name ++ '=' :: inQuotes value ++ ['\n']

/-- Set or show aliases. -/
def setAliases : Builtin := fun arguments => do
  if arguments.isEmpty then
    let placed := (← get).aliases.map fun a => (placeOf a.1, a)
    for (_, name, value) in placed.mergeSort fun a b => a.1 ≤ b.1 do put (aliasText name value)
    return 0
  let mut status := 0
  for a in arguments do
    let behind := (a.drop 1).takeWhile (· != '=')
    if behind.length + 1 < a.length then
      let name := a.take (behind.length + 1)
      let value := a.drop (behind.length + 2)
      modify fun s => { s with aliases := replaced name value s.aliases }
    else match (← get).aliases.lookup a with
      | some value => put (aliasText a value)
      | none =>
        writeTo 2 ("alias: ".toList ++ a ++ " not found\n".toList)
        status := 1
  return status

/-- Remove aliases. -/
def unsetAliases : Builtin := fun arguments => do
  let (os, names) ← options "a" arguments
  if !os.isEmpty then
    modify fun s => { s with aliases := [] }
    return 0
  let mut status := 0
  for name in names do
    if ((← get).aliases.lookup name).isNone then
      writeTo 2 ("unalias: ".toList ++ name ++ " not found\n".toList)
      status := 1
    modify fun s => { s with aliases := s.aliases.filter (·.1 ≠ name) }
  return status

/-! ### Descriptions -/

/-- What is said about a name, at length or in short. -/
def describe (verbose : Bool) (name : Bytes) : Act Nat := do
  let s ← get
  let say := fun (long : String) (short : Bytes) => do
    put ((if verbose then name ++ long.toList else short) ++ ['\n'])
    return 0
  if keywords.contains (String.ofList name) then
    return ← say " is a shell keyword" name
  if let some value := s.aliases.lookup name then
    if verbose then put (name ++ " is an alias for ".toList ++ value ++ ['\n'])
    else put ("alias ".toList ++ aliasText name value)
    return 0
  let isTracked := (s.hashed.lookup name).isSome && (s.functions.lookup name).isNone
  let callee ← do
    if name.contains '/' then
      match ← request (Op.status name true) with
      | .ok _ => pure (Callee.program name)
      | .error e => pure (Callee.nothing e)
    else find false none name
  match callee with
  | .function .. => say " is a shell function" name
  | .own true => say " is a special shell builtin" name
  | .own false => say " is a shell builtin" name
  | .program path =>
    let label := if isTracked then " is a tracked alias for " else " is "
    say (label ++ path.name) path
  | .nothing _ =>
    if verbose then put (name ++ ": not found\n".toList)
    return 127

/-- Say what names stand for. -/
def type : Builtin := fun names => do
  let mut status := 0
  for name in names do status := status ||| (← describe true name)
  return status

/-- Say what a name stands for, if that is asked for. -/
def command : Builtin := fun arguments => do
  let (os, names) ← options "pvV" arguments
  let asked := os.filter fun o => o.1 ≠ 'p'
  match names, asked with
  | name :: _, _ :: _ => describe (asked.any (·.1 = 'V')) name
  | _, _ => return 0

/-- The place of a program among those that are remembered. -/
def hashPlace (name : Bytes) : Nat :=
  (name.foldl (fun n c => n + c.toNat) ((name.headD '\x00').toNat * 16)) % 0x8000 % 31

/-- Remember where programs are, forget it or show it. -/
def hash : Builtin := fun arguments => do
  let (os, names) ← options "r" arguments
  if !os.isEmpty then
    modify fun s => { s with hashed := [] }
    return 0
  if names.isEmpty then
    let placed := (← get).hashed.map fun h => (hashPlace h.1, h.2)
    for (_, path) in placed.mergeSort fun a b => a.1 ≤ b.1 do put (path ++ ['\n'])
    return 0
  let mut status := 0
  for name in names do
    modify fun s => { s with hashed := s.hashed.filter (·.1 ≠ name) }
    if let .nothing e ← find false none name then
      complain (name ++ ": ".toList ++ refusalText e)
      status := 1
  return status

end SyncFleet.Shell.Builtin

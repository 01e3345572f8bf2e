/-
  SyncFleet/Utility/File/Permission.lean
  ======================================
  **Changing the permissions and owners of files.**
-/
import SyncFleet.Utility.Account
import SyncFleet.Utility.File.Mode
import SyncFleet.Utility.File.Naming
import SyncFleet.Utility.File.Removal

namespace SyncFleet.Utility.File

open Unix Tool

/-- What is said about files. -/
inductive Loudness where
  | quiet
  | changes
  | all
deriving DecidableEq, Repr

/-- What options say about it. -/
def loudnessOf (c : Chosen) : Loudness :=
  match c.last? ["c", "v"] with
  | some "c" => .changes
  | some _ => .all
  | none => .quiet

/-! ### Permissions -/

/-- How permissions are changed. -/
structure ModeSetting where
  change : Bool → Nat → Nat
  isRecursive : Bool
  isSilent : Bool
  loudness : Loudness

/-- Permissions in digits and letters. -/
def modeText (mode : Nat) : Bytes :=
  padLeft 4 '0' (octal mode) ++ " (".toList ++ modeLetters mode ++ [')']

/-- Set the permissions of a file, and of the files in it if that is asked for, at most `fuel`
    levels deep. -/
def ModeSetting.apply (k : ModeSetting) : Nat → Bool → Bytes → Tool Unit
  | 0, _, _ => return ()
  | fuel + 1, isTop, path => do
    let blame := fun (message : Bytes) (e : Refusal) =>
      if k.isSilent then modify fun s => { s with status := s.failure } else complainOf message e
    match ← status path isTop with
    | .error e =>
      if isTop && (← status? path false).any (·.isLink) then
        if k.isSilent then modify fun s => { s with status := s.failure }
        else complain ("cannot operate on dangling symlink ".toList ++ inQuotes path)
      else
        blame ("cannot access ".toList ++ inQuotes path) e
        if k.loudness = .all then
          putLine ("failed to change mode of ".toList ++ inQuotes path
            ++ " from 0000 (---------) to 0000 (---------)".toList)
    | .ok t =>
      if t.isLink then
        if k.loudness = .all then
          putLine ("neither symbolic link ".toList ++ inQuotes path
            ++ " nor referent has been changed".toList)
      else
        let new := k.change t.isDirectory t.mode
        match ← request (Op.changeMode path new true) with
        | .error e => blame ("changing permissions of ".toList ++ inQuotes path) e
        | .ok _ =>
          if k.loudness = .all && new = t.mode then
            putLine ("mode of ".toList ++ inQuotes path ++ " retained as ".toList ++ modeText t.mode)
          else if k.loudness ≠ .quiet && new ≠ t.mode then
            putLine ("mode of ".toList ++ inQuotes path ++ " changed from ".toList
              ++ modeText t.mode ++ " to ".toList ++ modeText new)
        if k.isRecursive && t.isDirectory then
          for (name, _) in ((← request (Op.entries path)).toOption).getD [] do
            k.apply fuel false (inside path name)

/-- Whether an argument is a change of permissions that begins with a minus sign. -/
def isModeArgument (argument : Bytes) : Bool :=
  match argument with
  | '-' :: c :: _ => "rwxXstugoa,+=01234567".toList.contains c
  | _ => false

/-- Change the permissions of files. -/
def chmod (arguments _environment : List Bytes) : Tool Unit := do
  let front := arguments.takeWhile (· ≠ ['-', '-'])
  let modes := front.filter isModeArgument
  let others := front.filter (!isModeArgument ·) ++ arguments.drop front.length
  let (c, operands) ← options ["R|recursive", "c|changes", "v|verbose", "f|silent|quiet",
    "reference=", "no-preserve-root", "preserve-root"] others
  let isGiven := !modes.isEmpty || c.has "reference"
  match isGiven, operands with
  | false, [] => missOperand
  | false, [mode] => missOperandAfter mode
  | true, [] => missOperand
  | _, _ => pure ()
  let text := if modes.isEmpty then operands.headD [] else List.intercalate [','] modes
  let names := if isGiven then operands else operands.drop 1
  let change : Bool → Nat → Nat ← match c.value? "reference" with
    | some path => do
      match ← status path true with
      | .ok t => pure fun _ _ => t.mode
      | .error e => dieOf ("failed to get attributes of ".toList ++ inQuotes path) e
    | none => do
      match modeChanges? text with
      | none => misuse ("invalid mode: ".toList ++ quoted text)
      | some changes =>
        let mask ← mask
        pure fun isDirectory mode => changedMode changes isDirectory mask mode
  let k : ModeSetting := ⟨change, c.has "R", c.has "f", loudnessOf c⟩
  for name in names do
    if c.has "R" && c.last? ["preserve-root", "no-preserve-root"] = some "preserve-root"
        && (← status? name true).any (·.inode = rootDirectory) then
      complain "it is dangerous to operate recursively on '/'".toList
      warn "use --no-preserve-root to override this failsafe".toList
    else k.apply mostDepth true name

/-! ### Owners -/

/-- How owners are changed. -/
structure OwnerSetting where
  owner : Option Nat
  group : Option Nat
  /-- the owners that a file must have to be changed -/
  fromOwner : Option Nat
  fromGroup : Option Nat
  isRecursive : Bool
  follows : Bool
  isSilent : Bool
  loudness : Loudness
  /-- only groups are changed -/
  onlyGroup : Bool
  accounts : Accounts

/-- An owner and a group, as they are written. -/
def OwnerSetting.text (k : OwnerSetting) (owner group : Option Nat) : Bytes :=
  let user := owner.map k.accounts.user
  let group := group.map k.accounts.group
  match user, group with
  | some u, some g => u ++ ':' :: g
  | some u, none => u
  | none, some g => if k.onlyGroup then g else ':' :: g
  | none, none => []

/-- Set the owners of a file, and of the files in it if that is asked for, at most `fuel` levels
    deep. -/
def OwnerSetting.apply (k : OwnerSetting) : Nat → Bytes → Tool Unit
  | 0, _ => return ()
  | fuel + 1, path => do
    match ← status path k.follows with
    | .error e =>
      let what := if k.follows && (← status? path false).isSome then "cannot dereference "
        else "cannot access "
      if k.isSilent then modify fun s => { s with status := s.failure }
      else complainOf (what.toList ++ inQuotes path) e
    | .ok t =>
      if k.isRecursive && t.isDirectory then
        for (name, _) in ((← request (Op.entries path)).toOption).getD [] do
          ({ k with follows := false } : OwnerSetting).apply fuel (inside path name)
      if k.fromOwner.all (· = t.owner) && k.fromGroup.all (· = t.group) then
        ask (Op.changeOwner path k.owner k.group k.follows)
        let isNew := k.owner.any (· ≠ t.owner) || k.group.any (· ≠ t.group)
        let what := if k.onlyGroup || (k.owner.isNone && k.group.isSome) then "group"
          else "ownership"
        let old := k.text (k.owner.map fun _ => t.owner) (k.group.map fun _ => t.group)
        let plain := fun (b : Bytes) => if what = "group" && b.head? = some ':' then b.drop 1 else b
        if k.loudness = .all && !isNew then
          putLine ((what ++ " of ").toList ++ inQuotes path ++ " retained as ".toList ++ plain old)
        else if k.loudness ≠ .quiet && isNew then
          putLine (("changed " ++ what ++ " of ").toList ++ inQuotes path ++ " from ".toList
            ++ plain old ++ " to ".toList ++ plain (k.text k.owner k.group))

/-- The user and group that a text names. -/
def ownersOf (accounts : Accounts) (text : Bytes) : Tool (Option Nat × Option Nat) := do
  let user := text.takeWhile (· != ':')
  let behind := text.drop user.length
  let owner ← if user.isEmpty then pure none
    else match Accounts.numberIn accounts.users user with
      | some n => pure (some n)
      | none => die ("invalid user: ".toList ++ quoted text)
  match behind with
  | [] => return (owner, none)
  | [_] =>
    return (owner, if user.isEmpty then none else (Accounts.find accounts.users user).map (·.group))
  | _ :: group =>
    match Accounts.numberIn accounts.groups group with
    | some n => return (owner, some n)
    | none => die ("invalid group: ".toList ++ quoted text)

/-- The options of the programs that change owners. -/
def ownerOptions : List String :=
  ["R|recursive", "c|changes", "v|verbose", "f|silent|quiet", "h|no-dereference", "dereference",
    "H", "L", "P", "from=", "reference=", "no-preserve-root", "preserve-root"]

/-- Change owners or groups. -/
def changeOwners (onlyGroup : Bool) (arguments : List Bytes) : Tool Unit := do
  let (c, operands) ← options ownerOptions arguments
  let accounts ← accounts
  match c.has "reference", operands with
  | _, [] => missOperand
  | false, [text] => missOperandAfter text
  | _, _ => pure ()
  let (owner, group) ← match c.value? "reference" with
    | some path => do
      match ← status path true with
      | .ok t => pure (if onlyGroup then none else some t.owner, some t.group)
      | .error e => dieOf ("failed to get attributes of ".toList ++ inQuotes path) e
    | none =>
      let text := operands.headD []
      if onlyGroup then
        if text.isEmpty then pure (none, none)
        else match Accounts.numberIn accounts.groups text with
          | some n => pure (none, some n)
          | none => die ("invalid group: ".toList ++ quoted text)
      else ownersOf accounts text
  let (fromOwner, fromGroup) ← match c.value? "from" with
    | some text => ownersOf accounts text
    | none => pure (none, none)
  let k : OwnerSetting := ⟨owner, group, fromOwner, fromGroup, c.has "R", !c.has "h", c.has "f",
    loudnessOf c, onlyGroup, accounts⟩
  for name in if c.has "reference" then operands else operands.drop 1 do
    k.apply mostDepth name

/-- Change the owners of files. -/
def chown (arguments _environment : List Bytes) : Tool Unit := changeOwners false arguments

/-- Change the groups of files. -/
def chgrp (arguments _environment : List Bytes) : Tool Unit := changeOwners true arguments

end SyncFleet.Utility.File

/-
  SyncFleet/Shell/Builtin/Surroundings.lean
  =========================================
  **Commands about what a process has around it: directory, mask, limits, times.**
-/
import SyncFleet.Shell.Builtin.Argument

namespace SyncFleet.Shell.Builtin

open Unix Act

/-! ### The working directory -/

/-- A path without steps that are no names, from a directory as it is shown.  A step up takes the
    last name away, whatever it leads to. -/
def cleanPath (directory path : Bytes) : Bytes :=
  let isAbsolute := path.head? = some '/'
  let isDouble := ['/', '/'].isPrefixOf path && path[2]? != some '/'
  let start := if isAbsolute then [] else namesOf directory
  let fromDouble := !isAbsolute && ['/', '/'].isPrefixOf directory
  let names := (namesOf path).foldl (fun done name =>
    if name = ['.', '.'] then done.drop 1
    else if name = ['.'] then done
    else name :: done) start.reverse
  let top := if (isAbsolute && isDouble) || fromDouble then ['/', '/'] else ['/']
  top ++ List.intercalate ['/'] names.reverse

/-- Set the variables that show the working directory and the one before it. -/
def showDirectory (directory : Bytes) : Act Unit := do
  let old := (← get).directory
  let exporting := fun (name : String) (value : Bytes) =>
    changeVariable name.toList fun v => { v with value := some value, isExported := true }
  exporting "OLDPWD" old
  modify fun s => { s with directory }
  exporting "PWD" directory

/-- Whether the links on the way are to be shown as they are; the last option counts. -/
def physical (arguments : List Bytes) : Act (Bool × List Bytes) := do
  let (os, operands) ← options "LP" arguments
  return ((os.getLast?.map Prod.fst) = some 'P', operands)

/-- The path of the working directory, without links. -/
def physicalDirectory : Act Bytes := do
  match ← request Op.directory with
  | .ok path => return path
  | .error e =>
    complain ("getcwd() failed: ".toList ++ e.message.toList)
    return []

/-- Go to a directory; whether that has worked. -/
def goTo (isPhysical : Bool) (path : Bytes) : Act Bool := do
  let shown := (← get).directory
  let target := if isPhysical then path else cleanPath shown path
  match ← request (Op.changeDirectory target) with
  | .error _ => return false
  | .ok _ =>
    showDirectory (← if isPhysical then physicalDirectory else pure target)
    return true

/-- Whether a path is looked for from the working directory alone. -/
def isAnchored (path : Bytes) : Bool :=
  path.head? = some '/' || (path.takeWhile (· != '/')) ∈ [['.'], ['.', '.']]

/-- Go to the first directory of a name that is there, below some others; whether one was, and
    whether it is shown. -/
def goBelow (isPhysical : Bool) (name : Bytes) : List Bytes → Act (Option (Bool × Bool))
  | [] => return none
  | d :: ds => do
    let path := if d.isEmpty then name else d ++ '/' :: name
    match ← request (Op.status path true) with
    | .ok t =>
      if t.isDirectory then return some (← goTo isPhysical path, !d.isEmpty)
      else goBelow isPhysical name ds
    | .error _ => goBelow isPhysical name ds

/-- Go to a directory. -/
def cd : Builtin := fun arguments => do
  let (isPhysical, operands) ← physical arguments
  let isBack := operands.head? = some ['-']
  let target ← match operands.head? with
    | none => pure ((← lookup "HOME").getD [])
    | some a => if isBack then pure ((← lookup "OLDPWD").getD []) else pure a
  let places ← if isAnchored target then pure [] else do
    pure (((← lookup "CDPATH").map (splitAt ':')).getD [])
  let target := if target.isEmpty then ['.'] else target
  let (went, isShown) ← match ← goBelow isPhysical target places with
    | some r => pure r
    | none => pure (← goTo isPhysical target, false)
  if !went then die ("can't cd to ".toList ++ target)
  if isShown || isBack then put ((← get).directory ++ ['\n'])
  return 0

/-- Show the working directory. -/
def pwd : Builtin := fun arguments => do
  let (isPhysical, _) ← physical arguments
  let shown := (← get).directory
  put ((← if isPhysical then physicalDirectory else pure shown) ++ ['\n'])
  return 0

/-! ### The mask of permissions -/

/-- The permissions that a mask leaves, by letters. -/
def grantedLetters (mask : Nat) : Bytes :=
  List.intercalate [','] ((List.range 3).map fun i =>
    let granted := (List.range 3).filterMap fun j =>
      if mask.testBit (8 - (3 * i + j)) then none else "rwx".toList[j]?
    ("ugo".toList.drop i).take 1 ++ '=' :: granted)

/-- What permissions become by a mode that is made of letters: whom it is for, an operator and
    what is granted; none if it is no such mode.  At most `fuel` operators. -/
def symbolicMode? (old : Nat) : Nat → Nat → Nat → Bytes → Option Nat
  | 0, _, _, _ => none
  | fuel + 1, granted, whom, text =>
    let who := text.takeWhile "augo".toList.contains
    let positions := who.foldl (fun n c => n ||| (match c with
      | 'u' => 0o100
      | 'g' => 0o010
      | 'o' => 0o001
      | _ => 0o111)) whom
    let positions := if positions = 0 then 0o111 else positions
    match text.drop who.length with
    | o :: rest =>
      if !"=+-".toList.contains o then none
      else
        let what := rest.takeWhile "rwxugoXs".toList.contains
        let bits := what.foldl (fun n c => n ||| (match c with
          | 'r' => 4
          | 'w' => 2
          | 'x' => 1
          | 'u' => old >>> 6
          | 'g' => old >>> 3
          | 'o' => old
          | 'X' => if old &&& 0o111 = 0 then 0 else 1
          | _ => 0)) 0
        let value := (bits &&& 7) * positions
        let granted := match o with
          | '-' => granted &&& (0o777 - value)
          | '=' => value ||| (granted &&& (0o777 - 7 * positions))
          | _ => granted ||| value
        match rest.drop what.length with
        | [] => some granted
        | [','] => some granted
        | ',' :: more => symbolicMode? old fuel granted 0 more
        | more => if more.head?.any "=+-".toList.contains
            then symbolicMode? old fuel granted positions more else none
    | [] => some granted

/-- Show or set the mask of permissions. -/
def umask : Builtin := fun arguments => do
  let (os, operands) ← options "S" arguments
  let mask ← sys (Sys.look fun s => s.task.mask)
  let set := fun (n : Nat) => sys (Sys.change fun s =>
    ((), s.modifyTask fun t => { t with mask := n % 0o1000 }))
  match operands.head? with
  | none =>
    put ((if os.isEmpty then padLeft 4 '0' (octal mask) else grantedLetters mask) ++ ['\n'])
  | some a =>
    if a.head?.any Char.isDigit then
      match octal? a with
      | some n => set n
      | none => die ("Illegal number: ".toList ++ a)
    else if a.isEmpty then pure ()
    else match symbolicMode? (0o777 - mask) (a.length + 1) (0o777 - mask) 0 a with
      | some n => set (0o777 - n)
      | none => die ("Illegal mode: ".toList ++ a)
  return 0

/-! ### Limits -/

/-- What can be limited: how it is shown, its letter and its unit. -/
def limitKinds : List (String × Char × Nat) :=
  [("time(seconds)", 't', 1), ("file(blocks)", 'f', 512), ("data(kbytes)", 'd', 1024),
    ("stack(kbytes)", 's', 1024), ("coredump(blocks)", 'c', 512), ("memory(kbytes)", 'm', 1024),
    ("locked memory(kbytes)", 'l', 1024), ("process", 'p', 1), ("nofiles", 'n', 1),
    ("vmemory(kbytes)", 'v', 1024), ("locks", 'w', 1), ("rtprio", 'r', 1)]

/-- A limit as it is shown. -/
def limitText (isHard : Bool) (l : Limit) : Bytes :=
  (match if isHard then l.hard else l.soft with
    | some n => decimal n
    | none => "unlimited".toList) ++ ['\n']

/-- Whether a bound is not greater than another. -/
def notAbove : Option Nat → Option Nat → Bool
  | _, none => true
  | some a, some b => a ≤ b
  | none, some _ => false

/-- Show or set a limit. -/
def ulimit : Builtin := fun arguments => do
  let letters := limitKinds.map fun k => k.2.1
  let (os, operands) ← options ("HSa" ++ String.ofList letters) arguments
  let isAll := os.any (·.1 = 'a')
  let isHard := os.any (·.1 = 'H')
  let isSoft := os.any (·.1 = 'S')
  let (isHard, isSoft) := if isHard || isSoft then (isHard, isSoft) else (true, true)
  let letter := ((os.map Prod.fst).filter letters.contains).getLastD 'f'
  let limits ← sys (Sys.look fun s => s.task.limits)
  let limitOf := fun c => (limits.lookup c).getD ⟨none, none⟩
  match operands with
  | [] =>
    if isAll then
      for (name, c, _) in limitKinds do
        put (padRight 20 name.toList ++ ' ' :: limitText (!isSoft) (limitOf c))
    else put (limitText (!isSoft) (limitOf letter))
  | a :: more =>
    if isAll || !more.isEmpty then die "too many arguments".toList
    let value ← if a = "unlimited".toList then pure none
      else match natOf? a with
        | some n => pure (some n)
        | none => if a.isEmpty then pure (some 0) else die "bad number".toList
    let old := limitOf letter
    let new : Limit := ⟨if isSoft then value else old.soft, if isHard then value else old.hard⟩
    if !notAbove new.soft new.hard then
      die "error setting limit (Invalid argument)".toList
    if !notAbove new.hard old.hard then
      die "error setting limit (Operation not permitted)".toList
    sys (Sys.change fun s => ((), s.modifyTask fun t =>
      { t with limits := (letter, new) :: t.limits.filter (·.1 ≠ letter) }))
  return 0

/-- Show how long processes have run. -/
def times : Builtin := fun _ => do
  put "0m0.000000s 0m0.000000s\n0m0.000000s 0m0.000000s\n".toList
  return 0

end SyncFleet.Shell.Builtin

/-
  SyncFleet/Utility/Process/Identity.lean
  =======================================
  **Who runs programs, and on what.**

  All processes belong to the user who may do everything.
-/
import SyncFleet.Utility.Account
import SyncFleet.Utility.Option

namespace SyncFleet.Utility.Process

open Unix Tool

/-! ### Users -/

/-- The number of the user to whom all processes belong, and of the group. -/
def superuser : Nat := 0

/-- Report operands that are too many. -/
def atMostOperands (most : Nat) (operands : List Bytes) : Tool Unit :=
  match operands.drop most with
  | [] => pure ()
  | extra :: _ => extraOperand extra

/-- Show the name of the user. -/
def whoami (arguments _environment : List Bytes) : Tool Unit := do
  let (_, operands) ← options [] arguments
  atMostOperands 0 operands
  putLine ((← accounts).user superuser)

/-- Show the name under which the session was opened, which there is not. -/
def logname (arguments _environment : List Bytes) : Tool Unit := do
  let (_, operands) ← options [] arguments
  atMostOperands 0 operands
  die "no login name".toList

/-- Show who uses the system, which is nobody. -/
def users (arguments _environment : List Bytes) : Tool Unit := do
  let (_, operands) ← options [] arguments
  atMostOperands 1 operands

/-- Show who uses the system and where, which is nobody. -/
def who (arguments _environment : List Bytes) : Tool Unit := do
  let (c, operands) ← options ["a|all", "b|boot", "d|dead", "H|heading", "l|login", "m",
    "p|process", "q|count", "r|runlevel", "s|short", "t|time", "T|w|mesg|message|writable",
    "u|users", "lookup", "ips"] arguments
  atMostOperands 2 operands
  if c.has "q" then put "\n# users=0\n".toList
  else if c.has "H" then
    let state := if c.has "T" || c.has "a" then " " else ""
    let idle := if c.has "u" || c.has "a" then " IDLE          PID" else ""
    putLine ("NAME    ".toList ++ (if state.isEmpty then [] else [' ', ' '])
      ++ (" LINE         TIME        " ++ idle ++ " COMMENT").toList)

/-- The account of a name, or of a number that is spelled out. -/
def accountOf? (users : List Account) (name : Bytes) : Option Account :=
  match Accounts.find users name, Accounts.numberIn users name with
  | some a, _ => some a
  | none, some n => users.find? (·.number = n)
  | none, none => none

/-- What is shown of a user. -/
inductive Facet where
  | all
  | user
  | group
  | groups
deriving DecidableEq, Repr

/-- A number with its name. -/
def withName (label : String) (number : Nat) (name : Option Bytes) : Bytes :=
  label.toList ++ '=' :: decimal number ++ (name.map fun n => '(' :: n ++ [')']).getD []

/-- Show the numbers of users and of their groups. -/
def id (arguments _environment : List Bytes) : Tool Unit := do
  let (c, names) ← options ["a", "G|groups", "g|group", "n|name", "r|real", "u|user", "z|zero",
    "Z|context"] arguments
  if c.has "Z" then die "--context (-Z) works only on an SELinux-enabled kernel".toList
  let facet ← match ["u", "g", "G"].filter c.has with
    | [] => pure Facet.all
    | ["u"] => pure Facet.user
    | ["g"] => pure Facet.group
    | ["G"] => pure Facet.groups
    | _ => die "cannot print \"only\" of more than one choice".toList
  if facet = .all && (c.has "n" || c.has "r") then
    die "cannot print only names or real IDs in default format".toList
  if facet = .all && c.has "z" then
    die "option --zero not permitted in default format".toList
  let a ← accounts
  let stop := if c.has "z" then '\x00' else '\n'
  let display := fun (user group : Nat) => do
    let text := match facet with
      | .all =>
        withName "uid" user (Accounts.nameIn a.users user)
          ++ withName " gid" group (Accounts.nameIn a.groups group)
          ++ withName " groups" group (Accounts.nameIn a.groups group)
      | .user => if c.has "n" then a.user user else decimal user
      | .group | .groups => if c.has "n" then a.group group else decimal group
    put (text ++ [stop])
  if names.isEmpty then display superuser superuser
  for name in names do
    match accountOf? a.users name with
    | some user => display user.number user.group
    | none => complain (quoted name ++ ": no such user".toList)

/-- Show the groups of users. -/
def groups (arguments _environment : List Bytes) : Tool Unit := do
  let (_, names) ← options [] arguments
  let a ← accounts
  if names.isEmpty then putLine (a.group superuser)
  for name in names do
    match Accounts.find a.users name with
    | some user => putLine (name ++ " : ".toList ++ a.group user.group)
    | none => complain (quoted name ++ ": no such user".toList)

/-! ### Machines -/

/-- The architecture of the machine. -/
def architecture : String := "x86_64"

/-- The parts of the name of the system, by their letters. -/
def systemParts : List (String × String) :=
  [("s", "Linux"), ("n", "localhost"), ("r", "6.1.0"), ("v", "#1 SMP"), ("m", architecture),
    ("p", "unknown"), ("i", "unknown"), ("o", "GNU/Linux")]

/-- Show the name of the system. -/
def uname (arguments _environment : List Bytes) : Tool Unit := do
  let (c, operands) ← options ["a|all", "i|hardware-platform", "m|machine", "n|nodename",
    "o|operating-system", "p|processor", "r|kernel-release|release", "s|kernel-name|sysname",
    "v|kernel-version"] arguments
  atMostOperands 0 operands
  let chosen := systemParts.filter fun (letter, text) =>
    c.has letter || (c.has "a" && text ≠ "unknown")
  let shown := if chosen.isEmpty then systemParts.take 1 else chosen
  putLine (" ".intercalate (shown.map Prod.snd)).toList

/-- Show the architecture of the machine. -/
def arch (arguments _environment : List Bytes) : Tool Unit := do
  let (_, operands) ← options [] arguments
  atMostOperands 0 operands
  putLine architecture.toList

/-- Show the number of the machine. -/
def hostid (arguments _environment : List Bytes) : Tool Unit := do
  let (_, operands) ← options [] arguments
  atMostOperands 0 operands
  putLine "007f0100".toList

/-- How many processors there are. -/
def processors : Nat := 4

/-- The first of some numbers with commas between them, if it is above zero. -/
def firstNumber? (text : Bytes) : Option Nat :=
  match digitsAt 10 (text.dropWhile isSpace) with
  | (n + 1, _, rest) =>
    match rest.dropWhile isSpace with
    | [] | ',' :: _ => some (n + 1)
    | _ => none
  | _ => none

/-- Show how many processors may be used. -/
def nproc (arguments environment : List Bytes) : Tool Unit := do
  let (c, operands) ← options ["all", "ignore="] arguments
  let ignored ← match c.value? "ignore" with
    | none => pure 0
    | some text => match natOf? (text.dropWhile isSpace) with
      | some n => pure n
      | none => die ("invalid number: ".toList ++ quoted text)
  atMostOperands 0 operands
  let wanted := fun (name : String) => (binding? environment name.toList).bind firstNumber?
  let count := if c.has "all" then processors
    else min ((wanted "OMP_NUM_THREADS").getD processors)
      ((wanted "OMP_THREAD_LIMIT").getD ((wanted "OMP_NUM_THREADS").getD processors))
  putLine (decimal (max 1 (count - ignored)))

/-- Show the terminal, which there is not. -/
def tty (arguments _environment : List Bytes) : Tool Unit := do
  let (c, operands) ← options ["s|silent|quiet"] arguments
  atMostOperands 0 operands
  if !c.has "s" then putLine "not a tty".toList
  stop 1

end SyncFleet.Utility.Process

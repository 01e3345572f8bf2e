/-
  SyncFleet/Utility/Account.lean
  ==============================
  **Users and groups: their names and numbers.**
-/
import SyncFleet.Utility.Tool

namespace SyncFleet.Utility

open Unix

/-- A user or a group. -/
structure Account where
  name : Bytes
  number : Nat
  /-- the number of the group of a user -/
  group : Nat
deriving Repr

/-- Users and groups. -/
structure Accounts where
  users : List Account
  groups : List Account

namespace Accounts

/-- The accounts in a text, one in a line. -/
def read (text : Bytes) : List Account :=
  (linesOf text).filterMap fun line =>
    match splitAt ':' (chomp line) with
    | name :: _ :: number :: rest =>
      (natOf? number).map fun n => ⟨name, n, (natOf? (rest.headD [])).getD 0⟩
    | _ => none

/-- The name of a number. -/
def nameIn (accounts : List Account) (number : Nat) : Option Bytes :=
  (accounts.find? (·.number = number)).map (·.name)

/-- The account of a name. -/
def find (accounts : List Account) (name : Bytes) : Option Account :=
  accounts.find? (·.name = name)

/-- The number of a name, or the number that is spelled out. -/
def numberIn (accounts : List Account) (name : Bytes) : Option Nat :=
  match find accounts name with
  | some a => some a.number
  | none =>
    let digits := if name.head? = some '+' then name.drop 1 else name
    (natOf? digits).filter (· < 0xffffffff)

/-- The name of a user, or the number if there is none. -/
def user (a : Accounts) (number : Nat) : Bytes := (nameIn a.users number).getD (decimal number)

/-- The name of a group, or the number if there is none. -/
def group (a : Accounts) (number : Nat) : Bytes := (nameIn a.groups number).getD (decimal number)

end Accounts

namespace Tool

/-- The content of a file, empty if it cannot be read. -/
def quietly (path : String) : Tool Bytes := do
  match ← sys (Sys.openFile path.toList .toRead 0) with
  | .error _ => return []
  | .ok n =>
    let r ← sys (Sys.readAll n)
    ask (Op.close n)
    match r with
    | .ok bytes => return Bytes.ofByteArray bytes
    | .error _ => return []

/-- The users and groups of the system. -/
def accounts : Tool Accounts := do
  let users ← quietly "/etc/passwd"
  let groups ← quietly "/etc/group"
  return ⟨Accounts.read users, Accounts.read groups⟩

end Tool

end SyncFleet.Utility

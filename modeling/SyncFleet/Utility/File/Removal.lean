/-
  SyncFleet/Utility/File/Removal.lean
  ===================================
  **Removing files and directories.**
-/
import SyncFleet.Utility.File.Mode
import SyncFleet.Utility.File.Naming

namespace SyncFleet.Utility.File

open Unix Tool

/-- How files are removed. -/
structure Removing where
  /-- files that are missing do not matter -/
  isForced : Bool
  isRecursive : Bool
  takesEmpty : Bool
  isLoud : Bool
  asks : Bool
  /-- the directory at the top is left alone -/
  keepsRoot : Bool

/-- How deep directories may stand inside of each other. -/
def mostDepth : Nat := 4096

/-- Say that something is gone. -/
def Removing.say (k : Removing) (what : String) (path : Bytes) : Tool Unit :=
  if k.isLoud then putLine (("removed " ++ what).toList ++ inQuotes path) else pure ()

/-- Report that something cannot be removed. -/
def complainOfRemoval (path : Bytes) (e : Refusal) : Tool Unit :=
  complainOf ("cannot remove ".toList ++ inQuotes path) e

/-- Remove a file or directory, at most `fuel` levels deep; whether it is gone. -/
def Removing.remove (k : Removing) : Nat → Bytes → Tool Bool
  | 0, _ => return false
  | fuel + 1, path => do
    match ← status path false with
    | .error e =>
      if k.isForced && (e = .noEntry || e = .notDirectory) then return true
      complainOfRemoval path e
      return false
    | .ok t =>
      let finish := fun (what : String) (op : Op Unit) => do
        match ← request op with
        | .ok _ =>
          k.say what path
          return true
        | .error e =>
          complainOfRemoval path e
          return false
      if !t.isDirectory then
        let question := "remove ".toList ++ (kindOf t).toList ++ ' ' :: inQuotes path
        if !(← agreesIf k.asks (question ++ "? ".toList)) then return false
        finish "" (Op.unlink path)
      else if !k.isRecursive && !k.takesEmpty then
        complainOfRemoval path .isDirectory
        return false
      else
        let children := ((← request (Op.entries path)).toOption).getD []
        if k.isRecursive && !children.isEmpty then
          let question := "descend into directory ".toList ++ inQuotes path
          if !(← agreesIf k.asks (question ++ "? ".toList)) then return false
          let mut isEmpty := true
          for (name, _) in children do
            let gone ← k.remove fuel (inside path name)
            isEmpty := isEmpty && gone
          if !isEmpty then return false
        let question := "remove directory ".toList ++ inQuotes path
        if !(← agreesIf k.asks (question ++ "? ".toList)) then return false
        finish "directory " (Op.removeDirectory path)

/-- The words for how often is asked. -/
def askWords : List (List String) := [["never", "no", "none"], ["once"], ["always", "yes"]]

/-- Remove files. -/
def rm (arguments _environment : List Bytes) : Tool Unit := do
  let (c, names) ← options ["d|dir", "f|force", "i", "I", "interactive?", "r|R|recursive",
    "v|verbose", "one-file-system", "no-preserve-root", "preserve-root?",
    "presume-input-tty"] arguments
  let mut asks := false
  let mut once := false
  let mut isForced := false
  for (key, v) in c.options do
    match key with
    | "f" =>
      asks := false
      once := false
      isForced := true
    | "i" =>
      asks := true
      once := false
      isForced := false
    | "I" =>
      asks := false
      once := true
      isForced := false
    | "interactive" =>
      let word ← match v with
        | none => pure "always"
        | some word => choice "--interactive" askWords word
      asks := word = "always"
      once := word = "once"
      if word ≠ "never" then isForced := false
    | _ => pure ()
  if names.isEmpty then
    if isForced then return
    missOperand
  let k : Removing := ⟨isForced, c.has "r", c.has "d", c.has "v", asks, !c.has "no-preserve-root"⟩
  if once && (k.isRecursive || 3 < names.length) then
    let question := "remove ".toList ++ decimal names.length
      ++ (if names.length = 1 then " argument" else " arguments").toList
      ++ (if k.isRecursive then " recursively? " else "? ").toList
    if !(← agrees question) then return
  for name in names do
    let last := lastName name
    let isStep := k.isRecursive && (last = ['.'] || last = ['.', '.'])
    let t ← status? name false
    if isStep && t.any (·.isDirectory) then
      complain ("refusing to remove '.' or '..' directory: skipping ".toList ++ inQuotes name)
    else if k.isRecursive && k.keepsRoot && t.any (·.inode = rootDirectory) then
      complain (if name = ['/'] then "it is dangerous to operate recursively on '/'".toList
        else "it is dangerous to operate recursively on ".toList ++ inQuotes name
          ++ " (same as '/')".toList)
      warn "use --no-preserve-root to override this failsafe".toList
    else
      let _ ← k.remove mostDepth name

/-- Remove a name of a file. -/
def unlink (arguments _environment : List Bytes) : Tool Unit := do
  let (_, names) ← options [] arguments
  match names with
  | [] => missOperand
  | [name] =>
    if let .error e ← request (Op.unlink name) then
      dieOf ("cannot unlink ".toList ++ inQuotes name) e
  | _ :: extra :: _ => extraOperand extra

end SyncFleet.Utility.File

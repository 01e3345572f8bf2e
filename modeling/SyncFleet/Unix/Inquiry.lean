/-
  SyncFleet/Unix/Inquiry.lean
  ===========================
  **Questions about files that a letter or an operator asks.**
-/
import SyncFleet.Unix.Files

namespace SyncFleet.Unix

/-- What is told about the file at a path, behind a link or not. -/
abbrev Surroundings := Bytes → Bool → Option Status

namespace Surroundings

/-- The surroundings of the process that runs. -/
def ofSystem (s : System) : Surroundings := fun path follows =>
  ((Op.status path follows).run s).1.toOption

/-- Whether a file is what a letter asks for. -/
def isWhat (files : Surroundings) (letter : Char) (path : Bytes) : Bool :=
  match files path !(letter == 'h' || letter == 'L') with
  | none => false
  | some t =>
    match letter with
    | 'r' | 'w' | 'e' => true
    | 'x' => t.isDirectory || t.mode &&& 0o111 ≠ 0
    | 'f' => t.isFile
    | 'd' => t.isDirectory
    | 'c' => t.isDevice
    | 'p' => t.isPipe
    | 'u' => t.mode.testBit 11
    | 'g' => t.mode.testBit 10
    | 'k' => t.mode.testBit 9
    | 's' => t.size ≠ 0
    | 'h' | 'L' => t.isLink
    | 'O' => t.owner = 0
    | 'G' => t.group = 0
    | _ => false

end Surroundings

end SyncFleet.Unix

/-
  SyncFleet/Utility/File/Mode.lean
  ================================
  **Permissions: how they are written, and changes of them.**
-/
import SyncFleet.Unix.Files

namespace SyncFleet.Utility.File

open Unix

/-! ### Writing -/

/-- The letter of a kind of file. -/
def kindLetter : Node → Char
  | .file .. => '-'
  | .directory .. => 'd'
  | .link _ => 'l'
  | .pipe .. => 'p'
  | .device _ => 'c'
  | .descriptor _ => 'l'

/-- Permissions in letters. -/
def modeLetters (mode : Nat) : Bytes :=
  let one := fun (shift : Nat) (special : Nat) (both alone : Char) =>
    let bits := mode >>> shift
    [if bits.testBit 2 then 'r' else '-', if bits.testBit 1 then 'w' else '-',
      match mode.testBit special, bits.testBit 0 with
      | true, true => both
      | true, false => alone
      | false, true => 'x'
      | false, false => '-']
  one 6 11 's' 'S' ++ one 3 10 's' 'S' ++ one 0 9 't' 'T'

/-- The permissions of a file in letters, behind that of its kind. -/
def statusLetters (t : Status) : Bytes := kindLetter t.node :: modeLetters t.mode

/-- What kind of file a file is. -/
def kindOf (t : Status) : String :=
  match t.node with
  | .file .. => if t.size = 0 then "regular empty file" else "regular file"
  | .directory .. => "directory"
  | .link _ | .descriptor _ => "symbolic link"
  | .pipe .. => "fifo"
  | .device _ => "character special file"

/-! ### Changes -/

/-- What is done with permissions. -/
inductive ModeSource where
  /-- some of them are named -/
  | named
  /-- those of one class are given to all -/
  | copied
  /-- some are named, and those to execute if there are such already -/
  | executable
deriving DecidableEq, Repr

/-- A change of permissions. -/
structure ModeChange where
  /-- equals, plus or minus -/
  sign : Char
  source : ModeSource
  /-- the classes that are meant; none if nothing is said -/
  affected : Nat
  value : Nat
  /-- the permissions that are spelled out -/
  mentioned : Nat
deriving Repr

/-- All permissions. -/
def allModes : Nat := 0o7777

/-- What is not in a set of permissions. -/
def except (mode : Nat) : Nat := allModes ^^^ (mode &&& allModes)

/-- The classes at the start of a text. -/
def classesAt : Bytes → Nat → Option (Nat × Bytes)
  | [], _ => none
  | c :: rest, n =>
    match c with
    | 'u' => classesAt rest (n ||| 0o4700)
    | 'g' => classesAt rest (n ||| 0o2070)
    | 'o' => classesAt rest (n ||| 0o1007)
    | 'a' => classesAt rest (n ||| allModes)
    | '=' | '+' | '-' => some (n, c :: rest)
    | _ => none

/-- The permissions at the start of a text. -/
def namedAt : Bytes → Nat → ModeSource → Nat × ModeSource × Bytes
  | [], n, s => (n, s, [])
  | c :: rest, n, s =>
    match c with
    | 'r' => namedAt rest (n ||| 0o444) s
    | 'w' => namedAt rest (n ||| 0o222) s
    | 'x' => namedAt rest (n ||| 0o111) s
    | 'X' => namedAt rest n .executable
    | 's' => namedAt rest (n ||| 0o6000) s
    | 't' => namedAt rest (n ||| 0o1000) s
    | _ => (n, s, c :: rest)

/-- The changes behind classes, at most `fuel`. -/
def changesAt (affected : Nat) : Nat → Bytes → Option (List ModeChange × Bytes)
  | 0, _ => none
  | _, [] => some ([], [])
  | fuel + 1, sign :: rest =>
    if sign ≠ '=' ∧ sign ≠ '+' ∧ sign ≠ '-' then some ([], sign :: rest)
    else do
      let spelled := fun (value : Nat) => if affected = 0 then value else affected &&& value
      let (change, rest) ← match rest with
        | 'u' :: rest => some (⟨sign, .copied, affected, 0o700, spelled 0o700⟩, rest)
        | 'g' :: rest => some (⟨sign, .copied, affected, 0o070, spelled 0o070⟩, rest)
        | 'o' :: rest => some (⟨sign, .copied, affected, 0o007, spelled 0o007⟩, rest)
        | rest =>
          match digitsAt 8 rest with
          | (n, _ + 1, rest) =>
            if affected ≠ 0 ∨ allModes < n ∨ rest.head?.any (· ≠ ',') then none
            else some ((⟨sign, .named, allModes, n, allModes⟩ : ModeChange), rest)
          | _ =>
            let (value, source, rest) := namedAt rest 0 .named
            some (⟨sign, source, affected, value, spelled value⟩, rest)
      let (more, rest) ← changesAt affected fuel rest
      return (change :: more, rest)

/-- The changes that a text in letters describes, in at most `fuel` parts. -/
def changesOf : Nat → Bytes → Option (List ModeChange)
  | 0, _ => none
  | fuel + 1, text => do
    let (affected, rest) ← classesAt text 0
    let (changes, rest) ← changesAt affected (rest.length + 1) rest
    match rest with
    | [] => return changes
    | ',' :: rest => return changes ++ (← changesOf fuel rest)
    | _ => none

/-- The changes that a text describes. -/
def modeChanges? (text : Bytes) : Option (List ModeChange) :=
  match digitsAt 8 text with
  | (n, count + 1, []) =>
    if allModes < n then none
    else some [⟨'=', .named, allModes, n,
      if count + 1 < 5 then (n &&& 0o6000) ||| 0o1777 else allModes⟩]
  | (_, _ + 1, _) => none
  | _ => changesOf (text.length + 1) text

/-- Change permissions, of a directory or another file; a mask holds where no class is named. -/
def ModeChange.apply (isDirectory : Bool) (mask : Nat) (mode : Nat) (c : ModeChange) : Nat :=
  let omitted := (if isDirectory then 0o6000 else 0) &&& except c.mentioned
  let value := match c.source with
    | .named => c.value
    | .copied =>
      let v := c.value &&& mode
      v ||| (if v &&& 0o444 ≠ 0 then 0o444 else 0) ||| (if v &&& 0o222 ≠ 0 then 0o222 else 0)
        ||| (if v &&& 0o111 ≠ 0 then 0o111 else 0)
    | .executable =>
      if mode &&& 0o111 ≠ 0 || isDirectory then c.value ||| 0o111 else c.value
  let value := value &&& (if c.affected = 0 then except mask else c.affected) &&& except omitted
  match c.sign with
  | '+' => mode ||| value
  | '-' => mode &&& except value
  | _ => (mode &&& ((if c.affected = 0 then 0 else except c.affected) ||| omitted)) ||| value

/-- Permissions after some changes. -/
def changedMode (changes : List ModeChange) (isDirectory : Bool) (mask mode : Nat) : Nat :=
  changes.foldl (ModeChange.apply isDirectory mask) (mode &&& allModes)

end SyncFleet.Utility.File

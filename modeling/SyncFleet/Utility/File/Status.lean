/-
  SyncFleet/Utility/File/Status.lean
  ==================================
  **What is known about files, and how much room they take.**
-/
import SyncFleet.Unix.Conversion
import SyncFleet.Utility.Account
import SyncFleet.Utility.File.Listing

namespace SyncFleet.Utility.File

open Unix Tool

/-! ### What is known -/

/-- The number of the device on which files are stored. -/
def storageDevice : Nat := 0x2f

/-- The bits of a kind of file. -/
def kindBits : Node → Nat
  | .file .. => 0o100000
  | .directory .. => 0o040000
  | .link _ | .descriptor _ => 0o120000
  | .pipe .. => 0o010000
  | .device _ => 0o020000

/-- The number of a device among those of its kind. -/
def deviceNumber : Node → Nat × Nat
  | .device .null => (1, 3)
  | .device .zero => (1, 5)
  | .device .full => (1, 7)
  | .device .random => (1, 9)
  | .device .terminal => (5, 0)
  | _ => (0, 0)

/-- A moment in seconds with a fraction of some digits. -/
def secondsText (places : Option Nat) (moment : Int) : Bytes :=
  let seconds := moment.fdiv Moment.second
  let nano := (moment.fmod Moment.second).toNat
  match places with
  | none | some 0 => integer seconds
  | some n =>
    integer seconds ++ '.' :: (padLeft 9 '0' (decimal nano) ++ List.replicate n '0').take n

/-- A moment with its date, to the nanosecond. -/
def longTime (zone : Moment.Zone) (moment : Int) : Bytes :=
  Moment.formatted zone moment "%Y-%m-%d %H:%M:%S.%N %z".toList

/-- What a field of a format stands for: a text or a number. -/
inductive FieldValue where
  | text (t : Bytes)
  | number (n : Nat)
  | octal (n : Nat)
  | hexadecimal (n : Nat)
  | signed (n : Int)

/-- What a letter stands for, of a file. -/
def statusField (accounts : Accounts) (zone : Moment.Zone) (name : Bytes) (t : Status)
    (places : Option Nat) : Char → Option FieldValue
  | 'a' => some (.octal t.mode)
  | 'A' => some (.text (statusLetters t))
  | 'b' => some (.number t.blocks)
  | 'B' => some (.number 512)
  | 'C' => some (.text "?".toList)
  | 'd' => some (.number storageDevice)
  | 'D' => some (.hexadecimal storageDevice)
  | 'f' => some (.hexadecimal (kindBits t.node + t.mode))
  | 'F' => some (.text (kindOf t).toList)
  | 'g' => some (.number t.group)
  | 'G' => some (.text (accounts.group t.group))
  | 'h' => some (.number t.links)
  | 'i' => some (.number t.inode)
  | 'm' => some (.text ['/'])
  | 'n' => some (.text name)
  | 'N' => some (.text (inQuotes name ++ match t.node with
      | .link target => " -> ".toList ++ inQuotes target
      | _ => []))
  | 'o' => some (.number 4096)
  | 'r' => some (.number ((deviceNumber t.node).1 * 256 + (deviceNumber t.node).2))
  | 'R' => some (.hexadecimal ((deviceNumber t.node).1 * 256 + (deviceNumber t.node).2))
  | 's' => some (.number t.size)
  | 't' => some (.hexadecimal (deviceNumber t.node).1)
  | 'T' => some (.hexadecimal (deviceNumber t.node).2)
  | 'u' => some (.number t.owner)
  | 'U' => some (.text (accounts.user t.owner))
  | 'w' => some (.text ['-'])
  | 'W' => some (.number 0)
  | 'x' => some (.text (longTime zone t.accessed))
  | 'X' => some (.text (secondsText places t.accessed))
  | 'y' => some (.text (longTime zone t.modified))
  | 'Y' => some (.text (secondsText places t.modified))
  | 'z' => some (.text (longTime zone t.changed))
  | 'Z' => some (.text (secondsText places t.changed))
  | _ => none

/-- What is written for a field. -/
def FieldValue.written (c : Conversion) : FieldValue → Bytes
  | .text t => c.text t
  | .number n => c.natural n
  | .octal n => ({ c with letter := 'o' } : Conversion).natural n
  | .hexadecimal n => ({ c with letter := 'x' } : Conversion).natural n
  | .signed n => c.integer n

/-- A file as a format describes it, in at most `fuel` pieces; escapes count if that is said. -/
def describedFrom (field : Option Nat → Char → Option FieldValue) (escapes : Bool) :
    Nat → Bytes → Bytes
  | 0, _ => []
  | _, [] => []
  | fuel + 1, '%' :: rest =>
    let flags := rest.takeWhile fun c => "-+ 0#\x27".toList.contains c
    let (width, count, behind) := digitsAt 10 (rest.drop flags.length)
    let (places, behind) : Option Nat × Bytes := match behind with
      | '.' :: more =>
        let (n, count, behind) := digitsAt 10 more
        (if count = 0 then some 9 else some n, behind)
      | behind => (none, behind)
    match behind with
    | [] => '%' :: rest
    | '%' :: more => '%' :: describedFrom field escapes fuel more
    | letter :: more =>
      let letter' := if letter = 'H' || letter = 'L' then (more.headD letter) else letter
      let more := if letter = 'H' || letter = 'L' then more.drop 1 else more
      let c : Conversion := ⟨flags, if count = 0 then 0 else width, none, 'd'⟩
      (match field places letter' with
        | some v =>
          v.written (match v with
            | .text _ => { c with
                precision := if "XYZW".toList.contains letter' then none else places
                flags := flags.filter (· != '0') }
            | _ => c)
        | none => ['?']) ++ describedFrom field escapes fuel more
  | fuel + 1, '\\' :: c :: rest =>
    if !escapes then '\\' :: describedFrom field escapes fuel (c :: rest)
    else
      let plain : Option Char := match c with
        | 'a' => some '\x07'
        | 'b' => some '\x08'
        | 'e' => some '\x1b'
        | 'f' => some '\x0c'
        | 'n' => some '\n'
        | 'r' => some '\r'
        | 't' => some '\t'
        | 'v' => some '\x0b'
        | '\x22' => some '\x22'
        | '\\' => some '\\'
        | _ => none
      match plain, octalEscape? 3 (c :: rest) with
      | some x, _ => x :: describedFrom field escapes fuel rest
      | none, some (x, rest) => x :: describedFrom field escapes fuel rest
      | none, none => c :: describedFrom field escapes fuel rest
  | fuel + 1, c :: rest => c :: describedFrom field escapes fuel rest

/-- The format that describes a file in full. -/
def fullFormat (t : Status) : String :=
  "  File: %N\n  Size: %-10s\tBlocks: %-10b IO Block: %-6o %F\n"
    ++ "Device: 0,47\tInode: %-11i Links: %-5h"
    ++ (if t.isDevice then " Device type: %t,%T\n" else "\n")
    ++ "Access: (%04a/%10.10A)  Uid: (%5u/%8U)   Gid: (%5g/%8G)\n"
    ++ "Access: %x\nModify: %y\nChange: %z\n Birth: %w\n"

/-- The format that describes a file in one row. -/
def terseFormat : String := "%n %s %b %f %u %g %D %i %h %t %T %X %Y %Z %W %o\n"

/-- Write what is known about files. -/
def stat (arguments environment : List Bytes) : Tool Unit := do
  let (c, names) ← options ["c|format=", "f|file-system", "L|dereference", "printf=", "t|terse",
    "cached="] arguments
  if names.isEmpty then missOperand
  let accounts ← accounts
  let zone := Moment.zoneOf environment
  for name in names do
    let found ← if name = ['-'] then request (Op.statusOf 0) else status name (c.has "L")
    match found with
    | .error e => complainOf ("cannot statx ".toList ++ inQuotes name) e
    | .ok t =>
      let (format, escapes) : Bytes × Bool := match c.last? ["c", "printf"] with
        | some "c" => (((c.value? "c").getD []) ++ ['\n'], false)
        | some _ => ((c.value? "printf").getD [], true)
        | none => ((if c.has "t" then terseFormat else fullFormat t).toList, false)
      put (describedFrom (statusField accounts zone name t) escapes (format.length + 1) format)

/-! ### Room -/

/-- How room is counted. -/
structure Room where
  scale : Scale
  /-- sizes count, and not blocks -/
  isApparent : Bool
  showsFiles : Bool
  mostDepth : Option Nat
  counts : Bool
  follows : Bool
  /-- directories do not count what is in others below them -/
  isSeparate : Bool
  stop : Char

/-- What a file takes by itself. -/
def Room.own (k : Room) (t : Status) : Nat :=
  if k.counts then 1
  else if k.isApparent then (if t.isFile || t.isLink then t.size else if t.isDirectory then t.size
    else 0)
  else t.blocks * 512

/-- A row. -/
def Room.row (k : Room) (size : Nat) (path : Bytes) : Bytes :=
  (if k.counts then decimal size else k.scale.text size) ++ '\t' :: path ++ [k.stop]

/-- Count the room of a file and of what is in it, at most `fuel` levels deep: how much it is, and
    the files with several names that have been counted. -/
def Room.count (k : Room) (isTop : Bool) :
    Nat → Nat → List Nat → Bytes → Tool (Nat × List Nat)
  | 0, _, seen, _ => return (0, seen)
  | fuel + 1, depth, seen, path => do
    match ← status path (k.follows && (isTop || k.follows)) with
    | .error e =>
      complainOf ("cannot access ".toList ++ inQuotes path) e
      return (0, seen)
    | .ok t =>
      if !t.isDirectory && seen.contains t.inode then return (0, seen)
      let seen := if 1 < t.links && !t.isDirectory then t.inode :: seen else seen
      let mut total := k.own t
      let mut mine := total
      let mut seen := seen
      if t.isDirectory then
        for (name, _) in ((← request (Op.entries path)).toOption).getD [] do
          let below ← isDirectory (inside path name)
          let (n, new) ← k.count false fuel (depth + 1) seen (inside path name)
          total := total + n
          if !below then mine := mine + n
          seen := new
      let isShown := depth = 0 || ((t.isDirectory || k.showsFiles) && k.mostDepth.all (depth ≤ ·))
      if isShown then put (k.row (if k.isSeparate then mine else total) path)
      return (total, seen)

/-- Write how much room files take. -/
def du (arguments _environment : List Bytes) : Tool Unit := do
  let (c, names) ← options ["0|null", "a|all", "apparent-size", "B|block-size=", "b|bytes",
    "c|total", "D|dereference-args", "d|max-depth=", "files0-from=", "H", "h|human-readable",
    "inodes", "k", "L|dereference", "l|count-links", "m", "P|no-dereference",
    "S|separate-dirs", "si", "s|summarize", "t|threshold=", "time?", "time-style=",
    "X|exclude-from=", "exclude=", "x|one-file-system"] arguments
  let mut scale : Scale := .units 1024 []
  for (key, v) in c.options do
    match key with
    | "b" => scale := .units 1 []
    | "k" => scale := .units 1024 []
    | "m" => scale := .units 1048576 []
    | "h" => scale := .human 1024
    | "si" => scale := .human 1000
    | "B" =>
      match Scale.ofText? (v.getD []) with
      | some s => scale := s
      | none => die ("invalid -B argument ".toList ++ quoted (v.getD []))
    | _ => pure ()
  let depth ← match c.value? "d" with
    | some text =>
      match natOf? text with
      | some n => pure (some n)
      | none => misuse ("invalid maximum depth ".toList ++ quoted text)
    | none => pure (if c.has "s" then some 0 else none)
  if c.has "a" && c.has "s" then
    misuse "cannot both summarize and show all entries".toList
  let k : Room := ⟨scale, c.has "b" || c.has "apparent-size", c.has "a", depth, c.has "inodes",
    c.has "L" || c.has "D", c.has "S", if c.has "0" then '\x00' else '\n'⟩
  let mut total := 0
  let mut seen := []
  for name in if names.isEmpty then [['.']] else names do
    let (n, new) ← k.count true mostDepth 0 seen name
    total := total + n
    seen := if c.has "l" then [] else new
  if c.has "c" then put (k.row total "total".toList)

end SyncFleet.Utility.File

/-
  SyncFleet/Utility/File/Listing.lean
  ===================================
  **What is in directories.**
-/
import SyncFleet.Shell.Pattern
import SyncFleet.Utility.Account
import SyncFleet.Utility.Amount
import SyncFleet.Utility.File.Mode
import SyncFleet.Utility.File.Naming
import SyncFleet.Utility.File.Removal
import SyncFleet.Utility.Moment.Writing
import SyncFleet.Utility.Option
import SyncFleet.Utility.Text.Version

namespace SyncFleet.Utility.File

open Unix Tool

/-! ### Names as they are written -/

/-- The ways to write names. -/
def quotingWords : List (List String) :=
  [["literal"], ["shell"], ["shell-always"], ["shell-escape"], ["shell-escape-always"], ["c"],
    ["escape"], ["locale"], ["clocale"]]

/-- A name with escapes for what cannot be seen, and for some bytes that can. -/
def escapedName (special : Bytes) (name : Bytes) : Bytes :=
  name.flatMap fun c =>
    if c = '\\' || special.contains c then ['\\', c] else if isPrint c then [c] else escapeOf c

/-- A name between single quotes, without escapes. -/
def plainQuoted (name : Bytes) : Bytes :=
  '\x27' :: name.flatMap (fun c => if c = '\x27' then "'\\''".toList else [c]) ++ ['\x27']

/-- A name as it is written in a way. -/
def writtenName (way : String) (name : Bytes) : Bytes :=
  match way with
  | "shell" =>
    if name.isEmpty || name.any (fun c => isSpecialToShell [c] && isPrint c) then plainQuoted name
    else name
  | "shell-always" => plainQuoted name
  | "shell-escape" => shown name
  | "shell-escape-always" => inQuotes name
  | "c" => '\x22' :: escapedName ['\x22'] name ++ ['\x22']
  | "escape" => escapedName [' '] name
  | "locale" | "clocale" => quoted name
  | _ => name

/-! ### What is listed -/

/-- The ways in which lists are written. -/
inductive Layout where
  | rows
  | long
  | columns
  | across
  | commas
deriving DecidableEq, Repr

/-- How directories are listed. -/
structure Listing where
  layout : Layout := .rows
  /-- names that begin with a point are listed, and perhaps the steps to directories -/
  showsHidden : Bool := false
  showsSteps : Bool := false
  ignores : List Bytes := []
  /-- directories are listed like files -/
  keepsDirectories : Bool := false
  isRecursive : Bool := false
  isReverse : Bool := false
  directoriesFirst : Bool := false
  sortedBy : String := "name"
  /-- the time that is meant: `modified`, `accessed` or `changed` -/
  time : String := "modified"
  timeFormat : Option (Bytes × Bytes) := none
  quoting : String := "literal"
  /-- bytes that cannot be seen become question marks -/
  hidesControls : Bool := false
  /-- the signs of kinds that are written behind names -/
  signs : Bytes := []
  showsNumbers : Bool := false
  showsBlocks : Bool := false
  showsOwner : Bool := true
  showsGroup : Bool := true
  showsAuthor : Bool := false
  usesNumbers : Bool := false
  scale : Scale := .units 1 []
  blockScale : Scale := .units 1024 []
  width : Nat := 80
  tabSize : Nat := 8
  follows : Bool := false
  followsNamed : Bool := false
  stop : Char := '\n'

/-- Something that is listed. -/
structure Entry where
  name : Bytes
  status : Status
  /-- what a link holds, and the file that it leads to -/
  target : Option (Bytes × Option Status)

/-- The time of a file that is meant. -/
def Listing.timeOf (k : Listing) (t : Status) : Int :=
  match k.time with
  | "accessed" => t.accessed
  | "changed" => t.changed
  | _ => t.modified

/-- The end of a name from its last point on. -/
def extensionOf (name : Bytes) : Bytes :=
  let rest := (name.reverse.dropWhile (· != '.'))
  if rest.isEmpty then [] else name.drop (rest.length - 1)

/-- The order of two entries. -/
def Listing.compare (k : Listing) (a b : Entry) : Ordering :=
  let byName := compareBytes a.name b.name
  let first := match k.sortedBy with
    | "time" => Text.compareInt (k.timeOf b.status) (k.timeOf a.status)
    | "size" => Text.compareInt b.status.size a.status.size
    | "extension" => compareBytes (extensionOf a.name) (extensionOf b.name)
    | "version" => Text.compareVersions a.name b.name
    | "width" => Text.compareInt a.name.length b.name.length
    | _ => .eq
  let order := if first = .eq then byName else first
  if k.isReverse then (match order with
    | .lt => .gt
    | .gt => .lt
    | .eq => .eq)
  else order

/-- Entries in order. -/
def Listing.sorted (k : Listing) (entries : List Entry) : List Entry :=
  let entries := if k.sortedBy = "none" then entries
    else entries.mergeSort fun a b => k.compare a b ≠ .gt
  if k.directoriesFirst && k.sortedBy ≠ "none" then
    let isFirst := fun (e : Entry) => e.status.isDirectory
      || e.target.any fun (_, t) => t.any (·.isDirectory)
    entries.filter isFirst ++ entries.filter (!isFirst ·)
  else entries

/-- The sign of a kind of file. -/
def Listing.sign (k : Listing) (t : Status) : Bytes :=
  let c? : Option Char :=
    if t.isDirectory then some '/'
    else if t.isLink then some '@'
    else if t.isPipe then some '|'
    else if t.isFile && t.mode &&& 0o111 ≠ 0 then some '*'
    else none
  (c?.filter k.signs.contains).toList

/-- The name of an entry as it is written. -/
def Listing.nameText (k : Listing) (name : Bytes) : Bytes :=
  let text := writtenName k.quoting name
  if k.hidesControls then text.map fun c => if isPrint c then c else '?' else text

/-- What stands in front of a name, and the name, without the sign behind it. -/
def Listing.frills (k : Listing) (widths : Nat × Nat) (e : Entry) : Bytes :=
  (if k.showsNumbers then padLeft widths.1 ' ' (decimal e.status.inode) ++ [' '] else [])
    ++ (if k.showsBlocks then
      padLeft widths.2 ' ' (k.blockScale.text (e.status.blocks * 512)) ++ [' '] else [])

/-- An entry in a short list. -/
def Listing.short (k : Listing) (widths : Nat × Nat) (e : Entry) : Bytes :=
  k.frills widths e ++ k.nameText e.name ++ k.sign e.status

/-! ### Layouts -/

/-- Blanks from a column to another one. -/
def indentTo (tabSize : Nat) : Nat → Nat → Nat → Bytes
  | 0, _, _ => []
  | fuel + 1, start, goal =>
    if goal ≤ start then []
    else if tabSize ≠ 0 && (start + 1) / tabSize < goal / tabSize then
      '\t' :: indentTo tabSize fuel (start + tabSize - start % tabSize) goal
    else ' ' :: indentTo tabSize fuel (start + 1) goal

/-- The least width of a column. -/
def leastColumn : Nat := 3

/-- The widths of some columns for texts of some lengths. -/
def columnWidths (isAcross : Bool) (lengths : List Nat) (columns : Nat) : List Nat :=
  let rows := (lengths.length + columns - 1) / columns
  let place := fun (i : Nat) => if isAcross then i % columns else i / rows
  let start := (List.replicate columns leastColumn).toArray
  ((lengths.zipIdx.foldl (fun (widths : Array Nat) (n, i) =>
    let c := place i
    widths.modify c (max (if c + 1 = columns then n else n + 2))) start)).toList

/-- Texts in as many columns as fit. -/
def inColumns (isAcross : Bool) (width tabSize : Nat) (stop : Char) (texts : List Bytes) : Bytes :=
  let lengths := texts.map List.length
  let most := max 1 (min texts.length ((width + leastColumn - 1) / leastColumn))
  let fits := fun (columns : Nat) =>
    width = 0 || (columnWidths isAcross lengths columns).foldl (· + ·) 0 < width
  let columns := (((List.range most).map (most - ·)).find? fun c => c = 1 || fits c).getD 1
  let widths := columnWidths isAcross lengths columns
  let rows := (texts.length + columns - 1) / columns
  let cells := texts.toArray
  ((List.range rows).map fun row =>
    let indices := ((List.range columns).map fun c =>
      if isAcross then row * columns + c else row + c * rows).filter (· < texts.length)
    let (line, _, _) := (indices.zipIdx).foldl (fun ((line : List Bytes), (at_ : Nat), (next : Nat))
        (i, c) =>
      let text := cells.getD i []
      let gap := indentTo tabSize (next + 1) at_ next
      (text :: gap :: line, next + text.length, next + widths.getD c 0)) ([], 0, 0)
    line.reverse.flatten ++ [stop]).flatten

/-- Texts with commas between them, in lines of a width. -/
def withCommas (width : Nat) (stop : Char) (texts : List Bytes) : Bytes :=
  let (out, _) := texts.foldl (fun ((out : List Bytes), (at_ : Nat)) text =>
    let n := text.length
    if out.isEmpty then ([text], n)
    else if width = 0 || at_ + n + 2 < width then (text :: [',', ' '] :: out, at_ + n + 2)
    else (text :: [',', stop] :: out, n)) ([], 0)
  out.reverse.flatten ++ [stop]

/-- How long ago times are written without a year. -/
def recent : Int := 31556952 / 2 * Moment.second

/-- A time in a long list. -/
def Listing.timeText (k : Listing) (zone : Moment.Zone) (now moment : Int) : Bytes :=
  let isRecent := now - recent < moment && moment < now + 1
  let (old, new) := k.timeFormat.getD ("%b %e  %Y".toList, "%b %e %H:%M".toList)
  Moment.formatted zone moment (if isRecent then new else old)

/-- What is written of entries in a long list. -/
def Listing.long (k : Listing) (accounts : Accounts) (zone : Moment.Zone) (now : Int)
    (widths : Nat × Nat) (entries : List Entry) : Bytes :=
  let user := fun n => if k.usesNumbers then decimal n else accounts.user n
  let group := fun n => if k.usesNumbers then decimal n else accounts.group n
  let size := fun (t : Status) =>
    if t.isDevice then "1, 3".toList else k.scale.text t.size
  let widest := fun (f : Entry → Bytes) => entries.foldl (fun n e => max n (f e).length) 0
  let linkWidth := widest fun e => decimal e.status.links
  let userWidth := widest fun e => user e.status.owner
  let groupWidth := widest fun e => group e.status.group
  let sizeWidth := widest fun e => size e.status
  (entries.map fun e =>
    let t := e.status
    k.frills widths e ++ statusLetters t ++ ' ' :: padLeft linkWidth ' ' (decimal t.links)
      ++ [' '] ++ (if k.showsOwner then padRight userWidth (user t.owner) ++ [' '] else [])
      ++ (if k.showsGroup then padRight groupWidth (group t.group) ++ [' '] else [])
      ++ (if k.showsAuthor then padRight userWidth (user t.owner) ++ [' '] else [])
      ++ padLeft sizeWidth ' ' (size t) ++ ' ' :: k.timeText zone now (k.timeOf t)
      ++ ' ' :: k.nameText e.name
      ++ (match e.target with
        | some (target, there) =>
          " -> ".toList ++ k.nameText target ++ (match there with
            | some t => k.sign t
            | none => [])
        | none => k.sign t)
      ++ [k.stop]).flatten

/-- Entries as they are written. -/
def Listing.text (k : Listing) (accounts : Accounts) (zone : Moment.Zone) (now : Int)
    (entries : List Entry) : Bytes :=
  let widest := fun (f : Entry → Bytes) => entries.foldl (fun n e => max n (f e).length) 0
  let widths := if k.layout = .commas then (0, 0)
    else (widest fun e => decimal e.status.inode,
      widest fun e => k.blockScale.text (e.status.blocks * 512))
  let texts := entries.map (k.short widths)
  if entries.isEmpty then []
  else match k.layout with
    | .rows => (texts.map (· ++ [k.stop])).flatten
    | .long => k.long accounts zone now widths entries
    | .columns => inColumns false k.width k.tabSize k.stop texts
    | .across => inColumns true k.width k.tabSize k.stop texts
    | .commas => withCommas k.width k.stop texts

/-! ### Going through directories -/

/-- What is told of a file that is listed, and of what a link leads to. -/
def Listing.entryOf (k : Listing) (follows : Bool) (path name : Bytes) :
    Tool (Except Refusal Entry) := do
  let first ← status path follows
  let found ← if follows && !k.follows && first.toOption.isNone then status path false
    else pure first
  match found with
  | .error e => return .error e
  | .ok t =>
    let target ← match t.node with
      | .link target => do pure (some (target, ← status? path true))
      | _ => pure Option.none
    return .ok ⟨name, t, target⟩

/-- Whether a name in a directory is listed. -/
def Listing.lists (k : Listing) (name : Bytes) : Bool :=
  (k.showsHidden || name.head? ≠ some '.')
    && !k.ignores.any fun p => Shell.globMatches (Shell.globs (p.map fun c => (c, false))) name

/-- List directories, and those in them if that is asked for, at most `fuel` levels deep. -/
def Listing.directory (k : Listing) (write : List Entry → Bytes) (hasTitle : Bool) :
    Nat → Bool → Bytes → Tool Bool
  | 0, isFirst, _ => return isFirst
  | fuel + 1, isFirst, path => do
    match ← request (Op.entries path) with
    | .error e =>
      complainOf ("cannot open directory ".toList ++ inQuotes path) e
      return isFirst
    | .ok all =>
      let names := (if k.showsSteps then [['.'], ['.', '.']] else []) ++ (all.map Prod.fst)
      let mut entries := []
      for name in names do
        if k.lists name || (k.showsSteps && (name = ['.'] || name = ['.', '.'])) then
          match ← k.entryOf k.follows (inside path name) name with
          | .ok e => entries := e :: entries
          | .error e => complainOf ("cannot access ".toList ++ inQuotes (inside path name)) e
      let sorted := k.sorted entries.reverse
      if hasTitle then
        put ((if isFirst then [] else [k.stop]) ++ k.nameText path ++ [':', k.stop])
      if k.layout = .long || k.showsBlocks then
        let blocks := sorted.foldl (fun n e => n + e.status.blocks) 0
        put ("total ".toList ++ k.blockScale.text (blocks * 512) ++ [k.stop])
      put (write sorted)
      if k.isRecursive then
        for e in sorted do
          if e.status.isDirectory && e.name ≠ ['.'] && e.name ≠ ['.', '.'] then
            let _ ← k.directory write hasTitle fuel false (inside path e.name)
      return false

/-- The words for formats. -/
def formatWords : List (List String) :=
  [["verbose", "long"], ["commas"], ["horizontal", "across"], ["vertical"], ["single-column"]]

/-- The words for orders. -/
def sortWords : List (List String) :=
  [["none"], ["time"], ["size"], ["extension"], ["version"], ["width"], ["name"]]

/-- The words for times. -/
def listTimeWords : List (List String) :=
  [["atime", "access", "use"], ["ctime", "status"], ["mtime", "modification"],
    ["birth", "creation"]]

/-- The words for when something is done. -/
def whenWords : List (List String) :=
  [["always", "yes", "force"], ["never", "no", "none"], ["auto", "tty", "if-tty"]]

/-- The options of lists. -/
def listOptions : List String :=
  ["a|all", "A|almost-all", "author", "b|escape", "block-size=", "B|ignore-backups", "c", "C",
    "color?", "d|directory", "D|dired", "f", "F", "classify?", "file-type", "format=",
    "full-time", "g", "group-directories-first", "G|no-group", "h|human-readable", "si", "H",
    "dereference-command-line-symlink-to-dir", "hide=", "hyperlink?", "indicator-style=",
    "i|inode", "I|ignore=", "k|kibibytes", "l", "L|dereference", "m", "n|numeric-uid-gid",
    "N|literal", "o", "p", "q|hide-control-chars", "show-control-chars", "Q|quote-name",
    "quoting-style=", "r|reverse", "R|recursive", "s|size", "S", "sort=", "time=", "time-style=",
    "t", "T|tabsize=", "u", "U", "v", "w|width=", "x", "X", "Z|context", "zero", "1",
    "dereference-command-line"]

/-- The formats of times that a word names: of old ones and of new ones. -/
def timeStyle (word : Bytes) : Tool (Option (Bytes × Bytes)) := do
  match word with
  | '+' :: format =>
    match linesOf (format ++ ['\n']) with
    | [one] => return some (chomp one, chomp one)
    | old :: new :: _ => return some (chomp old, chomp new)
    | [] => return some ([], [])
  | _ =>
    let word := if "posix-".toList.isPrefixOf word then word.drop 6 else word
    match Bytes.name word with
    | "full-iso" =>
      let format := "%Y-%m-%d %H:%M:%S.%N %z".toList
      return some (format, format)
    | "long-iso" => return some ("%Y-%m-%d %H:%M".toList, "%Y-%m-%d %H:%M".toList)
    | "iso" => return some ("%Y-%m-%d ".toList, "%m-%d %H:%M".toList)
    | "locale" => return none
    | _ =>
      warn ("invalid argument ".toList ++ quoted word ++ " for 'time style'".toList)
      let _ ← writeTo 2 ("Valid arguments are:\n  - [posix-]full-iso\n  - [posix-]long-iso\n"
        ++ "  - [posix-]iso\n  - [posix-]locale\n  - +FORMAT (e.g., +%H:%M) for a 'date'-style"
        ++ " format\n").toList
      pointToHelp

/-- How directories are listed, as options say. -/
def listingOf (start : Listing) (c : Chosen) : Tool Listing := do
  let mut k := start
  let mut isSorted := false
  for (key, v) in c.options do
    let text := v.getD []
    match key with
    | "a" => k := { k with showsHidden := true, showsSteps := true }
    | "A" => k := { k with showsHidden := true, showsSteps := false }
    | "author" => k := { k with showsAuthor := true }
    | "b" => k := { k with quoting := "escape" }
    | "block-size" =>
      match Scale.ofText? text with
      | some s => k := { k with scale := s, blockScale := s }
      | none => die ("invalid --block-size argument ".toList ++ quoted text)
    | "B" => k := { k with ignores := "*~".toList :: ".*~".toList :: k.ignores }
    | "c" =>
      k := { k with time := "changed" }
    | "C" => k := { k with layout := .columns }
    | "d" => k := { k with keepsDirectories := true }
    | "f" =>
      k := { k with showsHidden := true, showsSteps := true, sortedBy := "none" }
      isSorted := true
    | "F" => k := { k with signs := "/@|*".toList }
    | "classify" =>
      let word ← match v with
        | some word => choice "--classify" whenWords word
        | none => pure "always"
      if word = "always" then k := { k with signs := "/@|*".toList }
    | "file-type" => k := { k with signs := "/@|".toList }
    | "p" => k := { k with signs := ['/'] }
    | "indicator-style" =>
      match ← choice "--indicator-style" [["none"], ["slash"], ["file-type"], ["classify"]] text with
      | "slash" => k := { k with signs := ['/'] }
      | "file-type" => k := { k with signs := "/@|".toList }
      | "classify" => k := { k with signs := "/@|*".toList }
      | _ => k := { k with signs := [] }
    | "format" =>
      match ← choice "--format" formatWords text with
      | "verbose" => k := { k with layout := .long }
      | "commas" => k := { k with layout := .commas }
      | "horizontal" => k := { k with layout := .across }
      | "vertical" => k := { k with layout := .columns }
      | _ => k := { k with layout := .rows }
    | "full-time" =>
      k := { k with layout := .long, timeFormat := ← timeStyle "full-iso".toList }
    | "g" => k := { k with layout := .long, showsOwner := false }
    | "o" => k := { k with layout := .long, showsGroup := false }
    | "G" => k := { k with showsGroup := false }
    | "group-directories-first" => k := { k with directoriesFirst := true }
    | "h" => k := { k with scale := .human 1024, blockScale := .human 1024 }
    | "si" => k := { k with scale := .human 1000, blockScale := .human 1000 }
    | "H" | "dereference-command-line" => k := { k with followsNamed := true }
    | "L" => k := { k with follows := true, followsNamed := true }
    | "hide" => if !k.showsHidden then k := { k with ignores := text :: k.ignores }
    | "I" => k := { k with ignores := text :: k.ignores }
    | "i" => k := { k with showsNumbers := true }
    | "k" => k := { k with blockScale := .units 1024 [] }
    | "l" => k := { k with layout := .long }
    | "m" => k := { k with layout := .commas }
    | "n" => k := { k with layout := .long, usesNumbers := true }
    | "N" => k := { k with quoting := "literal" }
    | "q" => k := { k with hidesControls := true }
    | "show-control-chars" => k := { k with hidesControls := false }
    | "Q" => k := { k with quoting := "c" }
    | "quoting-style" => k := { k with quoting := ← choice "--quoting-style" quotingWords text }
    | "r" => k := { k with isReverse := true }
    | "R" => k := { k with isRecursive := true }
    | "s" => k := { k with showsBlocks := true }
    | "S" =>
      k := { k with sortedBy := "size" }
      isSorted := true
    | "t" =>
      k := { k with sortedBy := "time" }
      isSorted := true
    | "U" =>
      k := { k with sortedBy := "none" }
      isSorted := true
    | "v" =>
      k := { k with sortedBy := "version" }
      isSorted := true
    | "X" =>
      k := { k with sortedBy := "extension" }
      isSorted := true
    | "sort" =>
      k := { k with sortedBy := ← choice "--sort" sortWords text }
      isSorted := true
    | "u" => k := { k with time := "accessed" }
    | "time" =>
      match ← choice "--time" listTimeWords text with
      | "atime" => k := { k with time := "accessed" }
      | "ctime" => k := { k with time := "changed" }
      | _ => k := { k with time := "modified" }
    | "time-style" => k := { k with timeFormat := ← timeStyle text }
    | "T" =>
      match natOf? text with
      | some n => k := { k with tabSize := n }
      | none => die ("invalid tab size: ".toList ++ quoted text)
    | "w" =>
      match natOf? text with
      | some n => k := { k with width := n }
      | none => die ("invalid line width: ".toList ++ quoted text)
    | "x" => k := { k with layout := .across }
    | "zero" =>
      k := { k with stop := '\x00', layout := if k.layout = .long then .long else .rows }
    | "1" => if k.layout ≠ .long then k := { k with layout := .rows }
    | _ => pure ()
  if !isSorted && k.layout ≠ .long && (c.has "c" || c.has "u" || c.has "time") then
    k := { k with sortedBy := "time" }
  return k

/-- List files and what is in directories. -/
def list (start : Listing) (arguments environment : List Bytes) : Tool Unit := do
  let (c, names) ← options listOptions arguments
  let k ← listingOf start c
  let accounts ← accounts
  let zone := Moment.zoneOf environment
  let now ← look fun s => s.clock
  let write := k.text accounts zone now
  let minor := fun (message : Bytes) (e : Refusal) => complainOf message e
  let looksThrough := k.followsNamed
    || (!k.keepsDirectories && k.layout ≠ .long && k.signs ≠ "/@|*".toList)
  let mut files := []
  let mut directories := []
  for name in if names.isEmpty then [['.']] else names do
    match ← k.entryOf k.followsNamed name name with
    | .error e => minor ("cannot access ".toList ++ inQuotes name) e
    | .ok entry =>
      let leads := looksThrough && entry.target.any fun (_, t) => t.any (·.isDirectory)
      if (entry.status.isDirectory || leads) && !k.keepsDirectories then
        directories := entry :: directories
      else files := entry :: files
  let sortedFiles := k.sorted files.reverse
  let sortedDirectories := k.sorted directories.reverse
  put (write sortedFiles)
  let hasTitle := 1 < names.length || k.isRecursive
  let mut isFirst := sortedFiles.isEmpty
  for e in sortedDirectories do
    isFirst ← k.directory write hasTitle mostDepth isFirst e.name

/-- List files, one in a row. -/
def ls (arguments environment : List Bytes) : Tool Unit := list {} arguments environment

/-- List files in columns. -/
def dir (arguments environment : List Bytes) : Tool Unit :=
  list { layout := .columns, quoting := "escape" } arguments environment

/-- List files with all that is known about them. -/
def vdir (arguments environment : List Bytes) : Tool Unit :=
  list { layout := .long, quoting := "escape" } arguments environment

end SyncFleet.Utility.File

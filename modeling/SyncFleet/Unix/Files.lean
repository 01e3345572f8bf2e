/-
  SyncFleet/Unix/Files.lean
  =========================
  **What processes do with files.**

  Each request changes the system or is refused.  Reading from an empty pipe
  and writing to a full one are no requests of this kind, because they may
  have to wait; they stand in a section of their own.
-/
import SyncFleet.Unix.Path

namespace SyncFleet.Unix

/-! ### What is known about a file -/

/-- What is told about a file. -/
structure Status where
  inode : Nat
  node : Node
  mode : Nat
  links : Nat
  owner : Nat
  group : Nat
  size : Nat
  /-- how many blocks of 512 bytes it takes -/
  blocks : Nat
  accessed : Int
  modified : Int
  changed : Int

/-- The size that a directory has. -/
def directorySize : Nat := 4096

namespace System

/-- What is told about a file. -/
def status (s : System) (i : Nat) : Status :=
  let n := s.inode i
  let (size, stored) := match n.node with
    | .file content size => (size, content.size)
    | .directory .. => (directorySize, directorySize)
    | .link target => (target.length, 0)
    | _ => (0, 0)
  ⟨i, n.node, n.mode, n.links, n.owner, n.group, size, (stored + 4095) / 4096 * 8, n.accessed,
    n.modified, n.changed⟩

end System

namespace Status

/-- Whether a status is that of a directory. -/
def isDirectory (t : Status) : Bool := t.node matches .directory ..

/-- Whether a status is that of an ordinary file. -/
def isFile (t : Status) : Bool := t.node matches .file ..

/-- Whether a status is that of a link. -/
def isLink (t : Status) : Bool := t.node matches .link ..

/-- Whether a status is that of a pipe. -/
def isPipe (t : Status) : Bool := t.node matches .pipe ..

/-- Whether a status is that of a device. -/
def isDevice (t : Status) : Bool := t.node matches .device ..

end Status

/-- How a file is opened. -/
structure Opening where
  reads : Bool := false
  writes : Bool := false
  appends : Bool := false
  creates : Bool := false
  truncates : Bool := false
  /-- the file must be a new one -/
  isNew : Bool := false
  /-- a link at the end is not followed -/
  keepsLink : Bool := false
  closes : Bool := false

namespace Opening

/-- To read it. -/
def toRead : Opening := { reads := true }

/-- To write it from its start, after its content has gone. -/
def toWrite : Opening := { writes := true, creates := true, truncates := true }

/-- To write at its end. -/
def toAppend : Opening := { writes := true, creates := true, appends := true }

end Opening

namespace Op

/-- Put a name for a file into a directory. -/
def enter (directory : Nat) (name : Bytes) (i : Nat) : Op Unit :=
  modify fun s =>
    let now := s.clock
    s.modifyInode directory fun n =>
      match n.node with
      | .directory entries parent =>
        { n with node := .directory ((name, i) :: entries) parent, modified := now, changed := now }
      | _ => n

/-- Take a name out of a directory. -/
def leave (directory : Nat) (name : Bytes) : Op Unit :=
  modify fun s =>
    let now := s.clock
    s.modifyInode directory fun n =>
      match n.node with
      | .directory entries parent =>
        { n with
          node := .directory (entries.filter (·.1 ≠ name)) parent, modified := now, changed := now }
      | _ => n

/-- A new file in a directory. -/
def make (found : Found) (node : Node) (mode : Nat) : Op Nat := do
  let s ← get
  if found.name = [] then throw .exists
  if (s.inode found.parent).links = 0 then throw .noEntry
  let now := s.clock
  let (i, s) := s.addInode ⟨node, mode, 1, 0, 0, now, now, now⟩
  set s
  enter found.parent found.name i
  return i

/-- Permissions without those that new files do not get. -/
def masked (mode : Nat) : Op Nat := do
  let mask := (← get).task.mask
  return (List.range 12).foldl (fun n b =>
    if mode.testBit b && !(mask.testBit b && b < 9) then n + Nat.pow 2 b else n) 0

/-- What is told about the file at a path. -/
def status (path : Bytes) (follows : Bool) : Op Status := do
  let i ← inodeAt path follows
  return (← get).status i

/-- What is told about the file of a descriptor. -/
def statusOf (descriptor : Nat) : Op Status := do
  match (← get).openFile? descriptor with
  | some (_, f) => return (← get).status f.inode
  | none => throw .badDescriptor

/-! ### Descriptors -/

/-- The least number from some number on that is no descriptor yet. -/
def freeNumber (least : Nat) : Op Nat := do
  let used := (← get).task.descriptors.map (·.number)
  return ((List.range (used.length + 1)).find? fun n => !used.contains (least + n)).getD 0 + least

/-- Let a descriptor stand for an open file. -/
def bind (number file : Nat) (closes : Bool) : Op Unit :=
  modify fun s => s.modifyTask fun t =>
    { t with descriptors := ⟨number, file, closes⟩ :: t.descriptors.filter (·.number ≠ number) }

/-- A descriptor for an open file, with the least number that is free. -/
def attach (file least : Nat) (closes : Bool) : Op Nat := do
  let n ← freeNumber least
  bind n file closes
  return n

/-- Close a descriptor. -/
def close (descriptor : Nat) : Op Unit := do
  if ((← get).fileOf? descriptor).isNone then throw .badDescriptor
  modify fun s => s.modifyTask fun t =>
    { t with descriptors := t.descriptors.filter (·.number ≠ descriptor) }

/-- Another descriptor for the same open file. -/
def duplicate (descriptor least : Nat) (closes : Bool) : Op Nat := do
  match (← get).fileOf? descriptor with
  | some f => attach f least closes
  | none => throw .badDescriptor

/-- Let a descriptor stand for the open file of another. -/
def duplicateTo (descriptor target : Nat) : Op Unit := do
  match (← get).fileOf? descriptor with
  | some f => bind target f false
  | none => throw .badDescriptor

/-- A new pipe: a descriptor to read from and one to write to. -/
def pipe : Op (Nat × Nat) := do
  let s ← get
  let now := s.clock
  let (i, s) := s.addInode ⟨.pipe .empty 0x10000 1 1, 0o600, 1, 0, 0, now, now, now⟩
  let (r, s) := s.addFile ⟨i, 0, true, false, false⟩
  let (w, s) := s.addFile ⟨i, 0, false, true, false⟩
  set s
  return (← attach r 0 false, ← attach w 0 false)

/-- A pipe that nobody writes to any more, with something in it: a descriptor to read from. -/
def filledPipe (content : ByteArray) : Op Nat := do
  let s ← get
  let now := s.clock
  let (i, s) := s.addInode ⟨.pipe content content.size 1 1, 0o600, 1, 0, 0, now, now, now⟩
  let (r, s) := s.addFile ⟨i, 0, true, false, false⟩
  set s
  attach r 0 false

/-! ### Opening -/

/-- Open a file; the answer is the number of the open file. -/
def openFile (path : Bytes) (o : Opening) (mode : Nat) : Op Nat := do
  let slash := path.getLast? = some '/'
  let found ← find path !(o.keepsLink || (o.creates && o.isNew))
  let i ← match found.inode with
    | some i => do
      if o.creates && o.isNew then throw .exists
      let n := (← get).inode i
      match n.node with
      | .directory .. => if o.writes || o.creates then throw .isDirectory
      | .link _ => throw .tooManySteps
      | .device .terminal => throw .noDevice
      | .file .. =>
        if o.truncates then
          modify fun s =>
            let now := s.clock
            s.modifyInode i fun n => { n with node := .file .empty 0, modified := now, changed := now }
      | _ => pure ()
      pure i
    | none => do
      if !o.creates then throw .noEntry
      if slash then throw .isDirectory
      make found (.file .empty 0) (← masked mode)
  modify fun s => s.modifyInode i fun n =>
    match n.node with
    | .pipe content capacity reads writes =>
      let reads := if o.reads then reads + 1 else reads
      let writes := if o.writes then writes + 1 else writes
      { n with node := .pipe content capacity reads writes }
    | _ => n
  let (f, s) := (← get).addFile ⟨i, 0, o.reads, o.writes, o.appends⟩
  set s
  return f

/-! ### Directories -/

/-- The names in a directory and their files. -/
def entries (path : Bytes) : Op (List (Bytes × Nat)) := do
  match ((← get).inode (← inodeAt path true)).node with
  | .directory entries _ => return entries.reverse
  | _ => throw .notDirectory

/-- Make a directory. -/
def makeDirectory (path : Bytes) (mode : Nat) : Op Unit := do
  let found ← find path false
  if found.inode.isSome then throw .exists
  let i ← make found (.directory [] found.parent) (← masked mode)
  modify fun s => s.modifyInode i fun n => { n with links := 2 }
  modify fun s => s.modifyInode found.parent fun n => { n with links := n.links + 1 }

/-- Remove an empty directory. -/
def removeDirectory (path : Bytes) : Op Unit := do
  match (namesOf path).getLast? with
  | some ['.'] => throw .invalid
  | some ['.', '.'] => throw .notEmpty
  | _ => pure ()
  let found ← find path false
  match found.inode with
  | none => throw .noEntry
  | some i =>
    if i = rootDirectory then throw .busy
    match ((← get).inode i).node with
    | .directory [] _ =>
      leave found.parent found.name
      modify fun s => s.modifyInode i fun n => { n with links := 0 }
      modify fun s => s.modifyInode found.parent fun n => { n with links := n.links - 1 }
    | .directory .. => throw .notEmpty
    | _ => throw .notDirectory

/-- Remove a name of a file that is no directory. -/
def unlink (path : Bytes) : Op Unit := do
  let found ← find path false
  match found.inode with
  | none => throw .noEntry
  | some i =>
    if (← get).isDirectory i then throw .isDirectory
    leave found.parent found.name
    modify fun s =>
      let now := s.clock
      s.modifyInode i fun n => { n with links := n.links - 1, changed := now }

/-- Give a file another name. -/
def link (source target : Bytes) (follows : Bool) : Op Unit := do
  let i ← inodeAt source follows
  let found ← find target false
  if found.inode.isSome then throw .exists
  if target.getLast? = some '/' then throw .noEntry
  if (← get).isDirectory i then throw .notPermitted
  enter found.parent found.name i
  modify fun s =>
    let now := s.clock
    s.modifyInode i fun n => { n with links := n.links + 1, changed := now }

/-- Make a link to a path. -/
def makeLink (target path : Bytes) : Op Unit := do
  if target = [] then throw .noEntry
  let found ← find path false
  if found.inode.isSome then throw .exists
  if path.getLast? = some '/' then throw .noEntry
  let _ ← make found (.link target) 0o777

/-- The path that a link holds. -/
def readLink (path : Bytes) : Op Bytes := do
  match ((← get).inode (← inodeAt path false)).node with
  | .link target => return target
  | _ => throw .invalid

/-- Make a pipe with a name, or a device. -/
def makeNode (path : Bytes) (node : Node) (mode : Nat) : Op Unit := do
  let found ← find path false
  if found.inode.isSome then throw .exists
  let _ ← make found node (← masked mode)

/-- Whether a directory lies below another, or is it. -/
def isBelow (s : System) : Nat → Nat → Nat → Bool
  | 0, _, _ => false
  | fuel + 1, i, top =>
    i = top || match (s.inode i).node with
      | .directory _ parent => i ≠ rootDirectory && isBelow s fuel parent top
      | _ => false

/-- Rename a file; one that has the other name is replaced. -/
def rename (source target : Bytes) : Op Unit := do
  let isStep := fun (path : Bytes) =>
    match (namesOf path).getLast? with
    | some name => name = ['.'] || name = ['.', '.']
    | none => true
  let origin ← find source false
  let goal ← find target false
  let some i := origin.inode | throw .noEntry
  if isStep source || isStep target then throw .busy
  let s ← get
  let moved := s.isDirectory i
  if !moved && target.getLast? = some '/' then throw .notDirectory
  if moved && isBelow s 4096 goal.parent i then throw .invalid
  match goal.inode with
  | some j => do
    if i = j then return ()
    match moved, (s.inode j).node with
    | true, .directory [] _ => pure ()
    | true, .directory .. => throw .notEmpty
    | true, _ => throw .notDirectory
    | false, .directory .. => throw .isDirectory
    | false, _ => pure ()
    leave goal.parent goal.name
    modify fun s => s.modifyInode j fun n => { n with links := if moved then 0 else n.links - 1 }
    if moved then
      modify fun s => s.modifyInode goal.parent fun n => { n with links := n.links - 1 }
  | none => pure ()
  leave origin.parent origin.name
  enter goal.parent goal.name i
  modify fun s =>
    let now := s.clock
    s.modifyInode i fun n =>
      { n with
        changed := now
        node := match n.node with
          | .directory entries _ => .directory entries goal.parent
          | node => node }
  if moved then
    modify fun s => s.modifyInode origin.parent fun n => { n with links := n.links - 1 }
    modify fun s => s.modifyInode goal.parent fun n => { n with links := n.links + 1 }

/-! ### What is known about files -/

/-- Set the permissions of a file. -/
def changeMode (path : Bytes) (mode : Nat) (follows : Bool) : Op Unit := do
  let i ← inodeAt path follows
  modify fun s =>
    let now := s.clock
    s.modifyInode i fun n => { n with mode, changed := now }

/-- Set the owners of a file. -/
def changeOwner (path : Bytes) (owner group : Option Nat) (follows : Bool) : Op Unit := do
  let i ← inodeAt path follows
  modify fun s =>
    let now := s.clock
    s.modifyInode i fun n =>
      { n with owner := owner.getD n.owner, group := group.getD n.group, changed := now }

/-- Set the times of a file. -/
def changeTimes (path : Bytes) (accessed modified : Option Int) (follows : Bool) : Op Unit := do
  let i ← inodeAt path follows
  modify fun s =>
    let now := s.clock
    s.modifyInode i fun n =>
      { n with
        accessed := accessed.getD n.accessed, modified := modified.getD n.modified, changed := now }

/-- Cut a file off at a size, or fill it up with zeros. -/
def resize (i size : Nat) : Op Unit :=
  modify fun s =>
    let now := s.clock
    s.modifyInode i fun n =>
      match n.node with
      | .file content _ =>
        { n with node := .file (content.extract 0 size) size, modified := now, changed := now }
      | _ => n

/-- Set the size of the file of a descriptor. -/
def truncate (descriptor size : Nat) : Op Unit := do
  let some (_, f) := (← get).openFile? descriptor | throw .badDescriptor
  match ((← get).inode f.inode).node with
  | .file .. => resize f.inode size
  | _ => throw .invalid

/-- Move the position of a descriptor. -/
def seek (descriptor position : Nat) : Op Unit := do
  let some (k, f) := (← get).openFile? descriptor | throw .badDescriptor
  match ((← get).inode f.inode).node with
  | .pipe .. => throw .noSeek
  | _ => modify fun s => s.modifyFile k fun f => { f with position }

/-- The position of a descriptor. -/
def position (descriptor : Nat) : Op Nat := do
  let some (_, f) := (← get).openFile? descriptor | throw .badDescriptor
  match ((← get).inode f.inode).node with
  | .pipe .. => throw .noSeek
  | _ => return f.position

/-- Change the working directory. -/
def changeDirectory (path : Bytes) : Op Unit := do
  let i ← inodeAt path true
  if !(← get).isDirectory i then throw .notDirectory
  modify fun s => s.modifyTask fun t => { t with directory := i }

/-- The path of the working directory. -/
def directory : Op Bytes := do
  let s ← get
  let i := s.task.directory
  if (s.inode i).links = 0 then throw .noEntry
  return s.pathTo i

end Op

/-! ### Reading and writing -/

/-- Bytes of a file from a position on: at most `count`, with zeros behind what is stored. -/
def contentFrom (content : ByteArray) (size position count : Nat) : ByteArray :=
  let last := min size (position + count)
  let stored := content.extract position last
  (List.range (last - position - stored.size)).foldl (fun b _ => b.push 0) stored

/-- A content with bytes written over it at a position. -/
def contentWith (content : ByteArray) (position : Nat) (bytes : ByteArray) : ByteArray :=
  if content.size ≤ position then
    (List.range (position - content.size)).foldl (fun b _ => b.push 0) content ++ bytes
  else
    content.extract 0 position ++ bytes ++ content.extract (position + bytes.size) content.size

/-- Bytes of no use, from a seed. -/
def randomBytes (seed count : Nat) : ByteArray :=
  ((List.range count).foldl (fun ((b : ByteArray), (x : Nat)) _ =>
    let x := (x * 6364136223846793005 + 1442695040888963407) % UInt64.size
    (b.push (UInt8.ofNat (x / 0x100000000)), x)) (.empty, seed)).1

namespace System

/-- Read at most some bytes through a descriptor; no answer as long as there is nothing to read
    yet. -/
def read (s : System) (descriptor count : Nat) : System × Option (Except Refusal ByteArray) :=
  match s.openFile? descriptor with
  | none => (s, some (.error .badDescriptor))
  | some (k, f) =>
    if !f.reads then (s, some (.error .badDescriptor))
    else match (s.inode f.inode).node with
      | .file content size =>
        let bytes := contentFrom content size f.position count
        (s.modifyFile k fun f => { f with position := f.position + bytes.size }, some (.ok bytes))
      | .directory .. => (s, some (.error .isDirectory))
      | .pipe content capacity reads writes =>
        if content.isEmpty then
          if s.holdsEnd f.inode true then (s, none) else (s, some (.ok .empty))
        else
          let bytes := content.extract 0 count
          (s.modifyInode f.inode fun n =>
            { n with node := .pipe (content.extract count content.size) capacity reads writes },
            some (.ok bytes))
      | .device .null => (s, some (.ok .empty))
      | .device .zero => (s, some (.ok (contentFrom .empty count 0 count)))
      | .device .full => (s, some (.ok (contentFrom .empty count 0 count)))
      | .device .random =>
        (s.modifyFile k fun f => { f with position := f.position + count },
          some (.ok (randomBytes (s.now + f.position) count)))
      | _ => (s, some (.error .invalid))

/-- How much of a write to a file its size limit lets through. -/
def allowance (s : System) (position count : Nat) : Nat :=
  match (s.task.limits.lookup 'f').bind (·.soft) with
  | some blocks => min count (512 * blocks - position)
  | none => count

/-- How many bytes may be written to a pipe in one piece. -/
def pieceSize : Nat := 4096

/-- Write bytes through a descriptor: how many have been written.  No answer as long as there is
    no room yet. -/
def write (s : System) (descriptor : Nat) (bytes : ByteArray) :
    System × Option (Except Refusal Nat) :=
  match s.openFile? descriptor with
  | none => (s, some (.error .badDescriptor))
  | some (k, f) =>
    if !f.writes then (s, some (.error .badDescriptor))
    else match (s.inode f.inode).node with
      | .file _ size =>
        let position := if f.appends then size else f.position
        let n := s.allowance position bytes.size
        if n = 0 && !bytes.isEmpty then
          let t := s.current
          (s.signal t Signal.fileSize, some (.error .tooLarge))
        else
          let piece := bytes.extract 0 n
          let now := s.clock
          let s := s.modifyInode f.inode fun n => match n.node with
            | .file content size =>
              { n with
                node := .file (contentWith content position piece) (max size (position + piece.size))
                modified := now, changed := now }
            | _ => n
          (s.modifyFile k fun f => { f with position := position + n }, some (.ok n))
      | .pipe content capacity _ _ =>
        if !s.holdsEnd f.inode false then
          let t := s.current
          (s.signal t Signal.pipe, some (.error .brokenPipe))
        else
          let room := capacity - content.size
          if room = 0 || (bytes.size ≤ pieceSize && room < bytes.size) then (s, none)
          else
            let piece := bytes.extract 0 room
            (s.modifyInode f.inode fun n => match n.node with
              | .pipe content capacity reads writes =>
                { n with node := .pipe (content ++ piece) capacity reads writes }
              | _ => n, some (.ok piece.size))
      | .device .full => (s, some (.error .noSpace))
      | .device _ => (s, some (.ok bytes.size))
      | _ => (s, some (.error .badDescriptor))

end System

end SyncFleet.Unix

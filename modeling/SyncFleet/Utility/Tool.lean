/-
  SyncFleet/Utility/Tool.lean
  ===========================
  **Small programs: what they write, what they complain of and how they end.**

  A `Tool` collects its output and writes it in pieces, before each complaint
  and at its end.  It may stop at any time with a status.
-/
import SyncFleet.Unix.Execution

namespace SyncFleet.Utility

open Unix

/-! ### Names in messages -/

/-- The letter of a byte that is written as an escape. -/
def escapeLetter? : Char → Option Char
  | '\x07' => some 'a'
  | '\x08' => some 'b'
  | '\x0c' => some 'f'
  | '\n' => some 'n'
  | '\r' => some 'r'
  | '\t' => some 't'
  | '\x0b' => some 'v'
  | _ => none

/-- A byte as an escape. -/
def escapeOf (c : Char) : Bytes :=
  match escapeLetter? c with
  | some x => ['\\', x]
  | none => '\\' :: padLeft 3 '0' (octal c.toNat)

/-- Whether a text means something else to a shell than itself. -/
def isSpecialToShell (text : Bytes) : Bool :=
  text.isEmpty || text == ['\x7b'] || text == ['\x7d']
    || text.head?.any (fun c => c == '#' || c == '~')
    || text.any fun c => " !\"$&()*;<=>[^\x60|\\'?".toList.contains c || !isPrint c

/-- Whether a byte may stand between double quotes as it is. -/
def isPlainInDouble (c : Char) : Bool :=
  isPrint c && !"!\"#$&()*;<=>?[\\^\x60\x7b|\x7d~".toList.contains c

/-- A text between single quotes, as a shell reads it; `escaping` says that the quotes are those of
    escapes. -/
def singleQuoted : Bool → Bytes → Bytes
  | _, [] => ['\x27']
  | escaping, c :: rest =>
    if isPrint c then
      (if escaping && c ≠ '\x27' then ['\x27', '\x27'] else [])
        ++ (if c = '\x27' then "'\\''".toList else [c]) ++ singleQuoted false rest
    else
      (if escaping then [] else "'$'".toList) ++ escapeOf c ++ singleQuoted true rest

/-- A name in quotes. -/
def inQuotes (text : Bytes) : Bytes :=
  if text.contains '\x27' && text.all isPlainInDouble then '\x22' :: text ++ ['\x22']
  else '\x27' :: singleQuoted false text

/-- A name, in quotes if a shell would need them. -/
def shown (text : Bytes) : Bytes := if isSpecialToShell text then inQuotes text else text

/-- An argument in quotes, with escapes for what cannot be seen. -/
def quoted (text : Bytes) : Bytes :=
  '\x27' :: text.flatMap (fun c =>
    if c = '\\' || c = '\x27' then ['\\', c] else if isPrint c then [c] else escapeOf c) ++ ['\x27']

/-! ### Tools -/

/-- What a tool knows about itself. -/
structure ToolState where
  /-- the name under which it was called -/
  name : Bytes
  /-- what it has not written yet, the last piece first -/
  pending : List Bytes
  /-- how much that is -/
  size : Nat
  /-- the status with which it ends -/
  status : Nat
  /-- the status of a failure -/
  failure : Nat

/-- What a tool does; it may stop with a status. -/
abbrev Tool := ExceptT Nat (StateT ToolState Sys)

namespace Tool

/-- Do something on the system. -/
def sys {α : Type} (a : Sys α) : Tool α := fun s => do return (.ok (← a), s)

/-- Ask the system for something. -/
def request {α : Type} (op : Op α) : Tool (Except Refusal α) := sys (Sys.request op)

/-- Ask the system for something, and do not care whether it is refused. -/
def ask (op : Op Unit) : Tool Unit := sys (Sys.attempt op)

/-- Look at something in the system. -/
def look {α : Type} (f : System → α) : Tool α := sys (Sys.look f)

/-- Write to a descriptor at once. -/
def writeTo (descriptor : Nat) (text : Bytes) : Tool (Except Refusal Unit) :=
  sys (Sys.write descriptor text)

/-- Stop with a status, without having written what is left. -/
def stop {α : Type} (status : Nat) : Tool α := throw status

/-- Report why the output could not be written, and stop. -/
def failToWrite {α : Type} (e : Refusal) : Tool α := do
  let s ← get
  let _ ← writeTo 2 (s.name ++ (": write error: " ++ e.message ++ "\n").toList)
  stop s.failure

/-- Write what has not been written yet. -/
def flush : Tool Unit := do
  let pieces := (← get).pending
  if !pieces.isEmpty then
    modify fun s => { s with pending := [], size := 0 }
    if let .error e ← writeTo 1 pieces.reverse.flatten then failToWrite e

/-- How much is collected before it is written. -/
def bufferSize : Nat := 4096

/-- Add to the output. -/
def put (text : Bytes) : Tool Unit := do
  if !text.isEmpty then
    let size := (← get).size + text.length
    modify fun s => { s with pending := text :: s.pending, size }
    if bufferSize ≤ size then flush

/-- Add a line to the output. -/
def putLine (text : Bytes) : Tool Unit := put (text ++ ['\n'])

/-- Report something. -/
def warn (message : Bytes) : Tool Unit := do
  flush
  let _ ← writeTo 2 ((← get).name ++ ": ".toList ++ message ++ ['\n'])

/-- Report something and end with a failure later. -/
def complain (message : Bytes) : Tool Unit := do
  warn message
  modify fun s => { s with status := s.failure }

/-- Report why something cannot be done with a file, and end with a failure later. -/
def complainOf (what : Bytes) (e : Refusal) : Tool Unit :=
  complain (what ++ (": " ++ e.message).toList)

/-- Report something and stop. -/
def die {α : Type} (message : Bytes) : Tool α := do
  warn message
  stop (← get).failure

/-- Report why something cannot be done with a file, and stop. -/
def dieOf {α : Type} (what : Bytes) (e : Refusal) : Tool α :=
  die (what ++ (": " ++ e.message).toList)

/-- Point to the help, and stop. -/
def pointToHelp {α : Type} : Tool α := do
  let s ← get
  let _ ← writeTo 2 ("Try '".toList ++ s.name ++ " --help' for more information.\n".toList)
  stop s.failure

/-- Report a wrong use and stop. -/
def misuse {α : Type} (message : Bytes) : Tool α := do
  warn message
  pointToHelp

/-- Report that an operand is missing, and stop. -/
def missOperand {α : Type} : Tool α := misuse "missing operand".toList

/-- Report that an operand is missing behind others, and stop. -/
def missOperandAfter {α : Type} (last : Bytes) : Tool α :=
  misuse ("missing operand after ".toList ++ quoted last)

/-- Report an operand that is too much, and stop. -/
def extraOperand {α : Type} (operand : Bytes) : Tool α :=
  misuse ("extra operand ".toList ++ quoted operand)

/-- The program of a tool: it writes what is left and ends with its status. -/
def program (failure : Nat) (tool : List Bytes → List Bytes → Tool Unit) : Program :=
  fun arguments environment =>
    let run : Sys Nat := do
      let start : ToolState := ⟨arguments.headD [], [], 0, 0, failure⟩
      let both : Tool Unit := do
        tool (arguments.drop 1) environment
        flush
      let (r, s) ← StateT.run (ExceptT.run both) start
      match r with
      | .ok _ => return s.status
      | .error status =>
        let (r, _) ← StateT.run (ExceptT.run flush) s
        match r with
        | .ok _ => return status
        | .error status => return status
    run fun status => .ended (.exited (status % 256))

/-! ### Input -/

/-- The descriptor of a file that is read, where a dash stands for the input; whether it is to be
    closed.  A file that cannot be read is reported. -/
def openInput (name : Bytes) : Tool (Option (Nat × Bool)) := do
  if name = ['-'] then return some (0, false)
  match ← sys (Sys.openFile name .toRead 0) with
  | .ok n => return some (n, true)
  | .error e =>
    complainOf (shown name) e
    return none

/-- Read a piece; an empty one is the end.  What goes wrong is reported. -/
def readPiece (name : Bytes) (descriptor : Nat) : Tool ByteArray := do
  match ← sys (Sys.read descriptor 0x8000) with
  | .ok bytes => return bytes
  | .error e =>
    complainOf (if name = ['-'] then ['-'] else shown name) e
    return .empty

/-- Go through the pieces of a file, at most `fuel`. -/
def piecesFrom {σ : Type} (name : Bytes) (descriptor : Nat) (step : σ → ByteArray → Tool σ) :
    Nat → σ → Tool σ
  | 0, s => return s
  | fuel + 1, s => do
    let piece ← readPiece name descriptor
    if piece.isEmpty then return s
    piecesFrom name descriptor step fuel (← step s piece)

/-- How many pieces of a file are read at most. -/
def mostPieces : Nat := 1000000000

/-- Go through the pieces of a file; whether it could be opened. -/
def overPieces {σ : Type} (name : Bytes) (step : σ → ByteArray → Tool σ) (s : σ) :
    Tool (σ × Bool) := do
  match ← openInput name with
  | none => return (s, false)
  | some (n, closes) =>
    let s ← piecesFrom name n step mostPieces s
    if closes then ask (Op.close n)
    return (s, true)

/-- Go through the pieces of some files, or of the input if there are none. -/
def overFiles {σ : Type} (step : σ → ByteArray → Tool σ) (names : List Bytes) (s : σ) :
    Tool σ :=
  (if names.isEmpty then [['-']] else names).foldlM (fun s name => do
    return (← overPieces name step s).1) s

/-- Cut a piece behind every byte of a kind, after what was left of the piece before: the parts, and
    what is left. -/
def cutPiece (stop : Char) (left : Bytes) (piece : ByteArray) : List Bytes × Bytes :=
  let (done, rest) := piece.foldl (fun ((done : List Bytes), (part : Bytes)) x =>
    let c := Char.ofNat x.toNat
    if c = stop then ((c :: part).reverse :: done, []) else (done, c :: part)) ([], left)
  (done.reverse, rest)

/-- Go through the lines of some files as if they were one, or of the input if there are none.  A
    line has the byte that ends it. -/
def overLines {σ : Type} (stop : Char) (step : σ → Bytes → Tool σ) (names : List Bytes)
    (s : σ) : Tool σ := do
  let (s, left) ← overFiles (fun (s, left) piece => do
    let (lines, left) := cutPiece stop left piece
    return (← lines.foldlM step s, left)) names (s, [])
  if left.isEmpty then return s else step s left.reverse

/-- Go through the lines of each of some files; a file ends its last line. -/
def overLinesOfEach {σ : Type} (stop : Char) (step : σ → Bytes → Tool σ) (names : List Bytes)
    (s : σ) : Tool σ :=
  (if names.isEmpty then [['-']] else names).foldlM (fun s name => do
    let ((s, left), _) ← overPieces name (fun (s, left) piece => do
      let (lines, left) := cutPiece stop left piece
      return (← lines.foldlM step s, left)) (s, [])
    if left.isEmpty then return s else step s left.reverse) s

/-- The content of a file, if it can be read. -/
def content? (name : Bytes) : Tool (Option ByteArray) := do
  match ← openInput name with
  | none => return none
  | some (n, closes) =>
    let r ← sys (Sys.readAll n)
    if closes then ask (Op.close n)
    match r with
    | .ok bytes => return some bytes
    | .error e =>
      complainOf (shown name) e
      return none

/-- The contents of the files that could be read, or of the input if none is named. -/
def contents (names : List Bytes) : Tool (List (Bytes × Bytes)) := do
  let mut found := []
  for name in if names.isEmpty then [['-']] else names do
    if let some bytes ← content? name then found := (name, Bytes.ofByteArray bytes) :: found
  return found.reverse

/-! ### Files -/

/-- What is told about the file at a path. -/
def status (path : Bytes) (follows : Bool) : Tool (Except Refusal Status) :=
  request (Op.status path follows)

/-- What is told about the file at a path, if there is one. -/
def status? (path : Bytes) (follows : Bool) : Tool (Option Status) := do
  return (← status path follows).toOption

/-- Whether there is a directory at a path. -/
def isDirectory (path : Bytes) : Tool Bool := do
  return (← status? path true).any (·.isDirectory)

/-- The permissions that new files do not get. -/
def mask : Tool Nat := look fun s => s.task.mask

/-- Read a line byte by byte, of at most `fuel`, in reverse. -/
def readAnswer : Nat → Bytes → Tool Bytes
  | 0, line => return line
  | fuel + 1, line => do
    match ← sys (Sys.read 0 1) with
    | .ok bytes =>
      match Bytes.ofByteArray bytes with
      | [] | ['\n'] => return line
      | c :: _ => readAnswer fuel (c :: line)
    | .error _ => return line

/-- Ask a question; an answer that begins like a yes is one. -/
def agrees (question : Bytes) : Tool Bool := do
  flush
  let _ ← writeTo 2 ((← get).name ++ ": ".toList ++ question)
  let answer := (← readAnswer mostPieces []).reverse
  return answer.head?.any fun c => c = 'y' || c = 'Y'

/-- Ask a question if there is a reason to; otherwise the answer is taken to be a yes. -/
def agreesIf (isAsked : Bool) (question : Bytes) : Tool Bool :=
  if isAsked then agrees question else pure true

/-! ### Output to files -/

/-- Write to a file that is opened for it; what goes wrong is the answer. -/
def writeFile (name : Bytes) (o : Opening) (content : ByteArray) : Tool (Except Refusal Unit) := do
  match ← sys (Sys.openFile name o 0o666) with
  | .error e => return .error e
  | .ok n =>
    let r ← sys (Sys.writeBytes n content)
    ask (Op.close n)
    return r

end Tool

end SyncFleet.Utility

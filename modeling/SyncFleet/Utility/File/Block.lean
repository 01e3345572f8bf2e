/-
  SyncFleet/Utility/File/Block.lean
  =================================
  **Copying blocks of bytes.**
-/
import SyncFleet.Utility.Amount
import SyncFleet.Utility.Option

namespace SyncFleet.Utility.File

open Unix Tool

/-- How blocks are copied. -/
structure BlockCopy where
  input : Option Bytes := none
  output : Option Bytes := none
  inputSize : Nat := 512
  outputSize : Nat := 512
  /-- the size of both, if they are the same and pieces are written as they are read -/
  size : Option Nat := none
  conversionSize : Nat := 0
  skip : Nat := 0
  seek : Nat := 0
  count : Option Nat := none
  conversions : List String := []
  inputFlags : List String := []
  outputFlags : List String := []
  status : String := ""
  skipsBytes : Bool := false
  seeksBytes : Bool := false
  countsBytes : Bool := false

/-- The names of conversions. -/
def conversionNames : List String :=
  ["ascii", "ebcdic", "ibm", "block", "unblock", "lcase", "ucase", "sparse", "swab", "sync",
    "excl", "nocreat", "notrunc", "noerror", "fdatasync", "fsync"]

/-- The names of flags. -/
def flagNames : List String :=
  ["append", "binary", "cio", "direct", "directory", "dsync", "noatime", "nocache", "noctty",
    "nofollow", "nolinks", "nonblock", "sync", "text", "fullblock", "count_bytes", "skip_bytes",
    "seek_bytes"]

/-- A number of blocks or bytes, and whether it counts bytes. -/
def blockNumber (least : Nat) (text : Bytes) : Tool (Nat × Bool) := do
  let wrong := "invalid number: ".toList ++ quoted text
  let parts := splitAt 'x' text
  let mut product := 1
  let mut inBytes := false
  for part in parts do
    let isBytes := part.getLast? = some 'B' && (part.dropLast.getLast?.any fun c =>
      c.isDigit || "cwbkKMGTPE".toList.contains c)
    let digits := if isBytes && part.dropLast.getLast?.any Char.isDigit then part.dropLast else part
    match amountOf "bcEGkKMPQRTwYZ0" greatestNatural digits with
    | .ok n =>
      product := product * n
      inBytes := inBytes || isBytes && digits.length < part.length
    | .error .tooGreat => die (wrong ++ ": Value too large for defined data type".toList)
    | .error .malformed => die wrong
  if product < least then die wrong
  if greatestNatural / 2 < product then
    die (wrong ++ ": Value too large for defined data type".toList)
  return (product, inBytes)

/-- The names in a list, which must all be known. -/
def namesIn (known : List String) (label : String) (text : Bytes) : Tool (List String) :=
  (splitAt ',' text).mapM fun word =>
    if known.contains word.name then pure word.name
    else misuse ((label ++ ": ").toList ++ quoted word)

/-- Read an operand. -/
def BlockCopy.take (k : BlockCopy) (operand : Bytes) : Tool BlockCopy := do
  let key := operand.takeWhile (· != '=')
  let value := operand.drop (key.length + 1)
  if key.length = operand.length then misuse ("unrecognized operand ".toList ++ quoted operand)
  match Bytes.name key with
  | "if" => return { k with input := some value }
  | "of" => return { k with output := some value }
  | "bs" => return { k with size := some (← blockNumber 1 value).1 }
  | "ibs" => return { k with inputSize := (← blockNumber 1 value).1 }
  | "obs" => return { k with outputSize := (← blockNumber 1 value).1 }
  | "cbs" => return { k with conversionSize := (← blockNumber 1 value).1 }
  | "skip" | "iseek" => do
    let (n, inBytes) ← blockNumber 0 value
    return { k with skip := n, skipsBytes := k.skipsBytes || inBytes }
  | "seek" | "oseek" => do
    let (n, inBytes) ← blockNumber 0 value
    return { k with seek := n, seeksBytes := k.seeksBytes || inBytes }
  | "count" => do
    let (n, inBytes) ← blockNumber 0 value
    return { k with count := some n, countsBytes := k.countsBytes || inBytes }
  | "conv" =>
    return { k with
      conversions := k.conversions ++ (← namesIn conversionNames "invalid conversion" value) }
  | "iflag" => do
    let flags ← namesIn flagNames "invalid input flag" value
    return { k with
      inputFlags := k.inputFlags ++ flags, skipsBytes := k.skipsBytes || flags.contains "skip_bytes"
      countsBytes := k.countsBytes || flags.contains "count_bytes" }
  | "oflag" => do
    let flags ← namesIn flagNames "invalid output flag" value
    return { k with
      outputFlags := k.outputFlags ++ flags
      seeksBytes := k.seeksBytes || flags.contains "seek_bytes" }
  | "status" =>
    let word := Bytes.name value
    if ["none", "noxfer", "progress"].contains word then return { k with status := word }
    misuse ("invalid status level: ".toList ++ quoted value)
  | _ => misuse ("unrecognized operand ".toList ++ quoted operand)

/-- How far copying has come. -/
structure BlockState where
  /-- how many blocks have been read and written, whole ones and parts -/
  wholeIn : Nat := 0
  partIn : Nat := 0
  wholeOut : Nat := 0
  partOut : Nat := 0
  bytes : Nat := 0
  truncated : Nat := 0
  /-- what has not been written yet -/
  pending : ByteArray := .empty
  /-- the line that is being converted, in reverse -/
  line : Bytes := []
  /-- a byte that waits for its partner -/
  held : Option UInt8 := none

/-- Write a block. -/
def BlockCopy.writeBlock (k : BlockCopy) (s : BlockState) (block : ByteArray) : Tool BlockState := do
  match ← sys (Sys.writeBytes 1 block) with
  | .error e =>
    dieOf (if k.output.isSome then "error writing ".toList ++ inQuotes (k.output.getD [])
      else "error writing 'standard output'".toList) e
  | .ok _ =>
    if block.size = k.size.getD k.outputSize then
      return { s with wholeOut := s.wholeOut + 1, bytes := s.bytes + block.size }
    return { s with partOut := s.partOut + 1, bytes := s.bytes + block.size }

/-- Write as many whole blocks as there are, at most `fuel`. -/
def BlockCopy.drain (k : BlockCopy) : Nat → BlockState → Tool BlockState
  | 0, s => return s
  | fuel + 1, s => do
    if s.pending.size < k.outputSize then return s
    let block := s.pending.extract 0 k.outputSize
    let s ← k.writeBlock { s with pending := s.pending.extract k.outputSize s.pending.size } block
    k.drain fuel s

/-- A line as a record of a fixed size. -/
def asRecord (size : Nat) (line : Bytes) : Bytes :=
  padRight size (line.take size)

/-- Convert bytes. -/
def BlockCopy.convert (k : BlockCopy) (s : BlockState) (bytes : ByteArray) :
    BlockState × ByteArray :=
  let has := fun name => k.conversions.contains name
  let swapped : BlockState × ByteArray :=
    if !has "swab" then (s, bytes)
    else
      bytes.foldl (fun ((s : BlockState), (out : ByteArray)) x =>
        match s.held with
        | some y => ({ s with held := none }, (out.push x).push y)
        | none => ({ s with held := some x }, out)) (s, .empty)
  let (s, bytes) := swapped
  let cased := if has "lcase" || has "ucase" then
      bytes.foldl (fun (out : ByteArray) x =>
        let c := Char.ofNat x.toNat
        out.push (UInt8.ofNat (if has "lcase" then c.toLower else c.toUpper).toNat)) .empty
    else bytes
  if k.conversionSize = 0 then (s, cased)
  else if has "block" then
    cased.foldl (fun ((s : BlockState), (out : ByteArray)) x =>
      if x = 10 then
        let line := s.line.reverse
        ({ s with
            line := []
            truncated := if k.conversionSize < line.length then s.truncated + 1 else s.truncated },
          out ++ Bytes.toByteArray (asRecord k.conversionSize line))
      else ({ s with line := Char.ofNat x.toNat :: s.line }, out)) (s, .empty)
  else if has "unblock" then
    cased.foldl (fun ((s : BlockState), (out : ByteArray)) x =>
      let line := Char.ofNat x.toNat :: s.line
      if line.length = k.conversionSize then
        ({ s with line := [] },
          out ++ Bytes.toByteArray ((line.dropWhile (· == ' ')).reverse ++ ['\n']))
      else ({ s with line }, out)) (s, .empty)
  else (s, cased)

/-- What is left of a line at the end. -/
def BlockCopy.lastLine (k : BlockCopy) (s : BlockState) : ByteArray :=
  if s.line.isEmpty then .empty
  else if k.conversions.contains "block" then
    Bytes.toByteArray (asRecord k.conversionSize s.line.reverse)
  else Bytes.toByteArray ((s.line.dropWhile (· == ' ')).reverse ++ ['\n'])

/-- Read a block, in several pieces if it has to be full, at most `fuel`. -/
def BlockCopy.readBlock (full : Bool) (size : Nat) : Nat → ByteArray →
    Tool (Except Refusal ByteArray)
  | 0, got => return .ok got
  | fuel + 1, got => do
    match ← sys (Sys.read 0 (size - got.size)) with
    | .error e => return .error e
    | .ok bytes =>
      let got := got ++ bytes
      if bytes.isEmpty || !full || size ≤ got.size then return .ok got
      readBlock full size fuel got

/-- Copy blocks, at most `fuel`; `left` says how many blocks or bytes may still be read. -/
def BlockCopy.copy (k : BlockCopy) : Nat → Option Nat → BlockState → Tool BlockState
  | 0, _, s => return s
  | fuel + 1, left, s => do
    if left = some 0 then return s
    let size := k.size.getD k.inputSize
    let wanted := if k.countsBytes then min size (left.getD size) else size
    match ← BlockCopy.readBlock (k.inputFlags.contains "fullblock") wanted (wanted + 1) .empty with
    | .error e =>
      complainOf ("error reading ".toList ++ inQuotes (k.input.getD "standard input".toList)) e
      return s
    | .ok bytes =>
      if bytes.isEmpty then return s
      let isWhole := bytes.size = size
      let s := if isWhole then { s with wholeIn := s.wholeIn + 1 }
        else { s with partIn := s.partIn + 1 }
      let left := left.map fun n => if k.countsBytes then n - bytes.size else n - 1
      let fill : UInt8 := if k.conversions.contains "block" || k.conversions.contains "unblock"
        then 32 else 0
      let padded := if k.conversions.contains "sync" then
          (List.range (size - bytes.size)).foldl (fun (b : ByteArray) _ => b.push fill) bytes
        else bytes
      let (s, out) := k.convert s padded
      let s ← if k.size.isSome && k.conversionSize = 0 && !k.conversions.contains "swab" then
          k.writeBlock s out
        else do
          let s := { s with pending := s.pending ++ out }
          k.drain (s.pending.size / k.outputSize + 1) s
      k.copy fuel left s

/-- Leave out some bytes of the input that cannot be skipped, at most `fuel` pieces; how many are
    missing. -/
def skipBytes : Nat → Nat → Tool Nat
  | 0, n => return n
  | _, 0 => return 0
  | fuel + 1, n => do
    match ← sys (Sys.read 0 (min n 0x10000)) with
    | .ok bytes => if bytes.isEmpty then return n else skipBytes fuel (n - bytes.size)
    | .error _ => return n

/-- Say how much has been copied. -/
def BlockCopy.report (k : BlockCopy) (s : BlockState) (started : Nat) : Tool Unit := do
  if k.status ≠ "none" then
    let pair := fun (whole part : Nat) => decimal whole ++ '+' :: decimal part
    let mut text := pair s.wholeIn s.partIn ++ " records in\n".toList
      ++ pair s.wholeOut s.partOut ++ " records out\n".toList
    if s.truncated ≠ 0 then
      text := text ++ decimal s.truncated
        ++ (if s.truncated = 1 then " truncated record\n" else " truncated records\n").toList
    if k.status ≠ "noxfer" then
      let time := max 1 ((← look fun s => s.now) - started)
      let human := fun (base : Nat) => humanSize base s.bytes
      let sizes := if s.bytes < 1000 then []
        else if s.bytes < 1024 then " (".toList ++ human 1000 ++ "B)".toList
        else " (".toList ++ human 1000 ++ "B, ".toList ++ human 1024 ++ "iB)".toList
      let microseconds := decimal (time / 1000)
      text := text ++ decimal s.bytes ++ (if s.bytes = 1 then " byte" else " bytes").toList
        ++ sizes ++ " copied, ".toList ++ microseconds ++ "e-06 s, ".toList
        ++ humanSize 1000 (s.bytes * 1000000000 / time) ++ "B/s\n".toList
    let _ ← writeTo 2 text

/-- Copy a file in blocks. -/
def dd (arguments _environment : List Bytes) : Tool Unit := do
  let (_, operands) ← options [] arguments
  let started ← look fun s => s.now
  let k ← operands.foldlM BlockCopy.take {}
  let k := match k.size with
    | some n => { k with inputSize := n, outputSize := n }
    | none => k
  let isSet := fun names => 1 < (k.conversions.filter names).length
  if isSet (fun n => n = "lcase" || n = "ucase") && k.conversions.contains "lcase"
      && k.conversions.contains "ucase" then
    die "cannot combine lcase and ucase".toList
  if k.conversions.contains "block" && k.conversions.contains "unblock" then
    die "cannot combine block and unblock".toList
  if k.conversions.contains "excl" && k.conversions.contains "nocreat" then
    die "cannot combine excl and nocreat".toList
  if let some path := k.input then
    match ← sys (Sys.openFile path .toRead 0) with
    | .error e => dieOf ("failed to open ".toList ++ inQuotes path) e
    | .ok n =>
      ask (Op.duplicateTo n 0)
      ask (Op.close n)
  let seek := if k.seeksBytes then k.seek else k.seek * k.outputSize
  if let some path := k.output then
    let keeps := k.conversions.contains "notrunc"
    let o : Opening := {
      writes := true, creates := !k.conversions.contains "nocreat"
      isNew := k.conversions.contains "excl", truncates := !keeps && seek = 0
      appends := k.outputFlags.contains "append" }
    match ← sys (Sys.openFile path o 0o666) with
    | .error e => dieOf ("failed to open ".toList ++ inQuotes path) e
    | .ok n =>
      ask (Op.duplicateTo n 1)
      ask (Op.close n)
      if !keeps && seek ≠ 0 then ask (Op.truncate 1 seek)
  let skip := if k.skipsBytes then k.skip else k.skip * k.inputSize
  if skip ≠ 0 then
    match ← request (Op.position 0) with
    | .ok position =>
      let size := (← request (Op.statusOf 0)).toOption.map (·.size)
      if size.any fun n => n < position + skip then
        warn (inQuotes (k.input.getD "standard input".toList)
          ++ ": cannot skip to specified offset".toList)
      ask (Op.seek 0 (position + skip))
    | .error _ =>
      if (← skipBytes mostPieces skip) ≠ 0 then
        warn (inQuotes (k.input.getD "standard input".toList)
          ++ ": cannot skip to specified offset".toList)
  if seek ≠ 0 then
    match ← request (Op.position 1) with
    | .ok position => ask (Op.seek 1 (position + seek))
    | .error _ =>
      let zeros := (List.range seek).foldl (fun (b : ByteArray) _ => b.push 0) .empty
      let _ ← sys (Sys.writeBytes 1 zeros)
  let s ← k.copy mostPieces k.count {}
  let s := match s.held with
    | some x => { s with pending := s.pending.push x }
    | none => s
  let s := { s with pending := s.pending ++ k.lastLine s }
  let s ← k.drain (s.pending.size / k.outputSize + 1) s
  let s ← if s.pending.isEmpty then pure s else k.writeBlock s s.pending
  k.report s started

/-- Write everything to where it is stored; nothing is left to do. -/
def sync (arguments _environment : List Bytes) : Tool Unit := do
  let (c, names) ← options ["d|data", "f|file-system"] arguments
  if c.has "d" && c.has "f" then die "cannot specify both --data and --file-system".toList
  if c.has "d" && names.isEmpty then die "--data needs at least one argument".toList
  for name in names do
    if let .error e ← status name true then complainOf ("error opening ".toList ++ inQuotes name) e

/-- Write over the content of files, and remove them if that is asked for. -/
def shred (arguments _environment : List Bytes) : Tool Unit := do
  let (c, names) ← options ["f|force", "n|iterations=", "random-source=", "s|size=", "u",
    "remove?", "v|verbose", "x|exact", "z|zero"] arguments
  if names.isEmpty then misuse "missing file operand".toList
  for name in names do
    match ← sys (Sys.openFile name { writes := true } 0) with
    | .error e =>
      complain (shown name ++ ": failed to open for writing: ".toList ++ e.message.toList)
    | .ok n =>
      if let .ok t ← request (Op.statusOf n) then
        let size := if c.has "x" then t.size else (t.size + 4095) / 4096 * 4096
        let zeros := (List.range size).foldl (fun (b : ByteArray) _ => b.push 0) .empty
        let _ ← sys (Sys.writeBytes n zeros)
      ask (Op.close n)
      if c.has "u" || c.has "remove" then ask (Op.unlink name)

end SyncFleet.Utility.File

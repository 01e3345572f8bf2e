/-
  SyncFleet/Utility/Digest/Check.lean
  ===================================
  **Hashes and sums of files, written and checked.**
-/
import SyncFleet.Utility.Digest.Hash
import SyncFleet.Utility.Option
import SyncFleet.Utility.Text.Encoding

namespace SyncFleet.Utility.Digest

open Unix Tool

/-- A way to make hashes: its name in rows, how many bytes they have, and the hash of a message. -/
structure Method where
  label : String
  size : Nat
  hash : ByteArray → List UInt8

/-- The methods by name. -/
def method? (name : String) (size : Nat) : Option Method :=
  match name with
  | "md5" => some ⟨"MD5", 16, md5⟩
  | "sha1" => some ⟨"SHA1", 20, sha1⟩
  | "sha224" => some ⟨"SHA224", 28, sha224⟩
  | "sha256" => some ⟨"SHA256", 32, sha256⟩
  | "sha384" => some ⟨"SHA384", 48, sha384⟩
  | "sha512" => some ⟨"SHA512", 64, sha512⟩
  | "blake2b" => some ⟨"BLAKE2b", size, blake2b size⟩
  | "sm3" => some ⟨"SM3", 32, sm3⟩
  | _ => none

/-- Bytes in hexadecimal digits. -/
def hexText (bytes : List UInt8) : Bytes :=
  bytes.flatMap fun x => padLeft 2 '0' (Nat.toDigits 16 x.toNat)

/-- Bytes with 64 letters. -/
def lettersText (bytes : List UInt8) : Bytes :=
  let text := bytes.map fun x => byte x.toNat
  let (out, left) := Text.Alphabet.base64.encodeGroups (text.length + 1) text []
  out.reverse ++ (if left.isEmpty then [] else Text.Alphabet.base64.encodeGroup left)

/-- A name with escapes for the bytes that end lines, and whether there are any. -/
def escapedRow (name : Bytes) : Bool × Bytes :=
  (name.any fun c => c == '\\' || c == '\n' || c == '\r',
    name.flatMap fun c => match c with
      | '\\' => ['\\', '\\']
      | '\n' => ['\\', 'n']
      | '\r' => ['\\', 'r']
      | c => [c])

/-- A name with its escapes undone, of at most `fuel` bytes. -/
def unescapedRow : Nat → Bytes → Option Bytes
  | 0, _ => some []
  | _, [] => some []
  | fuel + 1, '\\' :: c :: rest =>
    (match c with
      | 'n' => some '\n'
      | 'r' => some '\r'
      | '\\' => some '\\'
      | _ => none).bind fun x => (unescapedRow fuel rest).map (x :: ·)
  | _, ['\\'] => none
  | fuel + 1, c :: rest => (unescapedRow fuel rest).map (c :: ·)

/-- How hashes are written. -/
structure Rows where
  method : Method
  /-- whether rows name the method -/
  isTagged : Bool
  isBinary : Bool
  isRaw : Bool
  isShort : Bool
  stop : Char

/-- The name of a method with its length, if that is not the usual one. -/
def Method.title (m : Method) : Bytes :=
  if m.label = "BLAKE2b" && m.size ≠ 64 then
    m.label.toList ++ '-' :: decimal (8 * m.size)
  else m.label.toList

/-- A row. -/
def Rows.row (k : Rows) (hash : List UInt8) (name : Bytes) : Bytes :=
  let text := if k.isShort then lettersText hash else hexText hash
  let (isEscaped, shownName) := if k.stop = '\n' then escapedRow name else (false, name)
  (if isEscaped then ['\\'] else [])
    ++ (if k.isTagged then k.method.title ++ " (".toList ++ shownName ++ ") = ".toList ++ text
      else text ++ (if k.isBinary then " *".toList else "  ".toList) ++ shownName)
    ++ [k.stop]

/-! ### Checking -/

/-- How rows are checked. -/
structure Checking where
  isSilent : Bool
  isQuiet : Bool
  warns : Bool
  isStrict : Bool
  ignoresMissing : Bool

/-- A row that is to be checked: a method, a hash in digits, and a name. -/
abbrev CheckRow := Method × Bytes × Bytes

/-- The row of a text that names the method. -/
def taggedRow? (methods : List Method) (line : Bytes) : Option CheckRow :=
  methods.findSome? fun m => do
    let label := m.label.toList
    if !label.isPrefixOf line then none
    let rest := line.drop label.length
    let (m, rest) ← match rest with
      | '-' :: more =>
        let (n, _, rest) := digitsAt 10 more
        if m.label = "BLAKE2b" && n % 8 = 0 && 0 < n && n ≤ 512 then
          (method? "blake2b" (n / 8)).map (·, rest)
        else none
      | rest => some (m, rest)
    let rest := if rest.head? = some ' ' then rest.drop 1 else rest
    match rest with
    | '(' :: more =>
      let behind := more.reverse.dropWhile (· != ')')
      if behind.isEmpty then none
      else
        let name := (behind.drop 1).reverse
        let value := (more.drop (name.length + 1)).dropWhile isBlank
        match value with
        | '=' :: value => some (m, value.dropWhile isBlank, name)
        | _ => none
    | _ => none

/-- The row of a text. -/
def checkRow? (methods : List Method) (isTaggedOnly : Bool) (line : Bytes) : Option CheckRow := do
  let line := line.dropWhile isBlank
  let (isEscaped, line) := match line with
    | '\\' :: rest => (true, rest)
    | line => (false, line)
  let (m, value, name) ← match taggedRow? methods line with
    | some row => some row
    | none =>
      if isTaggedOnly then none
      else
        match methods with
        | [m] =>
          let digits := line.takeWhile fun c => inClass "xdigit" c
          let m ← if m.label = "BLAKE2b" && digits.length ≠ 2 * m.size then
              if digits.length % 2 = 0 && 0 < digits.length && digits.length ≤ 128 then
                method? "blake2b" (digits.length / 2) else none
            else some m
          match line.drop digits.length with
          | s :: t :: name =>
            if (s = ' ' || s = '\t') && (t = ' ' || t = '*') then some (m, digits, name)
            else if s = ' ' || s = '\t' then some (m, digits, t :: name)
            else none
          | _ => none
        | _ => none
  let isHex := value.length = 2 * m.size && value.all fun c => inClass "xdigit" c
  let isShort := value.length = (m.size + 2) / 3 * 4
  if !(isHex || isShort) || name.isEmpty then none
  let name ← if isEscaped then unescapedRow (name.length + 1) name else some name
  return (m, value, name)

/-- What has been found in the rows of a file. -/
structure CheckTally where
  number : Nat := 0
  malformed : Nat := 0
  proper : Nat := 0
  wrong : Nat := 0
  unread : Nat := 0
  matching : Nat := 0

/-- Check a row. -/
def Checking.row (k : Checking) (methods : List Method) (tagged : Bool) (title : String)
    (file : Bytes) (t : CheckTally) (line : Bytes) : Tool CheckTally := do
  let t := { t with number := t.number + 1 }
  let line := chomp line
  let line := if line.getLast? = some '\r' then line.dropLast else line
  if line.head? = some '#' then return t
  match checkRow? methods tagged line with
  | none =>
    if k.warns then
      warn (file ++ ": ".toList ++ decimal t.number
        ++ (": improperly formatted " ++ title ++ " checksum line").toList)
    return { t with malformed := t.malformed + 1 }
  | some (m, value, name) =>
    let t := { t with proper := t.proper + 1 }
    let (isEscaped, shownName) := escapedRow name
    let shownName := if isEscaped then '\\' :: shownName else shownName
    let opened ← if name = ['-'] then pure (.ok 0) else sys (Sys.openFile name .toRead 0)
    let content ← match opened with
      | .error e => pure (.error e)
      | .ok n => do
        let r ← sys (Sys.readAll n)
        if n ≠ 0 then ask (Op.close n)
        pure r
    match content with
    | .error e =>
      if k.ignoresMissing && e = .noEntry then return t
      complainOf (shown name) e
      if !k.isSilent then putLine (shownName ++ ": FAILED open or read".toList)
      return { t with unread := t.unread + 1 }
    | .ok bytes =>
      let hash := m.hash bytes
      let isSame := hexText hash = value.map Char.toLower || lettersText hash = value
      if isSame then
        if !k.isSilent && !k.isQuiet then putLine (shownName ++ ": OK".toList)
        return { t with matching := t.matching + 1 }
      if !k.isSilent then putLine (shownName ++ ": FAILED".toList)
      return { t with wrong := t.wrong + 1 }

/-- Check the rows of a file. -/
def Checking.file (k : Checking) (methods : List Method) (tagged : Bool) (title : String)
    (name : Bytes) : Tool Unit := do
  let file := if name = ['-'] then "'standard input'".toList else shown name
  let opened ← if name = ['-'] then pure (.ok 0) else sys (Sys.openFile name .toRead 0)
  match opened with
  | .error e => complainOf (shown name) e
  | .ok n =>
    match ← sys (Sys.readAll n) with
    | .error e => complain (file ++ (": read error: " ++ e.message).toList)
    | .ok bytes =>
      if n ≠ 0 then ask (Op.close n)
      let t ← (linesOf (Bytes.ofByteArray bytes)).foldlM (k.row methods tagged title file) {}
      let plural := fun (n : Nat) (one many : String) =>
        "WARNING: ".toList ++ decimal n ++ (if n = 1 then one else many).toList
      if t.proper = 0 then
        complain (file ++ ": no properly formatted checksum lines found".toList)
      else
        if !k.isSilent then
          if t.malformed ≠ 0 then
            warn (plural t.malformed " line is improperly formatted"
              " lines are improperly formatted")
          if t.unread ≠ 0 then
            warn (plural t.unread " listed file could not be read"
              " listed files could not be read")
          if t.wrong ≠ 0 then
            warn (plural t.wrong " computed checksum did NOT match"
              " computed checksums did NOT match")
          if k.ignoresMissing && t.matching = 0 then
            warn (file ++ ": no file was verified".toList)
        if t.wrong ≠ 0 || t.unread ≠ 0 || (k.isStrict && t.malformed ≠ 0)
            || (k.ignoresMissing && t.matching = 0) then
          modify fun s => { s with status := s.failure }

/-! ### Programs -/

/-- The options of programs that hash. -/
def hashOptions : List String :=
  ["b|binary", "c|check", "l|length=", "t|text", "tag", "quiet", "status", "w|warn", "strict",
    "z|zero", "ignore-missing"]

/-- The content of a file that is hashed. -/
def hashed? (name : Bytes) : Tool (Option ByteArray) := content? name

/-- The length of hashes in bytes that an option says. -/
def lengthOf (c : Chosen) : Tool Nat := do
  match c.value? "l" with
  | none => return 64
  | some text =>
    match natOf? text with
    | none => die ("invalid length: ".toList ++ quoted text)
    | some n =>
      if n % 8 ≠ 0 then
        warn ("invalid length: ".toList ++ quoted text)
        die "length is not a multiple of 8".toList
      if 512 < n then
        warn ("invalid length: ".toList ++ quoted text)
        die "maximum digest length for 'BLAKE2b' is 512 bits".toList
      return if n = 0 then 64 else n / 8

/-- Write hashes or check them. -/
def hashes (m : Method) (isTagged : Bool) (c : Chosen) (names : List Bytes) : Tool Unit := do
  let k : Rows := ⟨m, isTagged, c.last? ["b", "t"] = some "b", c.has "raw", c.has "base64",
    if c.has "z" then '\x00' else '\n'⟩
  if k.isRaw && 1 < names.length then
    die "the --raw option is not supported with multiple files".toList
  for name in if names.isEmpty then [['-']] else names do
    if let some bytes ← hashed? name then
      let hash := m.hash bytes
      if k.isRaw then put (hash.map fun x => byte x.toNat) else put (k.row hash name)

/-- How rows are checked, as options say. -/
def checkingOf (c : Chosen) : Checking :=
  ⟨c.has "status", c.has "quiet", c.has "w", c.has "strict", c.has "ignore-missing"⟩

/-- The program of a method. -/
def hashProgram (name : String) (arguments _environment : List Bytes) : Tool Unit := do
  let (c, names) ← options hashOptions arguments
  let size ← if name = "blake2b" then lengthOf c else pure 0
  match method? name size with
  | none => return
  | some m =>
    if c.has "tag" && c.has "c" then
      misuse "the --tag option is meaningless when verifying checksums".toList
    if c.has "z" && c.has "c" then
      misuse "the --zero option is not supported when verifying checksums".toList
    if !c.has "c" then
      for (key, label) in [("ignore-missing", "ignore-missing"), ("status", "status"),
          ("w", "warn"), ("quiet", "quiet"), ("strict", "strict")] do
        if c.has key then
          misuse ("the --" ++ label ++ " option is meaningful only when verifying checksums").toList
      hashes m (c.has "tag") c names
    else
      for file in if names.isEmpty then [['-']] else names do
        (checkingOf c).file [m] false m.label file

/-- Write the turned sums of files, or their plain ones. -/
def sums (isTurned : Bool) (names : List Bytes) : Tool Unit := do
  for name in if names.isEmpty then [['-']] else names do
    if let some bytes ← hashed? name then
      let behind := if names.isEmpty then [] else ' ' :: name
      if isTurned then
        putLine (padLeft 5 '0' (decimal (turnedSum bytes)) ++ [' ']
          ++ padLeft 5 ' ' (decimal ((bytes.size + 1023) / 1024)) ++ behind)
      else
        putLine (decimal (plainSum bytes) ++ ' ' :: decimal ((bytes.size + 511) / 512) ++ behind)

/-- Write sums of files. -/
def sum (arguments _environment : List Bytes) : Tool Unit := do
  let (c, names) ← options ["r", "s|sysv"] arguments
  sums (c.last? ["r", "s"] ≠ some "s") names

/-- The names of methods that an option takes. -/
def methodWords : List (List String) :=
  [["bsd"], ["sysv"], ["crc"], ["md5"], ["sha1"], ["sha224"], ["sha256"], ["sha384"], ["sha512"],
    ["blake2b"], ["sm3"]]

/-- Write sums or hashes of files by a method that an option names, or check them. -/
def cksum (arguments _environment : List Bytes) : Tool Unit := do
  let (c, names) ← options (hashOptions ++ ["a|algorithm=", "untagged", "raw", "base64", "debug"])
    arguments
  let name ← match c.value? "a" with
    | some word => choice "--algorithm" methodWords word
    | none => pure "crc"
  if c.has "l" && name ≠ "blake2b" then
    misuse "--length is only supported with --algorithm=blake2b".toList
  let size ← if name = "blake2b" then lengthOf c else pure 64
  if c.has "c" then
    let methods := match method? name size with
      | some m => [m]
      | none =>
        ["md5", "sha1", "sha224", "sha256", "sha384", "sha512", "blake2b", "sm3"].filterMap
          (method? · 64)
    if c.has "a" && (method? name size).isNone then
      die "--check is not supported with --algorithm=\x7bbsd,sysv,crc\x7d".toList
    for file in if names.isEmpty then [['-']] else names do
      (checkingOf c).file methods (!c.has "a") (if c.has "a" then
        (methods.map (·.label)).headD "" else "CRC") file
  else match name with
    | "bsd" => sums true names
    | "sysv" => sums false names
    | "crc" =>
      for file in if names.isEmpty then [['-']] else names do
        if let some bytes ← hashed? file then
          let n := cyclicSum bytes
          if c.has "raw" then put ((bytesOf false 4 n).map fun x => byte x.toNat)
          else
            putLine (decimal n ++ ' ' :: decimal bytes.size
              ++ (if names.isEmpty then [] else ' ' :: file))
    | _ =>
      match method? name size with
      | some m => hashes m (c.last? ["tag", "untagged"] ≠ some "untagged") c names
      | none => return

end SyncFleet.Utility.Digest

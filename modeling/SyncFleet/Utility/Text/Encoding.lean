/-
  SyncFleet/Utility/Text/Encoding.lean
  ====================================
  **Bytes written with the letters of an alphabet.**

  An alphabet has a power of two of letters.  Bytes are taken in groups that
  fill a number of letters; the last group may be filled up with a mark.
-/
import SyncFleet.Utility.Amount
import SyncFleet.Utility.Option

namespace SyncFleet.Utility.Text

open Unix Tool

/-- An alphabet. -/
structure Alphabet where
  letters : Bytes
  /-- how many bits a letter stands for -/
  bits : Nat
  /-- how many bytes and letters a group has -/
  groupBytes : Nat
  groupLetters : Nat
  /-- whether the bits of a byte come in reverse -/
  isReverse : Bool := false

namespace Alphabet

def capitals : Bytes := "ABCDEFGHIJKLMNOPQRSTUVWXYZ".toList

def base64 : Alphabet :=
  ⟨capitals ++ "abcdefghijklmnopqrstuvwxyz0123456789+/".toList, 6, 3, 4, false⟩

def base64url : Alphabet :=
  ⟨capitals ++ "abcdefghijklmnopqrstuvwxyz0123456789-_".toList, 6, 3, 4, false⟩

def base32 : Alphabet := ⟨capitals ++ "234567".toList, 5, 5, 8, false⟩

def base32hex : Alphabet := ⟨"0123456789ABCDEFGHIJKLMNOPQRSTUV".toList, 5, 5, 8, false⟩

def base16 : Alphabet := ⟨"0123456789ABCDEF".toList, 4, 1, 2, false⟩

def base2 (isReverse : Bool) : Alphabet := ⟨"01".toList, 1, 1, 8, isReverse⟩

/-- The letters of a group, which is filled up if it is short. -/
def encodeGroup (a : Alphabet) (group : Bytes) : Bytes :=
  let count := (8 * group.length + a.bits - 1) / a.bits
  let n := (group ++ List.replicate (a.groupBytes - group.length) '\x00').foldl
    (fun n c => 256 * n + c.toNat) 0
  let base := Nat.pow 2 a.bits
  let all := (List.range a.groupLetters).map fun i =>
    a.letters.getD (n / Nat.pow base (a.groupLetters - 1 - i) % base) '='
  let all := if a.isReverse then all.reverse else all
  all.take count ++ List.replicate (a.groupLetters - count) '='

/-- The letters of whole groups, in reverse, and the bytes that are left, of at most `fuel`
    groups. -/
def encodeGroups (a : Alphabet) : Nat → Bytes → Bytes → Bytes × Bytes
  | 0, bytes, out => (out, bytes)
  | fuel + 1, bytes, out =>
    let group := bytes.take a.groupBytes
    if group.length < a.groupBytes then (out, bytes)
    else encodeGroups a fuel (bytes.drop a.groupBytes) ((a.encodeGroup group).reverseAux out)

/-- The bytes of a group of letters, as far as they can be read, and whether the group is well. -/
def decodeGroup (a : Alphabet) (group : Bytes) : Bytes × Bool :=
  let letters := group.takeWhile a.letters.contains
  let rest := group.drop letters.length
  let values := (letters.map fun c => (a.letters.findIdx? (· == c)).getD 0)
  let values := if a.isReverse && letters.length = a.groupLetters then values.reverse else values
  let bits := a.bits * letters.length
  let n := values.foldl (fun n v => Nat.pow 2 a.bits * n + v) 0
  let count := bits / 8
  let bytes := (List.range count).map fun i => byte (n / Nat.pow 2 (bits - 8 * (i + 1)))
  let mayEnd := 0 < bits && bits % 8 < a.bits && a.groupBytes ≠ 1
  (bytes, rest.isEmpty && letters.length = a.groupLetters
    || (mayEnd && group.length = a.groupLetters && rest.all (· == '=') && !rest.isEmpty))

/-- The bytes of letters, in reverse, and whether all groups are well, at most `fuel`. -/
def decodeGroups (a : Alphabet) : Nat → Bytes → Bytes → Bytes × Bool
  | 0, _, out => (out, true)
  | _, [], out => (out, true)
  | fuel + 1, letters, out =>
    let (bytes, isWell) := a.decodeGroup (letters.take a.groupLetters)
    let out := bytes.reverseAux out
    if isWell then decodeGroups a fuel (letters.drop a.groupLetters) out else (out, false)

end Alphabet

/-! ### Base 85 -/

/-- The letters for 85 values. -/
def letters85 : Bytes :=
  ("0123456789abcdefghijklmnopqrstuvwxyzABCDEFGHIJKLMNOPQRSTUVWXYZ.-:+=^!/*?&<>()[]\x7b\x7d"
    ++ "@%$#").toList

/-- Four bytes in five letters. -/
def encode85 (group : Bytes) : Bytes :=
  let n := group.foldl (fun n c => 256 * n + c.toNat) 0
  (List.range 5).map fun i => letters85.getD (n / Nat.pow 85 (4 - i) % 85) '0'

/-- Five letters as four bytes. -/
def decode85 (group : Bytes) : Option Bytes := do
  let values ← group.mapM fun c => letters85.findIdx? (· == c)
  let n := values.foldl (fun n v => 85 * n + v) 0
  if group.length = 5 ∧ n < 0x100000000 then
    some ((List.range 4).map fun i => byte (n / Nat.pow 256 (3 - i)))
  else none

/-- Groups of a text of at most `fuel`, each made into something. -/
def overGroups (size : Nat) (f : Bytes → Option Bytes) : Nat → Bytes → Bytes → Bytes × Bool
  | 0, _, out => (out, true)
  | _, [], out => (out, true)
  | fuel + 1, text, out =>
    match f (text.take size) with
    | some piece => overGroups size f fuel (text.drop size) (piece.reverseAux out)
    | none => (out, false)

/-! ### Programs -/

/-- Break letters into lines of a width, from a column on: the text in reverse, and the column. -/
def wrapped (width : Nat) (column : Nat) (letters : Bytes) : Bytes × Nat :=
  if width = 0 then (letters.reverse, column)
  else letters.foldl (fun (out, column) c =>
    if column + 1 = width then ('\n' :: c :: out, 0) else (c :: out, column + 1)) ([], column)

/-- Write the input in an alphabet. -/
def encodeFile (a : Alphabet) (width : Nat) (name : Bytes) : Tool Unit := do
  let (s, isThere) ← overPieces name (fun ((left : Bytes), (column : Nat)) piece => do
    let bytes := left ++ Bytes.ofByteArray piece
    let (letters, left) := a.encodeGroups (bytes.length + 1) bytes []
    let (text, column) := wrapped width column letters.reverse
    put text.reverse
    return (left, column)) ([], 0)
  if isThere then
    let (left, column) := s
    let (text, column) := wrapped width column (if left.isEmpty then [] else a.encodeGroup left)
    put text.reverse
    if width ≠ 0 && column ≠ 0 then put ['\n']

/-- Write the bytes of an input that is written in an alphabet. -/
def decodeFile (a : Alphabet) (ignores : Bool) (name : Bytes) : Tool Unit := do
  if let some bytes ← content? name then
    let text := Bytes.ofByteArray bytes
    let text := text.filter fun c =>
      c != '\n' && (!ignores || a.letters.contains c || c = '=')
    let (out, isWell) := a.decodeGroups (text.length + 1) text []
    put out.reverse
    if !isWell then die "invalid input".toList

/-- The options of programs that encode. -/
def encodingOptions : List String := ["d|D|decode", "i|ignore-garbage", "w|wrap="]

/-- Encode or decode, as options say. -/
def recode (a : Option Alphabet) (c : Chosen) (operands : List Bytes) : Tool Unit := do
  let width ← match c.value? "w" with
    | none => pure 76
    | some text =>
      match amountOf "" greatestNatural text with
      | .ok n => pure n
      | .error .tooGreat => pure 0
      | .error .malformed => die ("invalid wrap size: ".toList ++ quoted text)
  if let extra :: _ := operands.drop 1 then extraOperand extra
  let name := operands.headD ['-']
  if name ≠ ['-'] && (← isDirectory name) then dieOf "read error".toList .isDirectory
  match a with
  | some a => if c.has "d" then decodeFile a (c.has "i") name else encodeFile a width name
  | none =>
    if let some bytes ← content? name then
      let text := Bytes.ofByteArray bytes
      if c.has "d" then
        let text := text.filter fun x => x != '\n' && (!c.has "i" || letters85.contains x)
        let (out, isWell) := overGroups 5 decode85 (text.length + 1) text []
        put out.reverse
        if !isWell then die "invalid input".toList
      else
        let whole := text.length / 4 * 4
        let (out, _) := overGroups 4 (some ∘ encode85) (text.length + 1) (text.take whole) []
        let (out, column) := wrapped width 0 out.reverse
        put out.reverse
        if whole < text.length then
          die "invalid input (length must be multiple of 4 characters)".toList
        if width ≠ 0 && column ≠ 0 then put ['\n']

/-- Encode with 64 letters. -/
def base64 (arguments _environment : List Bytes) : Tool Unit := do
  let (c, operands) ← options encodingOptions arguments
  recode (some .base64) c operands

/-- Encode with 32 letters. -/
def base32 (arguments _environment : List Bytes) : Tool Unit := do
  let (c, operands) ← options encodingOptions arguments
  recode (some .base32) c operands

/-- Encode with an alphabet that an option names. -/
def basenc (arguments _environment : List Bytes) : Tool Unit := do
  let names := ["base64", "base64url", "base32", "base32hex", "base16", "base2msbf", "base2lsbf",
    "z85"]
  let (c, operands) ← options (encodingOptions ++ names) arguments
  match c.last? names with
  | some "base64" => recode (some .base64) c operands
  | some "base64url" => recode (some .base64url) c operands
  | some "base32" => recode (some .base32) c operands
  | some "base32hex" => recode (some .base32hex) c operands
  | some "base16" => recode (some .base16) c operands
  | some "base2msbf" => recode (some (.base2 false)) c operands
  | some "base2lsbf" => recode (some (.base2 true)) c operands
  | some _ => recode none c operands
  | none => misuse "missing encoding type".toList

end SyncFleet.Utility.Text

/-
  SyncFleet/Utility/Text/Shuffle.lean
  ===================================
  **Lines in an order without a reason.**
-/
import SyncFleet.Utility.Amount
import SyncFleet.Utility.Option

namespace SyncFleet.Utility.Text

open Unix Tool

/-- The first of numbers that follow each other without a reason. -/
def startOfChance : Tool Nat := do
  match ← sys (Sys.openFile "/dev/urandom".toList .toRead 0) with
  | .error _ => look fun s => s.now
  | .ok n =>
    let r ← sys (Sys.read n 8)
    ask (Op.close n)
    match r with
    | .ok bytes => return bytes.foldl (fun n x => 256 * n + x.toNat) 0
    | .error _ => look fun s => s.now

/-- The next of numbers that follow each other without a reason. -/
def nextChance (x : Nat) : Nat := (x * 6364136223846793005 + 1442695040888963407) % UInt64.size

/-- Exchange each of some entries, of which there are `left`, for one behind it. -/
def shuffled {α : Type} : Nat → Nat → Array α → Array α
  | 0, _, items => items
  | left + 1, x, items =>
    let i := items.size - (left + 1)
    let x := nextChance x
    shuffled left x (items.swapIfInBounds i (i + x / 65536 % (left + 1)))

/-- Write some of the lines, each any number of times. -/
def drawLines (stop : Char) (items : Array Bytes) : Nat → Nat → Tool Unit
  | 0, _ => return ()
  | fuel + 1, x => do
    let x := nextChance x
    put (items.getD (x / 65536 % items.size) [] ++ [stop])
    drawLines stop items fuel x

/-- The numbers of a range. -/
def rangeOf (text : Bytes) : Tool (List Bytes) := do
  let wrong := fun () => die (α := List Bytes) ("invalid input range: ".toList ++ quoted text)
  match splitAt '-' text with
  | [a, b] =>
    match natOf? a, natOf? b with
    | some a, some b =>
      if b + 1 < a then wrong ()
      else return (List.range (b + 1 - a)).map fun i => decimal (a + i)
    | some _, none => die ("invalid input range: ".toList ++ quoted b)
    | none, _ => die ("invalid input range: ".toList ++ quoted a)
  | _ => wrong ()

/-- Write lines, arguments or numbers in an order without a reason. -/
def shuf (arguments _environment : List Bytes) : Tool Unit := do
  let (c, operands) ← options ["e|echo", "i|input-range=", "n|head-count=", "o|output=",
    "random-source=", "r|repeat", "z|zero-terminated"] arguments
  let stop := if c.has "z" then '\x00' else '\n'
  if c.has "e" && c.has "i" then misuse "cannot combine -e and -i options".toList
  let most ← (c.values "n").foldlM (fun most text => do
    match amountOf "" greatestNatural text with
    | .ok n => return some (min n (most.getD n))
    | .error .tooGreat => return most
    | .error .malformed => die ("invalid line count: ".toList ++ quoted text)) none
  let items ← match c.value? "i" with
    | some text => do
      let items ← rangeOf text
      if let extra :: _ := operands then extraOperand extra
      pure items
    | none =>
      if c.has "e" then pure operands
      else do
        if let extra :: _ := operands.drop 1 then extraOperand extra
        let name := operands.headD ['-']
        let n ← if name = ['-'] then pure 0
          else match ← sys (Sys.openFile name .toRead 0) with
            | .ok n => pure n
            | .error e => dieOf (shown name) e
        match ← sys (Sys.readAll n) with
        | .error e => dieOf "read error".toList e
        | .ok bytes => pure ((piecesOf stop (Bytes.ofByteArray bytes)).map (chop stop))
  if let some name := c.value? "o" then
    match ← sys (Sys.openFile name .toWrite 0o666) with
    | .ok n =>
      ask (Op.duplicateTo n 1)
      ask (Op.close n)
    | .error e => dieOf (shown name) e
  let x ← startOfChance
  if c.has "r" then
    if items.isEmpty then
      if most ≠ some 0 then die "no lines to repeat".toList
    else drawLines stop items.toArray (most.getD mostPieces) x
  else
    let items := (shuffled items.length x items.toArray).toList
    for item in items.take (most.getD items.length) do
      put (item ++ [stop])

end SyncFleet.Utility.Text

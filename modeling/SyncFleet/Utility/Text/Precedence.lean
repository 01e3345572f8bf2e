/-
  SyncFleet/Utility/Text/Precedence.lean
  ======================================
  **Words in an order in which each stands before those that it has to precede.**

  Words without predecessors wait in a queue.  A word that is written frees
  its successors.  Where no word is free, there is a loop, which is reported
  and broken.
-/
import SyncFleet.Utility.Option

namespace SyncFleet.Utility.Text

open Unix Tool

/-- A word. -/
structure Item where
  text : Bytes
  /-- how many words have to stand before it that are not written yet -/
  count : Nat
  isWritten : Bool
  /-- the words behind it, the newest first -/
  successors : List Nat
  /-- the word that led to it in the search for a loop -/
  link : Option Nat
deriving Inhabited

/-- Words, sorted. -/
abbrev Items := Array Item

/-- The words of a text. -/
def wordsOf (text : Bytes) : List Bytes :=
  (splitAt '\n' (text.map fun c => if isBlank c then '\n' else c)).filter (· ≠ [])

/-- Words as pairs; none if one is left over. -/
def pairsOf : List Bytes → Option (List (Bytes × Bytes))
  | [] => some []
  | [_] => none
  | a :: b :: rest => (pairsOf rest).map ((a, b) :: ·)

/-- Words without repeats, of a sorted list. -/
def distinct : List Bytes → List Bytes
  | a :: b :: rest => if a = b then distinct (b :: rest) else a :: distinct (b :: rest)
  | texts => texts

/-- The items of some pairs. -/
def itemsOf (pairs : List (Bytes × Bytes)) : Items :=
  let texts := (distinct (sortBytes (pairs.flatMap fun (a, b) => [a, b]))).toArray
  let position := fun (text : Bytes) => (texts.findIdx? (· == text)).getD 0
  pairs.foldl (fun items (a, b) =>
    if a = b then items
    else
      let j := position b
      let items := items.modify (position a) fun i => { i with successors := j :: i.successors }
      items.modify j fun i => { i with count := i.count + 1 })
    (texts.map fun text => ⟨text, 0, false, [], none⟩)

/-- Write the words of a queue and those that they free, at most `fuel`. -/
def writeQueue : Nat → List Nat → Items → Tool Items
  | 0, _, items => return items
  | _, [], items => return items
  | fuel + 1, i :: queue, items => do
    let item := items.getD i default
    putLine item.text
    let items := items.modify i fun k => { k with isWritten := true }
    let (items, freed) := item.successors.foldl (fun ((items : Items), (freed : List Nat)) j =>
      let items := items.modify j fun k => { k with count := k.count - 1 }
      (items, if (items.getD j default).count = 0 then j :: freed else freed)) (items, [])
    writeQueue fuel (queue ++ freed.reverse) items

/-- Follow the links from a word up to another one, at most `fuel`: the words on the way. -/
def linked (items : Items) (last : Nat) : Nat → Nat → List Nat
  | 0, _ => []
  | fuel + 1, i =>
    if i = last then [i]
    else match (items.getD i default).link with
      | some j => i :: linked items last fuel j
      | none => [i]

/-- Look for a loop by going through the words, of which `loop` is the one that was met last; the
    loop is broken.  The words of the loop come with it. -/
def searchLoop : List Nat → Option Nat → Items → Items × Option Nat × Option (List Nat)
  | [], loop, items => (items, loop, none)
  | i :: rest, loop, items =>
    let item := items.getD i default
    if item.count = 0 then searchLoop rest loop items
    else match loop with
      | none => searchLoop rest (some i) items
      | some l =>
        if !item.successors.contains l then searchLoop rest loop items
        else if item.link.isSome then
          let words := linked items i items.size l
          let items := items.modify i fun k => { k with successors := k.successors.erase l }
          let items := items.modify l fun k => { k with count := k.count - 1 }
          (items.map fun k => { k with link := none }, none, some words)
        else searchLoop rest (some i) (items.modify i fun k => { k with link := some l })

/-- Look for a loop and break it, going through the words at most `fuel` times. -/
def breakLoop : Nat → Option Nat → Items → Items × List Nat
  | 0, _, items => (items, [])
  | fuel + 1, loop, items =>
    match searchLoop (List.range items.size) loop items with
    | (items, _, some words) => (items, words)
    | (items, loop, none) => breakLoop fuel loop items

/-- Write words until none is left, breaking at most `fuel` loops. -/
def writeItems (name : Bytes) : Nat → Items → Tool Unit
  | 0, _ => return ()
  | fuel + 1, items => do
    let free := (List.range items.size).filter fun i =>
      let k := items.getD i default
      k.count = 0 && !k.isWritten
    let items ← writeQueue (items.size + 1) free items
    if items.any (!·.isWritten) then
      complain (shown name ++ ": input contains a loop:".toList)
      let (items, words) := breakLoop (items.size + 2) none items
      for i in words do
        warn (items.getD i default).text
      writeItems name fuel items

/-- Write the words of a file so that the first of each pair comes before the second. -/
def tsort (arguments _environment : List Bytes) : Tool Unit := do
  let (_, names) ← options ["w"] arguments
  if let extra :: _ := names.drop 1 then extraOperand extra
  let name := names.headD ['-']
  let n ← if name = ['-'] then pure 0
    else match ← sys (Sys.openFile name .toRead 0) with
      | .ok n => pure n
      | .error e => dieOf (shown name) e
  match ← sys (Sys.readAll n) with
  | .error e => die (shown name ++ (": read error: " ++ e.message).toList)
  | .ok bytes =>
    match pairsOf (wordsOf (Bytes.ofByteArray bytes)) with
    | none => die (shown name ++ ": input contains an odd number of tokens".toList)
    | some pairs => writeItems name (pairs.length + 1) (itemsOf pairs)

end SyncFleet.Utility.Text

/-
  SyncFleet/Utility/Condition.lean
  ================================
  **Conditions: what is true, and what is not.**

  Up to four operands are told apart by their number.  More of them are
  disjunctions of conjunctions of conditions, which may be negated.
-/
import SyncFleet.Unix.Inquiry
import SyncFleet.Utility.Tool

namespace SyncFleet.Utility

open Unix

/-- A reading of operands, by the position of the next one, up to what is wrong with them. -/
abbrev Judging := StateT Nat (Except Bytes)

/-- Operands, and the files that they may be about. -/
structure Judged where
  operands : Array Bytes
  files : Surroundings

namespace Judged

/-- The operators between two operands. -/
def isBinary (operator : Bytes) : Bool :=
  ["=", "!=", "==", "-nt", "-ot", "-ef", "-eq", "-ne", "-lt", "-le", "-gt", "-ge"].contains
    operator.name

/-- The operand at a position. -/
def operandAt (j : Judged) (position : Nat) : Bytes := j.operands.getD position []

/-- The operand at some distance from the next one. -/
def peek (j : Judged) (distance : Nat) : Judging Bytes := do return j.operandAt ((← get) + distance)

/-- How many operands are left. -/
def left (j : Judged) : Judging Nat := do return j.operands.size - (← get)

/-- Report that there are too few operands. -/
def beyond {α : Type} (j : Judged) : Judging α :=
  throw ("missing argument after ".toList ++ quoted (j.operands.back?.getD []))

/-- Pass an operand, behind which there must be another one. -/
def pass (j : Judged) : Judging Unit := do
  modify (· + 1)
  if j.operands.size ≤ (← get) then j.beyond

/-- Pass an operand. -/
def skip : Judging Unit := modify (· + 1)

/-- The number that an operand spells, between blanks. -/
def integer (text : Bytes) : Judging Int := do
  let trimmed := ((text.dropWhile isSpace).reverse.dropWhile isSpace).reverse
  match intOf? trimmed with
  | some n => return n
  | none => throw ("invalid integer ".toList ++ quoted text)

/-- Decide a condition with an operator in front of an operand. -/
def unary (j : Judged) : Judging Bool := do
  let operator ← j.peek 0
  let letter := operator.getD 1 ' '
  if !"aefdrwxNOGscbpLhugktnzS".toList.contains letter then
    throw (quoted operator ++ ": unary operator expected".toList)
  j.pass
  let operand ← j.peek 0
  skip
  match letter with
  | 'n' => return !operand.isEmpty
  | 'z' => return operand.isEmpty
  | 't' =>
    let _ ← integer operand
    return false
  | 'a' => return j.files.isWhat 'e' operand
  | 'N' => return (j.files operand true).any fun t => t.accessed < t.modified
  | letter => return j.files.isWhat letter operand

/-- An operand that is compared as a number, or the length of a text. -/
def amount (isLength : Bool) (operand : Bytes) : Judging Int :=
  if isLength then pure operand.length else integer operand

/-- Decide a condition with an operator between two operands; `isLength` says that the first one
    stands behind a letter for its length. -/
def binary (j : Judged) (isLength : Bool) : Judging Bool := do
  if isLength then skip
  let position ← get
  let a := j.operandAt position
  let operator := (j.operandAt (position + 1)).name
  let isLength' := position + 1 < j.operands.size - 2 && j.operandAt (position + 2) = ['-', 'l']
  if isLength' then skip
  let b := j.operandAt (position + (if isLength' then 3 else 2))
  modify (· + 3)
  let compare := fun (f : Int → Int → Bool) => do
    let x ← amount isLength a
    let y ← amount isLength' b
    return f x y
  let files := fun (f : Option Status → Option Status → Bool) => do
    if isLength || isLength' then throw (operator ++ " does not accept -l").toList
    return f (j.files a true) (j.files b true)
  match operator with
  | "=" | "==" => return a == j.operandAt (position + 2)
  | "!=" => return a != j.operandAt (position + 2)
  | "-eq" => compare (· == ·)
  | "-ne" => compare (· != ·)
  | "-lt" => compare fun x y => x < y
  | "-le" => compare fun x y => x ≤ y
  | "-gt" => compare fun x y => y < x
  | "-ge" => compare fun x y => y ≤ x
  | "-nt" => files fun s t => s.any fun s => t.all fun t => t.modified < s.modified
  | "-ot" => files fun s t => t.any fun t => s.all fun s => s.modified < t.modified
  | _ => files fun s t => s.any fun s => t.any fun t => s.inode == t.inode

/-- Whether an operand is a dash and a letter. -/
def isLetterOption (operand : Bytes) : Bool := operand.length = 2 && operand.head? = some '-'

/-- Decide by one operand. -/
def one (j : Judged) : Judging Bool := do
  let a ← j.peek 0
  skip
  return !a.isEmpty

/-- Decide by two operands. -/
def two (j : Judged) : Judging Bool := do
  let a ← j.peek 0
  if a = ['!'] then
    skip
    return !(← j.one)
  else if isLetterOption a then j.unary
  else j.beyond

/-- Pass operands that negate what is behind them, at most `fuel`; whether their number is odd. -/
def negations (j : Judged) : Nat → Judging Bool
  | 0 => return false
  | fuel + 1 => do
    if 0 < (← j.left) && (← j.peek 0) = ['!'] then
      j.pass
      return !(← negations j fuel)
    return false

/-- How many operands a parenthesis is taken to hold, behind which `position` is. -/
def heldBy (j : Judged) (position : Nat) : Nat :=
  let count := ((j.operands.toList.drop (position + 1)).takeWhile (· ≠ [')'])).length + 1
  if 4 ≤ count then j.operands.size - position else count

mutual

/-- Decide by three operands. -/
def three (j : Judged) : Nat → Judging Bool
  | 0 => j.beyond
  | fuel + 1 => do
    let a ← j.peek 0
    let b ← j.peek 1
    if isBinary b then j.binary false
    else if a = ['!'] then
      j.pass
      return !(← j.two)
    else if a = ['('] && (← j.peek 2) = [')'] then
      skip
      let x ← j.one
      skip
      return x
    else if b = ['-', 'a'] || b = ['-', 'o'] then disjunction j fuel
    else throw (quoted b ++ ": binary operator expected".toList)

/-- Decide by some operands. -/
def several (j : Judged) (count : Nat) : Nat → Judging Bool
  | 0 => j.beyond
  | fuel + 1 => do
    match count with
    | 1 => j.one
    | 2 => j.two
    | 3 => three j fuel
    | 4 =>
      if (← j.peek 0) = ['!'] then
        j.pass
        return !(← three j fuel)
      else if (← j.peek 0) = ['('] && (← j.peek 3) = [')'] then
        skip
        let x ← j.two
        skip
        return x
      else disjunction j fuel
    | _ => disjunction j fuel

/-- Decide a condition that is not made of others, or one in parentheses. -/
def term (j : Judged) : Nat → Judging Bool
  | 0 => j.beyond
  | fuel + 1 => do
    let isNot ← j.negations (j.operands.size + 1)
    if (← j.left) = 0 then j.beyond
    let a ← j.peek 0
    let left ← j.left
    let x ←
      if a = ['('] then do
        j.pass
        let x ← several j (j.heldBy (← get)) fuel
        if (← j.left) = 0 then throw (quoted [')'] ++ " expected".toList)
        let b ← j.peek 0
        if b ≠ [')'] then
          throw (quoted [')'] ++ " expected, found ".toList ++ quoted b)
        skip
        pure x
      else if 4 ≤ left && a = ['-', 'l'] && isBinary (← j.peek 2) then j.binary true
      else if 3 ≤ left && isBinary (← j.peek 1) then j.binary false
      else if isLetterOption a then j.unary
      else j.one
    return x != isNot

/-- Decide a conjunction. -/
def conjunction (j : Judged) : Nat → Judging Bool
  | 0 => j.beyond
  | fuel + 1 => do
    let x ← term j fuel
    if 0 < (← j.left) && (← j.peek 0) = ['-', 'a'] then
      skip
      let y ← conjunction j fuel
      return x && y
    return x

/-- Decide a disjunction. -/
def disjunction (j : Judged) : Nat → Judging Bool
  | 0 => j.beyond
  | fuel + 1 => do
    let x ← conjunction j fuel
    if 0 < (← j.left) && (← j.peek 0) = ['-', 'o'] then
      skip
      let y ← disjunction j fuel
      return x || y
    return x

end

/-- Whether the condition of all operands holds, or what is wrong with them. -/
def holds (j : Judged) : Except Bytes Bool := do
  let size := j.operands.size
  if size = 0 then return false
  let (x, position) ← (several j size (8 * size + 8)).run 0
  if position < size then throw ("extra argument ".toList ++ quoted (j.operandAt position))
  return x

end Judged

/-- Decide a condition; behind an opening bracket the closing one is needed. -/
def test (isBracket : Bool) (arguments _environment : List Bytes) : Tool Unit := do
  if isBracket && arguments.getLast? ≠ some [']'] then
    Tool.die ("missing ".toList ++ quoted [']'])
  let operands := if isBracket then arguments.dropLast else arguments
  match Judged.holds ⟨operands.toArray, ← Tool.look Surroundings.ofSystem⟩ with
  | .ok true => return
  | .ok false => Tool.stop 1
  | .error message => Tool.die message

end SyncFleet.Utility

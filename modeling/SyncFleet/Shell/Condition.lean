/-
  SyncFleet/Shell/Condition.lean
  ==============================
  **Conditions: what `test` and its bracket make of their operands.**

  The operands are read from left to right.  With few of them their number
  decides what is an operator; with more, a negation, conjunctions and
  disjunctions are looked for.
-/
import SyncFleet.Unix.Inquiry

namespace SyncFleet.Shell

open Unix

/-- The operators of conditions, by how they stand to their operands. -/
inductive TestOperator where
  | unary (letter : Char)
  | binary (text : String)
  | negation
  | conjunction
  | disjunction
  | opening
  | closing
deriving DecidableEq, Repr

/-- The operator that an operand spells. -/
def TestOperator.ofBytes? (b : Bytes) : Option TestOperator :=
  match b with
  | ['-', 'a'] => some .conjunction
  | ['-', 'o'] => some .disjunction
  | ['!'] => some .negation
  | ['('] => some .opening
  | [')'] => some .closing
  | ['-', c] => if "rwxefdcbpugkstznhOGLS".toList.contains c then some (.unary c) else none
  | _ =>
    let text := String.ofList b
    if ["=", "!=", "<", ">", "-eq", "-ne", "-ge", "-gt", "-le", "-lt", "-nt", "-ot", "-ef"].contains
      text then some (.binary text) else none

/-- A reading of operands, which stands at the first of those that are left. -/
abbrev Testing := StateT (List Bytes) (Except Bytes)

namespace Testing

/-- A number that an operand is, behind and in front of blanks. -/
def number (b : Bytes) : Testing Int := do
  let bad : Testing Int := throw ("Illegal number: ".toList ++ b)
  let start := b.dropWhile isSpace
  let (negative, ds) := match start with
    | '-' :: ds => (true, ds)
    | '+' :: ds => (false, ds)
    | ds => (false, ds)
  match digitsAt 10 ds with
  | (_, 0, _) => bad
  | (n, _, rest) =>
    let n : Int := if negative then -(n : Int) else n
    if !(rest.all isSpace) ∨ n < -0x8000000000000000 ∨ 0x7FFFFFFFFFFFFFFF < n then bad else return n

/-- The value of an operator between two operands. -/
def compare (files : Surroundings) (operator : String) (a b : Bytes) : Testing Bool := do
  let numbers := fun (f : Int → Int → Bool) => do return f (← number a) (← number b)
  let both := fun (f : Status → Status → Bool) =>
    match files a true, files b true with
    | some s, some t => f s t
    | _, _ => false
  match operator with
  | "=" => return a == b
  | "!=" => return a != b
  | "<" => return compareBytes a b == .lt
  | ">" => return compareBytes a b == .gt
  | "-eq" => numbers fun x y => x == y
  | "-ne" => numbers fun x y => x != y
  | "-lt" => numbers fun x y => decide (x < y)
  | "-le" => numbers fun x y => decide (x ≤ y)
  | "-gt" => numbers fun x y => decide (y < x)
  | "-ge" => numbers fun x y => decide (y ≤ x)
  | "-nt" => return both fun s t => decide (t.modified < s.modified)
  | "-ot" => return both fun s t => decide (s.modified < t.modified)
  | _ => return both fun s t => s.inode == t.inode

/-- The operator that the first of some operands is taken for. -/
def operator? : List Bytes → Option TestOperator
  | [] => none
  | a :: rest =>
    match TestOperator.ofBytes? a with
    | some (.unary c) =>
      let isOperand := match rest with
        | [] => true
        | [_] => false
        | b :: _ => TestOperator.ofBytes? b matches some (.binary _)
      if isOperand then none else some (.unary c)
    | some .opening => if rest.isEmpty then none else some .opening
    | o => o

/-- Pass an operand. -/
def pass : Testing Unit := modify (·.drop 1)

mutual

/-- Read a disjunction. -/
def disjunction (files : Surroundings) : Nat → Testing Bool
  | 0 => return false
  | fuel + 1 => do
    let x ← conjunction files fuel
    match operator? ((← get).drop 1) with
    | some .disjunction =>
      modify (·.drop 2)
      let y ← disjunction files fuel
      return x || y
    | _ => return x

/-- Read a conjunction. -/
def conjunction (files : Surroundings) : Nat → Testing Bool
  | 0 => return false
  | fuel + 1 => do
    let x ← negation files fuel
    match operator? ((← get).drop 1) with
    | some .conjunction =>
      modify (·.drop 2)
      let y ← conjunction files fuel
      return x && y
    | _ => return x

/-- Read a condition that may be negated. -/
def negation (files : Surroundings) : Nat → Testing Bool
  | 0 => return false
  | fuel + 1 => do
    match operator? (← get) with
    | some .negation =>
      if 1 < (← get).length then
        pass
        return !(← negation files fuel)
      else return true
    | _ => primary files fuel

/-- Read a condition that is not made of others, or one in parentheses. -/
def primary (files : Surroundings) : Nat → Testing Bool
  | 0 => return false
  | fuel + 1 => do
    match ← get with
    | [] => return false
    | a :: rest =>
      match operator? (a :: rest) with
      | some .opening =>
        pass
        if operator? rest = some .closing then return false
        let x ← disjunction files fuel
        pass
        if operator? (← get) = some .closing then return x
        throw "closing paren expected".toList
      | some (.unary c) =>
        pass
        match rest with
        | [] => throw (a ++ ": argument expected".toList)
        | b :: _ =>
          match c with
          | 'z' => return b.isEmpty
          | 'n' => return !b.isEmpty
          | 't' =>
            let _ ← number b
            return false
          | c => return files.isWhat c b
      | _ =>
        match operator? rest, rest with
        | some (.binary o), _ :: more =>
          match more with
          | [] => throw (o.toList ++ ": argument expected".toList)
          | b :: _ =>
            modify (·.drop 2)
            compare files o a b
        | _, _ => return !a.isEmpty

end

/-- Read a whole condition, at most `fuel` negations deep. -/
def whole (files : Surroundings) : Nat → Testing Bool
  | 0 => return false
  | fuel + 1 => do
    let operands ← get
    let rest : Testing Bool := do
      let x ← disjunction files (8 * operands.length + 8)
      match ← get with
      | a :: _ :: _ =>
        throw (if a.isEmpty then "unexpected operator".toList
          else a ++ ": unexpected operator".toList)
      | _ => return x
    let few : Testing Bool := do
      match operands with
      | ['!'] :: more =>
        set more
        return !(← whole files fuel)
      | ['('] :: more =>
        if more.getLast? = some [')'] then set more.dropLast
        rest
      | _ => rest
    match operands with
    | [] => return false
    | [a, o, b] =>
      match TestOperator.ofBytes? o with
      | some (.binary o) => compare files o a b
      | _ => few
    | [_, _, _, _] => few
    | _ => rest

end Testing

/-- Whether the condition holds that some operands make, or what is wrong with them. -/
def holds (files : Surroundings) (operands : List Bytes) : Except Bytes Bool :=
  (Testing.whole files (operands.length + 1)).run' operands

end SyncFleet.Shell

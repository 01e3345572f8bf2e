/-
  SyncFleet/Shell/Arithmetic.lean
  ===============================
  **Arithmetic on words of 64 bits.**

  Expressions know the operators of integers, conditions and assignments.  The
  reader climbs by binding strength: each level is one row of the table of
  operators.  Division by zero and what is no expression are faults.
-/
import SyncFleet.Unix.Bytes

namespace SyncFleet.Shell

open Unix

/-- An arithmetic expression. -/
inductive Expression where
  | number (value : Int64)
  | named (name : Bytes)
  | unary (operator : String) (operand : Expression)
  | binary (operator : String) (left right : Expression)
  | choice (condition first second : Expression)
  | assign (name : Bytes) (operator : String) (value : Expression)
deriving Repr

namespace Expression

/-- The binary operators, the weakest first. -/
def levels : List (List String) :=
  [["||"], ["&&"], ["|"], ["^"], ["&"], ["==", "!="], ["<=", ">=", "<", ">"], ["<<", ">>"],
    ["+", "-"], ["*", "/", "%"]]

/-- The operators of assignments. -/
def assignments : List String :=
  ["=", "+=", "-=", "*=", "/=", "%=", "<<=", ">>=", "&=", "|=", "^="]

/-- All operators, longer ones before their beginnings. -/
def operators : List String :=
  ["<<=", ">>=", "||", "&&", "==", "!=", "<=", ">=", "<<", ">>", "+=", "-=", "*=", "/=", "%=", "&=",
    "|=", "^=", "=", "|", "^", "&", "<", ">", "+", "-", "*", "/", "%", "!", "~", "?", ":", "(", ")"]

/-- A token of an expression. -/
inductive Lexeme where
  | number (value : Nat)
  | name (bytes : Bytes)
  | operator (text : String)
  /-- what belongs to no expression -/
  | stray
deriving DecidableEq, Repr

/-- Why a text is no expression. -/
inductive Misfit where
  | noOperand
  /-- something stands behind the expression -/
  | noEnd
  | noParenthesis
  | noColon
deriving DecidableEq, Repr

/-- What a text that is no expression lacks. -/
def Misfit.message : Misfit → String
  | .noOperand => "expecting primary"
  | .noEnd => "expecting EOF"
  | .noParenthesis => "expecting ')'"
  | .noColon => "expecting ':'"

/-! ### Numerals -/

/-- The value of a digit; none where it is not below the base. -/
def digitOf? (base : Nat) (c : Char) : Option Nat :=
  let v := if c.isDigit then c.toNat - 48
    else if 'a' ≤ c ∧ c ≤ 'f' then c.toNat - 87
    else if 'A' ≤ c ∧ c ≤ 'F' then c.toNat - 55
    else base
  if v < base then some v else none

/-- The base of a numeral, and its digits: octal behind a zero, hexadecimal behind `0x`. -/
def baseOf : Bytes → Nat × Bytes
  | '0' :: x :: d :: ds =>
    if (x = 'x' ∨ x = 'X') ∧ (digitOf? 16 d).isSome then (16, d :: ds)
    else (8, '0' :: x :: d :: ds)
  | '0' :: ds => (8, '0' :: ds)
  | ds => (10, ds)

/-- The numeral at the start of a text, and what is behind it. -/
def numeralAt (b : Bytes) : Nat × Bytes :=
  let (base, ds) := baseOf b
  let digits := ds.takeWhile fun c => (digitOf? base c).isSome
  ((digits.filterMap (digitOf? base)).foldl (fun n d => base * n + d) 0, ds.drop digits.length)

/-- The number that a whole text spells. -/
def numeral? (b : Bytes) : Option Nat :=
  match b.head?, numeralAt b with
  | some c, (n, []) => if c.isDigit then some n else none
  | _, _ => none

/-- The greatest number of a word. -/
def greatest : Nat := 0x7FFFFFFFFFFFFFFF

/-! ### Reading -/

/-- The tokens of an expression of at most `fuel` characters. -/
def lexemes : Nat → Bytes → List Lexeme
  | 0, _ => []
  | _, [] => []
  | fuel + 1, c :: rest =>
    if c = ' ' ∨ c = '\t' ∨ c = '\n' then lexemes fuel rest
    else if c.isDigit then
      let (n, rest) := numeralAt (c :: rest)
      .number (min n greatest) :: lexemes fuel rest
    else if isNameStart c then
      let text := (c :: rest).takeWhile isNameChar
      .name text :: lexemes fuel ((c :: rest).drop text.length)
    else match operators.find? fun o => o.toList.isPrefixOf (c :: rest) with
      | some o => .operator o :: lexemes fuel ((c :: rest).drop o.length)
      | none => [.stray]

/-- What a reader makes of some tokens: a part of the expression, and the tokens behind it. -/
abbrev Read := Except Misfit (Expression × List Lexeme)

mutual

/-- Read an expression with an assignment or a choice. -/
def whole : Nat → List Lexeme → Read
  | 0, _ => .error .noOperand
  | fuel + 1, ts =>
    match ts with
    | .name x :: .operator o :: rest =>
      if assignments.contains o then do
        let (e, rest) ← whole fuel rest
        return (.assign x o e, rest)
      else chosen fuel ts
    | _ => chosen fuel ts

/-- Read a choice or what binds more strongly. -/
def chosen : Nat → List Lexeme → Read
  | 0, _ => .error .noOperand
  | fuel + 1, ts => do
    let (c, rest) ← climb fuel levels ts
    match rest with
    | .operator "?" :: rest => do
      let (a, rest) ← whole fuel rest
      match rest with
      | .operator ":" :: rest => do
        let (b, rest) ← chosen fuel rest
        return (.choice c a b, rest)
      | _ => throw .noColon
    | _ => return (c, rest)

/-- Read an expression whose operators stand in the given rows. -/
def climb : Nat → List (List String) → List Lexeme → Read
  | 0, _, _ => .error .noOperand
  | fuel + 1, [], ts => operand fuel ts
  | fuel + 1, row :: rows, ts => do
    let (e, rest) ← climb fuel rows ts
    readOn fuel row rows e rest

/-- Read on behind an operand. -/
def readOn : Nat → List String → List (List String) → Expression → List Lexeme → Read
  | 0, _, _, _, _ => .error .noOperand
  | fuel + 1, row, rows, left, ts =>
    match ts with
    | .operator o :: rest =>
      if row.contains o then do
        let (right, rest) ← climb fuel rows rest
        readOn fuel row rows (.binary o left right) rest
      else .ok (left, ts)
    | _ => .ok (left, ts)

/-- Read an operand with the operators in front of it. -/
def operand : Nat → List Lexeme → Read
  | 0, _ => .error .noOperand
  | fuel + 1, ts =>
    match ts with
    | .number n :: rest => .ok (.number (Int64.ofNat n), rest)
    | .name x :: rest => .ok (.named x, rest)
    | .operator "(" :: rest => do
      let (e, rest) ← whole fuel rest
      match rest with
      | .operator ")" :: rest => return (e, rest)
      | _ => throw .noParenthesis
    | .operator o :: rest =>
      if ["+", "-", "!", "~"].contains o then do
        let (e, rest) ← operand fuel rest
        return (.unary o e, rest)
      else .error .noOperand
    | _ => .error .noOperand

end

/-- Read an expression. -/
def ofBytes (text : Bytes) : Except Misfit Expression := do
  let ts := lexemes (text.length + 1) text
  match ← whole (24 * ts.length + 24) ts with
  | (e, []) => return e
  | _ => throw .noEnd

/-! ### Values -/

/-- The word of a truth value. -/
def truth (b : Bool) : Int64 := if b then 1 else 0

/-- The value of a binary operator other than the conditions; none for division by zero. -/
def operate? (operator : String) (a b : Int64) : Option Int64 :=
  match operator with
  | "+" => some (a + b)
  | "-" => some (a - b)
  | "*" => some (a * b)
  | "/" => if b = 0 then none else some (a / b)
  | "%" => if b = 0 then none else some (a % b)
  | "<<" => some (a <<< b)
  | ">>" => some (a >>> b)
  | "<" => some (truth (a < b))
  | "<=" => some (truth (a ≤ b))
  | ">" => some (truth (b < a))
  | ">=" => some (truth (b ≤ a))
  | "==" => some (truth (a = b))
  | "!=" => some (truth (a ≠ b))
  | "&" => some (a &&& b)
  | "^" => some (a ^^^ b)
  | "|" => some (a ||| b)
  | _ => none

/-- Blanks around a number. -/
def isMargin (c : Char) : Bool := c == ' ' || c == '\t' || c == '\n'

/-- The number that a variable's text is; what is empty is zero. -/
def valueOfText? (text : Bytes) : Option Int64 :=
  let number := fun (ds : Bytes) => (numeral? ds).filter (· ≤ greatest)
  match ((text.dropWhile isMargin).reverse.dropWhile isMargin).reverse with
  | [] => some 0
  | '-' :: ds => (number ds).map fun n => -(Int64.ofNat n)
  | '+' :: ds => (number ds).map Int64.ofNat
  | ds => (number ds).map Int64.ofNat

/-- Why an expression has no value. -/
inductive Trouble where
  | divisionByZero
  | badNumber (text : Bytes)
deriving DecidableEq, Repr

/-- The values of variables in the course of an evaluation. -/
abbrev Variables := Bytes → Option Bytes

/-- An evaluation, which collects the assignments that are made, the last one first. -/
abbrev Evaluation := StateT (List (Bytes × Int64)) (Except Trouble)

/-- The value of a variable, after the assignments so far. -/
def valueOf (vs : Variables) (name : Bytes) : Evaluation Int64 := do
  match (← get).lookup name with
  | some v => return v
  | none =>
    let text := (vs name).getD []
    match valueOfText? text with
    | some v => return v
    | none => throw (.badNumber text)

/-- The value of two operands under an operator. -/
def applied (operator : String) (a b : Int64) : Evaluation Int64 :=
  match operate? operator a b with
  | some v => return v
  | none => throw .divisionByZero

/-- The value of an expression. -/
def evaluate (vs : Variables) : Expression → Evaluation Int64
  | .number n => return n
  | .named x => valueOf vs x
  | .unary o e => do
    let v ← evaluate vs e
    match o with
    | "-" => return -v
    | "!" => return truth (v = 0)
    | "~" => return ~~~v
    | _ => return v
  | .binary o a b => do
    let x ← evaluate vs a
    if o = "&&" ∧ x = 0 then return 0
    if o = "||" ∧ x ≠ 0 then return 1
    let y ← evaluate vs b
    if o = "&&" ∨ o = "||" then return truth (y ≠ 0)
    applied o x y
  | .choice c a b => do if (← evaluate vs c) ≠ 0 then evaluate vs a else evaluate vs b
  | .assign x o e => do
    let v ← evaluate vs e
    let v ← if o = "=" then pure v
      else do applied (String.ofList o.toList.dropLast) (← valueOf vs x) v
    modify ((x, v) :: ·)
    return v

end Expression

end SyncFleet.Shell

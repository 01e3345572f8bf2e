/-
  SyncFleet/Utility/Number/Expression.lean
  ========================================
  **Expressions of arguments: numbers, texts and what is computed from them.**
-/
import SyncFleet.Utility.Option
import SyncFleet.Utility.Regular

namespace SyncFleet.Utility.Number

open Unix Tool

/-- A reader of arguments: those that are left, with the last one that was read. -/
structure ExpressionState where
  rest : List Bytes
  last : Bytes

/-- A step of reading, which may find something wrong. -/
abbrev Evaluation := ExceptT Bytes (StateM ExpressionState)

/-- The whole number that a text spells: digits, with a minus sign if it is below zero. -/
def wholeOf? (text : Bytes) : Option Int :=
  if text.head? = some '+' then none else intOf? text

/-- Whether a value counts as false: nothing, or zeros. -/
def isNull (value : Bytes) : Bool :=
  value.isEmpty || (value ≠ ['-'] && (match value with
    | '-' :: rest => rest.all (· == '0')
    | rest => rest.all (· == '0')))

/-- Take an argument if it is a certain one. -/
def takeIf (text : String) : Evaluation Bool := do
  match (← get).rest with
  | a :: rest =>
    if a = text.toList then
      set ({ rest, last := a } : ExpressionState)
      return true
    return false
  | [] => return false

/-- There must be an argument left. -/
def needMore : Evaluation Unit := do
  let s ← get
  if s.rest.isEmpty then
    throw ("syntax error: missing argument after ".toList ++ quoted s.last)

/-- Take an argument. -/
def takeAny : Evaluation Bytes := do
  needMore
  match (← get).rest with
  | a :: rest =>
    set ({ rest, last := a } : ExpressionState)
    return a
  | [] => return []

/-- What an expression matches at the start of a text: how much, or the first group. -/
def matched (text expression : Bytes) : Evaluation Bytes := do
  match Regular.ofBytes expression with
  | .error e => throw e.toList
  | .ok (r, groups) =>
    match Regular.matchStart r text with
    | some p => return if groups = 0 then decimal p.position else (p.groups.lookup 1).getD []
    | none => return if groups = 0 then ['0'] else []

/-- A number that a comparison yields. -/
def truth (b : Bool) : Bytes := if b then ['1'] else ['0']

/-- The number of a value. -/
def needWhole (value : Bytes) : Evaluation Int :=
  match wholeOf? value with
  | some n => return n
  | none => throw "non-integer argument".toList

/-- Join values by an operator of numbers. -/
def computed (operator : String) (a b : Bytes) : Evaluation Bytes := do
  let x ← needWhole a
  let y ← needWhole b
  match operator with
  | "+" => return integer (x + y)
  | "-" => return integer (x - y)
  | "*" => return integer (x * y)
  | _ =>
    if y = 0 then throw "division by zero".toList
    return integer (if operator = "/" then x.tdiv y else x.tmod y)

/-- Compare values. -/
def compared (operator : String) (a b : Bytes) : Bytes :=
  let order := match wholeOf? a, wholeOf? b with
    | some x, some y => if x < y then Ordering.lt else if y < x then .gt else .eq
    | _, _ => compareBytes a b
  truth (match operator with
    | "<" => order = .lt
    | "<=" => order ≠ .gt
    | "=" | "==" => order = .eq
    | "!=" => order ≠ .eq
    | ">=" => order ≠ .lt
    | _ => order = .gt)

/-- The operators of each level, those that bind least first. -/
def operatorLevels : List (List String) :=
  [["|"], ["&"], ["<", "<=", "=", "==", "!=", ">=", ">"], ["+", "-"], ["*", "/", "%"], [":"]]

/-- Take one of some operators. -/
def takeOperator : List String → Evaluation (Option String)
  | [] => return none
  | o :: rest => do
    if ← takeIf o then return some o
    takeOperator rest

/-- Join values by an operator; what is not needed is not computed. -/
def applied (computes : Bool) (operator : String) (a b : Bytes) : Evaluation Bytes := do
  match operator with
  | "|" => return if isNull a then (if isNull b then ['0'] else b) else a
  | "&" => return if isNull a || isNull b then ['0'] else a
  | _ =>
    if !computes then return a
    match operator with
    | "+" | "-" | "*" | "/" | "%" => computed operator a b
    | ":" => matched a b
    | _ => return compared operator a b

mutual

/-- The value of operands joined by operators of some levels, at most `fuel` levels deep. -/
def valueAt : Nat → Bool → List (List String) → Evaluation Bytes
  | 0, _, _ => throw "expression too deep".toList
  | fuel + 1, computes, [] => keyword fuel computes
  | fuel + 1, computes, operators :: levels => do
    let a ← valueAt fuel computes levels
    joined fuel computes operators levels a

/-- Values joined to one that is there by operators of one level. -/
def joined : Nat → Bool → List String → List (List String) → Bytes → Evaluation Bytes
  | 0, _, _, _, _ => throw "expression too deep".toList
  | fuel + 1, computes, operators, levels, a => do
    match ← takeOperator operators with
    | none => return a
    | some o =>
      let needed := match o with
        | "|" => computes && isNull a
        | "&" => computes && !isNull a
        | _ => computes
      let b ← valueAt fuel needed levels
      joined fuel computes operators levels (← applied computes o a b)

/-- The value of a keyword with its operands, or of a single argument. -/
def keyword : Nat → Bool → Evaluation Bytes
  | 0, _ => throw "expression too deep".toList
  | fuel + 1, computes => do
    if ← takeIf "+" then takeAny
    else if ← takeIf "length" then
      return decimal (← keyword fuel computes).length
    else if ← takeIf "match" then
      let a ← keyword fuel computes
      let b ← keyword fuel computes
      if computes then matched a b else return a
    else if ← takeIf "index" then
      let a ← keyword fuel computes
      let b ← keyword fuel computes
      return decimal ((a.findIdx? b.contains).elim 0 (· + 1))
    else if ← takeIf "substr" then
      let a ← keyword fuel computes
      let i ← keyword fuel computes
      let n ← keyword fuel computes
      match wholeOf? i, wholeOf? n with
      | some i, some n =>
        if i ≤ 0 || n ≤ 0 then return []
        return (a.drop (i.toNat - 1)).take n.toNat
      | _, _ => return []
    else
      needMore
      if ← takeIf "(" then
        let v ← valueAt fuel computes operatorLevels
        let s ← get
        match s.rest with
        | [] => throw ("syntax error: expecting ')' after ".toList ++ quoted s.last)
        | a :: _ =>
          if ← takeIf ")" then return v
          throw ("syntax error: expecting ')' instead of ".toList ++ quoted a)
      else if ← takeIf ")" then throw "syntax error: unexpected ')'".toList
      else takeAny

end

/-- Write the value of an expression. -/
def expr (arguments _environment : List Bytes) : Tool Unit := do
  let arguments := if arguments.head? = some ['-', '-'] then arguments.drop 1 else arguments
  match arguments with
  | [one] => if one = "--help".toList || one = "--version".toList then stop 0
  | [] => missOperand
  | _ => pure ()
  let whole : Evaluation Bytes := do
    let v ← valueAt (10 * arguments.length + 20) true operatorLevels
    match (← get).rest with
    | [] => return v
    | a :: _ => throw ("syntax error: unexpected argument ".toList ++ quoted a)
  match (whole.run ⟨arguments, []⟩).1 with
  | .error message => die message
  | .ok v =>
    putLine v
    if isNull v then
      flush
      stop 1

end SyncFleet.Utility.Number

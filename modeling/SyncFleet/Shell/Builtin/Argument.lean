/-
  SyncFleet/Shell/Builtin/Argument.lean
  =====================================
  **Arguments of the shell's own commands: options, numbers and quoted texts.**
-/
import SyncFleet.Shell.Session

namespace SyncFleet.Shell

open Unix

/-- A command of the shell itself: what it makes of its arguments, and its status. -/
abbrev Builtin := List Bytes → Act Nat

/-- Options with their values, in the order in which they were given. -/
abbrev Options := List (Char × Bytes)

/-- How an option stands in a list of those that are known, in which a colon stands behind the ones
    that take a value: whether it takes one. -/
def takesValue? (known : Bytes) (option : Char) : Option Bool :=
  match known with
  | [] => none
  | c :: rest =>
    if c = option ∧ c ≠ ':' then some (rest.head? = some ':') else takesValue? rest option

/-- The options in the letters of an argument, and the arguments that are left, or what is wrong
    with them. -/
def lettersOf (known : Bytes) : Bytes → List Bytes → Except String (Options × List Bytes)
  | [], rest => .ok ([], rest)
  | c :: more, rest =>
    match takesValue? known c with
    | none => .error ("Illegal option -" ++ String.ofList [c])
    | some false => do
      let (os, rest) ← lettersOf known more rest
      return ((c, []) :: os, rest)
    | some true =>
      match more, rest with
      | [], [] => .error ("No arg for -" ++ String.ofList [c] ++ " option")
      | [], v :: rest => .ok ([(c, v)], rest)
      | v, rest => .ok ([(c, v)], rest)

/-- The options in front of the operands, of at most `fuel` arguments. -/
def optionsFrom (known : Bytes) : Nat → List Bytes → Except String (Options × List Bytes)
  | 0, rest => .ok ([], rest)
  | fuel + 1, a :: rest =>
    match a with
    | ['-', '-'] => .ok ([], rest)
    | '-' :: c :: more => do
      let (os, rest) ← lettersOf known (c :: more) rest
      let (others, operands) ← optionsFrom known fuel rest
      return (os ++ others, operands)
    | _ => .ok ([], a :: rest)
  | _, [] => .ok ([], [])

namespace Act

/-- The options in front of the operands.  An option that is not known is a fault. -/
def options (known : String) (arguments : List Bytes) : Act (Options × List Bytes) :=
  match optionsFrom known.toList (arguments.length + 1) arguments with
  | .ok r => return r
  | .error message => die message.toList

end Act

/-- Text between single quotes; quotes in it stand between double ones.  At most `fuel` pieces. -/
def quotedFrom : Nat → Bytes → Bytes
  | 0, _ => []
  | fuel + 1, text =>
    let plain := text.takeWhile (· != '\x27')
    let rest := text.drop plain.length
    let quotes := rest.takeWhile (· == '\x27')
    let more := rest.drop quotes.length
    let shown := '\x27' :: plain ++ ['\x27']
    if quotes.isEmpty then shown
    else shown ++ '\x22' :: quotes ++ '\x22' :: (if more.isEmpty then [] else quotedFrom fuel more)

/-- Text as it can be written in a script. -/
def inQuotes (text : Bytes) : Bytes := quotedFrom (text.length + 1) text

/-- The name and the value of an argument that may be an assignment. -/
def nameAndValue (argument : Bytes) : Bytes × Option Bytes :=
  let name := argument.takeWhile (· != '=')
  (name, if name.length < argument.length then some (argument.drop (name.length + 1)) else none)

end SyncFleet.Shell

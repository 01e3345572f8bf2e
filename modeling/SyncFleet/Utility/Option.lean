/-
  SyncFleet/Utility/Option.lean
  =============================
  **Options of programs, by letters and by names.**

  A kind of option is written as its names with bars between them, followed by
  an equals sign if it takes a value and by a question mark if it may take
  one: `n|lines=`.  The first name says which option it is.  Names may be cut
  short as long as only one option is meant.
-/
import SyncFleet.Utility.Tool

namespace SyncFleet.Utility

open Unix

/-- Whether an option has a value. -/
inductive Valued where
  | never
  | always
  | perhaps
deriving DecidableEq, Repr

/-- A kind of option. -/
structure OptionKind where
  names : List Bytes
  valued : Valued
deriving Repr

namespace OptionKind

/-- The kind of option that a text describes. -/
def ofText (text : String) : OptionKind :=
  let bytes := text.toList
  let valued := match bytes.getLast? with
    | some '=' => Valued.always
    | some '?' => Valued.perhaps
    | _ => Valued.never
  ⟨splitAt '|' (if valued = .never then bytes else bytes.dropLast), valued⟩

/-- The name that says which option it is. -/
def key (k : OptionKind) : String := (k.names.headD []).name

/-- The long names. -/
def longNames (k : OptionKind) : List Bytes := k.names.filter (1 < ·.length)

end OptionKind

/-- An option that is given, with its value. -/
abbrev Given := String × Option Bytes

/-- What is wrong with an argument that should be an option. -/
abbrev Unfit := String

/-- The kind of option that a long name means. -/
def longKind (kinds : List OptionKind) (name : Bytes) : Except Unfit (OptionKind × Bytes) :=
  let all := kinds.flatMap fun k => k.longNames.map (·, k)
  match all.find? (·.1 = name) with
  | some (n, k) => .ok (k, n)
  | none =>
    let fitting := all.filter fun (n, _) => name.isPrefixOf n
    match fitting with
    | [] => .error ("unrecognized option '--" ++ name.name ++ "'")
    | (n, k) :: more =>
      if more.all fun (_, other) => other.key = k.key then .ok (k, n)
      else
        .error ("option '--" ++ name.name ++ "' is ambiguous; possibilities:"
          ++ String.join (fitting.map fun (n, _) => " '--" ++ n.name ++ "'"))

/-- Take a long option, behind its dashes. -/
def takeLong (kinds : List OptionKind) (text : Bytes) (rest : List Bytes) :
    Except Unfit (Given × List Bytes) := do
  let name := text.takeWhile (· != '=')
  let value := if name.length < text.length then some (text.drop (name.length + 1)) else none
  let (k, full) ← longKind kinds name
  let label := "option '--" ++ full.name ++ "'"
  match k.valued, value, rest with
  | .never, some _, _ => throw (label ++ " doesn't allow an argument")
  | .always, none, [] => throw (label ++ " requires an argument")
  | .always, none, v :: rest => return ((k.key, some v), rest)
  | _, v, rest => return ((k.key, v), rest)

/-- Take the options of an argument's letters. -/
def takeLetters (kinds : List OptionKind) :
    Bytes → List Bytes → Except Unfit (List Given × List Bytes)
  | [], rest => return ([], rest)
  | c :: more, rest =>
    match kinds.find? fun k => k.names.contains [c] with
    | none => throw ("invalid option -- '" ++ String.ofList [c] ++ "'")
    | some k =>
      match k.valued, more, rest with
      | .never, more, rest => do
        let (os, rest) ← takeLetters kinds more rest
        return ((k.key, none) :: os, rest)
      | .always, [], [] =>
        throw ("option requires an argument -- '" ++ String.ofList [c] ++ "'")
      | .always, [], v :: rest => return ([(k.key, some v)], rest)
      | .perhaps, [], rest => return ([(k.key, none)], rest)
      | _, v, rest => return ([(k.key, some v)], rest)

/-- The options and operands among at most `fuel` arguments; `mixed` says that options may stand
    behind operands.  What is wrong comes with the options before it. -/
def takeOptions (kinds : List OptionKind) (mixed : Bool) :
    Nat → List Bytes → Except Unfit (List Given × List Bytes)
  | 0, rest => return ([], rest)
  | _, [] => return ([], [])
  | fuel + 1, a :: rest =>
    match a with
    | ['-', '-'] => return ([], rest)
    | '-' :: '-' :: name => do
      let (o, rest) ← takeLong kinds name rest
      let (os, operands) ← takeOptions kinds mixed fuel rest
      return (o :: os, operands)
    | '-' :: c :: letters => do
      let (first, rest) ← takeLetters kinds (c :: letters) rest
      let (os, operands) ← takeOptions kinds mixed fuel rest
      return (first ++ os, operands)
    | _ =>
      if mixed then do
        let (os, operands) ← takeOptions kinds mixed fuel rest
        return (os, a :: operands)
      else return ([], a :: rest)

/-- Options that are given, in order. -/
structure Chosen where
  options : List Given

namespace Chosen

/-- Whether an option is given. -/
def has (c : Chosen) (key : String) : Bool := c.options.any (·.1 == key)

/-- The last value of an option. -/
def value? (c : Chosen) (key : String) : Option Bytes :=
  (c.options.reverse.find? (·.1 == key)).bind (·.2)

/-- All values of an option. -/
def values (c : Chosen) (key : String) : List Bytes :=
  c.options.filterMap fun (k, v) => if k == key then v else none

/-- Which of some options is given last. -/
def last? (c : Chosen) (keys : List String) : Option String :=
  (c.options.reverse.find? fun o => keys.contains o.1).map Prod.fst

end Chosen

namespace Tool

/-- The options and operands of arguments. -/
def optionsOf (mixed : Bool) (kinds : List String) (arguments : List Bytes) :
    Tool (Chosen × List Bytes) := do
  let kinds := (kinds ++ ["help", "version"]).map OptionKind.ofText
  match takeOptions kinds mixed (arguments.length + 1) arguments with
  | .error message => misuse message.toList
  | .ok (options, operands) =>
    if options.any fun o => o.1 = "help" || o.1 = "version" then stop 0
    return (⟨options⟩, operands)

/-- The options and operands of arguments, which may stand in any order. -/
def options (kinds : List String) (arguments : List Bytes) : Tool (Chosen × List Bytes) :=
  optionsOf true kinds arguments

/-- The options in front of the operands. -/
def leadingOptions (kinds : List String) (arguments : List Bytes) :
    Tool (Chosen × List Bytes) :=
  optionsOf false kinds arguments

/-- The choice that a word means, of which each has a few spellings; a word may be cut short as long
    as only one choice is meant.  The first spelling is the answer. -/
def choice (label : String) (choices : List (List String)) (word : Bytes) : Tool String := do
  let all := choices.flatMap fun c => c.map fun spelling => (spelling, c.headD "")
  let fitting := all.filter fun (spelling, _) => word.isPrefixOf spelling.toList
  match all.find? (·.1 = word.name), fitting with
  | some (_, c), _ => return c
  | none, (_, c) :: more =>
    if more.all (·.2 = c) then return c
    refuse "ambiguous" choices
  | none, [] => refuse "invalid" choices
where
  /-- Report a word that is no choice, with the choices that there are. -/
  refuse (what : String) (choices : List (List String)) : Tool String := do
    warn ((what ++ " argument ").toList ++ quoted word ++ (" for '" ++ label ++ "'").toList)
    let rows := choices.map fun c =>
      "\n  - " ++ ", ".intercalate (c.map fun spelling => "'" ++ spelling ++ "'")
    let _ ← writeTo 2 ("Valid arguments are:" ++ String.join rows ++ "\n").toList
    pointToHelp

end Tool

end SyncFleet.Utility

/-
  SyncFleet/Shell/Program.lean
  ============================
  **Scripts as they are written: words and commands.**

  A word is a row of parts: text, parameters, scripts whose output is put in
  and arithmetic.  A part remembers whether it is quoted, because what is
  quoted is neither split nor matched as a pattern.  A command is a tree whose
  leaves hold words.
-/
import SyncFleet.Unix.Bytes

namespace SyncFleet.Shell

open Unix

/-- What a redirection does with its descriptor. -/
inductive Mode where
  | read
  | write
  /-- it writes even where existing files are protected -/
  | overwrite
  | append
  | readWrite
  /-- it becomes another name of the descriptor that its word names -/
  | duplicate
  /-- it reads the text of its word -/
  | document
deriving DecidableEq, Repr

mutual

/-- A part of a word. -/
inductive Part where
  | text (isQuoted : Bool) (bytes : Bytes)
  | parameter (isQuoted : Bool) (name : Bytes) (use : Use)
  /-- the output of a script -/
  | output (isQuoted : Bool) (script : Option Command)
  | arithmetic (isQuoted : Bool) (expression : List Part)

/-- What is made of a parameter.  The words come in where it is unset or, if `empty` is set,
    empty as well. -/
inductive Use where
  | value
  | length
  /-- a word in its place -/
  | orElse (empty : Bool) (word : List Part)
  /-- a word in its place, which becomes its value -/
  | assign (empty : Bool) (word : List Part)
  /-- a message, which ends the script -/
  | orFail (empty : Bool) (word : List Part)
  /-- a word where it is set -/
  | ifSet (empty : Bool) (word : List Part)
  /-- without what a pattern matches at one of its ends -/
  | trimmed (atEnd longest : Bool) (pattern : List Part)
  /-- something that is not known, which shows when it is used -/
  | unknown

/-- A redirection of a descriptor. -/
inductive Redirection where
  | mk (descriptor : Nat) (mode : Mode) (target : List Part)

/-- A command of a script.  Lines are those at which commands begin. -/
inductive Command where
  /-- assignments, then a name and its arguments -/
  | simple (line : Nat) (assignments : List (Bytes × List Part)) (words : List (List Part))
    (redirections : List Redirection)
  | redirected (line : Nat) (body : Command) (redirections : List Redirection)
  /-- commands of which each reads what the one before it writes -/
  | pipeline (stages : List Command) (isBackground : Bool)
  | negated (body : Command)
  | both (first second : Command)
  | either (first second : Command)
  | sequence (first second : Command)
  | background (line : Nat) (body : Command) (redirections : List Redirection)
  /-- a command in a shell of its own -/
  | subshell (line : Nat) (body : Command) (redirections : List Redirection)
  | branch (condition body : Command) (otherwise : Option Command)
  /-- a loop that runs as long as its condition does what is wanted -/
  | loop (wanted : Bool) (condition body : Command)
  /-- a loop over words -/
  | each (line : Nat) (name : Bytes) (words : List (List Part)) (body : Command)
  | choose (line : Nat) (subject : List Part)
    (clauses : List (List (List Part) × Option Command))
  | define (line : Nat) (name : Bytes) (body : Command)

end

/-- A word of a script. -/
abbrev Word := List Part

/-- A command that does nothing. -/
def Command.nothing : Command := .simple 1 [] [] []

instance : Inhabited Command := ⟨.nothing⟩

/-- The text of a word that is all text and not quoted. -/
def literal? : Word → Option Bytes
  | [.text false bytes] => some bytes
  | _ => none

/-- Whether some part of a word is quoted. -/
def isQuotedSomewhere (w : Word) : Bool := w.any fun p => p matches .text true _

/-- Put text in front of parts, joining it to text that is quoted alike. -/
def joinText (isQuoted : Bool) (bytes : Bytes) : Word → Word
  | .text q more :: parts =>
    if q = isQuoted then .text q (bytes ++ more) :: parts
    else .text isQuoted bytes :: .text q more :: parts
  | parts => .text isQuoted bytes :: parts

/-! ### Faults -/

/-- Why a script cannot be read. -/
inductive Fault where
  | unterminatedQuote
  | unclosed (what : String)
  | unexpected (token : String) (expected : Option String)
  | badLoopVariable
  | badFunctionName
  | badDescriptor
deriving DecidableEq, Repr

/-- The wording of a fault. -/
def Fault.message : Fault → String
  | .unterminatedQuote => "Syntax error: Unterminated quoted string"
  | .unclosed what => "Syntax error: " ++ what
  | .unexpected token none => "Syntax error: " ++ token ++ " unexpected"
  | .unexpected token (some expected) =>
    "Syntax error: " ++ token ++ " unexpected (expecting " ++ expected ++ ")"
  | .badLoopVariable => "Syntax error: Bad for loop variable"
  | .badFunctionName => "Syntax error: Bad function name"
  | .badDescriptor => "Syntax error: Bad fd number"

/-- A fault and the line in which it shows. -/
structure Misread where
  line : Nat
  fault : Fault
deriving DecidableEq, Repr

end SyncFleet.Shell

/-
  SyncFleet/Shell/Source.lean
  ===========================
  **The text of a script while it is read.**

  The reader sees the text that is left, where aliases have been replaced, and
  the lines below the present one, from which here documents are taken as soon
  as their delimiter has been read.
-/
import SyncFleet.Shell.Program

namespace SyncFleet.Shell

open Unix

/-- A token of a script. -/
inductive Token where
  | newline
  | operator (text : String)
  | word (w : Word)
  | keyword (text : String) (w : Word)
  /-- a redirection of a descriptor -/
  | redirect (descriptor : Nat) (mode : Mode)
  /-- the operator of a here document, whose lines may lose the tabs in front of them -/
  | here (descriptor : Nat) (strips : Bool)
  | finish

/-- The words that have a meaning where a command may begin. -/
def keywords : List String :=
  ["!", "case", "do", "done", "elif", "else", "esac", "fi", "for", "if", "in", "then", "until",
    "while", "\x7b", "\x7d"]

/-- How a token is called in messages. -/
def Token.description : Token → String
  | .newline => "newline"
  | .operator o => "\"" ++ o ++ "\""
  | .word _ => "word"
  | .keyword k _ => "\"" ++ k ++ "\""
  | .redirect .. => "redirection"
  | .here .. => "redirection"
  | .finish => "end of file"

/-- Whether a token ends a list of commands. -/
def Token.endsList : Token → Bool
  | .finish => true
  | .operator o => o == ")" || o == ";;"
  | .keyword k _ => ["do", "done", "elif", "else", "esac", "fi", "then", "\x7d"].contains k
  | _ => false

/-- What is looked for in the next token. -/
structure Attention where
  /-- line feeds in front of it are passed -/
  newlines : Bool := false
  keywords : Bool := false
  aliases : Bool := false
  /-- it is the delimiter of a here document -/
  delimiter : Bool := false

/-- Where the reader stands. -/
structure Source where
  rest : Bytes
  line : Nat
  /-- what follows the present line, if here documents have been taken from there, and how many
      lines have been taken -/
  below : Option (Bytes × Nat)
  /-- a token that has been read and given back -/
  pushed : Option Token
  attention : Attention
  aliases : List (Bytes × Bytes)
  /-- the aliases whose text is being read, with what was left behind them -/
  active : List (Bytes × Bytes × Nat)

/-- A script that has not been read yet. -/
def Source.ofText (aliases : List (Bytes × Bytes)) (line : Nat) (text : Bytes) : Source :=
  ⟨text, line, none, none, {}, aliases, []⟩

/-- A reader of scripts. -/
abbrev Reader := StateT Source (Except Misread)

namespace Reader

/-- Fail in the present line. -/
def fail {α : Type} (f : Fault) : Reader α := do throw ⟨(← get).line, f⟩

/-- Fail at a token that is not what is expected. -/
def unexpected {α : Type} (t : Token) (expected : Option String) : Reader α :=
  fail (.unexpected t.description expected)

/-- Go on behind some text. -/
def moveTo (rest : Bytes) : Reader Unit := modify fun s => { s with rest }

/-- Go on behind some text with as many line feeds. -/
def moveOver (text rest : Bytes) : Reader Unit :=
  modify fun s => { s with rest, line := s.line + text.count '\n' }

/-- Pass escaped line feeds, at most `fuel`. -/
def passJoins : Nat → Reader Unit
  | 0 => return ()
  | fuel + 1 => do
    match (← get).rest with
    | '\\' :: '\n' :: rest =>
      moveOver ['\n'] rest
      passJoins fuel
    | _ => return ()

/-- The next character, behind escaped line feeds. -/
def peek? : Reader (Option Char) := do
  if (← get).rest.head? = some '\\' then passJoins (← get).rest.length
  return (← get).rest.head?

/-- Pass a character. -/
def skip : Reader Unit := modify fun s => { s with rest := s.rest.drop 1 }

/-- The next character, which is passed. -/
def next? : Reader (Option Char) := do
  let c ← peek?
  skip
  return c

/-- Give a token back. -/
def unread (t : Token) : Reader Unit := modify fun s => { s with pushed := some t }

/-- Look for something in the next token. -/
def attend (a : Attention) : Reader Unit := modify fun s => { s with attention := a }

/-- Pass the line feed that ends a line, and the here documents below it. -/
def endLine : Reader Unit := modify fun s =>
  match s.below with
  | some (rest, n) => { s with rest, line := s.line + n + 1, below := none }
  | none => { s with rest := s.rest.drop 1, line := s.line + 1 }

/-! ### Here documents -/

/-- What follows the line in which a text begins.  Line feeds in quotes do not end it. -/
def belowLine : Option Char → Bytes → Bytes
  | _, [] => []
  | none, '\n' :: rest => rest
  | some '\x27', '\x27' :: rest => belowLine none rest
  | some '\x27', _ :: rest => belowLine (some '\x27') rest
  | q, ['\\'] => belowLine q []
  | q, '\\' :: _ :: rest => belowLine q rest
  | some q, c :: rest => belowLine (if c = q then none else some q) rest
  | none, c :: rest => belowLine (if c = '\x27' || c = '\x22' then some c else none) rest

/-- Take the lines up to a delimiter from the lines below the present one. -/
def takeDocument (strips : Bool) (delimiter : Bytes) : Reader Bytes := do
  let s ← get
  let (text, n) := match s.below with
    | some b => b
    | none => (belowLine none s.rest, 0)
  let strip : Bytes → Bytes := fun line => if strips then line.dropWhile (· == '\t') else line
  let isEnd : Bytes → Bool := fun line => chomp (strip line) == delimiter
  let lines := linesOf text
  let taken := lines.takeWhile (!isEnd ·)
  let passed := lines.take (taken.length + 1)
  let left := lines.drop (taken.length + 1)
  set { s with below := some (left.flatten, n + passed.length) }
  return (taken.map strip).flatten

/-! ### Aliases -/

/-- Forget the aliases whose text has been read; whether a blank stands at the end of one. -/
def dropAliases : Reader Bool := do
  let s ← get
  if s.active.isEmpty then return false
  else
    let n := s.rest.length
    let (still, passed) := s.active.partition fun a => a.2.2 ≤ n
    set { s with active := still }
    return passed.any fun a => a.2.1.getLast?.any isBlank

/-- Put the text of an alias in the place of its name; whether there is one. -/
def replaceAlias (name : Bytes) : Reader Bool := do
  let s ← get
  match s.aliases.lookup name with
  | none => return false
  | some value =>
    if s.active.any (·.1 = name) then return false
    else
      unless value.isEmpty do
        set { s with
          rest := value ++ s.rest, active := (name, value, s.rest.length) :: s.active }
      return true

end Reader

end SyncFleet.Shell

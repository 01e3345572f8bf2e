/-
  SyncFleet/CommandLine/Invocation.lean
  =====================================
  **From the words of a command line to an invocation of the program.**

  A command line has two levels: the words before the name of a command and
  the words behind it.  Each level has options and may have operands.  A page
  of help or the version is asked for as soon as the option is met, so that
  only faults before it count.  An option is settled when the next one of its
  level comes or the level ends; the first level ends last.
-/

namespace SyncFleet.CommandLine

/-! ### What is asked for -/

/-- The pages of help: one for the program and one for each command. -/
inductive Topic where
  | program
  | run
  | validate
  | list
  | trigger
  | help
deriving DecidableEq, Repr

/-- The commands by name. -/
def commands : List (String × Topic) :=
  [("run", .run), ("validate", .validate), ("list", .list), ("trigger", .trigger), ("help", .help)]

/-- What the program is to do. -/
inductive Request where
  /-- serve the fleet, listening on an address if one is given -/
  | run (address : Option String)
  /-- build every job -/
  | validate
  /-- show the jobs of the configuration -/
  | list
  /-- run one job -/
  | trigger (job : String)
deriving DecidableEq, Repr

/-- A request, and the file of the configuration that it is about. -/
structure Invocation where
  config : String
  request : Request
deriving DecidableEq, Repr

/-- What words lead to that are no invocation. -/
inductive Interruption where
  /-- a page of help is to be shown -/
  | help (topic : Topic)
  /-- the version is to be shown -/
  | version
  /-- the words cannot be understood -/
  | misuse
deriving DecidableEq, Repr

/-- The file of the configuration when none is named. -/
def defaultConfig : String := "config.yaml"

/-! ### Options -/

/-- An option that takes a value. -/
inductive ValueOption where
  | config
  | address
deriving DecidableEq, Repr

namespace Topic

/-- The option that a long name means on a level. -/
def longOption? (t : Topic) (name : String) : Option ValueOption :=
  match name with
  | "config" => some .config
  | "address" => if t = .run then some .address else none
  | _ => none

/-- How many operands a level takes. -/
def operands : Topic → Nat
  | .trigger => 1
  | _ => 0

/-- The command that a word names on a level. -/
def command? (t : Topic) (word : String) : Option Topic :=
  if t = .program then commands.lookup word else none

end Topic

/-! ### A level -/

/-- What the words of a level have given so far. -/
structure Level where
  settled : List (ValueOption × String)
  /-- the last option, which may still wait for its value -/
  pending : Option (ValueOption × Option String)
  operands : List String
  /-- whether all further words are operands -/
  literal : Bool

namespace Level

/-- A level before its first word. -/
def start : Level := ⟨[], none, [], false⟩

/-- Whether the last option waits for its value. -/
def awaits (l : Level) : Bool := l.pending matches some (_, none)

/-- Settle the last option.  It needs a value, comes once, and no file has an empty name. -/
def settle (l : Level) : Except Interruption Level :=
  match l.pending with
  | none => .ok l
  | some (_, none) => .error .misuse
  | some (o, some value) =>
    if (l.settled.lookup o).isSome ∨ (o = .config ∧ value = "") then .error .misuse
    else .ok { l with settled := (o, value) :: l.settled, pending := none }

/-- Take an option, whose value may be attached to it. -/
def takeOption (l : Level) (o : ValueOption) (attached : Option String) :
    Except Interruption Level := do
  let l := { (← l.settle) with pending := some (o, attached) }
  if attached.isSome then l.settle else return l

/-- Take what interrupts the reading. -/
def interrupt (l : Level) (i : Interruption) : Except Interruption Level := do
  let _ ← l.settle
  throw i

/-- Take an option with a long name. -/
def takeLong (l : Level) (t : Topic) (text : List Char) : Except Interruption Level :=
  let name := String.ofList (text.takeWhile (· != '='))
  let attached := match text.dropWhile (· != '=') with
    | _ :: value => some (String.ofList value)
    | [] => none
  match t.longOption? name, name, attached with
  | some o, _, _ => l.takeOption o attached
  | none, "help", none => l.interrupt (.help t)
  | none, "version", none => if t = .program then l.interrupt .version else .error .misuse
  | none, _, _ => .error .misuse

/-- Take an option of one letter; all that follows the letter belongs to it. -/
def takeShort (l : Level) (t : Topic) : List Char → Except Interruption Level
  | ['c'] => l.takeOption .config none
  | 'c' :: '=' :: value => l.takeOption .config (some (String.ofList value))
  | 'c' :: value => l.takeOption .config (some (String.ofList value))
  | 'h' :: _ => l.interrupt (.help t)
  | 'V' :: _ => if t = .program then l.interrupt .version else .error .misuse
  | _ => .error .misuse

/-- Take an operand. -/
def takeOperand (l : Level) (t : Topic) (word : String) : Except Interruption Level := do
  if l.operands.length < t.operands then
    return { (← l.settle) with operands := l.operands ++ [word] }
  else throw .misuse

/-- Take a word that names no command. -/
def take (l : Level) (t : Topic) (word : String) : Except Interruption Level :=
  if l.literal then l.takeOperand t word
  else match word.toList, l.pending with
    | ['-', '-'], _ => .ok { l with literal := true }
    | '-' :: '-' :: text, _ => l.takeLong t text
    | '-' :: c :: cs, _ => l.takeShort t (c :: cs)
    | _, some (o, none) => .ok { l with pending := some (o, some word) }
    | _, _ => l.takeOperand t word

end Level

/-! ### The whole command line -/

/-- The page that the words behind `help` ask for. -/
def helpFor : List String → Interruption
  | [] => .help .program
  | [word] => ((Topic.command? .program word).map Interruption.help).getD .misuse
  | _ => .misuse

/-- Read the words of a level up to the name of a command, and say which words follow. -/
def readLevel (t : Topic) : Level → List String →
    Except Interruption (Level × Option (Topic × List String))
  | l, [] => .ok (l, none)
  | l, word :: words =>
    match if l.literal || l.awaits then none else t.command? word with
    | some .help => .error (helpFor words)
    | some command => .ok (l, some (command, words))
    | none => do readLevel t (← l.take t word) words

/-- The request that the level of a command makes. -/
def Topic.request (t : Topic) (l : Level) : Except Interruption Request :=
  match t, l.operands with
  | .run, [] => .ok (.run (l.settled.lookup .address))
  | .validate, [] => .ok .validate
  | .list, [] => .ok .list
  | .trigger, [job] => .ok (.trigger job)
  | _, _ => .error .misuse

/-- The invocation that the words of a command line ask for.  The file that is named behind the
    command wins over the one named before it. -/
def Invocation.ofWords (words : List String) : Except Interruption Invocation := do
  let (outer, next) ← readLevel .program .start words
  match next with
  | none => throw .misuse
  | some (command, words) =>
    let inner ← (← readLevel command .start words).1.settle
    let request ← command.request inner
    let outer ← outer.settle
    let named := inner.settled.lookup .config <|> outer.settled.lookup .config
    return ⟨named.getD defaultConfig, request⟩

end SyncFleet.CommandLine

/-
  SyncFleet/Utility/Process/Starting.lean
  =======================================
  **Programs that become another one, in an environment of their making.**
-/
import SyncFleet.Utility.Amount
import SyncFleet.Utility.Option

namespace SyncFleet.Utility.Process

open Unix Tool

/-! ### Becoming another program -/

/-- The status that says that a program has not got as far as starting another one. -/
def notBegun : Nat := 125

/-- The status of a command that could not be started. -/
def startStatus (e : Refusal) : Nat := if e = .noEntry then 127 else 126

/-- Become the program of a command; the answer says why that is refused. -/
def become (executor : Executor) (command environment : List Bytes) : Tool Refusal := do
  flush
  sys (executeByName executor (command.headD []) command environment)

/-- Become the program of a command, or report that it cannot be run. -/
def becomeOrFail (executor : Executor) (command environment : List Bytes) : Tool Unit := do
  let e ← become executor command environment
  warn ("failed to run command ".toList ++ quoted (command.headD [])
    ++ (": " ++ e.message).toList)
  stop (startStatus e)

/-! ### Environments -/

/-- An environment in which a variable is set. -/
def withBinding (name value : Bytes) (environment : List Bytes) : List Bytes :=
  let start := name ++ ['=']
  let entry := start ++ value
  if environment.any fun e => start.isPrefixOf e then
    environment.map fun e => if start.isPrefixOf e then entry else e
  else environment ++ [entry]

/-- An environment without a variable. -/
def withoutBinding (name : Bytes) (environment : List Bytes) : List Bytes :=
  environment.filter fun e => !(name ++ ['=']).isPrefixOf e

/-- How a text is read that is split into words. -/
structure Splitting where
  /-- the quote that is open -/
  quote : Option Char
  /-- the word that has begun, in reverse -/
  word : Option Bytes
  /-- in reverse -/
  words : List Bytes

/-- Add a byte to the word. -/
def Splitting.add (s : Splitting) (c : Char) : Splitting :=
  { s with word := some (c :: s.word.getD []) }

/-- End the word. -/
def Splitting.close (s : Splitting) : Splitting :=
  match s.word with
  | some w => { s with word := none, words := w.reverse :: s.words }
  | none => s

/-- Split a text of at most `fuel` bytes into words, or say what is wrong with it.  A variable is
    replaced by its value, and number signs begin comments. -/
def splitWords (environment : List Bytes) : Nat → Splitting → Bytes → Except Bytes (List Bytes)
  | 0, s, _ => .ok s.close.words.reverse
  | _, s, [] =>
    if s.quote.isSome then .error "no terminating quote in -S string".toList
    else .ok s.close.words.reverse
  | fuel + 1, s, c :: rest =>
    let go := splitWords environment fuel
    match s.quote, c, rest with
    | none, '#', _ =>
      if s.word.isNone then .ok s.close.words.reverse else go (s.add '#') rest
    | some '\x27', '\\', x :: more =>
      if x = '\\' || x = '\x27' then go (s.add x) more else go (s.add '\\') rest
    | q, '\\', x :: more =>
      match x with
      | 'c' =>
        if q.isSome then
          .error "'\\c' must not appear in double-quoted -S string".toList
        else .ok s.close.words.reverse
      | '_' => if q.isSome then go (s.add ' ') more else go s.close more
      | 'f' => go (s.add '\x0c') more
      | 'n' => go (s.add '\n') more
      | 'r' => go (s.add '\r') more
      | 't' => go (s.add '\t') more
      | 'v' => go (s.add '\x0b') more
      | x =>
        if "\"#$\\\x27".toList.contains x then go (s.add x) more
        else .error ("invalid sequence '\\".toList ++ x :: "' in -S".toList)
    | _, '\\', [] => .error "invalid backslash at end of string in -S".toList
    | q, '$', '\x7b' :: more =>
      if q = some '\x27' then go (s.add '$') rest
      else
        let name := more.takeWhile isNameChar
        match isName name, more.drop name.length with
        | true, '\x7d' :: behind =>
          let value := (binding? environment name).getD []
          go (value.foldl Splitting.add { s with word := some (s.word.getD []) }) behind
        | _, _ =>
          .error ("only $\x7bVARNAME\x7d expansion is supported, error at: ".toList ++ c :: rest)
    | q, '$', _ =>
      if q = some '\x27' then go (s.add '$') rest
      else .error ("only $\x7bVARNAME\x7d expansion is supported, error at: ".toList ++ c :: rest)
    | some q, c, _ => if q = c then go { s with quote := none } rest else go (s.add c) rest
    | none, c, _ =>
      if c = '\x27' || c = '\x22' then
        go { s with quote := some c, word := some (s.word.getD []) } rest
      else if isSpace c then go s.close rest
      else go (s.add c) rest

/-- Arguments of which the first may be a text that is split into more. -/
def splitFirst (environment : List Bytes) (arguments : List Bytes) :
    Except Bytes (List Bytes) := do
  let split := fun (text : Bytes) =>
    splitWords environment (text.length + 1) ⟨none, none, []⟩ text
  let long := "--split-string".toList
  match arguments with
  | ('-' :: letters) :: rest =>
    let front := letters.takeWhile fun c => "iv0".toList.contains c
    let before := if front.isEmpty then [] else ['-' :: front]
    match letters.drop front.length, rest with
    | ['S'], text :: rest => return before ++ (← split text) ++ rest
    | 'S' :: c :: text, rest => return before ++ (← split (c :: text)) ++ rest
    | _, rest =>
      let argument := '-' :: letters
      if argument = long then return (← split (rest.headD [])) ++ rest.drop 1
      else if (long ++ ['=']).isPrefixOf argument then
        return (← split (argument.drop (long.length + 1))) ++ rest
      else return arguments
  | _ => return arguments

/-- The signal of a name or number. -/
def signalOf? (text : Bytes) : Option Signal :=
  match natOf? text with
  | some n =>
    let low := n % 128
    let n := if low = 0 || low = 127 then n else low
    if n = 0 || (Signal.name? n).isSome then some n else none
  | none =>
    let upper := text.map Char.toUpper
    let short := if "SIG".toList.isPrefixOf upper then upper.drop 3 else upper
    match Bytes.name short with
    | "CLD" => some Signal.child
    | "EXIT" => some 0
    | "IOT" => some 6
    | "POLL" => some 29
    | name => Signal.ofName? name

/-- The signal of a name or number, or a report that there is none. -/
def signalOf (text : Bytes) : Tool Signal :=
  match signalOf? text with
  | some n => pure n
  | none => misuse (quoted text ++ ": invalid signal".toList)

/-- The signals of some names, of which no list stands for all. -/
def signalsOf (value : Option Bytes) : Tool (List Signal) :=
  match value with
  | none => pure ((List.range Signal.count).drop 1)
  | some text => (splitAt ',' text).mapM signalOf

/-- Run a command in another environment, or show it. -/
def env (executor : Executor) (arguments environment : List Bytes) : Tool Unit := do
  let arguments ← match splitFirst environment arguments with
    | .ok arguments => pure arguments
    | .error message => die message
  let (c, operands) ← leadingOptions ["i|ignore-environment", "0|null", "u|unset=", "C|chdir=",
    "S|split-string=", "v|debug", "block-signal?", "default-signal?", "ignore-signal?",
    "list-signal-handling"] arguments
  let (isEmpty, operands) := match operands with
    | ['-'] :: rest => (true, rest)
    | operands => (c.has "i", operands)
  let note := fun (label : String) (text : Bytes) => do
    if c.has "v" then
      flush
      let _ ← writeTo 2 (label.toList ++ text ++ ['\n'])
  let mut environment := environment
  if isEmpty then
    note "cleaning environ" []
    environment := []
  else
    for name in c.values "u" do
      note "unset:    " name
      if name.isEmpty || name.contains '=' then
        dieOf ("cannot unset ".toList ++ quoted name) .invalid
      environment := withoutBinding name environment
  let bindings := operands.takeWhile (·.contains '=')
  for binding in bindings do
    note "setenv:   " binding
    let name := binding.takeWhile (· != '=')
    environment := withBinding name (binding.drop (name.length + 1)) environment
  let command := operands.drop bindings.length
  if c.has "0" && !command.isEmpty then misuse "cannot specify --null (-0) with command".toList
  if command.isEmpty then
    if c.has "C" then misuse "must specify command with --chdir (-C)".toList
    for binding in environment do put (binding ++ [if c.has "0" then '\x00' else '\n'])
  else
    for (key, value) in c.options do
      if key = "ignore-signal" || key = "default-signal" then
        let signals ← signalsOf value
        sys (Sys.change fun s => ((), s.modifyTask fun t =>
          { t with ignored := t.ignored.filter (!signals.contains ·)
              ++ (if key = "ignore-signal" then signals else []) }))
    if let some directory := c.value? "C" then
      note "chdir:    " (inQuotes directory)
      if let .error e ← request (Op.changeDirectory directory) then
        dieOf ("cannot change directory to ".toList ++ inQuotes directory) e
    note "executing: " (command.headD [])
    for (argument, i) in command.zipIdx do
      note "   arg[" (decimal i ++ "]= ".toList ++ inQuotes argument)
    let e ← become executor command environment
    warn (quoted (command.headD []) ++ (": " ++ e.message).toList)
    if e = .noEntry && (command.headD []).any isSpace then
      warn "use -[v]S to pass options in shebang lines".toList
    stop (startStatus e)

/-- Show values of variables, or the whole environment. -/
def printenv (arguments environment : List Bytes) : Tool Unit := do
  let (c, names) ← leadingOptions ["0|null"] arguments
  let stop := if c.has "0" then '\x00' else '\n'
  if names.isEmpty then
    for binding in environment do put (binding ++ [stop])
  for name in names do
    match if name.contains '=' then none else binding? environment name with
    | some value => put (value ++ [stop])
    | none => modify fun s => { s with status := 1 }

/-! ### Other ways to run -/

/-- Whether an argument is a number behind a dash. -/
def isNumberOption (argument : Bytes) : Bool :=
  match argument with
  | '-' :: '-' :: d :: _ | '-' :: '+' :: d :: _ => d.isDigit
  | '-' :: d :: _ => d.isDigit
  | _ => false

/-- Arguments of which numbers behind dashes are written as values of an option. -/
def withAdjustments : List Bytes → List Bytes
  | [] => []
  | [a] => if isNumberOption a then ["--adjustment=".toList ++ a.drop 1] else [a]
  | a :: b :: rest =>
    if isNumberOption a then ("--adjustment=".toList ++ a.drop 1) :: withAdjustments (b :: rest)
    else if a = ['-', 'n'] || a = "--adjustment".toList then a :: b :: withAdjustments rest
    else if a.head? = some '-' && a ≠ ['-', '-'] && a ≠ ['-'] then
      a :: withAdjustments (b :: rest)
    else a :: b :: rest

/-- Run a command with another priority, or show the own one. -/
def nice (executor : Executor) (arguments environment : List Bytes) : Tool Unit := do
  let (c, command) ← leadingOptions ["n|adjustment="] (withAdjustments arguments)
  let adjustment ← match c.value? "n" with
    | none => pure 10
    | some text => match intOf? (text.dropWhile isSpace) with
      | some n => pure n
      | none => die ("invalid adjustment ".toList ++ quoted text)
  let now ← look fun s => s.task.niceness
  if command.isEmpty then
    if c.has "n" then misuse "a command must be given with an adjustment".toList
    putLine (integer now)
  else
    sys (Sys.change fun s => ((), s.modifyTask fun t =>
      { t with niceness := max (-20) (min (now + adjustment) 19) }))
    let e ← become executor command environment
    warn (quoted (command.headD []) ++ (": " ++ e.message).toList)
    stop (startStatus e)

/-- Run a command that does not mind being hung up. -/
def nohup (executor : Executor) (arguments environment : List Bytes) : Tool Unit := do
  let (_, command) ← leadingOptions [] arguments
  if command.isEmpty then missOperand
  sys (Sys.change fun s => ((), s.modifyTask fun t =>
    { t with ignored := Signal.hangup :: t.ignored.filter (· ≠ Signal.hangup) }))
  becomeOrFail executor command environment

/-- The library that changes how programs collect what they write. -/
def collectingLibrary : Bytes := "/usr/libexec/coreutils/libstdbuf.so".toList

/-- A way of collecting as the environment says it. -/
def collectingMode (isInput : Bool) (text : Bytes) : Tool Bytes := do
  if text = ['L'] then
    if isInput then misuse "line buffering stdin is meaningless".toList
    return text
  match amountOf "kKMGTPEZYRQ0" greatestNatural text with
  | .ok n => return decimal n
  | .error _ => die ("invalid mode ".toList ++ quoted text)

/-- Run a command that collects what it reads and writes in another way. -/
def stdbuf (executor : Executor) (arguments environment : List Bytes) : Tool Unit := do
  let (c, command) ← leadingOptions ["i|input=", "o|output=", "e|error="] arguments
  let mut environment := environment
  for (key, value) in c.options do
    let mode ← collectingMode (key = "i") (value.getD [])
    environment := withBinding ("_STDBUF_" ++ key.toUpper).toList mode environment
  if command.isEmpty then missOperand
  if c.options.isEmpty then misuse "you must specify a buffering mode option".toList
  becomeOrFail executor command (withBinding "LD_PRELOAD".toList collectingLibrary environment)

end SyncFleet.Utility.Process

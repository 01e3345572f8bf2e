/-
  SyncFleet/Shell/Builtin/Variables.lean
  ======================================
  **Commands that set variables, parameters and options.**
-/
import SyncFleet.Shell.Builtin.Argument

namespace SyncFleet.Shell.Builtin

open Unix Act

/-! ### Marks -/

/-- Show variables in the order of their names, behind a label. -/
def showVariables (label : Bytes) (isShown : Variable → Bool) : Act Unit := do
  let vs := (← get).bindings.filter (isShown ·.2)
  for (name, v) in vs.mergeSort fun a b => compareBytes a.1 b.1 != .gt do
    let value := match v.value with
      | some text => '=' :: inQuotes text
      | none => []
    put (label ++ name ++ value ++ ['\n'])

/-- Mark variables, giving values to those that are assigned to, or show those that are marked. -/
def mark (label : String) (isMarked : Variable → Bool) (set : Variable → Variable) : Builtin :=
  fun arguments => do
    let isListing := arguments.head? = some ['-', 'p']
    let (_, names) ← options "p" (if isListing then arguments.take 1 else arguments)
    if isListing || names.isEmpty then showVariables (label ++ " ").toList isMarked
    else for a in names do
      let (name, value) := nameAndValue a
      match value, ← binding? name with
      | none, some v => putVariable name (set v)
      | _, _ => changeVariable name fun v => set { v with value := value.orElse fun _ => v.value }
    return 0

/-- Hand variables on to programs. -/
def exports : Builtin :=
  mark "export" (·.isExported) fun v => { v with isExported := true }

/-- Protect variables. -/
def readonly : Builtin :=
  mark "readonly" (·.isReadOnly) fun v => { v with isReadOnly := true }

/-- Make variables of a function's own. -/
def declareLocal : Builtin := fun arguments => do
  if (← get).frames.isEmpty then die "not in a function".toList
  for a in arguments do
    if a = ['-'] then
      modify fun s => { s with
        frames := match s.frames with
          | frame :: frames => (.options s.options :: frame) :: frames
          | [] => [] }
    else
      let (name, value) := nameAndValue a
      if !isName name then die (name ++ ": bad variable name".toList)
      shadow name
      if let some text := value then assign name text
      else if (← binding? name).isNone then changeVariable name id
  return 0

/-- Remove variables or functions. -/
def unset : Builtin := fun arguments => do
  let (os, names) ← options "vf" arguments
  let isFunction := (os.getLast?.map Prod.fst) = some 'f'
  for name in names do
    if isFunction then
      modify fun s => { s with functions := s.functions.filter (·.1 ≠ name) }
    else forget name
  return 0

/-! ### Options -/

/-- The options with names, in the order in which they are shown. -/
def optionNames : List (String × Char) :=
  [("errexit", 'e'), ("noglob", 'f'), ("ignoreeof", 'I'), ("interactive", 'i'), ("monitor", 'm'),
    ("noexec", 'n'), ("stdin", 's'), ("xtrace", 'x'), ("verbose", 'v'), ("vi", 'V'), ("emacs", 'E'),
    ("noclobber", 'C'), ("allexport", 'a'), ("notify", 'b'), ("nounset", 'u'), ("privileged", 'p'),
    ("nolog", '\x01'), ("debug", '\x02')]

/-- Turn an option on or off.  Jobs cannot be controlled, because there is no terminal. -/
def setOption (on : Bool) (letter : Char) : Act Unit := do
  if letter = 'm' ∧ on then
    complain "can't access tty; job control turned off".toList
  else
    modify fun s =>
      let others := s.options.filter (· ≠ letter)
      { s with options := if on then letter :: others else others }

/-- Turn an option on or off by its name, or show all options. -/
def setNamedOption (on : Bool) : Option Bytes → Act Unit
  | some name =>
    match optionNames.lookup (String.ofList name) with
    | some c => setOption on c
    | none => die ("Illegal option -o ".toList ++ name)
  | none => do
    let isOn := (← get).options.contains
    if on then
      put "Current option settings\n".toList
      for (name, c) in optionNames do
        put (padRight 16 name.toList ++ (if isOn c then "on\n" else "off\n").toList)
    else for (name, c) in optionNames do
      put ((if isOn c then "set -o " else "set +o ") ++ name ++ "\n").toList

/-- Set the parameters. -/
def setParameters (parameters : List Bytes) : Act Unit :=
  modify fun s => { s with parameters, optionIndex := 1, optionOffset := none }

/-- Turn on or off the options of an argument's letters; the answer holds the arguments that are
    left. -/
def setLetters (on : Bool) : Bytes → List Bytes → Act (List Bytes)
  | [], rest => return rest
  | 'o' :: letters, rest => do
    setNamedOption on rest.head?
    setLetters on letters (rest.drop 1)
  | c :: letters, rest => do
    if !optionNames.any (·.2 = c) then die ("Illegal option -".toList ++ [c])
    setOption on c
    setLetters on letters rest

/-- Set options from at most `fuel` arguments; the answer holds the ones that are left. -/
def setOptions : Nat → List Bytes → Act (List Bytes)
  | 0, rest => return rest
  | _, [] => return []
  | _, ['-'] :: rest => do
    setOption false 'x'
    setOption false 'v'
    return rest
  | _, ['-', '-'] :: rest => do
    if rest.isEmpty then setParameters []
    return rest
  | fuel + 1, ('-' :: letters) :: rest => do setOptions fuel (← setLetters true letters rest)
  | fuel + 1, ('+' :: letters) :: rest => do setOptions fuel (← setLetters false letters rest)
  | _, rest => return rest

/-- Set options and parameters, or show the variables. -/
def set : Builtin := fun arguments => do
  if arguments.isEmpty then showVariables [] (·.value.isSome)
  else
    let rest ← setOptions (arguments.length + 1) arguments
    if !rest.isEmpty then setParameters rest
  return 0

/-! ### Parameters -/

/-- Drop parameters from the front. -/
def shift : Builtin := fun arguments => do
  let n ← match arguments.head? with
    | some a => number a
    | none => pure 1
  let parameters := (← get).parameters
  if parameters.length < n then die "can't shift that many".toList
  setParameters (parameters.drop n)
  return 0

/-- Where the next option is looked for: what is left of the argument that is being read, and the
    arguments behind it. -/
def optionsLeft (arguments : List Bytes) (index : Nat) (offset : Option Nat) :
    Bytes × List Bytes :=
  let rest := arguments.drop (index - 1)
  match offset with
  | some n => if index ≤ 1 then ([], rest) else (((arguments[index - 2]?).getD []).drop n, rest)
  | none => ([], rest)

/-- What is found where an option is looked for. -/
structure FoundOption where
  letter : Char
  value : Option Bytes
  /-- what is written on the error stream -/
  report : String
  /-- what is left of the argument, and the arguments behind it -/
  left : Bytes
  rest : List Bytes

/-- The option at the start of a text; a colon in front of the known ones says that nothing is
    reported. -/
def findOption (known : Bytes) (c : Char) (more : Bytes) (rest : List Bytes) : FoundOption :=
  let isQuiet := known.head? = some ':'
  let shown := String.ofList [c]
  match takesValue? (if isQuiet then known.drop 1 else known) c with
  | none =>
    if isQuiet then ⟨'?', some [c], "", more, rest⟩
    else ⟨'?', none, "Illegal option -" ++ shown ++ "\n", more, rest⟩
  | some false => ⟨c, some [], "", more, rest⟩
  | some true =>
    match more, rest with
    | [], [] =>
      if isQuiet then ⟨':', some [c], "", [], []⟩
      else ⟨'?', none, "No arg for -" ++ shown ++ " option\n", [], []⟩
    | [], v :: rest => ⟨c, some v, "", [], rest⟩
    | v, rest => ⟨c, some v, "", [], rest⟩

/-- Find the next option among arguments. -/
def getopts : Builtin := fun operands => do
  match operands with
  | known :: target :: given =>
    let parameters := (← get).parameters
    let arguments := if given.isEmpty then parameters else given
    if arguments.length + 1 < (← get).optionIndex then
      modify fun s => { s with optionIndex := 1, optionOffset := none }
    let s ← get
    let (left, rest) := optionsLeft arguments s.optionIndex s.optionOffset
    let found : Option FoundOption × List Bytes :=
      match left with
      | c :: more => (some (findOption known c more rest), rest)
      | [] =>
        match rest with
        | ['-', '-'] :: behind => (none, behind)
        | ('-' :: c :: more) :: behind => (some (findOption known c more behind), behind)
        | _ => (none, rest)
    let (letter, left, rest) ← match found with
      | (some f, _) => do
        writeTo 2 f.report.toList
        match f.value with
        | some v => assign "OPTARG".toList v
        | none => forget "OPTARG".toList
        pure (f.letter, f.left, f.rest)
      | (none, rest) => pure ('?', [], rest)
    let index := arguments.length - rest.length + 1
    assign "OPTIND".toList (decimal index)
    assign target [letter]
    let read := ((arguments[index - 2]?).getD []).length
    modify fun s => { s with
      optionIndex := index
      optionOffset := if left.isEmpty then none else some (read - left.length) }
    return if found.1.isSome then 0 else 1
  | _ => die "Usage: getopts optstring var [arg...]".toList

/-! ### Reading -/

/-- A byte of a line, and whether it stood behind a backslash. -/
abbrev LineByte := Char × Bool

/-- Read a line byte by byte, at most `fuel`: its bytes in reverse, and whether it has ended.
    `escaped` says that a backslash stands in front. -/
def readLine (raw escaped : Bool) : Nat → List LineByte → Act (List LineByte × Bool)
  | 0, line => return (line, false)
  | fuel + 1, line => do
    match ← sys (Sys.readUnlessCaught 0 1) with
    | some (.ok bytes) =>
      match Bytes.ofByteArray bytes with
      | [] => return (line, false)
      | c :: _ =>
        if c = '\x00' then readLine raw escaped fuel line
        else if escaped then
          readLine raw false fuel (if c = '\n' then line else (c, true) :: line)
        else if c = '\\' && !raw then readLine raw true fuel line
        else if c = '\n' then return (line, true)
        else readLine raw false fuel ((c, false) :: line)
    | _ => return (line, false)

/-- Share a line among variables: one field for each, and the rest for the last.  If the rest is one
    field, the separator that ends it is left out; else only the blanks at the end are. -/
def share (separators : Bytes) (line : List LineByte) : List Bytes → List (Bytes × Bytes)
  | [] => []
  | name :: names =>
    let separates : LineByte → Bool := fun (c, q) => !q && separators.contains c
    let isGap : LineByte → Bool := fun p =>
      separates p && (p.1 == ' ' || p.1 == '\t' || p.1 == '\n')
    let line := line.dropWhile isGap
    let field := line.takeWhile (!separates ·)
    let behind := line.drop field.length
    if names.isEmpty then
      let rest := if behind.all separates && (behind.filter (!isGap ·)).length ≤ 1 then field
        else (line.reverse.dropWhile isGap).reverse
      [(name, rest.map Prod.fst)]
    else
      let rest := behind.dropWhile isGap
      let rest := if rest.head?.any separates then rest.drop 1 else rest
      (name, field.map Prod.fst) :: share separators rest names

/-- How many bytes a line may have. -/
def longestLine : Nat := 100000000

/-- Read a line into variables. -/
def read : Builtin := fun arguments => do
  let (os, names) ← options "p:r" arguments
  if names.isEmpty then die "arg count".toList
  let raw := os.any (·.1 = 'r')
  let (line, ended) ← readLine raw false longestLine []
  let separators := (← lookup "IFS").getD " \t\n".toList
  for (name, text) in share separators line.reverse names do assign name text
  return if ended then 0 else 1

end SyncFleet.Shell.Builtin

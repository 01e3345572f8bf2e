/-
  SyncFleet/Shell/Expansion.lean
  ==============================
  **From words as they are written to the fields that a command gets.**

  Parts are expanded to pieces, which remember what is quoted and what came
  out of an expansion.  Only what came out of an expansion unquoted is split
  into fields.  How a script in a word is run is a parameter.
-/
import SyncFleet.Shell.Arithmetic
import SyncFleet.Shell.Pattern
import SyncFleet.Shell.Session

namespace SyncFleet.Shell

open Unix

/-- A piece of an expanded word. -/
inductive Piece where
  | byte (c : Char) (isQuoted splits : Bool)
  /-- quotes, which make a field even if there is nothing between them -/
  | quotes
  /-- no parameters at all, which make no field even between quotes -/
  | nothing
  /-- the boundary between two parameters -/
  | boundary
deriving DecidableEq, Repr

/-- Pieces of a text. -/
def bytePieces (isQuoted splits : Bool) (text : Bytes) : List Piece :=
  text.map (.byte · isQuoted splits)

/-! ### Fields -/

/-- A field that is being put together, in reverse order, and the fields before it. -/
structure Splitting where
  done : List (List PatternByte)
  current : List PatternByte
  /-- whether the field counts although it may be empty -/
  counts : Bool
  /-- whether blanks have just ended a field -/
  afterBlank : Bool

namespace Splitting

/-- End the field that is being put together. -/
def finish (s : Splitting) : Splitting := ⟨s.current.reverse :: s.done, [], false, false⟩

/-- End the field if there is one. -/
def finishIfAny (s : Splitting) : Splitting :=
  if s.current.isEmpty && !s.counts then s else s.finish

/-- Add a piece.  Runs of separators that are blanks count as one; each other separator ends a
    field. -/
def add (separators : Bytes) (s : Splitting) : Piece → Splitting
  | .quotes => { s with counts := true }
  | .nothing => if s.current.isEmpty then { s with counts := false } else s
  | .boundary => s.finishIfAny
  | .byte c isQuoted splits =>
    if splits && !isQuoted && separators.contains c then
      if c = ' ' ∨ c = '\t' ∨ c = '\n' then
        if s.current.isEmpty && !s.counts then s else { s.finish with afterBlank := true }
      else if s.current.isEmpty && !s.counts && s.afterBlank then { s with afterBlank := false }
      else s.finish
    else { s with current := (c, isQuoted) :: s.current, afterBlank := false }

end Splitting

/-- The fields that pieces make. -/
def fieldsOf (separators : Bytes) (ps : List Piece) : List (List PatternByte) :=
  (ps.foldl (Splitting.add separators) ⟨[], [], false, false⟩).finishIfAny.done.reverse

/-- The bytes that pieces make without being split. -/
def unsplit (separators : Bytes) (ps : List Piece) : List PatternByte :=
  ps.flatMap fun
    | .byte c q _ => [(c, q)]
    | .boundary => (separators.take 1).map (·, true)
    | _ => []

/-! ### Homes -/

/-- The homes of users. -/
def homes : List (String × String) :=
  [("root", "/root"), ("daemon", "/usr/sbin"), ("bin", "/bin"), ("sys", "/dev"),
    ("nobody", "/nonexistent")]

/-- A text in which a tilde at the start, with the name behind it, is replaced by a home; `more`
    says that something follows the text. -/
def homedText (home : Bytes → Option Bytes) (stops : Bytes) (more : Bool) (text : Bytes) : Word :=
  match text with
  | '~' :: rest =>
    let user := rest.takeWhile (!stops.contains ·)
    if user.length = rest.length ∧ more then [.text false text]
    else match home user with
      | some path => [.text true path, .text false (rest.drop user.length)]
      | none => [.text false text]
  | text => [.text false text]

/-- A word in which a tilde at the start is replaced by a home. -/
def withHome (home : Bytes → Option Bytes) : Word → Word
  | .text false text :: more => homedText home ['/'] (!more.isEmpty) text ++ more
  | w => w

/-- The value of an assignment, in which tildes at its start and behind colons are replaced by
    homes. -/
def withHomes (home : Bytes → Option Bytes) (isStart : Bool) : Word → Word
  | [] => []
  | .text false text :: more =>
    let texts := splitAt ':' text
    let last := texts.length - 1
    let parts := texts.zipIdx.flatMap fun (t, i) =>
      let colon : Word := if i = 0 then [] else [.text false [':']]
      colon ++ (if i = 0 ∧ !isStart then [.text false t]
        else homedText home ['/', ':'] (i = last && !more.isEmpty) t)
    parts ++ withHomes home false more
  | p :: more => p :: withHomes home false more

/-! ### Expansion -/

namespace Act

/-- The separators of fields. -/
def separators : Act Bytes := do return (← lookup "IFS").getD " \t\n".toList

/-- The pieces of all parameters. -/
def allParameters (isQuoted joined : Bool) : Act (List Piece) := do
  let ps := (← get).parameters
  if isQuoted && joined then
    let separator := (← separators).take 1
    return bytePieces true false (List.intercalate separator ps)
  else if ps.isEmpty then return [.nothing]
  else
    let pieces := fun p => (if isQuoted then [.quotes] else []) ++ bytePieces isQuoted true p
    return List.intercalate [.boundary] (ps.map pieces)

/-- Report that an expression has no value and end the shell. -/
def badExpression {α : Type} (what : String) (text : Bytes) : Act α :=
  die (("arithmetic expression: " ++ what ++ ": \"").toList ++ text ++ ['\x22'])

/-- The value of an arithmetic expression. -/
def calculate (text : Bytes) : Act Bytes := do
  match Expression.ofBytes text with
  | .error misfit => badExpression misfit.message text
  | .ok e =>
    let bindings := (← get).bindings
    let values : Expression.Variables := fun x => (bindings.lookup x).bind (·.value)
    match (Expression.evaluate values e).run [] with
    | .ok (v, assignments) =>
      for (x, v) in assignments.reverse do assign x (integer v.toInt)
      return integer v.toInt
    | .error .divisionByZero => badExpression "division by zero" text
    | .error (.badNumber text) => die ("Illegal number: ".toList ++ text)

/-- The home that a tilde with a name behind it stands for. -/
def homeOf : Act (Bytes → Option Bytes) := do
  let own ← lookup "HOME"
  return fun user => if user = [] then own else (homes.lookup (String.ofList user)).map String.toList

/-- What runs a script and gives its output. -/
abbrev Capture := Option Command → Act Bytes

/-- Expand parts to pieces; words may be `fuel` deep in each other.  `splits` says whether plain
    text is split as well. -/
def pieces (capture : Capture) (splits : Bool) : Nat → List Part → Act (List Piece)
  | 0, _ => return []
  | fuel + 1, ps => do
    let mut out : List (List Piece) := []
    for p in ps do
      let more ← match p with
        | .text true text => pure (.quotes :: bytePieces true false text)
        | .text false text => pure (bytePieces false splits text)
        | .output q script => do
          let text := chompAll (← capture script)
          pure (bytePieces q true (text.filter (· ≠ '\x00')))
        | .arithmetic q e => do
          let text := (unsplit [' '] (← pieces capture false fuel e)).map Prod.fst
          pure (bytePieces q true (← calculate text))
        | .parameter q name use => parameter capture fuel q name use
      out := more :: out
    return out.reverse.flatten
where
  /-- Expand a parameter. -/
  parameter (capture : Capture) (fuel : Nat) (q : Bool) (name : Bytes) : Use → Act (List Piece)
    | .unknown => die "Bad substitution".toList
    | .value => do
      if name = ['@'] then allParameters q false
      else if name = ['*'] then allParameters q true
      else return bytePieces q true (← valueOf name)
    | .length => do
      let text ← if name = ['@'] ∨ name = ['*'] then
          pure (unsplit [' '] (← allParameters true true)).length
        else pure (← valueOf name).length
      return bytePieces q true (decimal text)
    | .orElse empty word => do
      match ← present? empty name with
      | some _ => parameter capture fuel q name .value
      | none => pieces capture (!q) fuel (← homed q word)
    | .ifSet empty word => do
      match ← present? empty name with
      | some _ => pieces capture (!q) fuel (← homed q word)
      | none => return []
    | .assign empty word => do
      match ← present? empty name with
      | some _ => parameter capture fuel q name .value
      | none =>
        let text ← plain fuel capture word
        if !isName name then die (name ++ ": bad variable name".toList)
        assign name text
        return bytePieces q true text
    | .orFail empty word => do
      match ← present? empty name with
      | some _ => parameter capture fuel q name .value
      | none =>
        let text ← plain fuel capture word
        die (name ++ ": ".toList ++ (if !word.isEmpty then text
          else if empty then "parameter not set or null".toList else "parameter not set".toList))
    | .trimmed atEnd longest pattern => do
      let text ← if name = ['@'] ∨ name = ['*'] then do
          pure ((unsplit (← separators) (← allParameters q true)).map Prod.fst)
        else valueOf name
      let ps := globs (unsplit (← separators) (← pieces capture false fuel (← homed false pattern)))
      return bytePieces q true ((if atEnd then trimEnd else trimStart) longest ps text)
  /-- A word with a home in the place of a tilde, unless it is quoted. -/
  homed (q : Bool) (word : Word) : Act Word := do
    if q then return word
    return withHome (← homeOf) word
  /-- A word as one text. -/
  plain (fuel : Nat) (capture : Capture) (word : Word) : Act Bytes := do
    return (unsplit (← separators) (← pieces capture false fuel (← homed false word))).map Prod.fst
  /-- The value of a parameter that is taken as it is. -/
  valueOf (name : Bytes) : Act Bytes := do
    match ← value? name with
    | some v => return v
    | none =>
      if ← hasOption 'u' then die (name ++ ": parameter not set".toList)
      return []
  /-- The value of a parameter that is set and, if it matters, not empty. -/
  present? (empty : Bool) (name : Bytes) : Act (Option Bytes) := do
    let v ← if name = ['@'] ∨ name = ['*'] then do
        let ps := (← get).parameters
        pure (if ps.isEmpty then none else some (List.intercalate [' '] ps))
      else value? name
    return if empty then v.filter (!·.isEmpty) else v

/-- How deep words may be in each other. -/
def wordDepth : Nat := 1000

/-! ### Files that patterns match -/

/-- A step on the way to the files that a pattern matches. -/
inductive PathStep where
  | slash
  | name (bytes : List PatternByte)

/-- The steps of a pattern for paths. -/
def pathSteps (field : List PatternByte) : List PathStep :=
  let (done, name) := field.foldl
    (fun ((done : List PathStep), (name : List PatternByte)) p =>
      let done' := if name.isEmpty then done else .name name.reverse :: done
      if p.1 = '/' then (.slash :: done', []) else (done, p :: name)) ([], [])
  (if name.isEmpty then done else .name name.reverse :: done).reverse

/-- Whether bytes are a pattern and not only text. -/
def isPattern (bytes : List PatternByte) : Bool :=
  bytes.any fun (c, q) => !q && (c == '*' || c == '?' || c == '[')

/-- Bytes as text, without the backslashes that escape others. -/
def literalOf : List PatternByte → Bytes
  | ('\\', false) :: (c, _) :: rest => c :: literalOf rest
  | (c, _) :: rest => c :: literalOf rest
  | [] => []

/-- The paths that steps lead to behind some text. -/
def matching : List PathStep → Bytes → Act (List Bytes)
  | [], path => do
    match ← request (Op.status path false) with
    | .ok _ => return [path]
    | .error _ => return []
  | .slash :: steps, path => matching steps (path ++ ['/'])
  | .name bytes :: steps, path => do
    if !isPattern bytes then matching steps (path ++ literalOf bytes)
    else
      let pattern := globs bytes
      let dotted := pattern.head? == some (.one '.')
      match ← request (Op.entries (if path.isEmpty then ['.'] else path)) with
      | .error _ => return []
      | .ok entries =>
        let names := ['.'] :: ['.', '.'] :: entries.map Prod.fst
        let names := names.filter fun n =>
          (n.head? ≠ some '.' || dotted) && globMatches pattern n
        if steps.isEmpty then return names.map (path ++ ·)
        let mut out : List (List Bytes) := []
        for n in names do
          out := (← matching steps (path ++ n)) :: out
        return out.reverse.flatten

/-- The paths that a field stands for: those that it matches as a pattern, in order, or else
    itself. -/
def pathsOf (field : List PatternByte) : Act (List Bytes) := do
  let itself := field.map Prod.fst
  if !isPattern field || (← hasOption 'f') then return [itself]
  let found ← matching (pathSteps field) []
  return if found.isEmpty then [itself] else sortBytes found

/-! ### Words -/

/-- The fields of a word. -/
def fields (capture : Capture) (w : Word) : Act (List Bytes) := do
  let ps ← pieces capture false wordDepth (withHome (← homeOf) w)
  let mut out : List (List Bytes) := []
  for field in fieldsOf (← separators) ps do out := (← pathsOf field) :: out
  return out.reverse.flatten

/-- The fields of words. -/
def fieldsOfAll (capture : Capture) (ws : List Word) : Act (List Bytes) := do
  let mut out : List (List Bytes) := []
  for w in ws do out := (← fields capture w) :: out
  return out.reverse.flatten

/-- A word as a pattern. -/
def pattern (capture : Capture) (w : Word) : Act (List PatternByte) := do
  return unsplit (← separators) (← pieces capture false wordDepth (withHome (← homeOf) w))

/-- A word as one text. -/
def text (capture : Capture) (w : Word) : Act Bytes := do
  return (← pattern capture w).map Prod.fst

/-- The value of an assignment. -/
def assigned (capture : Capture) (w : Word) : Act Bytes := do
  let ps ← pieces capture false wordDepth (withHomes (← homeOf) true w)
  return (unsplit (← separators) ps).map Prod.fst

end Act

end SyncFleet.Shell

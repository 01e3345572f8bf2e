/-
  SyncFleet/Shell/Reading.lean
  ============================
  **Reading scripts.**

  A script is read one complete command at a time, because what is read first
  is run before the rest is looked at.  Words and commands are read by
  functions that call each other: a word may hold a script.
-/
import SyncFleet.Shell.Source

namespace SyncFleet.Shell

open Unix

/-- Where a row of parts stands, which says what ends it and what is quoted. -/
inductive Setting where
  /-- in the open: it ends at a blank or an operator -/
  | bare
  /-- the delimiter of a here document, in which nothing is put in -/
  | delimiter
  /-- between double quotes, which may stand in braces -/
  | quoted (braced : Bool)
  /-- in braces that are not quoted -/
  | braces
  /-- in braces that are quoted; there may be quotes in them -/
  | doubled (inner : Bool)
  /-- a here document -/
  | document
  /-- arithmetic, with the number of parentheses that are open in it -/
  | arithmetic (depth : Nat)
deriving DecidableEq, Repr

namespace Setting

/-- Whether text is quoted there. -/
def isQuoted : Setting → Bool
  | .bare | .delimiter | .braces => false
  | _ => true

/-- Whether a character ends the row. -/
def ends : Setting → Char → Bool
  | .bare, c | .delimiter, c => " \t\n;&|<>()".toList.contains c
  | .quoted _, c => c == '\x22'
  | .braces, c | .doubled false, c => c == '\x7d'
  | _, _ => false

/-- Whether a character of text stands for itself. -/
def isPlain (s : Setting) (c : Char) : Bool :=
  !s.ends c && c != '\\' && c != '$' && c != '\x60' && c != '\x22' && (s.isQuoted || c != '\x27')
    && !(s matches .arithmetic _ && (c == '(' || c == ')'))

/-- Whether a backslash escapes a character. -/
def escapes : Setting → Char → Bool
  | .bare, _ | .delimiter, _ | .braces, _ => true
  | .quoted false, c | .arithmetic _, c => "$\x60\"\\".toList.contains c
  | .quoted true, c | .doubled _, c => "$\x60\"\\\x7d".toList.contains c
  | .document, c => "$\x60\\".toList.contains c

/-- Where the word in braces of a parameter stands. -/
def inner : Setting → Setting
  | .bare | .delimiter | .braces => .braces
  | _ => .doubled false

end Setting

/-- Names of one character. -/
def isSpecial (c : Char) : Bool := "@*#?-$!".toList.contains c || c.isDigit

/-- Text up to a closing single quote, and what is behind it. -/
def upToQuote (text : Bytes) : Option (Bytes × Bytes) :=
  let inside := text.takeWhile (· != '\x27')
  match text.drop inside.length with
  | _ :: rest => some (inside, rest)
  | [] => none

/-- The script between backquotes, with its escapes undone, and what is behind it. -/
def upToBackquote (quoted : Bool) : Bytes → Option (Bytes × Bytes)
  | [] => none
  | '\x60' :: rest => some ([], rest)
  | '\\' :: '\n' :: rest => upToBackquote quoted rest
  | '\\' :: c :: rest =>
    (upToBackquote quoted rest).map fun (text, rest) =>
      (if c = '\x60' || c = '\\' || c = '$' || (quoted && c = '\x22') then c :: text
        else '\\' :: c :: text, rest)
  | c :: rest => (upToBackquote quoted rest).map fun (text, rest) => (c :: text, rest)

/-- The assignment that a word is. -/
def assignment? : Word → Option (Bytes × Word)
  | .text false bytes :: more =>
    let name := bytes.takeWhile isNameChar
    let behind := bytes.drop name.length
    if isName name && behind.head? == some '=' then
      some (name, (if behind.length = 1 then [] else [.text false (behind.drop 1)]) ++ more)
    else none
  | _ => none

/-- The text of a word without its quotes. -/
def unquoted (w : Word) : Bytes :=
  w.flatMap fun
    | .text _ bytes => bytes
    | _ => []

/-- The commands that may not be names of functions. -/
def specialNames : List String :=
  [".", ":", "break", "continue", "eval", "exec", "exit", "export", "local", "readonly", "return",
    "set", "shift", "times", "trap", "unset"]

/-- The parts of a simple command. -/
structure Simple where
  assignments : List (Bytes × Word)
  words : List Word
  redirections : List Redirection

namespace Reader

/-- What is looked for where a command may begin. -/
def atCommand : Attention := { keywords := true, aliases := true }

/-- What is looked for where a command may begin behind line feeds. -/
def atCommandBelow : Attention := { newlines := true, keywords := true, aliases := true }

/-- The row of parts ends with the script. -/
def atEnd : Setting → Reader Word
  | .bare | .delimiter | .document => return []
  | .arithmetic _ => fail (.unclosed "Missing '))'")
  | .quoted _ | .doubled _ => fail .unterminatedQuote
  | .braces => fail (.unclosed "Missing '\x7d'")

/-- Pass digits of a parameter's name. -/
def digits : Reader Bytes := do
  let _ ← peek?
  let ds := (← get).rest.takeWhile Char.isDigit
  moveTo ((← get).rest.drop ds.length)
  return ds

/-- Pass characters of a parameter's name. -/
def nameChars : Reader Bytes := do
  let _ ← peek?
  let cs := (← get).rest.takeWhile isNameChar
  moveTo ((← get).rest.drop cs.length)
  let _ ← peek?
  let more := (← get).rest.takeWhile isNameChar
  moveTo ((← get).rest.drop more.length)
  return cs ++ more

/-- The use of a parameter that an operator behind its name says, as a function of a word; the
    operator is passed.  None if it is complete. -/
def useOf (s : Setting) : Reader (Option (Setting × (Word → Use))) := do
  let byLetter := fun (empty : Bool) (c : Option Char) =>
    match c with
    | some '-' => (s.inner, Use.orElse empty)
    | some '+' => (s.inner, Use.ifSet empty)
    | some '?' => (s.inner, Use.orFail empty)
    | some '=' => (s.inner, Use.assign empty)
    | _ => (s.inner, fun _ => Use.unknown)
  match ← next? with
  | some '\x7d' => return none
  | some ':' => return some (byLetter true (← next?))
  | some '%' =>
    if (← peek?) = some '%' then
      skip
      return some (.braces, .trimmed true true)
    else return some (.braces, .trimmed true false)
  | some '#' =>
    if (← peek?) = some '#' then
      skip
      return some (.braces, .trimmed false true)
    else return some (.braces, .trimmed false false)
  | c => return some (byLetter false c)

mutual

/-- Read parts up to the end of their row; what ends it is left. -/
def parts : Nat → Setting → Reader Word
  | 0, s => atEnd s
  | fuel + 1, s => do
    let text := (← get).rest
    let plain := text.takeWhile s.isPlain
    if !plain.isEmpty then
      moveOver plain (text.drop plain.length)
      return joinText s.isQuoted plain (← parts fuel s)
    match text with
    | [] => atEnd s
    | c :: rest =>
      if s.ends c then return []
      match c with
      | '\\' =>
        match rest with
        | [] =>
          moveTo []
          return joinText true ['\\'] (← parts fuel s)
        | '\n' :: rest =>
          moveOver ['\n'] rest
          parts fuel s
        | e :: rest =>
          moveTo rest
          return joinText true (if s.escapes e then [e] else ['\\', e]) (← parts fuel s)
      | '\x27' =>
        match upToQuote rest with
        | none =>
          moveOver rest []
          fail .unterminatedQuote
        | some (inside, rest) =>
          moveOver inside rest
          return joinText true inside (← parts fuel s)
      | '\x22' =>
        moveTo rest
        match s with
        | .document | .arithmetic _ => return joinText true ['\x22'] (← parts fuel s)
        | .doubled inner => return .text true [] :: (← parts fuel (.doubled !inner))
        | _ =>
          let inside ← parts fuel (.quoted (s = .braces))
          skip
          return .text true [] :: inside ++ (← parts fuel s)
      | '$' =>
        moveTo rest
        if s = .delimiter then return joinText false ['$'] (← parts fuel s)
        let p ← dollar fuel s
        let ps ← parts fuel s
        return match p with
          | [.text q bytes] => joinText q bytes ps
          | p => p ++ ps
      | '\x60' =>
        if s = .delimiter then
          moveTo rest
          return joinText false ['\x60'] (← parts fuel s)
        match upToBackquote s.isQuoted rest with
        | none =>
          moveOver rest []
          fail (.unclosed "EOF in backquote substitution")
        | some (script, behind) =>
          let outer ← get
          set (Source.ofText outer.aliases 1 script)
          let c ← list fuel true false
          set outer
          moveOver (rest.take (rest.length - behind.length)) behind
          return .output s.isQuoted c :: (← parts fuel s)
      | '(' =>
        moveTo rest
        match s with
        | .arithmetic depth => return joinText true ['('] (← parts fuel (.arithmetic (depth + 1)))
        | _ => return joinText s.isQuoted ['('] (← parts fuel s)
      | ')' =>
        moveTo rest
        match s with
        | .arithmetic (depth + 1) => return joinText true [')'] (← parts fuel (.arithmetic depth))
        | .arithmetic 0 =>
          if (← peek?) = some ')' then
            skip
            return []
          else return joinText true [')'] (← parts fuel s)
        | _ => return joinText s.isQuoted [')'] (← parts fuel s)
      | c =>
        moveTo rest
        return joinText s.isQuoted [c] (← parts fuel s)

/-- Read what is behind a dollar sign. -/
def dollar : Nat → Setting → Reader Word
  | 0, s => return [.text s.isQuoted ['$']]
  | fuel + 1, s => do
    let q := s.isQuoted
    match ← peek? with
    | some '(' =>
      skip
      if (← peek?) = some '(' then
        skip
        return [.arithmetic q (← parts fuel (.arithmetic 0))]
      else return [.output q (← substituted fuel)]
    | some '\x7b' =>
      skip
      inBraces fuel s
    | some c =>
      if isNameStart c then return [.parameter q (← nameChars) .value]
      else if isSpecial c then
        skip
        return [.parameter q [c] .value]
      else return [.text q ['$']]
    | none => return [.text q ['$']]

/-- Read a parameter in braces, behind the opening one. -/
def inBraces : Nat → Setting → Reader Word
  | 0, s => return [.text s.isQuoted ['$']]
  | fuel + 1, s => do
    let q := s.isQuoted
    let finish := fun (name : Bytes) (setting : Setting) (use : Word → Use) => do
      let w ← parts fuel setting
      skip
      return [Part.parameter q name (use w)]
    let withUse := fun (name : Bytes) => do
      match ← useOf s with
      | none => return [Part.parameter q name .value]
      | some (setting, use) => finish name setting use
    let measured := fun (name : Bytes) => do
      let use := if (← peek?) = some '\x7d' then Use.length else Use.unknown
      finish name s.inner fun _ => use
    let named : Reader (Option Bytes) := do
      match ← peek? with
      | some c =>
        if isNameStart c then return some (← nameChars)
        else if c.isDigit then return some (← digits)
        else return none
      | none => return none
    match ← named with
    | some name => withUse name
    | none =>
      match ← peek? with
      | some '#' =>
        skip
        match ← named with
        | some name => measured name
        | none =>
          let c ← peek?
          let before ← get
          skip
          if c ≠ some '\x7d' ∧ (← peek?) = some '\x7d' then
            match c with
            | some c => if isSpecial c then measured [c] else finish [] s.inner fun _ => .unknown
            | none => finish [] s.inner fun _ => .unknown
          else
            set before
            withUse ['#']
      | some c =>
        if isSpecial c then
          skip
          withUse [c]
        else
          if c ≠ '\x7d' then skip
          finish [] s.inner fun _ => .unknown
      | none => finish [] s.inner fun _ => .unknown

/-- Read a script in parentheses, behind the opening one. -/
def substituted : Nat → Reader (Option Command)
  | 0 => return none
  | fuel + 1 => do
    let outer ← get
    set { outer with pushed := none, attention := {} }
    let c ← list fuel true false
    match ← token fuel with
    | .operator ")" => pure ()
    | t => unexpected t (some "\")\"")
    modify fun s => { s with pushed := outer.pushed, attention := outer.attention }
    return c

/-- Read the next token as it stands. -/
def rawToken : Nat → Attention → Reader Token
  | 0, _ => return .finish
  | fuel + 1, a => do
    match (← get).pushed with
    | some t =>
      modify fun s => { s with pushed := none }
      return t
    | none =>
      match ← peek? with
      | none => return .finish
      | some c =>
        let either := fun (second : Char) (long short : String) => do
          skip
          if (← peek?) = some second then
            skip
            return Token.operator long
          else return Token.operator short
        match c with
        | ' ' | '\t' =>
          moveTo ((← get).rest.dropWhile isBlank)
          rawToken fuel a
        | '#' =>
          moveTo ((← get).rest.dropWhile (· != '\n'))
          rawToken fuel a
        | '\n' =>
          endLine
          return .newline
        | '&' => either '&' "&&" "&"
        | '|' => either '|' "||" "|"
        | ';' => either ';' ";;" ";"
        | '(' =>
          skip
          return .operator "("
        | ')' =>
          skip
          return .operator ")"
        | _ =>
          let w ← parts fuel (if a.delimiter then .delimiter else .bare)
          let number := match w with
            | [] => some none
            | [.text false [d]] => if d.isDigit then some (some (d.toNat - 48)) else none
            | _ => none
          match number, (← get).rest.head? with
          | some n, some '<' =>
            skip
            let at_ := n.getD 0
            match ← peek? with
            | some '<' =>
              skip
              if (← peek?) = some '-' then
                skip
                return .here at_ true
              else return .here at_ false
            | some '&' =>
              skip
              return .redirect at_ .duplicate
            | some '>' =>
              skip
              return .redirect at_ .readWrite
            | _ => return .redirect at_ .read
          | some n, some '>' =>
            skip
            let at_ := n.getD 1
            match ← peek? with
            | some '>' =>
              skip
              return .redirect at_ .append
            | some '|' =>
              skip
              return .redirect at_ .overwrite
            | some '&' =>
              skip
              return .redirect at_ .duplicate
            | _ => return .redirect at_ .write
          | _, _ => return .word w

/-- Read the next token and look for what is asked for in it. -/
def attentive : Nat → Attention → Reader Token
  | 0, _ => return .finish
  | fuel + 1, a => do
    let t ← rawToken fuel a
    match t with
    | .newline => if a.newlines then attentive fuel a else return t
    | .word w =>
      let extended ← dropAliases
      match literal? w with
      | some text =>
        if a.keywords then
          if let some k := keywords.find? fun k => k.toList = text then return .keyword k w
        if a.aliases || extended then
          if ← replaceAlias text then attentive fuel { a with aliases := true } else return t
        else return t
      | none => return t
    | t => return t

/-- Read the next token. -/
def token : Nat → Reader Token
  | 0 => return .finish
  | fuel + 1 => do
    let a := (← get).attention
    attend {}
    attentive fuel a

/-- Read the target of a redirection. -/
def target : Nat → Token → Reader Redirection
  | 0, t => unexpected t none
  | fuel + 1, .here n strips => do
    attend { delimiter := true }
    match ← token fuel with
    | .word w =>
      let text ← takeDocument strips (unquoted w)
      if isQuotedSomewhere w then return .mk n .document [.text true text]
      let outer ← get
      set { Source.ofText outer.aliases outer.line text with pushed := none }
      let body ← parts fuel .document
      set outer
      return .mk n .document (.text true [] :: body)
    | t => unexpected t none
  | fuel + 1, .redirect n mode => do
    match ← token fuel with
    | .word w => return .mk n mode w
    | t => unexpected t none
  | _ + 1, t => unexpected t none

/-- Read the parts of a simple command as long as they come. -/
def simpleParts : Nat → Attention → Simple → Reader (Simple × Option Command)
  | 0, _, s => return (s, none)
  | fuel + 1, a, s => do
    attend a
    match ← token fuel with
    | .word w =>
      match if a.aliases then assignment? w else none with
      | some assignment =>
        simpleParts fuel a { s with assignments := s.assignments ++ [assignment] }
      | none => simpleParts fuel {} { s with words := s.words ++ [w] }
    | .operator "(" =>
      match s with
      | ⟨[], [w], []⟩ =>
        match ← token fuel with
        | .operator ")" => pure ()
        | t => unexpected t (some "\")\"")
        let name := (literal? w).getD []
        if !isName name || specialNames.any (·.toList = name) then fail .badFunctionName
        attend atCommandBelow
        let line := (← get).line
        return (s, some (.define line name (← command fuel)))
      | _ =>
        unread (.operator "(")
        return (s, none)
    | t =>
      match t with
      | .redirect .. | .here .. =>
        let r ← target fuel t
        simpleParts fuel a { s with redirections := s.redirections ++ [r] }
      | _ =>
        unread t
        return (s, none)

/-- Read redirections as long as they come. -/
def redirections : Nat → Reader (List Redirection)
  | 0 => return []
  | fuel + 1 => do
    attend atCommand
    let t ← token fuel
    match t with
    | .redirect .. | .here .. =>
      let r ← target fuel t
      return r :: (← redirections fuel)
    | _ =>
      unread t
      return []

/-- Read commands up to the end of their list.  One that may be empty ends at once at what ends
    lists; one that is a single line ends with it. -/
def list : Nat → Bool → Bool → Reader (Option Command)
  | 0, _, _ => return none
  | fuel + 1, mayBeEmpty, isLine => listFrom fuel mayBeEmpty isLine none

/-- Read on a list of which commands have been read. -/
def listFrom : Nat → Bool → Bool → Option Command → Reader (Option Command)
  | 0, _, _, done => return done
  | fuel + 1, mayEnd, isLine, done => do
    attend (if isLine then atCommand else atCommandBelow)
    let t ← token fuel
    match t with
    | .newline => return done
    | .finish =>
      unread t
      if mayEnd || isLine || done.isSome then return done else return some .nothing
    | _ =>
      unread t
      if mayEnd && !isLine && t.endsList then return done
      let c ← andOr fuel
      let t ← token fuel
      let c := match t, c with
        | .operator "&", .pipeline stages _ => .pipeline stages true
        | .operator "&", .redirected line body rs => .background line body rs
        | .operator "&", c => .background 0 c []
        | _, c => c
      let done := some (match done with
        | some d => .sequence d c
        | none => c)
      match t with
      | .finish =>
        unread t
        return done
      | .newline =>
        unread t
        listFrom fuel true isLine done
      | .operator "&" | .operator ";" => listFrom fuel true isLine done
      | _ =>
        if isLine then unexpected t none
        unread t
        return done

/-- Read a list of commands that may not be empty. -/
def body : Nat → Reader Command
  | 0 => return .nothing
  | fuel + 1 => do return (← list fuel false false).getD .nothing

/-- Read pipelines joined by conditions. -/
def andOr : Nat → Reader Command
  | 0 => return .nothing
  | fuel + 1 => do moreAndOr fuel (← pipeline fuel)

/-- Read what is joined to a command by conditions. -/
def moreAndOr : Nat → Command → Reader Command
  | 0, c => return c
  | fuel + 1, c => do
    match ← token fuel with
    | .operator "&&" =>
      attend atCommandBelow
      moreAndOr fuel (.both c (← pipeline fuel))
    | .operator "||" =>
      attend atCommandBelow
      moreAndOr fuel (.either c (← pipeline fuel))
    | t =>
      unread t
      return c

/-- Read a pipeline. -/
def pipeline : Nat → Reader Command
  | 0 => return .nothing
  | fuel + 1 => do
    let t ← token fuel
    let negates := t matches .keyword "!" _
    if negates then attend atCommand else unread t
    let stages ← stages fuel
    let c := match stages with
      | [c] => c
      | cs => .pipeline cs false
    return if negates then .negated c else c

/-- Read commands joined by pipes. -/
def stages : Nat → Reader (List Command)
  | 0 => return []
  | fuel + 1 => do
    let c ← command fuel
    match ← token fuel with
    | .operator "|" =>
      attend atCommandBelow
      return c :: (← stages fuel)
    | t =>
      unread t
      return [c]

/-- Pass a token that has to come next. -/
def expect : Nat → String → Reader Unit
  | 0, _ => return ()
  | fuel + 1, name => do
    match ← token fuel with
    | .keyword k w =>
      if k ≠ name then unexpected (.keyword k w) (some ("\"" ++ name ++ "\""))
    | .operator o =>
      if o ≠ name then unexpected (.operator o) (some ("\"" ++ name ++ "\""))
    | t => unexpected t (some ("\"" ++ name ++ "\""))

/-- Read a command with its redirections. -/
def command : Nat → Reader Command
  | 0 => return .nothing
  | fuel + 1 => do
    let t ← token fuel
    let line := (← get).line
    let whole := fun (c : Command) => do
      match ← redirections fuel with
      | [] => return c
      | rs => return match c with
        | .subshell line body _ => .subshell line body rs
        | c => .redirected line c rs
    match t with
    | .keyword "if" _ => whole (← branch fuel)
    | .keyword "while" _ =>
      let condition ← body fuel
      whole (.loop true condition (← doBody fuel))
    | .keyword "until" _ =>
      let condition ← body fuel
      whole (.loop false condition (← doBody fuel))
    | .keyword "for" _ => whole (← eachLoop fuel line)
    | .keyword "case" _ => whole (← choice fuel line)
    | .keyword "\x7b" _ =>
      let c ← body fuel
      expect fuel "\x7d"
      whole c
    | .operator "(" =>
      let c ← body fuel
      expect fuel ")"
      whole (.subshell line c [])
    | .word _ | .redirect .. | .here .. =>
      unread t
      let (s, definition) ← simpleParts fuel { aliases := true } ⟨[], [], []⟩
      return definition.getD (.simple line s.assignments s.words s.redirections)
    | t => unexpected t none

/-- Read the body of a loop. -/
def doBody : Nat → Reader Command
  | 0 => return .nothing
  | fuel + 1 => do
    expect fuel "do"
    let c ← body fuel
    expect fuel "done"
    return c

/-- Read what is behind the word that begins a condition. -/
def branch : Nat → Reader Command
  | 0 => return .nothing
  | fuel + 1 => do
    let condition ← body fuel
    expect fuel "then"
    let c ← body fuel
    match ← token fuel with
    | .keyword "elif" _ => return .branch condition c (some (← branch fuel))
    | .keyword "else" _ =>
      let otherwise ← body fuel
      expect fuel "fi"
      return .branch condition c (some otherwise)
    | t =>
      unread t
      expect fuel "fi"
      return .branch condition c none

/-- Read what is behind the word that begins a loop over words. -/
def eachLoop : Nat → Nat → Reader Command
  | 0, _ => return .nothing
  | fuel + 1, line => do
    let name ← match ← token fuel with
      | .word w =>
        match literal? w with
        | some name => if isName name then pure name else fail .badLoopVariable
        | none => fail .badLoopVariable
      | _ => fail .badLoopVariable
    attend atCommandBelow
    let words ← match ← token fuel with
      | .keyword "in" _ => do
        let (words, t) ← wordsUpTo fuel
        match t with
        | .newline | .operator ";" => pure ()
        | t => unexpected t none
        pure words
      | .operator ";" => pure [[.parameter true ['@'] .value]]
      | t => do
        unread t
        pure [[.parameter true ['@'] .value]]
    attend atCommandBelow
    return .each line name words (← doBody fuel)

/-- Read words as long as they come, and the token behind them. -/
def wordsUpTo : Nat → Reader (List Word × Token)
  | 0 => return ([], .finish)
  | fuel + 1 => do
    match ← token fuel with
    | .word w =>
      let (ws, t) ← wordsUpTo fuel
      return (w :: ws, t)
    | t => return ([], t)

/-- Read what is behind the word that begins a choice. -/
def choice : Nat → Nat → Reader Command
  | 0, _ => return .nothing
  | fuel + 1, line => do
    match ← token fuel with
    | .word subject =>
      attend atCommandBelow
      expect fuel "in"
      return .choose line subject (← clauses fuel)
    | t => unexpected t (some "word")

/-- Read the clauses of a choice. -/
def clauses : Nat → Reader (List (List Word × Option Command))
  | 0 => return []
  | fuel + 1 => do
    attend { newlines := true, keywords := true }
    match ← token fuel with
    | .keyword "esac" _ => return []
    | t =>
      let first ← match t with
        | .operator "(" => token fuel
        | t => pure t
      let ps ← patterns fuel first
      let c ← list fuel true false
      attend { newlines := true, keywords := true }
      match ← token fuel with
      | .keyword "esac" _ => return [(ps, c)]
      | .operator ";;" => return (ps, c) :: (← clauses fuel)
      | t => unexpected t (some "\";;\"")

/-- Read patterns joined by bars, of which the first has been read, and the parenthesis behind
    them. -/
def patterns : Nat → Token → Reader (List Word)
  | 0, _ => return []
  | fuel + 1, t => do
    let w ← match t with
      | .word w | .keyword _ w => pure w
      | t => unexpected t (some "\")\"")
    match ← token fuel with
    | .operator "|" => return w :: (← patterns fuel (← token fuel))
    | .operator ")" => return [w]
    | t => unexpected t (some "\")\"")

end

end Reader

/-- How deep a text may be nested at most. -/
def nestingOf (text : Bytes) : Nat := 64 * text.length + 100000

/-- A complete command of a script. -/
inductive Line where
  /-- there is none left -/
  | finish
  /-- a command, if the line is not empty, and whether the script ends with it -/
  | command (c : Option Command) (isLast : Bool)

/-- Read the next complete command of a script. -/
def Source.nextLine (s : Source) : Except Misread (Line × Source) := do
  let fuel := nestingOf s.rest
  let read : Reader Line := do
    match ← Reader.list fuel true true with
    | none => return if (← get).pushed matches some .finish then .finish else .command none false
    | some c => return .command (some c) ((← get).pushed matches some .finish)
  read.run { s with pushed := none, attention := {} }

end SyncFleet.Shell

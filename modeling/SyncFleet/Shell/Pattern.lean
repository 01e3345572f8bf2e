/-
  SyncFleet/Shell/Pattern.lean
  ============================
  **Patterns, and what they match.**

  A star matches any text, a question mark any byte, and brackets a byte of a
  set.  What is quoted matches itself, and so does what stands behind a
  backslash.
-/
import SyncFleet.Unix.Bytes

namespace SyncFleet.Shell

open Unix

/-- A member of a bracketed set: a byte, or a range of bytes. -/
structure Span where
  least : Char
  greatest : Char
deriving DecidableEq, Repr

/-- An element of a pattern. -/
inductive Glob where
  | one (c : Char)
  | any
  | star
  | set (negated : Bool) (spans : List Span) (classes : List String)
deriving DecidableEq, Repr

/-- A byte of a pattern, which may be quoted. -/
abbrev PatternByte := Char × Bool

/-- The name of a class at the start of a set's text, written between colons in brackets. -/
def className? (b : List PatternByte) : Option (String × List PatternByte) :=
  match b with
  | ('[', _) :: (':', _) :: rest =>
    let name := (rest.map Prod.fst).takeWhile Char.isAlpha
    match rest.drop name.length with
    | (':', _) :: (']', _) :: rest =>
      if classNames.contains (String.ofList name) then some (String.ofList name, rest) else none
    | _ => none
  | _ => none

/-- A byte of a set at the start of a text, which may stand behind a backslash. -/
def memberAt? : List PatternByte → Option (Char × List PatternByte)
  | ('\\', false) :: (c, _) :: rest => some (c, rest)
  | (c, _) :: rest => some (c, rest)
  | [] => none

/-- Read the members of a set up to its closing bracket, at most `fuel`. -/
def members? : Nat → Bool → List PatternByte → List Span → List String →
    Option (List Span × List String × List PatternByte)
  | 0, _, _, _, _ => none
  | fuel + 1, first, b, spans, classes =>
    match className? b with
    | some (name, rest) => members? fuel false rest spans (name :: classes)
    | none =>
      match b with
      | (']', false) :: rest =>
        if first then members? fuel false rest (⟨']', ']'⟩ :: spans) classes
        else some (spans, classes, rest)
      | _ =>
        match memberAt? b with
        | none => none
        | some (x, ('-', false) :: rest) =>
          match rest with
          | (']', false) :: _ => members? fuel false (('-', true) :: rest) (⟨x, x⟩ :: spans) classes
          | _ =>
            match memberAt? rest with
            | some (y, rest) => members? fuel false rest (⟨x, y⟩ :: spans) classes
            | none => none
        | some (x, rest) => members? fuel false rest (⟨x, x⟩ :: spans) classes

/-- Read a pattern of at most `fuel` elements. -/
def globsFrom : Nat → List PatternByte → List Glob
  | 0, _ => []
  | _, [] => []
  | fuel + 1, (c, true) :: rest => .one c :: globsFrom fuel rest
  | fuel + 1, ('*', false) :: rest => .star :: globsFrom fuel rest
  | fuel + 1, ('?', false) :: rest => .any :: globsFrom fuel rest
  | fuel + 1, ('\\', false) :: (c, _) :: rest => .one c :: globsFrom fuel rest
  | fuel + 1, ('[', false) :: rest =>
    let (negated, inner) := match rest with
      | ('!', false) :: r => (true, r)
      | r => (false, r)
    match members? fuel true inner [] [] with
    | some (spans, classes, rest) => .set negated spans classes :: globsFrom fuel rest
    | none => .one '[' :: globsFrom fuel rest
  | fuel + 1, (c, false) :: rest => .one c :: globsFrom fuel rest

/-- Read a pattern. -/
def globs (b : List PatternByte) : List Glob := globsFrom (b.length + 1) b

/-- Whether an element other than a star matches a byte. -/
def Glob.accepts (c : Char) : Glob → Bool
  | .one x => x == c
  | .any => true
  | .star => false
  | .set negated spans classes =>
    (spans.any (fun s => s.least ≤ c && c ≤ s.greatest) || classes.any (inClass · c)) != negated

/-- The ends of a text, behind others, the shortest first. -/
def endsOnto (longer : List Bytes) : Bytes → List Bytes
  | [] => [] :: longer
  | c :: rest => endsOnto ((c :: rest) :: longer) rest

/-- What may be left behind an element, of texts that may be left in front of it.  The texts are
    ends of one text, the longest first. -/
def Glob.leaves (rests : List Bytes) : Glob → List Bytes
  | .star =>
    match rests with
    | [] => []
    | longest :: _ => (endsOnto [] longest).reverse
  | g => rests.filterMap fun
    | c :: rest => if g.accepts c then some rest else none
    | [] => none

/-- What a pattern may leave of a text, the longest first. -/
def leftBehind (ps : List Glob) (text : Bytes) : List Bytes := ps.foldl Glob.leaves [text]

/-- Whether a pattern matches a whole text. -/
def globMatches (ps : List Glob) (text : Bytes) : Bool := (leftBehind ps text).any List.isEmpty

/-- A text without the shortest or longest beginning that a pattern matches. -/
def trimStart (longest : Bool) (ps : List Glob) (text : Bytes) : Bytes :=
  let rests := leftBehind ps text
  ((if longest then rests.getLast? else rests.head?)).getD text

/-- A text without the shortest or longest end that a pattern matches. -/
def trimEnd (longest : Bool) (ps : List Glob) (text : Bytes) : Bytes :=
  (trimStart longest ps.reverse text.reverse).reverse

end SyncFleet.Shell

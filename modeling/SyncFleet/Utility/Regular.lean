/-
  SyncFleet/Utility/Regular.lean
  ==============================
  **Basic regular expressions.**

  Parentheses, braces and the signs for alternatives and repetitions stand
  behind backslashes, a star does not.  Of the texts that an expression
  matches at a place, the longest counts.
-/
import SyncFleet.Unix.Bytes

namespace SyncFleet.Utility

open Unix

/-- A regular expression. -/
inductive Regular where
  | empty
  | byte (c : Char)
  | any
  /-- a byte in ranges and classes, or one that is not -/
  | oneOf (isNot : Bool) (ranges : List (Char × Char)) (classes : List String)
  | start
  | stop
  /-- a place between a byte of a word and one that is none; which of them comes first -/
  | wordEdge (before behind : Option Bool)
  | group (n : Nat) (inner : Regular)
  /-- what a group has matched -/
  | again (n : Nat)
  | star (inner : Regular)
  | both (first second : Regular)
  | either (first second : Regular)
deriving Repr

namespace Regular

/-! ### Reading -/

/-- A byte of a word. -/
def isWordByte (c : Char) : Bool := c.isAlphanum || c == '_'

/-- What is read, how many groups there are, and the groups that are complete. -/
structure Reader where
  rest : Bytes
  groups : Nat
  complete : List Nat

/-- A step of reading, which may find the expression wrong. -/
abbrev Reading := ExceptT String (StateM Reader)

/-- The end of a bracketed item, at most `fuel` bytes away: the item and what is behind it. -/
def itemEnd (mark : Char) : Nat → Bytes → Bytes → Option (Bytes × Bytes)
  | 0, _, _ => none
  | _, _, [] => none
  | fuel + 1, done, c :: rest =>
    if c = mark && rest.head? = some ']' then some (done.reverse, rest.drop 1)
    else itemEnd mark fuel (c :: done) rest

/-- An element of a bracket expression: a byte or a class. -/
def elementAt (text : Bytes) : Except String ((Char ⊕ String) × Bytes) :=
  match text with
  | '[' :: ':' :: rest =>
    match itemEnd ':' (rest.length + 1) [] rest with
    | some (name, rest) =>
      if classNames.contains name.name then .ok (.inr name.name, rest)
      else .error "Invalid character class name"
    | none => .ok (.inl '[', ':' :: rest)
  | '[' :: m :: rest =>
    if m = '.' || m = '=' then
      match itemEnd m (rest.length + 1) [] rest with
      | some ([c], rest) => .ok (.inl c, rest)
      | some _ => .error "Invalid collation character"
      | none => .error "Unmatched [, [^, [:, [., or [="
    else .ok (.inl '[', m :: rest)
  | c :: rest => .ok (.inl c, rest)
  | [] => .error "Unmatched [, [^, [:, [., or [="

/-- The rest of a bracket expression, of at most `fuel` elements. -/
def bracketAt (isNot : Bool) :
    Nat → Bool → Bytes → List (Char × Char) → List String → Except String (Regular × Bytes)
  | 0, _, _, _, _ => .error "Unmatched [, [^, [:, [., or [="
  | _, _, [], _, _ => .error "Unmatched [, [^, [:, [., or [="
  | fuel + 1, isFirst, text, ranges, classes => do
    if !isFirst && text.head? = some ']' then
      return (.oneOf isNot ranges.reverse classes, text.drop 1)
    let (e, rest) ← elementAt text
    match e, rest with
    | .inr name, rest => bracketAt isNot fuel false rest ranges (name :: classes)
    | .inl a, '-' :: more =>
      if more.head? = some ']' then bracketAt isNot fuel false rest ((a, a) :: ranges) classes
      else
        match ← elementAt more with
        | (.inl b, rest) =>
          if b < a then throw "Invalid range end"
          bracketAt isNot fuel false rest ((a, b) :: ranges) classes
        | (.inr _, _) => throw "Invalid range end"
    | .inl a, rest => bracketAt isNot fuel false rest ((a, a) :: ranges) classes

/-- An expression some times over. -/
def times (r : Regular) : Nat → Regular
  | 0 => .empty
  | 1 => r
  | n + 1 => .both r (times r n)

/-- An expression at most some times over. -/
def atMost (r : Regular) : Nat → Regular
  | 0 => .empty
  | n + 1 => .either (.both r (atMost r n)) .empty

/-- How often an expression may be repeated at most. -/
def mostRepeats : Nat := 32767

/-- The bounds of a repetition, up to what ends them. -/
def boundsAt (text : Bytes) : Except String (Nat × Option Nat × Bytes) :=
  let (least, n, rest) := digitsAt 10 text
  match rest with
  | '\\' :: '\x7d' :: rest =>
    if n = 0 then .error "Invalid preceding regular expression"
    else if mostRepeats < least then .error "Regular expression too big"
    else .ok (least, some least, rest)
  | ',' :: more =>
    let (most, m, rest) := digitsAt 10 more
    match rest with
    | '\\' :: '\x7d' :: rest =>
      if mostRepeats < max least most then .error "Regular expression too big"
      else if m ≠ 0 && most < least then .error "Invalid content of \\\x7b\\\x7d"
      else .ok (least, if m = 0 then none else some most, rest)
    | [] => .error "Unmatched \\\x7b"
    | _ => .error "Invalid content of \\\x7b\\\x7d"
  | [] => .error "Unmatched \\\x7b"
  | _ => .error "Invalid content of \\\x7b\\\x7d"

/-- The repetitions behind an expression, at most `fuel`. -/
def repeated : Nat → Regular → Reading Regular
  | 0, r => return r
  | fuel + 1, r => do
    match (← get).rest with
    | '*' :: rest =>
      modify fun s => { s with rest }
      repeated fuel (.star r)
    | '\\' :: '+' :: rest =>
      modify fun s => { s with rest }
      repeated fuel (.both r (.star r))
    | '\\' :: '?' :: rest =>
      modify fun s => { s with rest }
      repeated fuel (.either r .empty)
    | '\\' :: '\x7b' :: rest =>
      let (least, most, rest) ← boundsAt rest
      modify fun s => { s with rest }
      repeated fuel (.both (times r least) (match most with
        | none => .star r
        | some n => atMost r (n - least)))
    | _ => return r

mutual

/-- Read alternatives, at most `fuel` levels and pieces. -/
def alternatives (inGroup : Bool) : Nat → Reading Regular
  | 0 => throw "Regular expression too big"
  | fuel + 1 => do
    let first ← sequence inGroup true fuel .empty
    match (← get).rest with
    | '\\' :: '|' :: rest =>
      modify fun s => { s with rest }
      return .either first (← alternatives inGroup fuel)
    | _ => return first

/-- Read pieces one after the other, behind those that have been read. -/
def sequence (inGroup isFirst : Bool) : Nat → Regular → Reading Regular
  | 0, _ => throw "Regular expression too big"
  | fuel + 1, done => do
    let s ← get
    let go := fun (isFirst : Bool) (r : Regular) (rest : Bytes) => do
      modify fun s => { s with rest }
      sequence inGroup isFirst fuel (.both done r)
    let piece := fun (r : Regular) (rest : Bytes) => do
      modify fun s => { s with rest }
      let r ← repeated (rest.length + 1) r
      sequence inGroup false fuel (.both done r)
    match s.rest with
    | [] => return done
    | ['\\'] => throw "Trailing backslash"
    | '\\' :: '|' :: _ => return done
    | '\\' :: ')' :: _ => if inGroup then return done else throw "Unmatched ) or \\)"
    | '\\' :: '(' :: rest =>
      let n := s.groups + 1
      set { s with rest, groups := n }
      let inner ← alternatives true fuel
      match (← get).rest with
      | '\\' :: ')' :: rest =>
        modify fun s => { s with complete := n :: s.complete }
        piece (.group n inner) rest
      | _ => throw "Unmatched ( or \\("
    | '\\' :: '\x7b' :: rest =>
      if isFirst then piece (.byte '\x7b') rest else throw "Invalid preceding regular expression"
    | '\\' :: c :: rest =>
      match c with
      | 'w' => piece (.oneOf false [('_', '_')] ["alnum"]) rest
      | 'W' => piece (.oneOf true [('_', '_')] ["alnum"]) rest
      | 's' => piece (.oneOf false [] ["space"]) rest
      | 'S' => piece (.oneOf true [] ["space"]) rest
      | '<' => go false (.wordEdge (some false) (some true)) rest
      | '>' => go false (.wordEdge (some true) (some false)) rest
      | 'b' =>
        go false (.either (.wordEdge (some false) (some true))
          (.wordEdge (some true) (some false))) rest
      | 'B' =>
        go false (.either (.wordEdge (some true) (some true))
          (.wordEdge (some false) (some false))) rest
      | '\x60' => go false .start rest
      | '\x27' => go false .stop rest
      | c =>
        if '1' ≤ c && c ≤ '9' then
          let n := c.toNat - 48
          if !s.complete.contains n then throw "Invalid back reference"
          piece (.again n) rest
        else piece (.byte c) rest
    | '*' :: rest => if isFirst then piece (.byte '*') rest else go false (.byte '*') rest
    | '^' :: rest => if isFirst then go true .start rest else piece (.byte '^') rest
    | '$' :: rest =>
      let isLast := match rest with
        | [] | '\\' :: '|' :: _ => true
        | '\\' :: ')' :: _ => inGroup
        | _ => false
      if isLast then go false .stop rest else piece (.byte '$') rest
    | '.' :: rest => piece .any rest
    | '[' :: rest =>
      let (isNot, rest) := match rest with
        | '^' :: rest => (true, rest)
        | rest => (false, rest)
      let (r, rest) ← bracketAt isNot (rest.length + 1) true rest [] []
      piece r rest
    | c :: rest => piece (.byte c) rest

end

/-- The expression that a text spells, and how many groups it has, or what is wrong with it. -/
def ofBytes (text : Bytes) : Except String (Regular × Nat) :=
  match (alternatives false (2 * text.length + 4)).run ⟨text, 0, []⟩ with
  | (.ok r, s) => .ok (r, s.groups)
  | (.error e, _) => .error e

/-! ### Matching -/

/-- A place in a text, with what the groups have matched, the newest first. -/
structure Place where
  /-- the byte in front -/
  before : Option Char
  rest : Bytes
  position : Nat
  groups : List (Nat × Bytes)

/-- Whether an expression says that something comes again. -/
def isRecalling : Regular → Bool
  | .again _ => true
  | .group _ r | .star r => isRecalling r
  | .both a b | .either a b => isRecalling a || isRecalling b
  | _ => false

/-- Whether two places are the same. -/
def Place.same (recalls : Bool) (p q : Place) : Bool :=
  p.position == q.position && (!recalls || p.groups == q.groups)

/-- Places without repeats. -/
def distinctPlaces (recalls : Bool) (places : List Place) : List Place :=
  (places.foldl (fun (kept : List Place) p =>
    if kept.any (p.same recalls) then kept else p :: kept) []).reverse

/-- The place behind a byte. -/
def Place.next (p : Place) : Place :=
  { p with before := p.rest.head?, rest := p.rest.drop 1, position := p.position + 1 }

/-- The place behind some bytes. -/
def Place.skip : Nat → Place → Place
  | 0, p => p
  | n + 1, p => p.next.skip n

/-- Whether a byte is in ranges or classes. -/
def isOneOf (ranges : List (Char × Char)) (classes : List String) (c : Char) : Bool :=
  ranges.any (fun (a, b) => a ≤ c && c ≤ b) || classes.any fun name => inClass name c

/-- Visit places that lead to each other by a step, at most `fuel` deep: those that have been seen,
    and all places, of which the farthest come first, in reverse. -/
def closure (recalls : Bool) (step : Place → List Place) :
    Nat → List Place × List Place → Place → List Place × List Place
  | 0, seen, _ => seen
  | fuel + 1, (seen, done), p =>
    if seen.any (p.same recalls) then (seen, done)
    else
      let (seen, done) := (step p).foldl (closure recalls step fuel) (p :: seen, done)
      (seen, p :: done)

/-- The places to which an expression leads, the preferred ones first. -/
def placesBehind (recalls : Bool) : Regular → Place → List Place
  | .empty, p => [p]
  | .byte c, p => if p.rest.head? = some c then [p.next] else []
  | .any, p => if p.rest.isEmpty then [] else [p.next]
  | .oneOf isNot ranges classes, p =>
    match p.rest with
    | c :: _ => if isOneOf ranges classes c != isNot then [p.next] else []
    | [] => []
  | .start, p => if p.position = 0 then [p] else []
  | .stop, p => if p.rest.isEmpty then [p] else []
  | .wordEdge before behind, p =>
    let fits := fun (wanted : Option Bool) (c : Option Char) =>
      wanted.all (· == c.any isWordByte)
    if fits before p.before && fits behind p.rest.head? then [p] else []
  | .group n r, p =>
    (placesBehind recalls r p).map fun q =>
      { q with groups := (n, p.rest.take (q.position - p.position)) :: q.groups }
  | .again n, p =>
    match p.groups.lookup n with
    | some text => if text.isPrefixOf p.rest then [p.skip text.length] else []
    | none => []
  | .star r, p =>
    let step := fun (q : Place) =>
      (placesBehind recalls r q).filter fun x => q.position < x.position
    (closure recalls step (p.rest.length + 2) ([], []) p).2.reverse
  | .both a b, p =>
    distinctPlaces recalls ((placesBehind recalls a p).flatMap (placesBehind recalls b))
  | .either a b, p =>
    distinctPlaces recalls (placesBehind recalls a p ++ placesBehind recalls b p)

/-- The place behind the longest text that an expression matches at a place. -/
def matchAt (r : Regular) (p : Place) : Option Place :=
  (placesBehind r.isRecalling r p).foldl (fun best q =>
    match best with
    | some b => if b.position < q.position then some q else some b
    | none => some q) none

/-- The place behind the longest text that an expression matches at the start of a text. -/
def matchStart (r : Regular) (text : Bytes) : Option Place := matchAt r ⟨none, text, 0, []⟩

/-- The first place of a text at which an expression matches, at most `fuel` bytes away, and the
    place behind the match. -/
def searchFrom (r : Regular) : Nat → Place → Option (Place × Place)
  | 0, _ => none
  | fuel + 1, p =>
    match matchAt r p with
    | some q => some (p, q)
    | none => if p.rest.isEmpty then none else searchFrom r fuel p.next

/-- Whether an expression matches some part of a text. -/
def occursIn (r : Regular) (text : Bytes) : Bool :=
  (searchFrom r (text.length + 1) ⟨none, text, 0, []⟩).isSome

end Regular

end SyncFleet.Utility

/-
  SyncFleet/Yaml/Node.lean
  ========================
  **The nodes of a YAML document.**

  A document is one node.  Anchors give nodes numbers by which aliases refer
  to them.  The number of an anchor is how many different names there were
  before it, so a name that is used again may share its number with a later
  one; an alias then means the node that began last.
-/
import SyncFleet.Yaml.Token

namespace SyncFleet.Yaml

/-- A node of a document. -/
inductive Node where
  /-- what the anchor of this number marks -/
  | alias (anchor : Nat)
  | scalar (tag : Option Tag) (style : Style) (text : String)
  | sequence (tag : Option Tag) (items : List Node)
  | mapping (tag : Option Tag) (entries : List (Node × Node))
deriving Repr

namespace Node

/-- The plain scalar without text that stands where nothing is written. -/
def blank : Node := .scalar none .plain ""

mutual

/-- The number of events that a node comes to: one for what has no parts, and two for the ends
    of what has. -/
def events : Node → Nat
  | .alias _ => 1
  | .scalar _ _ _ => 1
  | .sequence _ items => eventsOfItems items + 2
  | .mapping _ entries => eventsOfEntries entries + 2

def eventsOfItems : List Node → Nat
  | [] => 0
  | n :: ns => n.events + eventsOfItems ns

def eventsOfEntries : List (Node × Node) → Nat
  | [] => 0
  | (k, v) :: es => k.events + v.events + eventsOfEntries es

end

end Node

/-! ### Anchors -/

/-- The anchors of a document. -/
structure Anchors where
  /-- the number of each name -/
  names : List (String × Nat)
  /-- the numbers of the anchored nodes, in the order in which the nodes begin -/
  begun : List Nat
  /-- the anchored nodes that are complete, by their place in that order -/
  nodes : List (Nat × Node)
deriving Repr

namespace Anchors

/-- No anchors. -/
def none : Anchors := ⟨[], [], []⟩

/-- Begin a node with an anchor. -/
def begin (a : Anchors) (name : String) : Anchors :=
  let number := a.names.length
  ⟨(name, number) :: a.names.filter (·.1 ≠ name), a.begun ++ [number], a.nodes⟩

/-- The place of the node that began last with a number. -/
def placeOf? (a : Anchors) (number : Nat) : Option Nat :=
  (a.begun.zipIdx.filter (·.1 = number)).getLast?.map Prod.snd

/-- The node that an alias of a number means. -/
def target? (a : Anchors) (number : Nat) : Option Node :=
  (a.placeOf? number).bind fun i => a.nodes.lookup i

end Anchors

/-! ### Reading nodes from tokens -/

/-- The tokens that are still to be read, and the anchors so far. -/
structure Progress where
  tokens : List Token
  anchors : Anchors
deriving Repr

/-- A reader of a part of a document. -/
abbrev Reader := StateT Progress Option

/-- What the handles of tags stand for. -/
abbrev Handles := List (String × Tag)

namespace Reader

/-- The next token. -/
def next? : Reader (Option Token) := do return (← get).tokens.head?

/-- Pass a token. -/
def skip : Reader Unit := modify fun p => { p with tokens := p.tokens.tail }

/-- Whether the next token is one of those given. -/
def isAt (ts : List Token) : Reader Bool := do return (← next?).any ts.contains

/-- Pass a token if it is the next one. -/
def accept (t : Token) : Reader Bool := do
  if (← next?) = some t then
    skip
    return true
  else return false

/-- Pass a token that has to be there. -/
def expect (t : Token) : Reader Unit := do
  if !(← accept t) then failure

/-- Pass an anchor. -/
def anchor? : Reader (Option String) := do
  match ← next? with
  | some (.anchor name) =>
    skip
    return some name
  | _ => return none

/-- Pass a tag. -/
def tag? (handles : Handles) : Reader (Option Tag) := do
  match ← next? with
  | some (.tag ⟨none, text⟩) =>
    skip
    return some text
  | some (.tag ⟨some handle, suffix⟩) =>
    skip
    match handles.lookup handle with
    | some text => return some (text ++ suffix)
    | none => failure
  | _ => return none

/-- Pass an anchor and a tag, in either order. -/
def properties (handles : Handles) : Reader (Option String × Option Tag) := do
  match ← anchor? with
  | some name => return (some name, ← tag? handles)
  | none =>
    match ← tag? handles with
    | some text => return (← anchor?, some text)
    | none => return (none, none)

/-- Note that a node with an anchor begins: the place to give it to when it is complete. -/
def beginNode (anchor : Option String) : Reader (Option Nat) := do
  match anchor with
  | none => return none
  | some name =>
    let p ← get
    set { p with anchors := p.anchors.begin name }
    return some p.anchors.begun.length

/-- Note that a node is complete. -/
def endNode (place : Option Nat) (n : Node) : Reader Node := do
  match place with
  | none => return n
  | some i =>
    modify fun p => { p with anchors := { p.anchors with nodes := (i, n) :: p.anchors.nodes } }
    return n

/-- A node of which nothing but its properties is written. -/
def absent (anchor : Option String) (tag : Option Tag) : Reader Node := do
  if anchor.isNone ∧ tag.isNone then failure
  else endNode (← beginNode anchor) (.scalar tag .plain "")

/-- Where a node stands: inside brackets, in a block, or as the key or value of a block mapping,
    where the items of a sequence need not be indented. -/
inductive Site where
  | flow
  | block
  | entry
deriving DecidableEq, Repr

mutual

/-- Read a node. -/
def node (handles : Handles) : Nat → Site → Reader Node
  | 0, _ => failure
  | fuel + 1, site => do
    match ← next? with
    | some (.alias name) =>
      skip
      match (← get).anchors.names.lookup name with
      | some number => return .alias number
      | none => failure
    | _ =>
      let (anchor, tag) ← properties handles
      let t ← next?
      if site = .entry ∧ t = some .item then
        let place ← beginNode anchor
        endNode place (.sequence tag (← looseItems handles fuel))
      else match t with
        | some (.scalar style text) =>
          let place ← beginNode anchor
          skip
          endNode place (.scalar tag style text)
        | some .openSequence =>
          let place ← beginNode anchor
          skip
          endNode place (.sequence tag (← flowItems handles fuel true))
        | some .openMapping =>
          let place ← beginNode anchor
          skip
          endNode place (.mapping tag (← flowEntries handles fuel true))
        | some .openBlockSequence =>
          if site = .flow then absent anchor tag
          else
            let place ← beginNode anchor
            skip
            endNode place (.sequence tag (← blockItems handles fuel))
        | some .openBlockMapping =>
          if site = .flow then absent anchor tag
          else
            let place ← beginNode anchor
            skip
            endNode place (.mapping tag (← blockEntries handles fuel))
        | _ => absent anchor tag

/-- Read a node unless one of the given tokens shows that nothing is written. -/
def nodeUnless (handles : Handles) : Nat → Site → List Token → Reader Node
  | 0, _, _ => failure
  | fuel + 1, site, ts => do
    if ← isAt ts then return .blank else node handles fuel site

/-- Read the items of a block sequence, up to its end. -/
def blockItems (handles : Handles) : Nat → Reader (List Node)
  | 0 => failure
  | fuel + 1 => do
    if ← accept .closeBlock then return []
    expect .item
    let n ← nodeUnless handles fuel .block [.item, .closeBlock]
    return n :: (← blockItems handles fuel)

/-- Read the items of a sequence that is not indented. -/
def looseItems (handles : Handles) : Nat → Reader (List Node)
  | 0 => failure
  | fuel + 1 => do
    if !(← accept .item) then return []
    let n ← nodeUnless handles fuel .block [.item, .key, .value, .closeBlock]
    return n :: (← looseItems handles fuel)

/-- Read the entries of a block mapping, up to its end. -/
def blockEntries (handles : Handles) : Nat → Reader (List (Node × Node))
  | 0 => failure
  | fuel + 1 => do
    if ← accept .closeBlock then return []
    expect .key
    let k ← nodeUnless handles fuel .entry [.key, .value, .closeBlock]
    let v ← if ← accept .value then nodeUnless handles fuel .entry [.key, .value, .closeBlock]
      else pure .blank
    return (k, v) :: (← blockEntries handles fuel)

/-- Read the items of a sequence in brackets, up to its end.  A key makes an item that is a
    mapping of one entry. -/
def flowItems (handles : Handles) : Nat → Bool → Reader (List Node)
  | 0, _ => failure
  | fuel + 1, first => do
    if ← accept .closeSequence then return []
    if !first then expect .comma
    if ← accept .closeSequence then return []
    let n ← if ← accept .key then singleEntry handles fuel else node handles fuel .flow
    return n :: (← flowItems handles fuel false)

/-- Read a mapping of one entry inside a sequence in brackets.  Where its key is not written,
    the token that shows this is passed. -/
def singleEntry (handles : Handles) : Nat → Reader Node
  | 0 => failure
  | fuel + 1 => do
    let ends := [.comma, .closeSequence]
    let keyless ← isAt (.value :: ends)
    let k ← nodeUnless handles fuel .flow (.value :: ends)
    if keyless then skip
    let v ← if ← accept .value then nodeUnless handles fuel .flow ends else pure .blank
    return .mapping none [(k, v)]

/-- Read the entries of a mapping in brackets, up to its end.  A value that is not written is
    blank. -/
def flowEntries (handles : Handles) : Nat → Bool → Reader (List (Node × Node))
  | 0, _ => failure
  | fuel + 1, first => do
    if ← accept .closeMapping then return []
    if !first then expect .comma
    if ← accept .closeMapping then return []
    let entry ← if ← accept .key then do
        let k ← nodeUnless handles fuel .flow [.value, .comma, .closeMapping]
        let v ← if ← accept .value then nodeUnless handles fuel .flow [.comma, .closeMapping]
          else pure .blank
        pure (k, v)
      else do pure (← node handles fuel .flow, .blank)
    return entry :: (← flowEntries handles fuel false)

end

/-! ### Documents -/

/-- Read the directives in front of a document: at most one version, which must be 1.1 or 1.2,
    and one text for each handle. -/
def directives : Nat → Bool → Handles → Reader Handles
  | 0, _, _ => failure
  | fuel + 1, versioned, handles => do
    match ← next? with
    | some (.directive (.version major minor)) =>
      if versioned ∨ major ≠ 1 ∨ (minor ≠ 1 ∧ minor ≠ 2) then failure
      skip
      directives fuel true handles
    | some (.directive (.tag handle text)) =>
      if (handles.lookup handle).isSome then failure
      skip
      directives fuel versioned ((handle, text) :: handles)
    | _ => return handles

/-- The handles that are known without a directive. -/
def knownHandles : Handles := 
  [("!", Tag.ofString "!"), ("!!", Tag.ofString "tag:yaml.org,2002:")]

/-- Read the only document of a text.  Behind directives its start has to be marked. -/
def document (fuel : Nat) : Reader Node := do
  let before := (← get).tokens.length
  let declared ← directives fuel false []
  let directed := (← get).tokens.length < before
  let marked ← accept .documentStart
  if directed && !marked then failure
  let bare := marked && ((← next?).isNone || (← isAt [.documentEnd]))
  let n ← if bare then pure .blank else node (declared ++ knownHandles) fuel .block
  modify fun p => { p with tokens := p.tokens.dropWhile (· = .documentEnd) }
  if (← next?).isSome then failure
  return n

end Reader

/-- A document: its node, and what its aliases mean. -/
structure Document where
  root : Node
  anchors : Anchors
deriving Repr

/-- Read a text that is one document.  A text without any is read as a blank one. -/
def Document.ofText? (text : List Char) : Option Document := do
  let tokens ← tokens? text
  if tokens.isEmpty then return ⟨.blank, .none⟩
  let (root, p) ← (Reader.document (4 * tokens.length + 8)).run ⟨tokens, .none⟩
  return ⟨root, p.anchors⟩

end SyncFleet.Yaml

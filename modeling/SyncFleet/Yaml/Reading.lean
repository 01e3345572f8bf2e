/-
  SyncFleet/Yaml/Reading.lean
  ===========================
  **Reading values and records out of a document.**

  Readers follow aliases, and so one node may be read many times.  They may
  follow a hundred aliases for each event of the document, and collections may
  be 128 deep; what goes beyond that is refused, a node that contains itself
  among it.
-/
import SyncFleet.Yaml.Resolution

namespace SyncFleet.Yaml

/-- A reader of nodes, which counts how many aliases may still be followed. -/
abbrev NodeReader := StateT Nat Option

namespace Document

/-- How many aliases may be followed for each event of a document. -/
def aliasesPerEvent : Nat := 100

/-- How deep collections may be. -/
def greatestDepth : Nat := 128

/-- The node that a node stands for. -/
def follow (d : Document) : Node → NodeReader Node
  | .alias number => do
    match ← get with
    | 0 => failure
    | n + 1 =>
      set n
      match d.anchors.target? number with
      | some node => return node
      | none => failure
  | n => return n

/-- A value behind the tag of its collection. -/
def tagged (tag : Option Tag) (v : Value) : Value :=
  match localName? tag with
  | some name => .tagged name v
  | none => v

/-- Add an entry to a mapping that does not have its key yet. -/
def addEntry (entries : List (Value × Value)) (e : Value × Value) :
    Option (List (Value × Value)) :=
  if entries.any (·.1.same e.1) then none else some (entries ++ [e])

/-- Read a node as a value.  What it consists of may be less than `fuel` deep. -/
def value (d : Document) : Nat → Node → NodeReader Value
  | 0, _ => failure
  | fuel + 1, n => do
    match ← d.follow n with
    | .alias _ => failure
    | .scalar tag style text =>
      match scalarValue? tag style text with
      | some v => return v
      | none => failure
    | .sequence tag items =>
      if fuel = 0 then failure
      return tagged tag (.sequence (← items.mapM (d.value fuel)))
    | .mapping tag entries =>
      if fuel = 0 then failure
      let entries ← entries.mapM fun (k, v) => do return (← d.value fuel k, ← d.value fuel v)
      match entries.foldlM addEntry [] with
      | some entries => return tagged tag (.mapping entries)
      | none => failure

/-- Read a scalar's text, whatever its style and tag. -/
def text (d : Document) (n : Node) : NodeReader String := do
  match ← d.follow n with
  | .scalar _ _ text => return text
  | _ => failure

/-- Read a plain scalar as an integer of 64 signed bits.  A literal one counts if its tag says
    that it is an integer. -/
def int64 (d : Document) (n : Node) : NodeReader Int64 := do
  match ← d.follow n with
  | .scalar tag style text =>
    if style = .plain ∨ (style = .literal ∧ tag = some intTag) then
      match intOfText? text with
      | some n =>
        if -0x8000000000000000 ≤ n ∧ n < 0x8000000000000000 then return Int64.ofInt n else failure
      | none => failure
    else failure
  | _ => failure

/-- Read a scalar's text, or nothing from a plain scalar that is a null. -/
def optionalText (d : Document) (n : Node) : NodeReader (Option String) := do
  match ← d.follow n with
  | .scalar tag style text =>
    if style ≠ .plain then return some text
    else if tag = some nullTag then if isNullText text then return none else failure
    else if tag = none ∧ (text.isEmpty ∨ isNullText text) then return none
    else return some text
  | _ => failure

/-- The items of a sequence; none of a plain scalar without text. -/
def items (d : Document) (n : Node) : NodeReader (List Node) := do
  match ← d.follow n with
  | .sequence _ items => return items
  | .scalar _ .plain "" => return []
  | _ => failure

/-- The entries of a mapping; none of a plain scalar without text. -/
def entries (d : Document) (n : Node) : NodeReader (List (Node × Node)) := do
  match ← d.follow n with
  | .mapping _ entries => return entries
  | .scalar _ .plain "" => return []
  | _ => failure

/-- Read a record whose fields are the texts of its keys; no field may occur twice. -/
def fields (d : Document) (n : Node) : NodeReader (List (String × Node)) := do
  let fields ← (← d.entries n).mapM fun (k, v) => do return (← d.text k, v)
  if (fields.map Prod.fst).Nodup then return fields else failure

/-- Run a reader on a document's node. -/
def read? {α : Type} (d : Document) (reader : Node → NodeReader α) : Option α :=
  ((reader d.root).run (aliasesPerEvent * d.root.events)).map Prod.fst

end Document

end SyncFleet.Yaml

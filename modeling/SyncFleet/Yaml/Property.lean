/-
  SyncFleet/Yaml/Property.lean
  ============================
  **Anchors, tags and directives.**

  A tag is written as a handle and a suffix; the handle stands for a text that
  a directive may set.  Suffixes are made of the characters of resource
  identifiers, of which any may be spelled as percent-encoded bytes.  Those
  bytes have to look like characters, but need not be any: a tag is bytes, and
  it ends in front of the first that is zero.
-/
import SyncFleet.Decimal.Numeral
import SyncFleet.Yaml.Scalar.Flow

namespace SyncFleet.Yaml

/-! ### Anchors -/

/-- Characters, besides blanks, that may follow the name of an anchor. -/
def endsAnchor (c : Char) : Bool :=
  c == '?' || c == ':' || c == ',' || c == ']' || c == '\x7d' || c == '%' || c == '@' || c == '\x60'

/-- Read the name behind the sign of an anchor or alias, which stands here. -/
def anchorName? (c : Cursor) : Option (String × Cursor) :=
  let (name, c) := c.advance.takeWhile isNameChar
  if name.isEmpty then none
  else if isEdge c.next? || c.isAt endsAnchor then some (String.ofList name, c)
  else none

/-! ### Tags -/

/-- Characters of a tag's suffix.  Behind an angle bracket and in directives commas and square
    brackets belong to it as well. -/
def isTagChar (verbatim : Bool) (c : Char) : Bool :=
  isNameChar c || ";/?:@&=+$.%!~*'()".toList.contains c
    || (verbatim && (c == ',' || c == '[' || c == ']'))

/-- The bytes of a suffix, percent-encoded ones decoded. -/
def tagBytes? : List Char → Option (List UInt8)
  | [] => some []
  | '%' :: a :: b :: rest => do
    let n ← hexNumber? [a, b]
    return UInt8.ofNat n :: (← tagBytes? rest)
  | c :: rest => if c = '%' then none else (tagBytes? rest).map (UInt8.ofNat c.toNat :: ·)

/-- A tag: the bytes of which it is made. -/
abbrev Tag := List UInt8

/-- The tag that a text spells. -/
def Tag.ofString (s : String) : Tag := s.toUTF8.toList

/-- The number of bytes that the first byte of a character announces behind it. -/
def announced? (b : UInt8) : Option Nat :=
  if b < 0x80 then some 0
  else if b &&& 0xE0 = 0xC0 then some 1
  else if b &&& 0xF0 = 0xE0 then some 2
  else if b &&& 0xF8 = 0xF0 then some 3
  else none

/-- Whether bytes look like characters: as many bytes that continue one follow its first byte as
    that announces.  `open_` of them are still due. -/
def looksEncoded : (open_ : Nat) → List UInt8 → Bool
  | open_, [] => open_ == 0
  | 0, b :: bytes =>
    match announced? b with
    | some n => looksEncoded n bytes
    | none => false
  | open_ + 1, b :: bytes => b &&& 0xC0 == 0x80 && looksEncoded open_ bytes

/-- The bytes of a suffix as far as they count. -/
def tagText? (cs : List Char) : Option Tag := do
  let bytes ← tagBytes? cs
  if looksEncoded 0 bytes then some (bytes.takeWhile (· ≠ 0)) else none

/-- Read a suffix that is not empty. -/
def tagSuffix? (verbatim : Bool) (c : Cursor) : Option (Tag × Cursor) := do
  let (cs, c) := c.takeWhile (isTagChar verbatim)
  if cs.isEmpty then none else return (← tagText? cs, c)

/-- Read a handle: an exclamation mark, a name and, if it is there, another one. -/
def tagHandle (c : Cursor) : List Char × Cursor :=
  let (name, c) := c.advance.takeWhile isNameChar
  if c.sees '!' then ('!' :: name ++ ['!'], c.advance) else ('!' :: name, c)

/-- A tag as it is written. -/
structure WrittenTag where
  /-- the handle; `none` when the suffix is the whole tag -/
  handle : Option String
  suffix : Tag
deriving DecidableEq, Repr

/-- Read the tag whose exclamation mark stands here. -/
def WrittenTag.read? (inFlow : Bool) (c : Cursor) : Option (WrittenTag × Cursor) := do
  let (tag, c) ←
    if c.ahead? 1 = some '<' then do
      let (suffix, c) ← tagSuffix? true c.advance.advance
      if c.sees '>' then some (WrittenTag.mk none suffix, c.advance) else none
    else do
      let (handle, afterHandle) := tagHandle c
      if handle.length ≠ 1 ∧ handle.getLast? = some '!' then
        let (suffix, c) ← tagSuffix? false afterHandle
        return (WrittenTag.mk (String.ofList handle) suffix, c)
      else
        let (cs, c) := c.advance.takeWhile (isTagChar false)
        if cs.isEmpty then return (WrittenTag.mk none (Tag.ofString "!"), c)
        else return (WrittenTag.mk "!" (← tagText? cs), c)
  if isEdge c.next? || (inFlow && c.sees ',') then return (tag, c) else none

/-! ### Directives -/

/-- A directive in front of a document. -/
inductive Directive where
  | version (major minor : Nat)
  | tag (handle : String) (text : Tag)
deriving DecidableEq, Repr

/-- Read a number of at most nine digits. -/
def versionNumber? (c : Cursor) : Option (Nat × Cursor) :=
  let (ds, c) := c.takeWhile Char.isDigit
  if 9 < ds.length then none else (Decimal.natOfText? ds).map (·, c)

/-- Read the directive whose percent sign stands here, to the end of its line. -/
def Directive.read? (c : Cursor) : Option (Directive × Cursor) := do
  let (name, c) := c.advance.takeWhile isNameChar
  if !isEdge c.next? then none
  let c := c.skipWhile isSpacing
  let (directive, c) ←
    if name = "YAML".toList then do
      let (major, c) ← versionNumber? c
      if !c.sees '.' then none
      let (minor, c) ← versionNumber? c.advance
      some (Directive.version major minor, c)
    else if name = "TAG".toList then do
      if !c.sees '!' then none
      let (handle, c) := tagHandle c
      if handle.length ≠ 1 ∧ handle.getLast? ≠ some '!' then none
      if !c.isAt isSpacing then none
      let (text, c) ← tagSuffix? true (c.skipWhile isSpacing)
      if !isEdge c.next? then none
      some (Directive.tag (String.ofList handle) text, c)
    else none
  return (directive, ← c.finishLine?)

end SyncFleet.Yaml

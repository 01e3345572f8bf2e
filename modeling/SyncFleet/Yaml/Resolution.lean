/-
  SyncFleet/Yaml/Resolution.lean
  ==============================
  **What a scalar means: a null, a truth value, a number or its own text.**

  Only a plain scalar without a tag is resolved by its text.  The tags of the
  core types ask for one type, and other tags of the standard leave the text
  as it is.  Integers may be hexadecimal, octal or binary; digits behind a
  leading zero are no number.  An integer has to fit into 64 bits, with a sign
  or without; one that fits into 128 bits only is refused, and a longer one is
  a floating-point number.
-/
import SyncFleet.Decimal.Reading
import SyncFleet.Text.Utf8
import SyncFleet.Yaml.Node
import SyncFleet.Yaml.Value

namespace SyncFleet.Yaml

open Decimal

/-! ### Tags -/

/-- The tags of the core types. -/
def nullTag : Tag := Tag.ofString "tag:yaml.org,2002:null"
def boolTag : Tag := Tag.ofString "tag:yaml.org,2002:bool"
def intTag : Tag := Tag.ofString "tag:yaml.org,2002:int"
def floatTag : Tag := Tag.ofString "tag:yaml.org,2002:float"

/-- A text without the exclamation mark that it begins with, unless it is nothing else. -/
def withoutMark : List Char → List Char
  | '!' :: c :: rest => c :: rest
  | cs => cs

/-- Whether a tag is of the document's own, which begins with an exclamation mark. -/
def isLocal (tag : Tag) : Bool := tag.head? == some 0x21

/-- The name of a tag of the document's own; the tags of the standard have none, and neither has
    a tag that is no text. -/
def localName? (tag : Option Tag) : Option String := do
  let tag ← tag
  if isLocal tag then
    let text ← Text.Utf8.decode? ⟨tag.toArray⟩
    return String.ofList (withoutMark (withoutMark text.toList))
  else none

/-! ### Nulls and truth values -/

/-- Whether a text spells a null. -/
def isNullText (text : String) : Bool := ["null", "Null", "NULL", "~"].contains text

/-- The truth value that a text spells. -/
def boolOfText? (text : String) : Option Bool :=
  if ["true", "True", "TRUE"].contains text then some true
  else if ["false", "False", "FALSE"].contains text then some false
  else none

/-! ### Numbers -/

/-- The sign in front of a numeral, and the rest of it. -/
def splitSign : List Char → Option Char × List Char
  | '+' :: rest => (some '+', rest)
  | '-' :: rest => (some '-', rest)
  | cs => (none, cs)

/-- The number of one or more digits below a base. -/
def natInBase? (base : Nat) (cs : List Char) : Option Nat := do
  if cs.isEmpty then none
  let ds ← cs.mapM hexDigit?
  if ds.all (· < base) then some (ds.foldl (fun n d => base * n + d) 0) else none

/-- Whether a text is digits behind a leading zero, and a sign at most. -/
def isZeroFilled (cs : List Char) : Bool :=
  match (splitSign cs).2 with
  | '0' :: d :: ds => (d :: ds).all Char.isDigit
  | _ => false

/-- The number that a numeral without sign spells. -/
def magnitudeOfText? : List Char → Option Nat
  | '0' :: 'x' :: ds => natInBase? 16 ds
  | '0' :: 'o' :: ds => natInBase? 8 ds
  | '0' :: 'b' :: ds => natInBase? 2 ds
  | ds => if isZeroFilled ds then none else natInBase? 10 ds

/-- The integer that a text spells. -/
def intOfText? (text : String) : Option Int :=
  match splitSign text.toList with
  | (some '-', ds) => (magnitudeOfText? ds).map fun n => -(n : Int)
  | (_, ds) => (magnitudeOfText? ds).map Int.ofNat

/-- Read the exponent of a numeral: nothing, or a sign, if any, and one or more digits. -/
def exponentOfText? : List Char → Option (Option Int)
  | [] => some none
  | e :: rest =>
    if e = 'e' ∨ e = 'E' then
      match splitSign rest with
      | (some '-', ds) => (natOfText? ds).map fun n => some (-(n : Int))
      | (_, ds) => (natOfText? ds).map fun n => some (n : Int)
    else none

/-- Read a decimal numeral without sign: digits with or without a point among them, and an
    exponent if there is one. -/
def decimalOfText? (negative : Bool) (cs : List Char) : Option Numeral := do
  let whole := cs.takeWhile Char.isDigit
  let (fraction, rest) := match cs.dropWhile Char.isDigit with
    | '.' :: rest => (some (rest.takeWhile Char.isDigit), rest.dropWhile Char.isDigit)
    | rest => (none, rest)
  if whole.isEmpty && (fraction.getD []).isEmpty then none
  let exponent ← exponentOfText? rest
  let digits := fun ds : List Char => ds.filterMap digitVal?
  return ⟨negative, digits whole, fraction.map digits, exponent⟩

/-- The floating-point number that a text spells.  Digits that come to more than every finite
    number spell none. -/
def floatOfText? (text : String) : Option Binary64 :=
  let (sign, cs) := splitSign text.toList
  if [".inf", ".Inf", ".INF"].contains (String.ofList cs) then some (.infinite (sign == some '-'))
  else if [".nan", ".NaN", ".NAN"].contains text then some .notANumber
  else match (decimalOfText? (sign == some '-') cs).map Numeral.nearest with
    | some (.finite s m e) => some (.finite s m e)
    | _ => none

/-- The value of a text that spells a number that counts as an integer: one of 64 bits, with or
    without a sign.  Fails for the greater ones, as far as 128 bits hold them. -/
def integer? (text : String) : Option (Option Value) :=
  match intOfText? text with
  | none => some none
  | some n =>
    if -0x8000000000000000 ≤ n ∧ n < 0x10000000000000000 then some (some (.int n))
    else if -Nat.pow 2 127 ≤ n ∧ n < Nat.pow 2 128 then none
    else some none

/-! ### Scalars -/

/-- The value of a plain scalar without a tag. -/
def plainValue? (text : String) : Option Value :=
  if text.isEmpty ∨ isNullText text then some .null
  else match boolOfText? text with
    | some b => some (.bool b)
    | none =>
      match integer? text with
      | none => none
      | some (some v) => some v
      | some none =>
        match if isZeroFilled text.toList then none else floatOfText? text with
        | some x => some (.float x)
        | none => some (.string text)

/-- The value of a scalar. -/
def scalarValue? (tag : Option Tag) (style : Style) (text : String) : Option Value :=
  let untagged := if style = .plain then plainValue? text else some (.string text)
  match localName? tag, tag with
  | some name, _ => untagged.map (.tagged name)
  | none, none => untagged
  | none, some t =>
    if t = boolTag then (boolOfText? text).map .bool
    else if t = intTag then (integer? text).join
    else if t = floatTag then (floatOfText? text).map .float
    else if t = nullTag then if isNullText text then some .null else none
    else if isLocal t then untagged
    else some (.string text)

end SyncFleet.Yaml

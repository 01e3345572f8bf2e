/-
  SyncFleet/Yaml/Value.lean
  =========================
  **The values of a YAML document: when two are the same, and how they are shown.**

  Mappings keep the order in which they are written, which does not count when
  they are compared.  Integers and other numbers are different values, and a
  number that is not a number is the same as itself.
-/
import SyncFleet.Decimal.Layout
import SyncFleet.Text.Printable

namespace SyncFleet.Yaml

open Decimal

/-- A value of a document. -/
inductive Value where
  | null
  | bool (value : Bool)
  | int (value : Int)
  | float (value : Binary64)
  | string (text : String)
  | sequence (items : List Value)
  | mapping (entries : List (Value × Value))
  | tagged (tag : String) (value : Value)
deriving Repr

namespace Value

mutual

/-- Whether two values are the same. -/
def same : Value → Value → Bool
  | .null, .null => true
  | .bool a, .bool b => a == b
  | .int a, .int b => a == b
  | .float a, .float b => a.sameValue b
  | .string a, .string b => a == b
  | .sequence as, .sequence bs => sameItems as bs
  | .mapping as, .mapping bs => as.length == bs.length && sameEntries as bs
  | .tagged s a, .tagged t b => s == t && same a b
  | _, _ => false

/-- Whether two lists of values are the same, item by item. -/
def sameItems : List Value → List Value → Bool
  | [], [] => true
  | a :: as, b :: bs => same a b && sameItems as bs
  | _, _ => false

/-- Whether each entry of a list is among those of another. -/
def sameEntries : List (Value × Value) → List (Value × Value) → Bool
  | [], _ => true
  | (k, v) :: as, bs => bs.any (fun b => same k b.1 && same v b.2) && sameEntries as bs

end

/-- The value under the first key that is the given string. -/
def lookup? (key : String) (entries : List (Value × Value)) : Option Value :=
  (entries.find? fun e => e.1.same (.string key)).map Prod.snd

mutual

/-- How a value is shown in messages. -/
def shown : Value → String
  | .null => "Null"
  | .bool b => "Bool(" ++ toString b ++ ")"
  | .int n => "Number(" ++ String.ofList (intText n) ++ ")"
  | .float x => "Number(" ++ String.ofList (Layout.config.write x) ++ ")"
  | .string s => "String(" ++ Text.quoted s ++ ")"
  | .sequence items => "Sequence [" ++ String.intercalate ", " (shownItems items) ++ "]"
  | .mapping entries =>
    "Mapping \x7b" ++ String.intercalate ", " (shownEntries entries) ++ "\x7d"
  | .tagged tag v => "TaggedValue \x7b tag: !" ++ tag ++ ", value: " ++ shown v ++ " \x7d"

/-- How the items of a sequence are shown. -/
def shownItems : List Value → List String
  | [] => []
  | v :: vs => shown v :: shownItems vs

/-- How the entries of a mapping are shown: scalar keys stand for themselves. -/
def shownEntries : List (Value × Value) → List String
  | [] => []
  | (k, v) :: es => (shownKey k ++ ": " ++ shown v) :: shownEntries es

/-- How a key of a mapping is shown. -/
def shownKey : Value → String
  | .bool b => toString b
  | .int n => String.ofList (intText n)
  | .float x => String.ofList (Layout.config.write x)
  | .string s => Text.quoted s
  | v => shown v

end

end Value

end SyncFleet.Yaml

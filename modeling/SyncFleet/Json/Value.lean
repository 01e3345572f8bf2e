/-
  SyncFleet/Json/Value.lean
  =========================
  **JSON values.**

  Numbers are kept as they are spelled, so that a reader can tell an integer
  from a decimal and no digit is lost.  Object fields are kept in their order
  with repetitions, which each reader treats by its own rule.
-/
import SyncFleet.Decimal.Layout

namespace SyncFleet

open Decimal

/-- A JSON value. -/
inductive Json where
  | null
  | bool (value : Bool)
  | number (spelling : String)
  | string (text : String)
  | array (items : List Json)
  | object (fields : List (String × Json))
  /-- a value that is well-formed but denotes no text: a string, or an object with a key, that
      holds half a surrogate pair or bytes that are not UTF-8 -/
  | unreadable
deriving Repr, Inhabited

namespace Json

/-- The JSON number of an integer. -/
def int (n : Int) : Json := .number (String.ofList (intText n))

/-- The JSON number of a natural number. -/
def nat (n : Nat) : Json := .number (String.ofList (natText n))

/-- The JSON number of a binary number; `null` for what is not finite. -/
def float (x : Binary64) : Json :=
  match x with
  | .finite .. => .number (String.ofList (Layout.json.write x))
  | _ => .null

/-- A value, or `null` where there is none. -/
def ofOption {α : Type} (encode : α → Json) : Option α → Json
  | some a => encode a
  | none => .null

/-- The array of a list of texts. -/
def strings (texts : List String) : Json := .array (texts.map .string)

/-- The field of an object under a key, the last one if there are several. -/
def field? (key : String) : Json → Option Json
  | .object fields => (fields.reverse.find? (·.1 == key)).map Prod.snd
  | _ => none

end Json

end SyncFleet

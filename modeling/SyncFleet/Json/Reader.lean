/-
  SyncFleet/Json/Reader.lean
  ==========================
  **Reading a JSON text.**

  The reader walks the tokens once and keeps the arrays and objects that are
  still open on a stack, so its depth is bounded by nothing but the text.
  Exactly one value is read; only blanks may stand around it.
-/
import SyncFleet.Json.Token

namespace SyncFleet.Json

/-- An array or object that is still open, its contents in reverse order.  An object also holds
    the key whose value is being read. -/
inductive Frame where
  | items (reversed : List Json)
  | fields (reversed : List (Option String × Json)) (key : Option String)
deriving Repr

/-- What the reader accepts next. -/
inductive Awaited where
  /-- a value -/
  | value
  /-- a value, or the end of the array that has just been opened -/
  | firstItem
  /-- a key of an object whose fields so far are given -/
  | key (reversed : List (Option String × Json))
  /-- a key, or the end of the object that has just been opened -/
  | firstKey
  /-- the colon behind a key -/
  | colon (reversed : List (Option String × Json)) (key : Option String)
  /-- a comma or an end behind a value -/
  | more (last : Json)
deriving Repr

/-- The object of fields in reverse order; without text in a key it denotes nothing. -/
def objectOf (reversed : List (Option String × Json)) : Json :=
  match reversed.reverse.mapM fun f => f.1.map fun k => (k, f.2) with
  | some fields => .object fields
  | none => .unreadable

/-- The value of a token that is a value by itself. -/
def scalarOf? : Token → Option Json
  | .null => some .null
  | .bool b => some (.bool b)
  | .number s => some (.number s)
  | .string (some s) => some (.string s)
  | .string none => some .unreadable
  | _ => none

/-- Read one token: the new stack and what is awaited then. -/
def read? (stack : List Frame) (awaited : Awaited) (t : Token) :
    Option (List Frame × Awaited) :=
  let value : Option (List Frame × Awaited) :=
    match t with
    | .openArray => some (.items [] :: stack, .firstItem)
    | .openObject => some (stack, .firstKey)
    | t => (scalarOf? t).map fun v => (stack, .more v)
  match awaited, t with
  | .value, _ => value
  | .firstItem, .closeArray =>
    match stack with
    | .items items :: below => some (below, .more (.array items.reverse))
    | _ => none
  | .firstItem, _ => value
  | .key fields, .string k => some (stack, .colon fields k)
  | .firstKey, .string k => some (stack, .colon [] k)
  | .firstKey, .closeObject => some (stack, .more (.object []))
  | .colon fields k, .colon => some (.fields fields k :: stack, .value)
  | .more v, .comma =>
    match stack with
    | .items items :: below => some (.items (v :: items) :: below, .value)
    | .fields fields k :: below => some (below, .key ((k, v) :: fields))
    | [] => none
  | .more v, .closeArray =>
    match stack with
    | .items items :: below => some (below, .more (.array (v :: items).reverse))
    | _ => none
  | .more v, .closeObject =>
    match stack with
    | .fields fields k :: below => some (below, .more (objectOf ((k, v) :: fields)))
    | _ => none
  | _, _ => none

/-- Read tokens to their end. -/
def readAll? : List Frame → Awaited → List Token → Option Json
  | [], .more v, [] => some v
  | _, _, [] => none
  | stack, awaited, t :: rest =>
    match read? stack awaited t with
    | some (stack, awaited) => readAll? stack awaited rest
    | none => none

/-- Read a text in which `none` stands for bytes that are not UTF-8. -/
def ofChars? (input : List (Option Char)) : Option Json := do
  readAll? [] .value (← tokens? input)

/-- Read a text. -/
def ofText? (s : String) : Option Json := ofChars? (s.toList.map some)

end SyncFleet.Json

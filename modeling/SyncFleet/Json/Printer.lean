/-
  SyncFleet/Json/Printer.lean
  ===========================
  **The compact text of a JSON value.**

  No blanks; object fields in their order.  A string escapes the quote, the
  backslash and the control characters below U+0020, five of them by a letter
  and the others by four hexadecimal digits; every other character stands for
  itself.
-/
import SyncFleet.Json.Value

namespace SyncFleet.Json

/-- The control escape of a code point below U+0020. -/
def controlEscape (c : Char) : List Char :=
  ['\\', 'u', '0', '0', Nat.digitChar (c.toNat / 16), Nat.digitChar (c.toNat % 16)]

/-- One character as it stands inside a JSON string. -/
def escapeChar (c : Char) : List Char :=
  if c = '\x22' then ['\\', '\x22']
  else if c = '\\' then ['\\', '\\']
  else if 0x20 ≤ c.toNat then [c]
  else if c = '\x08' then ['\\', 'b']
  else if c = '\x0c' then ['\\', 'f']
  else if c = '\n' then ['\\', 'n']
  else if c = '\r' then ['\\', 'r']
  else if c = '\t' then ['\\', 't']
  else controlEscape c

/-- A JSON string with its quotes. -/
def quote (s : String) : List Char :=
  '\x22' :: s.toList.flatMap escapeChar ++ ['\x22']

mutual

/-- The characters of a value. -/
def chars : Json → List Char
  | .null => ['n', 'u', 'l', 'l']
  | .bool true => ['t', 'r', 'u', 'e']
  | .bool false => ['f', 'a', 'l', 's', 'e']
  | .number s => s.toList
  | .string s => quote s
  | .array items => '[' :: itemChars items ++ [']']
  | .object fields => '\x7b' :: fieldChars fields ++ ['\x7d']
  | .unreadable => ['n', 'u', 'l', 'l']

/-- The items of an array, commas between them. -/
def itemChars : List Json → List Char
  | [] => []
  | [v] => chars v
  | v :: w :: rest => chars v ++ ',' :: itemChars (w :: rest)

/-- The fields of an object, commas between them. -/
def fieldChars : List (String × Json) → List Char
  | [] => []
  | [(k, v)] => quote k ++ ':' :: chars v
  | (k, v) :: f :: rest => quote k ++ ':' :: chars v ++ ',' :: fieldChars (f :: rest)

end

/-- The compact text of a value. -/
def render (v : Json) : String := String.ofList v.chars

end SyncFleet.Json

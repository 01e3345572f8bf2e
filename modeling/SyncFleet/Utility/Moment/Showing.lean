/-
  SyncFleet/Utility/Moment/Showing.lean
  =====================================
  **Showing a moment that is described in words.**
-/
import SyncFleet.Utility.Moment.Reading
import SyncFleet.Utility.Moment.Writing
import SyncFleet.Utility.Option

namespace SyncFleet.Utility.Moment

open Unix Tool

/-- How a moment is written if nothing is said about it. -/
def plainFormat : String := "%a %b %e %H:%M:%S %Z %Y"

/-- How moments are written in mail. -/
def mailFormat : String := "%a, %d %b %Y %H:%M:%S %z"

/-- The words for how exact a moment is written with a letter between date and time. -/
def letteredWords : List (List String) := [["hours"], ["minutes"], ["date"], ["seconds"], ["ns"]]

/-- The format with a letter between date and time. -/
def letteredFormat (word : String) : String :=
  match word with
  | "hours" => "%Y-%m-%dT%H%:z"
  | "minutes" => "%Y-%m-%dT%H:%M%:z"
  | "seconds" => "%Y-%m-%dT%H:%M:%S%:z"
  | "ns" => "%Y-%m-%dT%H:%M:%S,%N%:z"
  | _ => "%Y-%m-%d"

/-- The words for how exact a moment is written with a blank between date and time. -/
def spacedWords : List (List String) := [["date"], ["seconds"], ["ns"]]

/-- The format with a blank between date and time. -/
def spacedFormat (word : String) : String :=
  match word with
  | "seconds" => "%Y-%m-%d %H:%M:%S%:z"
  | "ns" => "%Y-%m-%d %H:%M:%S.%N%:z"
  | _ => "%Y-%m-%d"

/-- The format that an option asks for. -/
def formatOf? (key : String) (value : Option Bytes) : Tool (Option Bytes) := do
  match key, value with
  | "R", _ => return some mailFormat.toList
  | "I", none => return some (letteredFormat "date").toList
  | "I", some word =>
    let word ← choice "--iso-8601" letteredWords word
    return some (letteredFormat word).toList
  | "rfc-3339", value =>
    let word ← choice "--rfc-3339" spacedWords (value.getD [])
    return some (spacedFormat word).toList
  | _, _ => return none

/-- A description without the zone that it begins with, and that zone. -/
def zoneAt (zone : Zone) (text : Bytes) : Zone × Bytes :=
  let start := text.dropWhile isSpace
  if "TZ=\"".toList.isPrefixOf start then
    let name := (start.drop 4).takeWhile (· != '"')
    (Zone.ofText name, start.drop (name.length + 5))
  else (zone, text)

/-- What is wrong with a description. -/
def invalidDate (text : Bytes) : Bytes := "invalid date ".toList ++ quoted text

/-- How a date is shown. -/
structure ShowingDate where
  zone : Zone
  now : Int
  format : Bytes

/-- Show a moment. -/
def ShowingDate.put (k : ShowingDate) (moment : Int) : Tool Unit :=
  putLine (formatted k.zone moment k.format)

/-- The moment that a description means. -/
def ShowingDate.moment? (k : ShowingDate) (text : Bytes) : Option Int :=
  let (zone, text) := zoneAt k.zone text
  ofText? zone.ahead k.now text

/-- Report that the clock cannot be set, and show what it would have been set to. -/
def ShowingDate.set (k : ShowingDate) (moment : Int) : Tool Unit := do
  complainOf "cannot set date".toList .notPermitted
  k.put moment

/-- Show a moment, or set the clock. -/
def date (arguments environment : List Bytes) : Tool Unit := do
  let (c, operands) ← options ["d|date=", "debug", "f|file=", "I|iso-8601?",
    "R|rfc-email|rfc-822|rfc-2822", "r|reference=", "resolution", "rfc-3339=", "s|set=",
    "u|utc|uct|universal"] arguments
  let mut format : Option Bytes := none
  for (key, value) in c.options do
    if let some f ← formatOf? key value then
      if format.isSome then die "multiple output formats specified".toList
      format := some f
  let sources := ["d", "f", "r", "resolution"].filter c.has
  if 1 < sources.length then
    misuse "the options to specify dates for printing are mutually exclusive".toList
  if c.has "s" && !sources.isEmpty then
    misuse "the options to print and set the time may not be used together".toList
  let now ← look fun s => s.clock
  let zone := if c.has "u" then universal else zoneOf environment
  let mut digits : Option Bytes := none
  match operands with
  | _ :: second :: _ => extraOperand second
  | ['+' :: f] =>
    if format.isSome then die "multiple output formats specified".toList
    format := some f
  | [operand] =>
    if c.has "s" || !sources.isEmpty then
      misuse ("the argument ".toList ++ quoted operand ++ (" lacks a leading '+';\n"
        ++ "when using an option to specify date(s), any non-option\n"
        ++ "argument must be a format string beginning with '+'").toList)
    digits := some operand
  | [] => pure ()
  let usual := if c.has "resolution" then "%s.%N" else plainFormat
  let k : ShowingDate := ⟨zone, now, format.getD usual.toList⟩
  let read := fun (text : Bytes) => do
    match k.moment? text with
    | some moment => return moment
    | none => die (α := Int) (invalidDate text)
  if let some name := c.value? "f" then
    overLines '\n' (fun _ line => do
      let text := chomp line
      match k.moment? text with
      | some moment => k.put moment
      | none => complain (invalidDate text)) [name] ()
  else if let some path := c.value? "r" then
    match ← status path true with
    | .ok t => k.put t.modified
    | .error e => dieOf (shown path) e
  else if c.has "resolution" then k.put 1
  else match c.value? "d", c.value? "s", digits with
    | some text, _, _ => k.put (← read text)
    | none, some text, _ => k.set (← read text)
    | none, none, some text =>
      match ofDigits? false zone.ahead now text with
      | some moment => k.set moment
      | none => die (invalidDate text)
    | none, none, none => k.put now

end SyncFleet.Utility.Moment

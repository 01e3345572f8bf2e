/-
  SyncFleet/Environment.lean
  ==========================
  **The environment variables of a sync command.**

  Each setting of a descriptor becomes the variable `LUG_<key>`, and the whole
  descriptor is there as JSON in `LUG_config_json`, which wins over a setting
  of that name.  True is `1`; false and null have no variable.

  To be written as JSON the settings pass as a map like any other, and a map
  can have keys that no object has.  The keys of settings are texts, so their
  environment can always be prepared, and is `Environment.ofDescriptor`
  (`Environment.prepare_eq_ok`).
-/
import SyncFleet.Descriptor.Basic
import SyncFleet.Json.Printer

namespace SyncFleet

/-- Environment variables, by name. -/
abbrev Environment := KeyMap String

namespace Environment

/-- The variable of a setting. -/
def variableName (key : String) : String := "LUG_" ++ key

/-- The variable that holds the whole descriptor. -/
def configVariable : String := "LUG_config_json"

/-- The text of a setting's variable; none for null and false. -/
def settingText? : Scalar → Option String
  | .null => none
  | .bool false => none
  | .bool true => some "1"
  | v => some v.text

/-- The variables of the settings alone. -/
def ofSettings (settings : List (String × Scalar)) : Environment :=
  settings.foldl
    (fun env e => match settingText? e.2 with
      | some text => env.insert (variableName e.1) text
      | none => env)
    .empty

/-- The environment of a descriptor's command, which is what preparing it gives. -/
def ofDescriptor (d : Descriptor) : Environment :=
  (ofSettings d.values.entries).insert configVariable d.toJson.render

/-! ### Maps as JSON objects -/

/-- Why a map has no JSON object. -/
inductive KeyFault where
  /-- a key has no text -/
  | noText
  /-- a key is a number that is not finite -/
  | notFinite
deriving DecidableEq, Repr

/-- The wording of a fault. -/
def KeyFault.message : KeyFault → String
  | .noText => "key must be a string"
  | .notFinite => "float key must be finite (got NaN or +/-inf)"

/-- The text that a key of a map has in an object. -/
def keyText : Scalar → Except KeyFault String
  | .null => .error .noText
  | .bool b => .ok (Scalar.bool b).text
  | .int n => .ok (Scalar.int n).text
  | .float x =>
    match x with
    | .finite .. => .ok (String.ofList (Decimal.Layout.json.write x))
    | _ => .error .notFinite
  | .string s => .ok s

/-- The JSON object of a map, whatever its keys are. -/
def objectOf (entries : List (Scalar × Json)) : Except KeyFault Json := do
  let fields ← entries.mapM fun e => do return (← keyText e.1, e.2)
  return .object fields

/-- Prepare the environment of a descriptor's command (`from_descriptor`). -/
def prepare (d : Descriptor) : Except KeyFault Environment := do
  let config ← objectOf (d.values.entries.map fun e => (.string e.1, e.2.toJson))
  return (ofSettings d.values.entries).insert configVariable config.render

theorem objectOf_strings (fields : List (String × Json)) :
    objectOf (fields.map fun e => (.string e.1, e.2)) = .ok (.object fields) := by
  have hkeys : (fields.map fun e => (Scalar.string e.1, e.2)).mapM
      (fun e => do return (← keyText e.1, e.2)) = Except.ok fields := by
    induction fields with
    | nil => rfl
    | cons e rest ih =>
      rw [List.map_cons, List.mapM_cons, ih]
      rfl
  rw [objectOf, hkeys]
  rfl

/-- Every environment can be prepared. -/
theorem prepare_eq_ok (d : Descriptor) : prepare d = .ok (ofDescriptor d) := by
  have hconfig := objectOf_strings (d.values.entries.map fun e => (e.1, e.2.toJson))
  rw [List.map_map] at hconfig
  rw [prepare]
  exact congrArg (Except.map fun config : Json =>
    (ofSettings d.values.entries).insert configVariable config.render) hconfig

end Environment

end SyncFleet

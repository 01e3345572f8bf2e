/-
  SyncFleet/Config/Reading.lean
  =============================
  **Reading a configuration from a YAML text or from a file.**

  The text is one mapping of known fields, of which only the interval has to
  be there.  What the fields hold is read by their types alone; whether it
  makes sense is a matter of validation.
-/
import SyncFleet.Config.Validation
import SyncFleet.Text.Utf8
import SyncFleet.Yaml.Reading

namespace SyncFleet

open Yaml (Document Node NodeReader)

namespace WrittenConfig

/-! ### Fields -/

namespace Field

def interval : String := "interval"
def concurrentLimit : String := "concurrent_limit"
def checkpoint : String := "checkpoint"
def logLevel : String := "log_level"
def otherLogLevel : String := "loglevel"
def api : String := "json_api"
def address : String := "address"
def ignored : String := "dummy"
def repos : String := "repos"

end Field

/-- The fields of a configuration. -/
def knownFields : List String :=
  [Field.interval, Field.concurrentLimit, Field.checkpoint, Field.logLevel, Field.otherLogLevel,
    Field.api, Field.ignored, Field.repos]

/-- Read a field if it is there. -/
def field {α : Type} (fields : List (String × Node)) (name : String) (absent : α)
    (reader : Node → NodeReader α) : NodeReader α :=
  match fields.lookup name with
  | some n => reader n
  | none => return absent

/-! ### Records -/

/-- Read the settings of the control interface: its address. -/
def readApi (d : Document) (n : Node) : NodeReader String := do
  let fields ← d.fields n
  if fields.any (·.1 ≠ Field.address) then failure
  field fields Field.address Config.defaultAddress d.text

/-- Read a value that lies `above` collections deep in the document. -/
def readValue (d : Document) (above : Nat) (n : Node) : NodeReader Yaml.Value :=
  d.value (Document.greatestDepth + 1 - above) n

/-- Read a repo, which lies in a list of the configuration. -/
def readRepo (d : Document) (n : Node) : NodeReader WrittenRepo := do
  let entries ← (← d.entries n).mapM fun (k, v) => do
    return (← readValue d 3 k, ← readValue d 3 v)
  match entries.foldlM Document.addEntry [] with
  | some repo => return repo
  | none => failure

/-- Read the whole configuration.  The level of logging has two names, of which one may be
    used, and what is to be ignored may be anything. -/
def read (d : Document) (n : Node) : NodeReader WrittenConfig := do
  let fields ← d.fields n
  if fields.any fun f => !knownFields.contains f.1 then failure
  let logLevel ← field fields Field.logLevel none d.optionalText
  let otherLogLevel ← field fields Field.otherLogLevel none d.optionalText
  if (fields.lookup Field.logLevel).isSome && (fields.lookup Field.otherLogLevel).isSome then
    failure
  let _ ← field fields Field.ignored Yaml.Value.null (readValue d 1)
  match fields.lookup Field.interval with
  | none => failure
  | some n =>
    return {
      interval := ← d.int64 n
      concurrentLimit :=
        ← field fields Field.concurrentLimit Config.defaultConcurrentLimit d.int64
      checkpoint := ← field fields Field.checkpoint Config.defaultCheckpoint d.text
      logLevel := logLevel <|> otherLogLevel
      address := ← field fields Field.api Config.defaultAddress (readApi d)
      repos := ← field fields Field.repos [] fun n => do (← d.items n).mapM (readRepo d) }

/-- The configuration that a text writes. -/
def ofText? (text : String) : Option WrittenConfig := do
  let d ← Document.ofText? text.toList
  d.read? (read d)

end WrittenConfig

namespace Config

/-- The valid configuration that a text writes (`parse_config`). -/
def ofText (text : String) : Except ConfigError Config :=
  match WrittenConfig.ofText? text with
  | some w => w.validate
  | none => .error .malformed

/-- The valid configuration in a file, from what came of reading the file. -/
def ofFile : Except Storage.FileFault ByteArray → Except ConfigError Config
  | .error fault => .error (.unreadable fault)
  | .ok bytes =>
    match Text.Utf8.decode? bytes with
    | some text => ofText text
    | none => .error .notText

/-- The valid configuration in a file of a file system (`load_config`). -/
def load (fs : Storage.FileSystem) (p : Storage.Path) : Except ConfigError Config :=
  ofFile (fs.read p)

end Config

end SyncFleet

/-
  SyncFleet/Checkpoint/Codec.lean
  ===============================
  **Checkpoints as JSON text.**

  The writer names every entry under `worker_info`, leaves out what is not
  known and uses no blanks.  The reader is more lenient: unknown fields are
  passed over, `null` is as good as an absent optional field, and a record may
  also be an array of its fields in order.  A field that is given twice is an
  error; of two entries with one name the later counts.
-/
import SyncFleet.Calendar.Instant
import SyncFleet.Calendar.Timestamp
import SyncFleet.Json.Printer
import SyncFleet.Json.Reader
import SyncFleet.KeyMap
import SyncFleet.Text.Utf8

namespace SyncFleet

open Calendar

/-! ### What is kept of every job across restarts

For each job the time of its last admission is kept, and, where known, when
it last finished successfully and how its last execution ended. -/

/-- What is kept of one job (`WorkerCheckpoint`). -/
structure CheckpointEntry where
  /-- when the job was last admitted -/
  lastInvoke : Instant
  /-- when it last finished successfully -/
  lastFinished : Option Instant
  /-- how its last execution ended -/
  result : Option Bool
deriving DecidableEq

namespace CheckpointEntry

/-- The completion time to report: the time of admission where none is kept
    (`last_finished_or_invoke`). -/
def reportedFinish (e : CheckpointEntry) : Instant := e.lastFinished.getD e.lastInvoke

/-- The result to report: success where none is kept (`result_or_success`). -/
def reportedResult (e : CheckpointEntry) : Bool := e.result.getD true

end CheckpointEntry

/-- What is kept of all jobs, by name. -/
structure Checkpoint where
  jobs : KeyMap CheckpointEntry
deriving DecidableEq

/-- The checkpoint of no job. -/
def Checkpoint.empty : Checkpoint := ⟨.empty⟩

instance : Inhabited Checkpoint := ⟨.empty⟩

/-! ### Writing -/

/-- The JSON form of an instant. -/
def instantJson (t : Instant) : Json := .string t.text

/-- A field that is left out when it has no value. -/
def optionalField {α : Type} (key : String) (encode : α → Json) :
    Option α → List (String × Json)
  | some a => [(key, encode a)]
  | none => []

/-- The JSON form of an entry. -/
def CheckpointEntry.toJson (e : CheckpointEntry) : Json :=
  .object (("last_invoke_time", instantJson e.lastInvoke)
    :: optionalField "last_finished" instantJson e.lastFinished
    ++ optionalField "result" .bool e.result)

namespace Checkpoint

/-- The JSON form of a checkpoint. -/
def toJson (c : Checkpoint) : Json :=
  .object [("worker_info", .object (c.jobs.entries.map fun e => (e.1, e.2.toJson)))]

/-- The text of a checkpoint. -/
def encode (c : Checkpoint) : String := c.toJson.render

end Checkpoint

/-! ### Reading -/

/-- Read an instant from JSON. -/
def instantOfJson? : Json → Option Instant
  | .string s => Instant.ofText? s
  | _ => none

/-- Read an optional value: absent and `null` are no value. -/
def optionalOf? {α : Type} (decode : Json → Option α) : Option Json → Option (Option α)
  | none => some none
  | some .null => some none
  | some v => (decode v).map some

/-- Read a truth value. -/
def boolOfJson? : Json → Option Bool
  | .bool b => some b
  | _ => none

/-- The values of a record's fields, in the order of its keys: from an object, in which no field
    may be given twice, or from an array. -/
def recordFields? (keys : List String) : Json → Option (List (Option Json))
  | .object fields =>
    keys.mapM fun k =>
      match fields.filter (·.1 == k) with
      | [] => some none
      | [f] => some (some f.2)
      | _ => none
  | .array items =>
    if items.length ≤ keys.length then
      some (items.map some ++ List.replicate (keys.length - items.length) none)
    else none
  | _ => none

/-- Read an entry. -/
def CheckpointEntry.ofJson? (v : Json) : Option CheckpointEntry := do
  match ← recordFields? ["last_invoke_time", "last_finished", "result"] v with
  | [some invoke, finished, result] =>
    return ⟨← instantOfJson? invoke, ← optionalOf? instantOfJson? finished,
      ← optionalOf? boolOfJson? result⟩
  | _ => none

namespace Checkpoint

/-- Read a checkpoint. -/
def ofJson? (v : Json) : Option Checkpoint := do
  match ← recordFields? ["worker_info"] v with
  | [some (.object fields)] =>
    let entries ← fields.mapM fun f => (CheckpointEntry.ofJson? f.2).map fun e => (f.1, e)
    return ⟨.ofList entries⟩
  | [none] => return .empty
  | _ => none

/-- Read the text of a checkpoint. -/
def decode? (s : String) : Option Checkpoint := (Json.ofText? s).bind ofJson?

/-- Read the bytes of a checkpoint.  Bytes that are not UTF-8 matter only where text is read. -/
def decodeBytes? (bytes : ByteArray) : Option Checkpoint :=
  (Json.ofChars? (Text.Utf8.decode bytes)).bind ofJson?

end Checkpoint

end SyncFleet

/-
  SyncFleet/Metrics/Exporter.lean
  ===============================
  **Counts of executions and measured disk usage, by worker.**

  Counts and sizes are kept in tables of series.  A table does not compare
  labels but their keys, which are numbers of 64 bits, so that workers whose
  names have one key share a series.  How a key is made of a label is a
  parameter of the tables.

  A worker's disk usage is measured on request, but never by two scans at
  once, and not again until more than a minute has passed since its last scan
  ended, whatever came of that scan.  A failed scan leaves the measured size
  alone.  Times are nanoseconds of a clock that never goes back; where the
  clock counts milliseconds, the functions at the end take these.
-/
import SyncFleet.KeyMap

namespace SyncFleet

/-! ### Series -/

/-- The key of a label: its bytes are mixed in one by one. -/
def labelKey (label : String) : UInt64 :=
  (label.toList.flatMap String.utf8EncodeChar).foldl
    (fun key byte => (key ^^^ byte.toUInt64) * 0x100000001b3) 0xcbf29ce484222325

/-- A number, and the label under which it is shown. -/
structure Series where
  label : String
  value : Nat
deriving DecidableEq, Repr

/-- Series by the keys of their labels. -/
structure SeriesTable (keyOf : String → UInt64 := labelKey) where
  series : List (UInt64 × Series)

/-- Give the series of a key a value.  If there is none yet, it begins with a label. -/
def setSeries (key : UInt64) (label : String) (value : Nat) :
    List (UInt64 × Series) → List (UInt64 × Series)
  | [] => [(key, ⟨label, value⟩)]
  | e :: rest =>
    if key = e.1 then (key, { e.2 with value }) :: rest
    else e :: setSeries key label value rest

namespace SeriesTable

variable {keyOf : String → UInt64}

/-- The table without series. -/
def empty : SeriesTable keyOf := ⟨[]⟩

/-- The series that a label has a part in. -/
def find? (t : SeriesTable keyOf) (label : String) : Option Series := t.series.lookup (keyOf label)

/-- The value of a label. -/
def value? (t : SeriesTable keyOf) (label : String) : Option Nat :=
  (t.find? label).map Series.value

/-- Give a label a value, and all labels that share its series. -/
def set (t : SeriesTable keyOf) (label : String) (value : Nat) : SeriesTable keyOf :=
  ⟨setSeries (keyOf label) label value t.series⟩

/-- The values by the labels under which they are shown. -/
def shown (t : SeriesTable keyOf) : KeyMap Nat :=
  .ofList (t.series.map fun e => (e.2.label, e.2.value))

end SeriesTable

/-! ### Counts and sizes -/

/-- The state of a worker's disk usage scans. -/
inductive Scan where
  | underWay
  /-- the last scan ended at a time -/
  | ended (time : Nat)
deriving DecidableEq, Repr

/-- What has been counted and measured. -/
structure Exporter (keyOf : String → UInt64 := labelKey) where
  successes : SeriesTable keyOf
  failures : SeriesTable keyOf
  /-- bytes measured by the last successful scan -/
  diskUsage : SeriesTable keyOf
  /-- the workers of which a scan has succeeded -/
  measured : List String
  scans : KeyMap Scan

namespace Exporter

variable {keyOf : String → UInt64}

/-- Nothing counted and nothing measured. -/
def empty : Exporter keyOf := ⟨.empty, .empty, .empty, [], .empty⟩

/-! ### Counting -/

/-- The count of a worker, zero if there is none. -/
def countOf (counts : SeriesTable keyOf) (worker : String) : Nat := (counts.value? worker).getD 0

/-- Count a successful execution (`sync_success`). -/
def success (x : Exporter keyOf) (worker : String) : Exporter keyOf :=
  { x with successes := x.successes.set worker (countOf x.successes worker + 1) }

/-- Count a failed execution (`sync_fail`). -/
def failure (x : Exporter keyOf) (worker : String) : Exporter keyOf :=
  { x with failures := x.failures.set worker (countOf x.failures worker + 1) }

/-- The number of successful executions.  From then on the worker is listed. -/
def readSuccesses (x : Exporter keyOf) (worker : String) : Nat × Exporter keyOf :=
  let n := countOf x.successes worker
  (n, { x with successes := x.successes.set worker n })

/-- The number of failed executions.  From then on the worker is listed. -/
def readFailures (x : Exporter keyOf) (worker : String) : Nat × Exporter keyOf :=
  let n := countOf x.failures worker
  (n, { x with failures := x.failures.set worker n })

/-! ### Disk usage -/

/-- Nanoseconds that have to pass between two scans of a worker: a minute. -/
def throttle : Nat := 60000000000

/-- The greatest size that is shown. -/
def greatestSize : Nat := 0x7FFFFFFFFFFFFFFF

/-- The size measured last, if any scan of the worker has succeeded. -/
def measured? (x : Exporter keyOf) (worker : String) : Option Nat :=
  if worker ∈ x.measured then x.diskUsage.value? worker else none

/-- Whether a scan of the worker may begin. -/
def mayScan (x : Exporter keyOf) (worker : String) (now : Nat) : Bool :=
  match x.scans.get? worker with
  | none => true
  | some .underWay => false
  | some (.ended time) => throttle < now - time

/-- Request a scan, and whether it is accepted; an accepted scan is under way
    (`update_disk_usage`). -/
def requestAt (x : Exporter keyOf) (worker : String) (now : Nat) : Exporter keyOf × Bool :=
  if x.mayScan worker now then ({ x with scans := x.scans.insert worker .underWay }, true)
  else (x, false)

/-- A scan ends, with a size or in failure (`record_disk_usage`). -/
def finishScanAt (x : Exporter keyOf) (worker : String) (size : Option Nat) (now : Nat) :
    Exporter keyOf :=
  match size with
  | some bytes =>
    { x with
      diskUsage := x.diskUsage.set worker (min bytes greatestSize)
      measured := x.measured.insert worker
      scans := x.scans.insert worker (.ended now) }
  | none => { x with scans := x.scans.insert worker (.ended now) }

/-- Request a scan where nothing can carry it out: if accepted it fails at once. -/
def requestInVainAt (x : Exporter keyOf) (worker : String) (now : Nat) : Exporter keyOf × Bool :=
  let (y, accepted) := x.requestAt worker now
  (if accepted then y.finishScanAt worker none now else y, accepted)

/-! ### A clock of milliseconds -/

/-- Nanoseconds of some milliseconds. -/
def nanosOfMillis (millis : Nat) : Nat := 1000000 * millis

/-- Request a scan at a time in milliseconds. -/
def request (x : Exporter keyOf) (worker : String) (millis : Nat) : Exporter keyOf × Bool :=
  x.requestAt worker (nanosOfMillis millis)

/-- A scan ends at a time in milliseconds. -/
def finishScan (x : Exporter keyOf) (worker : String) (size : Option Nat) (millis : Nat) :
    Exporter keyOf :=
  x.finishScanAt worker size (nanosOfMillis millis)

/-- Request a scan that nothing can carry out, at a time in milliseconds. -/
def requestInVain (x : Exporter keyOf) (worker : String) (millis : Nat) : Exporter keyOf × Bool :=
  x.requestInVainAt worker (nanosOfMillis millis)

end Exporter

end SyncFleet

/-
  SyncFleet/Metrics/Exposition.lean
  =================================
  **The metrics in the text format that collectors scrape.**

  Families of series come in the order of their names, series in the order of
  their labels; a family without series is left out.
-/
import SyncFleet.Decimal.Numeral
import SyncFleet.Metrics.Exporter

namespace SyncFleet

/-- A family of series that are told apart by their worker. -/
structure MetricFamily where
  name : String
  help : String
  kind : String
  series : KeyMap Nat

namespace MetricFamily

/-- One character of a label's value: quote, backslash and line feed are escaped. -/
def labelChar : Char → List Char
  | '\x22' => ['\\', '\x22']
  | '\\' => ['\\', '\\']
  | '\n' => ['\\', 'n']
  | c => [c]

/-- A label's value between its quotes. -/
def labelValue (s : String) : String := String.ofList (s.toList.flatMap labelChar)

/-- The line of one series. -/
def line (f : MetricFamily) (worker : String) (value : Nat) : String :=
  f.name ++ "\x7bworker=\"" ++ labelValue worker ++ "\"\x7d "
    ++ String.ofList (Decimal.natText value) ++ "\n"

/-- The lines of a family, none if it has no series. -/
def render (f : MetricFamily) : String :=
  if f.series.isEmpty then ""
  else "# HELP " ++ f.name ++ " " ++ f.help ++ "\n# TYPE " ++ f.name ++ " " ++ f.kind ++ "\n"
    ++ String.join (f.series.entries.map fun e => f.line e.1 e.2)

end MetricFamily

variable {keyOf : String → UInt64}

/-- The families of an exporter in the order of their names. -/
def Exporter.families (x : Exporter keyOf) : List MetricFamily := [
  ⟨"fail_sync", "How many failed synchronizations processed, partitioned by workers.",
    "counter", x.failures.shown⟩,
  ⟨"lug_storage_disk_usage", "Disk usage in bytes, partitioned by workers.",
    "gauge", x.diskUsage.shown⟩,
  ⟨"success_sync", "How many successful synchronizations processed, partitioned by workers.",
    "counter", x.successes.shown⟩]

/-- All metrics as text (`render_prometheus`). -/
def Exporter.render (x : Exporter keyOf) : String := String.join (x.families.map MetricFamily.render)

end SyncFleet

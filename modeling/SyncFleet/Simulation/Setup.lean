/-
  SyncFleet/Simulation/Setup.lean
  ===============================
  **How a simulated fleet is set up.**
-/
import SyncFleet.Simulation.World

namespace SyncFleet

open Calendar Storage

namespace World

/-- The faults of settings that are noted when jobs are made. -/
def noteSpecs (w : World) (specs : List JobSpec) : World :=
  specs.zipIdx.foldl
    (fun w (s, i) => if s.descriptor.hasInvalidInterval then w.noteJob i .invalidInterval else w) w

/-- Note what came of loading a checkpoint, and which jobs it restored. -/
def noteLoad (w : World) (specs : List JobSpec) (loaded : Except StoreFault Checkpoint) : World :=
  let w := match loaded with
    | .ok _ => w
    | .error (.notFound location) => w.noteLoop (.noCheckpoint location)
    | .error fault => w.noteLoop (.loadFailed fault.message)
  specs.foldl
    (fun w s =>
      if (restorable loaded).jobs.contains s.name then w.noteLoop (.restored s.name) else w) w

/-- A fleet of jobs with the sources of their attempts, restored from what loading the store
    gave. -/
def ofJobs (base : Instant) (config : FleetConfig) (jobs : List (JobSpec × AttemptSource))
    (store : MemoryStore) (loaded : Except StoreFault Checkpoint) : Except FleetError World := do
  let specs := jobs.map Prod.fst
  let fleet ← Fleet.ofJobs config.limit (specs.map (Job.new · base)) loaded base
  let w := World.new base (.ofFleet fleet store) (jobs.map Prod.snd)
  return { (w.noteSpecs specs).noteLoad specs loaded with period := max config.pollMillis 1 }

/-- A single job that belongs to no fleet. -/
def ofJob (base : Instant) (spec : JobSpec) (source : AttemptSource) : World :=
  let fleet : Fleet := ⟨0, [⟨Job.new spec base, base⟩], []⟩
  (World.new base (.ofFleet fleet (.holding none)) [source]).noteSpecs [spec]

end World

end SyncFleet

/-
  SyncFleet/Fleet/Completion.lean
  ===============================
  **Running one job of a fleet to its end.**

  The job's loop is started if need be, a ticket is sent, and the loop plays
  it out before anything else happens.  Every attempt at a job has the same
  result, and no time passes.
-/
import SyncFleet.Attempt.Script
import SyncFleet.Fleet.Manager

namespace SyncFleet

open Calendar

/-- What an attempt at a job yields. -/
def JobSpec.attempt (s : JobSpec) (machine : Command → Ending) (hooks : List Hook) :
    AttemptResult :=
  match s.descriptor.work with
  | .ok work => work.attempt machine hooks s.descriptor
  | .error _ => .ok .none

/-- The execution of a job that one ticket leads to. -/
def JobSpec.execution (s : JobSpec) (result : AttemptResult) : Execution :=
  (Run.of s.policy fun _ => (result, 0)).execution

namespace Job

/-- The job after its loop has played out the next ticket, and what it reports. -/
def playTicket (j : Job) (result : AttemptResult) (now : Instant) : Job × List Report :=
  match j.receive? with
  | none => (j, [])
  | some j =>
    match j.phase with
    | .attempting ticket _ =>
      let e := j.spec.execution result
      let concluded := { j with phase := .concluded ticket e }
      match (concluded.record? now).bind publish? with
      | some published => (published, j.spec.reports e)
      | none => (concluded, [])
    | _ => (j, [])

/-- The job after one more execution.  A job looked after elsewhere is left alone. -/
def complete (j : Job) (result : AttemptResult) (now : Instant) : Job × List Report :=
  if j.spec.external then (j, []) else (j.spawn.1.trigger).playTicket result now

end Job

/-- Run the job of a name to its end (`run_specific_worker`).  The answer holds what the job
    reports. -/
def Manager.complete (m : Manager) (machine : Command → Ending) (hooks : List Hook)
    (name : String) (now : Instant) : Except FleetError (Manager × List Report) := do
  let i ← m.locate name
  match m.fleet.job? i with
  | none => throw (.jobNotFound name)
  | some j =>
    let (done, reports) := j.complete (j.spec.attempt machine hooks) now
    return ({ m with fleet := m.fleet.update i fun _ => done }, reports)

end SyncFleet

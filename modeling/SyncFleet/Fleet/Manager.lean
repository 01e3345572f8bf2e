/-
  SyncFleet/Fleet/Manager.lean
  ============================
  **The decision loop around a fleet: ticks, commands and saves.**

  The loop first starts every job and saves a checkpoint.  From then on it
  waits, and does one thing at a time: a tick, or a command.  A tick that
  changed the queue is followed by a save of the checkpoint taken at that very
  moment, and until the save is over the loop does nothing else.  A save that
  fails leaves the store as it was, and the loop goes on.
-/
import SyncFleet.Fleet.Construction
import SyncFleet.Job.StatusReport
import SyncFleet.Storage.MemoryStore

namespace SyncFleet

open Calendar Control Storage

/-- The checkpoint of a fleet at a moment (`build_checkpoint`). -/
def Fleet.checkpoint (f : Fleet) (now : Instant) : Checkpoint :=
  ⟨.ofList (f.slots.map fun s =>
    let report := s.job.report now
    (s.job.name, ⟨s.lastInvoke, some report.lastFinished, some report.result⟩))⟩

/-- Where the decision loop stands. -/
inductive LoopPhase where
  /-- it has not been started -/
  | unstarted
  /-- it waits for a save to end -/
  | saving (checkpoint : Checkpoint)
  /-- it waits for the next tick or command -/
  | waiting
  /-- it has ended -/
  | ended
deriving DecidableEq

/-- A fleet with its decision loop and its store. -/
structure Manager where
  fleet : Fleet
  desk : Desk
  loop : LoopPhase
  store : MemoryStore

namespace Manager

/-- A manager whose loop has not been started. -/
def ofFleet (fleet : Fleet) (store : MemoryStore) : Manager :=
  ⟨fleet, .initial, .unstarted, store⟩

@[simp] theorem fleet_ofFleet (fleet : Fleet) (store : MemoryStore) :
    (ofFleet fleet store).fleet = fleet := rfl

/-! ### The loop -/

/-- Start every job's loop and begin the first save. -/
def start (m : Manager) (now : Instant) : Manager :=
  let fleet := { m.fleet with slots := m.fleet.slots.map fun s => { s with job := s.job.spawn.1 } }
  { m with fleet, loop := .saving (fleet.checkpoint now) }

/-- The save under way ends (`save_checkpoint`). -/
def finishSave? (m : Manager) (succeeds : Bool) : Option Manager :=
  match m.loop with
  | .saving c =>
    some { m with loop := .waiting, store := if succeeds then m.store.save c else m.store }
  | _ => none

/-- A tick, and what it did; while stopped a tick does nothing (the timer's branch of `run`). -/
def tick? (m : Manager) (now : Instant) : Option (Manager × Option Tick) :=
  match m.loop, m.desk.mode with
  | .waiting, .running =>
    let (fleet, t) := m.fleet.tick now
    let loop := if t.changed then .saving (fleet.checkpoint now) else .waiting
    some ({ m with fleet, loop }, some t)
  | .waiting, .stopped => some (m, none)
  | _, _ => none

/-- The loop takes the next command (the mailbox's branch of `run`). -/
def serve? (m : Manager) : Option (Manager × ControlCommand) :=
  match m.loop with
  | .waiting =>
    m.desk.serve?.map fun (desk, c) =>
      ({ m with desk, loop := if c = .exit then .ended else .waiting }, c)
  | _ => none

/-- The loop finds that nobody can call it any more. -/
def abandon? (m : Manager) : Option Manager :=
  match m.loop with
  | .waiting => some { m with desk := m.desk.close, loop := .ended }
  | _ => none

/-! ### Reports and requests -/

/-- Whether due jobs are queued and admitted. -/
def isRunning (m : Manager) : Bool := m.desk.mode == .running

/-- The jobs that reports show, by name. -/
def visibleJobs (m : Manager) : List Job :=
  (m.fleet.slots.map Slot.job).filter fun j => !j.spec.isHidden

/-- The reports on all jobs that are not hidden. -/
def reports (m : Manager) (now : Instant) : KeyMap StatusReport :=
  .ofList (m.visibleJobs.map fun j => (j.name, j.report now))

/-- The status of the fleet as JSON, with captured output. -/
def statusJson (m : Manager) (now : Instant) : Json :=
  .object [("running", .bool m.isRunning),
    ("workers", .object ((m.reports now).entries.map fun e => (e.1, e.2.toJson)))]

/-- The status of the fleet as JSON, without captured output. -/
def summaryJson (m : Manager) (now : Instant) : Json :=
  .object [("running", .bool m.isRunning),
    ("workers", .object ((m.reports now).entries.map fun e => (e.1, e.2.toJobSummary.toJson)))]

/-- The place of the job of a name. -/
def locate (m : Manager) (name : String) : Except FleetError Nat :=
  match m.fleet.find? name with
  | some i => .ok i
  | none => .error (.jobNotFound name)

/-- Request an execution of the job of a name. -/
def trigger (m : Manager) (name : String) : Except FleetError Manager := do
  let i ← m.locate name
  return { m with fleet := m.fleet.update i Job.trigger }

end Manager

end SyncFleet

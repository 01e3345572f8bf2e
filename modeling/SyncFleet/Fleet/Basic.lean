/-
  SyncFleet/Fleet/Basic.lean
  ==========================
  **The fleet: all jobs, when each was last admitted, and who waits.**

  A tick of the decision loop first looks at every job in order.  A busy job
  counts against the limit.  An idle job whose interval has elapsed joins the
  end of the queue, unless it waits there already.  Then jobs are admitted
  from the front of the queue, as many as the limit leaves room for: each gets
  a ticket, and the time of its admission is noted.
-/
import SyncFleet.Job.Basic

namespace SyncFleet

open Calendar

/-- A job of the fleet and when it was last admitted. -/
structure Slot where
  job : Job
  lastInvoke : Instant
deriving DecidableEq

/-- All jobs in the order of their descriptors, the places of the waiting ones in the order in
    which they wait, and how many jobs may be busy at once. -/
structure Fleet where
  limit : Nat
  slots : List Slot
  pending : List Nat
deriving DecidableEq

/-- What one tick did (`TickOutcome`). -/
structure Tick where
  /-- the number of jobs found busy -/
  running : Nat
  /-- places of the jobs that joined the queue, in order -/
  queued : List Nat
  /-- places of the jobs that were admitted, in order -/
  admitted : List Nat
  /-- the number of jobs that wait after it -/
  waiting : Nat
deriving DecidableEq, Repr

/-- Whether a tick changed the queue. -/
def Tick.changed (t : Tick) : Bool := !t.queued.isEmpty || !t.admitted.isEmpty

namespace Slot

/-- Whether the job's interval has elapsed since its last admission. -/
def isDue (s : Slot) (now : Instant) : Bool := now.exceeds s.lastInvoke s.job.spec.interval

/-- Whether a tick puts the job into the queue if it does not wait there yet. -/
def joins (s : Slot) (now : Instant) : Bool :=
  s.job.isIdle && !s.job.spec.external && s.isDue now

/-- The slot with its job admitted. -/
def admission (s : Slot) (now : Instant) : Slot := ⟨s.job.trigger, now⟩

end Slot

namespace Fleet

/-- The number of busy jobs. -/
def busyCount (f : Fleet) : Nat := f.slots.countP fun s => !s.job.isIdle

/-- The places of the jobs that join the queue, in order. -/
def joining (f : Fleet) (now : Instant) : List Nat :=
  (f.slots.zipIdx.filter fun (s, i) => s.joins now && !f.pending.contains i).map Prod.snd

/-- One tick of the decision loop (`schedule_tick`). -/
def tick (f : Fleet) (now : Instant) : Fleet × Tick :=
  let running := f.busyCount
  let queued := f.joining now
  let pending := f.pending ++ queued
  let budget := f.limit - running
  let admitted := pending.take budget
  let rest := pending.drop budget
  let slots := f.slots.mapIdx fun i s => if admitted.contains i then s.admission now else s
  ({ f with slots, pending := rest }, ⟨running, queued, admitted, rest.length⟩)

/-- The job at a place. -/
def job? (f : Fleet) (i : Nat) : Option Job := (f.slots[i]?).map Slot.job

/-- The place of the job of a name. -/
def find? (f : Fleet) (name : String) : Option Nat :=
  f.slots.findIdx? fun s => s.job.name == name

/-- The fleet with the job at a place changed. -/
def update (f : Fleet) (i : Nat) (step : Job → Job) : Fleet :=
  { f with slots := f.slots.modify i fun s => { s with job := step s.job } }

/-- The names of all jobs, hidden ones included. -/
def names (f : Fleet) : List String := f.slots.map (·.job.name)

/-- The name of the job at a place. -/
def nameAt (f : Fleet) (i : Nat) : String := ((f.job? i).map Job.name).getD ""

/-- When the job of a name was last admitted. -/
def lastInvoke? (f : Fleet) (name : String) : Option Instant :=
  (f.slots.find? fun s => s.job.name == name).map Slot.lastInvoke

end Fleet

end SyncFleet

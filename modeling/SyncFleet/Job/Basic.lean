/-
  SyncFleet/Job/Basic.lean
  ========================
  **A job and its loop, as atomic steps.**

  An execution makes attempts until one succeeds or the policy runs out.  After
  each attempt the policy decides: the execution is over, with the output of
  that very attempt, or another attempt follows after the policy's delay.
  `Run.of` plays a whole execution against attempts that are given by number
  and says how often and how long it waited.

  A trigger issues a ticket, numbered from one, and puts it into the job's
  inbox.  The job's loop, once it is spawned, takes one ticket at a time,
  attempts the work until the retry policy is done with it, records the
  execution in the job's status and then publishes the ticket as completed.

  Sending a ticket makes the job busy and recording an execution makes it
  idle; these are single steps between which other steps may come, so every
  interleaving of triggers with the loop is a sequence of the functions below.
  A loop step answers `none` where it cannot be taken.
-/
import SyncFleet.Attempt.Outcome
import SyncFleet.Calendar.Instant
import SyncFleet.Job.Spec
import SyncFleet.OutputBuffer

namespace SyncFleet

open Calendar

/-! ### Executions -/

/-- How an execution ended. -/
structure Execution where
  succeeded : Bool
  /-- the number of attempts made -/
  attempts : UInt32
  /-- the output of the last attempt -/
  output : Output
deriving DecidableEq, Repr

namespace RetryPolicy

/-- The execution that ends with an attempt of the given number, or `none` when another attempt
    follows. -/
def conclude? (p : RetryPolicy) (attempt : UInt32) (r : AttemptResult) : Option Execution :=
  match r with
  | .ok output => some ⟨true, attempt, output⟩
  | .error e => if p.allows attempt then none else some ⟨false, attempt, e.output⟩

end RetryPolicy

/-- A whole execution, with its pauses between attempts. -/
structure Run where
  execution : Execution
  /-- how often it waited between two attempts -/
  pauses : Nat
  /-- how many milliseconds it took, pauses included -/
  duration : Nat
deriving DecidableEq, Repr

namespace Run

/-- Continue with the attempt of a number.  `attempts n` is the outcome of attempt `n` and the
    milliseconds that it takes. -/
def fromAttempt (p : RetryPolicy) (attempts : UInt32 → AttemptResult × Nat) (n : UInt32)
    (pauses duration : Nat) : Run :=
  let (result, millis) := attempts n
  match result with
  | .ok output => ⟨⟨true, n, output⟩, pauses, duration + millis⟩
  | .error e =>
    if n < p.maxAttempts then
      Run.fromAttempt p attempts (n + 1) (pauses + 1) (duration + millis + p.delay)
    else ⟨⟨false, n, e.output⟩, pauses, duration + millis⟩
termination_by p.maxAttempts.toNat - n.toNat
decreasing_by
  have h : n.toNat < p.maxAttempts.toNat := UInt32.lt_iff_toNat_lt.1 ‹_›
  have h' := p.maxAttempts.toNat_lt
  rw [UInt32.toNat_add]
  simp only [UInt32.toNat_one]
  omega

/-- Play an execution from its first attempt (`execute_with_retry`). -/
def of (p : RetryPolicy) (attempts : UInt32 → AttemptResult × Nat) : Run :=
  Run.fromAttempt p attempts 1 0 0

end Run

/-! ### Status -/

/-- The mutable status of a job (`StatusCell`). -/
structure JobStatus where
  /-- the outcome of the last execution -/
  result : Bool
  /-- when an execution last succeeded -/
  lastFinished : Instant
  /-- false from a trigger until an execution is recorded -/
  idle : Bool
  stdout : OutputBuffer
  stderr : OutputBuffer
deriving DecidableEq

namespace JobStatus

/-- The status of a job that has not run yet. -/
def fresh (now : Instant) : JobStatus :=
  ⟨true, now, true, .empty OutputBuffer.jobCapacity, .empty OutputBuffer.jobCapacity⟩

/-- The status after an execution that ended now. -/
def record (s : JobStatus) (e : Execution) (now : Instant) : JobStatus where
  result := e.succeeded
  lastFinished := if e.succeeded then now else s.lastFinished
  idle := true
  stdout := s.stdout.push e.output.stdout
  stderr := s.stderr.push e.output.stderr

@[simp] theorem idle_record (s : JobStatus) (e : Execution) (now : Instant) :
    (s.record e now).idle = true := rfl

end JobStatus

/-! ### The loop -/

/-- Where a job's loop stands. -/
inductive Phase where
  /-- nobody has started the loop yet -/
  | dormant
  /-- the loop waits for a ticket -/
  | waiting
  /-- an attempt for a ticket is under way -/
  | attempting (ticket : Nat) (attempt : UInt32)
  /-- the delay after a number of failed attempts -/
  | resting (ticket : Nat) (failed : UInt32)
  /-- the execution for a ticket has ended and is not recorded yet -/
  | concluded (ticket : Nat) (execution : Execution)
  /-- the execution is recorded, and its ticket not yet published -/
  | recorded (ticket : Nat)
deriving DecidableEq, Repr

/-- A job: what is fixed about it, its status, and its loop. -/
structure Job where
  spec : JobSpec
  status : JobStatus
  /-- the number of the last ticket issued -/
  issued : Nat
  /-- tickets that wait for the loop, in the order in which they were sent -/
  inbox : List Nat
  phase : Phase
  /-- the ticket that was published last -/
  completed : Nat
deriving DecidableEq

namespace Job

/-- A job whose loop has not been started. -/
def new (spec : JobSpec) (now : Instant) : Job :=
  ⟨spec, .fresh now, 0, [], .dormant, 0⟩

/-- The job's name. -/
def name (j : Job) : String := j.spec.name

/-- Seed the reported status from what was kept of an earlier life. -/
def restore (j : Job) (lastFinished : Instant) (result : Bool) : Job :=
  { j with status := { j.status with lastFinished, result } }

/-- Whether the job reports to be idle; a job looked after elsewhere always does. -/
def isIdle (j : Job) : Bool := j.spec.external || j.status.idle

@[simp] theorem isIdle_new (spec : JobSpec) (now : Instant) : (new spec now).isIdle = true :=
  Bool.or_true _

@[simp] theorem spec_restore (j : Job) (lastFinished : Instant) (result : Bool) :
    (j.restore lastFinished result).spec = j.spec := rfl

@[simp] theorem isIdle_restore (j : Job) (lastFinished : Instant) (result : Bool) :
    (j.restore lastFinished result).isIdle = j.isIdle := rfl

/-! ### Steps of callers -/

/-- Issue a ticket and put it into the inbox (`send_trigger`). -/
def send (j : Job) : Job :=
  let ticket := j.issued + 1
  { j with
    status := { j.status with idle := false }
    issued := ticket
    inbox := j.inbox ++ [ticket] }

@[simp] theorem isIdle_send (j : Job) : j.send.isIdle = j.spec.external := Bool.or_false _

/-- Request an execution; a job looked after elsewhere ignores the request (`trigger_sync`, and
    `admit` of a tick). -/
def trigger (j : Job) : Job := if j.spec.external then j else j.send

/-- Start the loop, and whether this call did so.  There is one loop at most, and none for a job
    looked after elsewhere. -/
def spawn (j : Job) : Job × Bool :=
  if j.spec.external then (j, false)
  else match j.phase with
    | .dormant => ({ j with phase := .waiting }, true)
    | _ => (j, false)

/-- Whether the execution of a ticket has been recorded and published, for which
    `run_and_wait` waits. -/
def hasCompleted (j : Job) (ticket : Nat) : Bool := ticket ≤ j.completed

/-! ### Steps of the loop -/

/-- Take the next ticket and begin its first attempt (`run_loop`, like the steps below). -/
def receive? (j : Job) : Option Job :=
  match j.phase, j.inbox with
  | .waiting, ticket :: rest =>
    some { j with
      status := { j.status with idle := false }
      inbox := rest
      phase := .attempting ticket 1 }
  | _, _ => none

/-- End the attempt under way: the policy is done with the ticket, or another attempt follows. -/
def finishAttempt? (j : Job) (r : AttemptResult) : Option Job :=
  match j.phase with
  | .attempting ticket n =>
    match j.spec.policy.conclude? n r with
    | some e => some { j with phase := .concluded ticket e }
    | none => some { j with phase := .resting ticket n }
  | _ => none

/-- Begin the next attempt after the delay. -/
def resume? (j : Job) : Option Job :=
  match j.phase with
  | .resting ticket n => some { j with phase := .attempting ticket (n + 1) }
  | _ => none

/-- Record the execution that has ended. -/
def record? (j : Job) (now : Instant) : Option Job :=
  match j.phase with
  | .concluded ticket e =>
    some { j with status := j.status.record e now, phase := .recorded ticket }
  | _ => none

/-- Publish the recorded ticket and wait for the next one. -/
def publish? (j : Job) : Option Job :=
  match j.phase with
  | .recorded ticket => some { j with completed := ticket, phase := .waiting }
  | _ => none

end Job

/-! ### Reports to the metrics -/

/-- What a recorded execution reports to the metrics. -/
inductive Report where
  | success (job : String)
  | failure (job : String)
  /-- a request to measure the disk usage of a path -/
  | diskUsage (job path : String)
deriving DecidableEq, Repr

/-- The reports of an execution of a job: its outcome, and a request to measure the job's path
    if it has one. -/
def JobSpec.reports (s : JobSpec) (e : Execution) : List Report :=
  (if e.succeeded then .success s.name else .failure s.name)
    :: (s.descriptor.path?.map fun path => .diskUsage s.name path).toList

end SyncFleet

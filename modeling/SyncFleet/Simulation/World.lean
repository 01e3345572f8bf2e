/-
  SyncFleet/Simulation/World.lean
  ===============================
  **A fleet in simulated time.**

  Time stands still while anything can happen and then jumps to the next
  timer.  Timers that are due at one time go off together, and whoever they
  wake takes turns in the order in which they were set.  In one turn a job's
  loop does what it can without waiting, but it lets the others go first when
  it has come a certain number of times to a point at which it might wait.
  All that changes the fleet are the steps of jobs, of the decision loop and of
  its callers; what is added here is when each of them is taken, where the
  attempts come from and how long a save takes.
-/
import SyncFleet.Attempt.Rehearsal
import SyncFleet.Checkpoint.Codec
import SyncFleet.Fleet.Manager
import SyncFleet.Job.Basic
import SyncFleet.Metrics.Exporter

namespace SyncFleet

open Calendar Control Storage

/-! ### What a simulation notes down: the events of jobs and of the decision loop -/

/-- What happens to a job. -/
inductive JobEvent where
  /-- its interval cannot be used and the default counts -/
  | invalidInterval
  /-- its loop begins to wait for tickets -/
  | loopStarted
  /-- a ticket is taken -/
  | started
  /-- an attempt of a number begins -/
  | attempt (number : UInt32)
  /-- an attempt failed, and another one follows -/
  | retrying (failed most : UInt32) (reason : String)
  /-- the last attempt succeeded -/
  | succeeded (attempts : UInt32)
  /-- the last attempt failed -/
  | exhausted (attempts : UInt32) (reason : String)
  /-- the execution is recorded -/
  | finished (result : Bool) (attempts : UInt32)
deriving DecidableEq, Repr

/-- What happens in the decision loop and when its fleet is built. -/
inductive LoopEvent where
  | noCheckpoint (location : String)
  | loadFailed (reason : String)
  /-- a job has been restored from the checkpoint -/
  | restored (job : String)
  | saved (checkpoint : Checkpoint)
  | saveFailed (reason : String)
  | started
  /-- a job has joined the queue -/
  | queued (job : String)
  /-- a job has been admitted and is then the last of so many busy ones -/
  | admitted (job : String) (running : Nat)
  /-- so many jobs wait after a tick that found so many busy -/
  | waiting (pending running : Nat)
  /-- a start command has been taken -/
  | running
  /-- a stop command has been taken -/
  | stopped
  /-- nobody can call the loop any more -/
  | orphaned
  | exited
deriving DecidableEq

/-! ### How the reports of jobs reach the exporter -/

/-- The exporter after a report at a time.  A request to measure a path only starts the throttle:
    what the scan finds is not known here. -/
def Exporter.told (x : Exporter) (time : Nat) : Report → Exporter
  | .success job => x.success job
  | .failure job => x.failure job
  | .diskUsage job _ => (x.requestInVain job time).1

/-! ### What is under way -/

/-- What happens when a timer goes off. -/
inductive Alarm where
  /-- an attempt of the job at a place ends -/
  | attemptEnds (place : Nat) (result : AttemptResult)
  /-- the delay between two attempts of the job at a place ends -/
  | restEnds (place : Nat)
  /-- the save under way ends -/
  | saveEnds
  /-- the decision loop ticks -/
  | tick

/-- Something that can be done at once. -/
inductive Wake where
  /-- a job's loop has just been spawned -/
  | born (place : Nat)
  /-- there may be a ticket for a job's loop -/
  | woken (place : Nat)
  /-- a timer has gone off -/
  | alarm (a : Alarm)
  /-- a job's loop has recorded an execution in its turn -/
  | recorded (place : Nat)
  /-- the next attempt of a job is due without a delay, in its turn -/
  | rested (place : Nat)

/-- A fleet at a moment of simulated time. -/
structure World where
  /-- the wall clock at time zero -/
  base : Instant
  /-- milliseconds of simulated time -/
  time : Nat
  manager : Manager
  /-- where the attempts of each job come from -/
  sources : List AttemptSource
  probe : Probe
  exporter : Exporter
  /-- requests to measure disk usage, the latest first -/
  measured : List (String × String)
  /-- milliseconds between two ticks -/
  period : Nat
  saveMillis : Nat
  /-- the numbers of the saves that fail, from zero -/
  failingSaves : List Nat
  savesBegun : Nat
  /-- when the next tick is due -/
  deadline : Nat
  /-- the number of the call that is being made -/
  caller : Option Nat
  /-- whether nobody can make a call any more -/
  orphaned : Bool
  /-- what can be done at once, in the order in which it is done -/
  ready : List Wake
  /-- how often the loop whose turn it is might have waited -/
  pauses : Nat
  /-- timers by the time at which they are due -/
  timers : List (Nat × Alarm)
  /-- events of the decision loop, the latest first -/
  loopLog : List (Nat × LoopEvent)
  /-- events of the jobs by place, the latest first -/
  jobLog : List (Nat × Nat × JobEvent)

namespace World

/-- A world at time zero in which nothing has happened. -/
def new (base : Instant) (manager : Manager) (sources : List AttemptSource) : World where
  base
  time := 0
  manager
  sources
  probe := .initial
  exporter := .empty
  measured := []
  period := 1
  saveMillis := 0
  failingSaves := []
  savesBegun := 0
  deadline := 0
  caller := none
  orphaned := false
  ready := []
  pauses := 0
  timers := []
  loopLog := []
  jobLog := []

/-- What the wall clock shows. -/
def now (w : World) : Instant := w.base.addMillis w.time

/-- Note an event of the decision loop. -/
def noteLoop (w : World) (e : LoopEvent) : World :=
  { w with loopLog := (w.time, e) :: w.loopLog }

/-- Note an event of the job at a place. -/
def noteJob (w : World) (i : Nat) (e : JobEvent) : World :=
  { w with jobLog := (i, w.time, e) :: w.jobLog }

/-- A timer among the others, behind those that are due no later. -/
def insertTimer (t : Nat × Alarm) : List (Nat × Alarm) → List (Nat × Alarm)
  | [] => [t]
  | u :: rest => if t.1 < u.1 then t :: u :: rest else u :: insertTimer t rest

/-- The longest time in milliseconds for which a timer can be set: thirty years. -/
def longestTimer : Nat := 946080000000

/-- Set a timer that is due at a time, or as late as a timer can be. -/
def setTimer (w : World) (due : Nat) (a : Alarm) : World :=
  { w with timers := insertTimer (min due (w.time + longestTimer), a) w.timers }

/-- The job at a place. -/
def job? (w : World) (i : Nat) : Option Job := w.manager.fleet.job? i

/-- Put a job in its place. -/
def setJob (w : World) (i : Nat) (j : Job) : World :=
  { w with manager := { w.manager with fleet := w.manager.fleet.update i fun _ => j } }

/-! ### Jobs -/

/-- Pass the reports of a recorded execution on.  No path of a simulated job exists, so that
    measuring one fails at once. -/
def report (w : World) (r : Report) : World :=
  { w with
    exporter := w.exporter.told w.time r
    measured := match r with
      | .diskUsage job path => (job, path) :: w.measured
      | _ => w.measured }

/-- Record and publish the execution of the job at a place, which then looks for the next
    ticket. -/
def recordExecution (w : World) (i : Nat) (j : Job) (e : Execution) : World :=
  match j.record? w.now with
  | none => w
  | some recorded =>
    let w := (w.setJob i recorded).noteJob i (.finished e.succeeded e.attempts)
    let w := (j.spec.reports e).foldl report w
    match recorded.publish? with
    | none => w
    | some published => { w.setJob i published with ready := .recorded i :: w.ready }

/-- The attempt of the job at a place ends with a result. -/
def endAttempt (w : World) (i : Nat) (r : AttemptResult) : World :=
  match w.job? i with
  | none => w
  | some j =>
    let w := match w.sources[i]? with
      | some (.rehearsal _) => { w with probe := w.probe.leave }
      | _ => w
    match j.finishAttempt? r with
    | none => w
    | some j =>
      let w := w.setJob i j
      match j.phase, r with
      | .concluded _ e, .ok _ =>
        (w.noteJob i (.succeeded e.attempts)).recordExecution i j e
      | .concluded _ e, .error fault =>
        (w.noteJob i (.exhausted e.attempts fault.message)).recordExecution i j e
      | .resting _ n, .error fault =>
        let w := w.noteJob i (.retrying n j.spec.policy.maxAttempts fault.message)
        if j.spec.policy.delay = 0 then { w with ready := .rested i :: w.ready }
        else w.setTimer (w.time + j.spec.policy.delay) (.restEnds i)
      | _, _ => w

/-- The attempt of a number of the job at a place begins. -/
def beginAttempt (w : World) (i : Nat) (number : UInt32) : World :=
  let w := w.noteJob i (.attempt number)
  let source := (w.sources[i]?).getD .none
  let w := match source with
    | .rehearsal _ => { w with probe := w.probe.enter }
    | _ => w
  let (source, result, millis) := source.next
  let w := { w with sources := w.sources.set i source }
  if millis = 0 then w.endAttempt i result
  else w.setTimer (w.time + millis) (.attemptEnds i result)

/-- The loop of the job at a place takes the next ticket if it waits for one. -/
def takeTicket (w : World) (i : Nat) : World :=
  match (w.job? i).bind Job.receive? with
  | none => w
  | some j => ((w.setJob i j).noteJob i .started).beginAttempt i 1

/-- The job at a place makes its next attempt. -/
def retry (w : World) (i : Nat) : World :=
  match (w.job? i).bind Job.resume? with
  | some j =>
    match j.phase with
    | .attempting _ n => (w.setJob i j).beginAttempt i n
    | _ => w
  | none => w

/-- Start the loop of the job at a place, and whether this call did so. -/
def spawnJob (w : World) (i : Nat) : World × Bool :=
  match w.job? i with
  | none => (w, false)
  | some j =>
    let (j, spawned) := j.spawn
    let w := w.setJob i j
    (if spawned then { w with ready := w.ready ++ [.born i] } else w, spawned)

/-- Trigger the job at a place. -/
def triggerJob (w : World) (i : Nat) : World :=
  { w with
    manager := { w.manager with fleet := w.manager.fleet.update i Job.trigger }
    ready := w.ready ++ [.woken i] }

/-! ### The decision loop -/

/-- The loop is free: it waits for its next tick. -/
def awaitTick (w : World) : World := w.setTimer (max w.deadline w.time) .tick

/-- The save under way ends. -/
def endSave (w : World) : World :=
  match w.manager.loop with
  | .saving c =>
    let number := w.savesBegun - 1
    let succeeds := !w.failingSaves.contains number
    match w.manager.finishSave? succeeds with
    | none => w
    | some manager =>
      let w := { w with manager }
      let w := w.noteLoop
        (if succeeds then .saved c else .saveFailed (StoreFault.malformed "disk full").message)
      if number = 0 then { w.noteLoop .started with deadline := w.time }.awaitTick
      else w.awaitTick
  | _ => w

/-- A save begins. -/
def beginSave (w : World) : World :=
  let w := { w with savesBegun := w.savesBegun + 1 }
  if w.saveMillis = 0 then w.endSave else w.setTimer (w.time + w.saveMillis) .saveEnds

/-- Note what a tick did.  The jobs admitted are counted on from those found busy. -/
def noteTick (w : World) (t : Tick) : World :=
  let name := w.manager.fleet.nameAt
  let w := t.queued.foldl (fun w i => w.noteLoop (.queued (name i))) w
  let w := t.admitted.zipIdx.foldl
    (fun w (i, n) => w.noteLoop (.admitted (name i) (t.running + n + 1))) w
  if t.waiting = 0 then w else w.noteLoop (.waiting t.waiting t.running)

/-- How late a tick may be before the ticks after it shift, in milliseconds. -/
def tolerance : Nat := 5

/-- The decision loop ticks. -/
def tick (w : World) : World :=
  match w.manager.tick? w.now with
  | none => w
  | some (manager, outcome) =>
    let next := if w.deadline + tolerance < w.time then w.time else w.deadline
    let w := { w with manager, deadline := next + w.period }
    match outcome with
    | none => w.awaitTick
    | some t =>
      let w := w.noteTick t
      let w := { w with ready := w.ready ++ t.admitted.map Wake.woken }
      if t.changed then w.beginSave else w.awaitTick

/-- Start the manager: all job loops, the first save, and with its end the decision loop. -/
def start (w : World) : World :=
  let places := List.range w.manager.fleet.slots.length
  let born := places.filter fun i => (w.job? i).any fun j => j.spawn.2
  { w with
    manager := w.manager.start w.now
    ready := w.ready ++ born.map Wake.born }.beginSave

/-- The event of a command that has been taken. -/
def commandEvent : ControlCommand → LoopEvent
  | .start => .running
  | .stop => .stopped
  | .exit => .exited

/-! ### Running -/

/-- What a timer that has gone off leads to. -/
def fire (w : World) : Alarm → World
  | .attemptEnds i r => w.endAttempt i r
  | .restEnds i => w.retry i
  | .saveEnds => w.endSave
  | .tick => w.tick

/-- How often a loop may come to a point at which it might wait before its turn ends. -/
def patience : Nat := 128

/-- The next of the things that can be done at once, where the others are given.  The beginning of
    a turn counts as one of the points at which a loop might have waited. -/
def takeTurn (w : World) (rest : List Wake) : Wake → World
  | .born i => ({ w with ready := rest, pauses := 1 }.noteJob i .loopStarted).takeTicket i
  | .woken i => { w with ready := rest, pauses := 1 }.takeTicket i
  | .alarm a => { w with ready := rest, pauses := 1 }.fire a
  | .recorded i =>
    if w.pauses < patience then { w with ready := rest, pauses := w.pauses + 1 }.takeTicket i
    else { w with ready := rest ++ [.woken i] }
  | .rested i =>
    if w.pauses < patience then { w with ready := rest, pauses := w.pauses + 1 }.retry i
    else { w with ready := rest ++ [.alarm (.restEnds i)] }

/-- Something that can happen without any time passing. -/
def instantStep? (w : World) : Option World :=
  match w.ready with
  | wake :: rest => some (w.takeTurn rest wake)
  | [] =>
    match w.caller.bind w.manager.desk.post? with
    | some desk => some { w with manager := { w.manager with desk } }
    | none =>
      match w.manager.serve? with
      | some (manager, c) => some ({ w with manager }.noteLoop (commandEvent c))
      | none =>
        if w.orphaned then
          w.manager.abandon?.map fun manager =>
            ({ w with manager }.noteLoop .orphaned).noteLoop .exited
        else none

/-- Time passes until a timer is due, and all timers that are due then go off. -/
def jumpTo (w : World) (due : Nat) : World :=
  let time := max w.time due
  let (going, later) := w.timers.span fun t => t.1 ≤ time
  { w with time, timers := later, ready := w.ready ++ going.map fun t => .alarm t.2 }

/-- Let time pass until a condition holds of a moment at which nothing more can happen, or until
    there is no timer that is due by the given time.  `budget` bounds the number of steps. -/
def run (stop : World → Bool) (target : Option Nat) : Nat → World → World
  | 0, w => w
  | budget + 1, w =>
    match w.instantStep? with
    | some w => run stop target budget w
    | none =>
      if stop w then w
      else match w.timers with
        | (due, _) :: _ =>
          if target.all (due ≤ ·) then run stop target budget (w.jumpTo due)
          else { w with time := max w.time (target.getD w.time) }
        | [] => { w with time := max w.time (target.getD w.time) }

/-- The number of steps that a simulation takes at most between two requests. -/
def budget : Nat := 100000000

/-- Let time pass until the given time. -/
def advanceTo (w : World) (time : Nat) : World := run (fun _ => false) (some time) budget w

/-- Let time pass until a condition holds. -/
def advanceUntil (w : World) (stop : World → Bool) : World := run stop none budget w

/-! ### Requests -/

/-- Run the job at a place and wait until that very execution is recorded. -/
def runJob (w : World) (i : Nat) : World :=
  match w.job? i with
  | none => w
  | some j =>
    if j.spec.external then w
    else
      let w := (w.spawnJob i).1.triggerJob i
      let ticket := ((w.job? i).map Job.issued).getD 0
      w.advanceUntil fun w => (w.job? i).any (·.hasCompleted ticket)

/-- Give a command to the decision loop and wait for its answer. -/
def command (w : World) (c : ControlCommand) : World × Except ChannelFault Unit :=
  let (desk, k) := w.manager.desk.call c
  let w := { w with manager := { w.manager with desk }, caller := some k }
  let w := w.advanceUntil fun w => (w.manager.desk.outcome? k).isSome
  let outcome := (w.manager.desk.outcome? k).getD (.error (.unanswered c))
  ({ w with caller := none }, outcome)

/-- Nobody can call the decision loop any more. -/
def orphan (w : World) : World := { w with orphaned := true }

/-! ### What has been noted -/

/-- The events of the decision loop in order. -/
def loopEvents (w : World) : List (Nat × LoopEvent) := w.loopLog.reverse

/-- The events of the job at a place in order. -/
def jobEvents (w : World) (i : Nat) : List (Nat × JobEvent) :=
  w.jobLog.reverse.filterMap fun e => if e.1 = i then some e.2 else none

end World

end SyncFleet

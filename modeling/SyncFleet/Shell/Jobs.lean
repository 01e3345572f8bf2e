/-
  SyncFleet/Shell/Jobs.lean
  =========================
  **The processes that a shell has started, and waiting for them.**

  Every process belongs to a job.  A job that has ended is kept until somebody
  has waited for it or has been shown that it ended.
-/
import SyncFleet.Shell.Session

namespace SyncFleet.Shell

open Unix

/-- The status that the end of a process means. -/
def statusOf : Fate → Nat
  | .exited status => status
  | .killed n => 128 + n

/-- What is said of a process that a signal has ended; nothing of two signals that end processes
    all the time. -/
def deathNotice : Fate → Bytes
  | .exited _ => []
  | .killed n =>
    if n = Signal.interrupt ∨ n = Signal.pipe then []
    else (Signal.description n ++ "\n").toList

namespace Job

/-- The status of a job is that of its last process. -/
def status (j : Job) : Nat := ((j.processes.getLast?.bind (·.2)).map statusOf).getD 0

/-- The processes of a job that have not ended, as far as is known. -/
def running (j : Job) : List Nat := j.processes.filterMap fun (n, fate) =>
  if fate.isNone then some n else none

/-- A job after some processes have ended. -/
def after (ended : List (Nat × Fate)) (j : Job) : Job :=
  { j with processes := j.processes.map fun (n, fate) =>
    (n, match fate with
      | some f => some f
      | none => ended.lookup n) }

end Job

namespace Act

/-- The processes that have not ended, as far as is known. -/
def children : Act (List Nat) := do return ((← get).jobs.map Job.running).flatten

/-- Keep how processes have ended. -/
def keepEnds (ended : List (Nat × Fate)) : Act Unit :=
  modify fun s => { s with jobs := s.jobs.map (Job.after ended) }

/-- Notice which processes have ended by now. -/
def noticeEnds : Act Unit := do
  let running ← children
  if !running.isEmpty then keepEnds (← sys (Sys.collect running fun _ _ => true))

/-- The number that a new job gets, if at most `fuel` are taken. -/
def freeIndex (jobs : List Job) : Nat → Nat → Nat
  | 0, i => i
  | fuel + 1, i =>
    match jobs.find? (·.index = i) with
    | some j => if j.isDone && j.isKnown then i else freeIndex jobs fuel (i + 1)
    | none => i

/-- A new job without processes; its number is the answer. -/
def addJob : Act Nat := do
  let jobs := (← get).jobs
  let index := freeIndex jobs (jobs.length + 1) 1
  modify fun s => { s with jobs := ⟨index, [], false⟩ :: jobs.filter (·.index ≠ index) }
  return index

/-- Add a process to a job. -/
def addProcess (index number : Nat) : Act Unit :=
  modify fun s => { s with jobs := s.jobs.map fun j =>
    if j.index = index then { j with processes := j.processes ++ [(number, none)] } else j }

/-- Forget a job. -/
def removeJob (index : Nat) : Act Unit :=
  modify fun s => { s with jobs := s.jobs.filter (·.index ≠ index) }

/-- Say what is to be said of processes that have ended. -/
def sayEnds (ended : List (Nat × Fate)) : Act Unit := do
  for (_, fate) in ended do
    let notice := deathNotice fate
    if !notice.isEmpty then writeTo 2 notice

/-- Wait until a job has ended, and forget it.  What is to be said of its processes is said. -/
def awaitJob (index : Nat) : Act Nat := do
  match (← get).jobs.find? (·.index = index) with
  | none => return 0
  | some job =>
    let mine := job.running
    let running ← children
    let ended ← sys (Sys.collect running fun ended _ => mine.all ended.contains)
    keepEnds ended
    sayEnds (ended.filter fun e => mine.contains e.1)
    let job := ((← get).jobs.find? (·.index = index)).getD job
    removeJob index
    return job.status

/-- Wait until enough jobs have ended; whether they have before a caught signal came.  What is to be
    said of some processes is said. -/
def awaitUnlessCaught (said : List Nat) (isOver : List Job → Bool) : Nat → Act Bool
  | 0 => return false
  | fuel + 1 => do
    if isOver (← get).jobs then return true
    let running ← children
    let ended ← sys (Sys.collect running fun ended s => !ended.isEmpty || !s.task.pending.isEmpty)
    keepEnds ended
    sayEnds (ended.filter fun e => said.contains e.1)
    if ended.isEmpty then return isOver (← get).jobs
    awaitUnlessCaught said isOver fuel

end Act

end SyncFleet.Shell

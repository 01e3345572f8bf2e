/-
  SyncFleet/Proofs/Job/Life.lean
  ==============================
  **The life of a job: calls of any number of users, and the steps of its loop.**

  Users start the loop of a job, trigger the job, or run it and wait; the
  scheduler admits it.  Each call is one atomic step, but for running a job and
  waiting: that starts the loop first and asks for an execution later, and
  other steps may come in between.  A `Job.Life` is any interleaving of calls
  with the steps of the loop, and its log holds the job before and after each
  of them.

  From the log one reads the tickets that were sent, those that the loop took
  up and those that it recorded.  What one step adds to these lists is said by
  `Job.step?_conserves`, and what a life has added up to by `Life.conserved`:
  the loop takes up the tickets in the order in which they were sent, and one
  at a time.
-/
import SyncFleet.Proofs.Job.Step

namespace SyncFleet

open Calendar

/-! ### Calls and steps -/

/-- A call on a job. -/
inductive JobCall where
  /-- somebody asks for an execution and goes on -/
  | trigger
  /-- the scheduler admits the job -/
  | admission
  /-- somebody starts the loop -/
  | spawn
  /-- somebody who wants to wait for an execution starts the loop first -/
  | enter
  /-- somebody who wants to wait for an execution asks for it -/
  | request
  /-- the reported status is seeded from what was kept of an earlier life -/
  | restore (lastFinished : Instant) (result : Bool)
deriving DecidableEq

namespace JobCall

/-- The job after a call. -/
def apply : JobCall → Job → Job
  | .trigger, j | .admission, j | .request, j => j.trigger
  | .spawn, j | .enter, j => j.spawn.1
  | .restore lastFinished result, j => j.restore lastFinished result

/-- Whether the call asks for an execution. -/
def asks : JobCall → Bool
  | .trigger | .admission | .request => true
  | .spawn | .enter | .restore .. => false

/-- Whether the call starts the loop of a job. -/
def starts : JobCall → Job → Bool
  | .spawn, j | .enter, j => j.spawn.2
  | _, _ => false

end JobCall

/-- Whether an action is one of the job's own loop. -/
def JobAction.isOwn : JobAction → Bool
  | .spawn | .trigger => false
  | _ => true

/-- What happens next to a job. -/
inductive JobStep where
  | call (c : JobCall)
  | loop (a : JobAction) (own : a.isOwn = true)

namespace JobStep

/-- The loop takes the next ticket. -/
def receive : JobStep := .loop .receive rfl

/-- The attempt under way ends. -/
def finish (r : AttemptResult) : JobStep := .loop (.finishAttempt r) rfl

/-- The next attempt begins after the delay. -/
def resume : JobStep := .loop .resume rfl

/-- The execution that has ended is recorded. -/
def record (now : Instant) : JobStep := .loop (.record now) rfl

/-- The recorded ticket is published. -/
def publish : JobStep := .loop .publish rfl

end JobStep

/-- The job after a step, if the step can be taken. -/
def Job.step? (j : Job) : JobStep → Option Job
  | .call c => some (c.apply j)
  | .loop a _ => j.act? a

/-- A step that was taken. -/
structure LogEntry where
  step : JobStep
  before : Job
  after : Job

/-- The lives of a job: the log, and the job after it. -/
inductive Job.Life (j₀ : Job) : List LogEntry → Job → Prop where
  | nil : Life j₀ [] j₀
  | snoc {log : List LogEntry} {j j' : Job} {s : JobStep} :
      Life j₀ log j → j.step? s = some j' → Life j₀ (log ++ [⟨s, j, j'⟩]) j'

/-! ### Reading a log -/

namespace Job

/-- The ticket that is being executed: taken, and not recorded yet. -/
def ticket? (j : Job) : Option Nat :=
  match j.phase with
  | .attempting ticket _ | .resting ticket _ | .concluded ticket _ => some ticket
  | .dormant | .waiting | .recorded _ => none

end Job

namespace LogEntry

/-- The call that was made, if it was one. -/
def call? (e : LogEntry) : Option JobCall :=
  match e.step with
  | .call c => some c
  | .loop .. => none

/-- What a call put behind the tickets that waited already. -/
def sent (e : LogEntry) : List Nat :=
  match e.step with
  | .call _ => e.after.inbox.drop e.before.inbox.length
  | .loop .. => []

/-- The ticket that the loop took up. -/
def begun (e : LogEntry) : List Nat :=
  match e.step with
  | .loop .receive _ => e.after.ticket?.toList
  | _ => []

/-- The ticket whose execution was recorded. -/
def recorded (e : LogEntry) : List Nat :=
  match e.step with
  | .loop (.record _) _ => e.before.ticket?.toList
  | _ => []

/-- Whether it was a call that started the loop. -/
def startsLoop (e : LogEntry) : Bool := e.call?.any fun c => c.starts e.before

end LogEntry

/-- The calls on a job, in order. -/
def callsOf (log : List LogEntry) : List JobCall := log.filterMap LogEntry.call?

/-- The tickets that were sent, in order. -/
def sentTickets (log : List LogEntry) : List Nat := log.flatMap LogEntry.sent

/-- The tickets that the loop took up, in order. -/
def begunTickets (log : List LogEntry) : List Nat := log.flatMap LogEntry.begun

/-- The tickets whose execution was recorded, in order. -/
def recordedTickets (log : List LogEntry) : List Nat := log.flatMap LogEntry.recorded

section Append

variable (log later : List LogEntry) (e : LogEntry)

@[simp] theorem callsOf_append : callsOf (log ++ later) = callsOf log ++ callsOf later :=
  List.filterMap_append

@[simp]
theorem sentTickets_append : sentTickets (log ++ later) = sentTickets log ++ sentTickets later :=
  List.flatMap_append

@[simp] theorem begunTickets_append :
    begunTickets (log ++ later) = begunTickets log ++ begunTickets later :=
  List.flatMap_append

@[simp] theorem recordedTickets_append :
    recordedTickets (log ++ later) = recordedTickets log ++ recordedTickets later :=
  List.flatMap_append

@[simp] theorem callsOf_singleton : callsOf [e] = e.call?.toList := by
  cases h : e.call? <;> simp [callsOf, h]

@[simp] theorem sentTickets_singleton : sentTickets [e] = e.sent := List.flatMap_singleton _ e

@[simp] theorem begunTickets_singleton : begunTickets [e] = e.begun := List.flatMap_singleton _ e

@[simp] theorem recordedTickets_singleton : recordedTickets [e] = e.recorded :=
  List.flatMap_singleton _ e

end Append

/-- Every call for an execution is a trigger by hand, an admission or the request of somebody who
    waits. -/
theorem countP_asks (calls : List JobCall) :
    calls.countP JobCall.asks =
      calls.count .admission + (calls.count .trigger + calls.count .request) := by
  induction calls with
  | nil => rfl
  | cons c rest ih =>
    rw [List.countP_cons, List.count_cons, List.count_cons, List.count_cons, ih]
    cases c <;> simp [JobCall.asks] <;> omega

namespace Job

variable {j₀ j j' : Job} {s : JobStep} {c : JobCall} {log : List LogEntry}

/-! ### One step -/

/-- The three things that a call can do. -/
theorem apply_cases (c : JobCall) (j : Job) :
    (c.asks = true ∧ c.starts j = false ∧ c.apply j = j.trigger) ∨
      (c.asks = false ∧ c.starts j = j.spawn.2 ∧ c.apply j = j.spawn.1) ∨
      (c.asks = false ∧ c.starts j = false ∧ ∃ status : JobStatus,
        status.idle = j.status.idle ∧ c.apply j = { j with status }) := by
  cases c with
  | trigger => exact Or.inl ⟨rfl, rfl, rfl⟩
  | admission => exact Or.inl ⟨rfl, rfl, rfl⟩
  | request => exact Or.inl ⟨rfl, rfl, rfl⟩
  | spawn => exact Or.inr (Or.inl ⟨rfl, rfl, rfl⟩)
  | enter => exact Or.inr (Or.inl ⟨rfl, rfl, rfl⟩)
  | restore t r =>
    exact Or.inr (Or.inr ⟨rfl, rfl, { j.status with lastFinished := t, result := r }, rfl, rfl⟩)

theorem spec_step? (h : j.step? s = some j') : j'.spec = j.spec := by
  cases s with
  | call c =>
    cases h
    rcases apply_cases c j with ⟨_, _, heq⟩ | ⟨_, _, heq⟩ | ⟨_, _, status, _, heq⟩
    · rw [heq, spec_trigger]
    · rw [heq]
      rcases spawn_eq j with hsame | ⟨_, _, hsame⟩ <;> rw [hsame]
    · rw [heq]
  | loop a own => exact spec_act? h

/-- What a step sends joins the inbox, what it takes up leaves it, and what it records is no longer
    executed. -/
theorem step?_conserves (h : j.step? s = some j') :
    j.inbox ++ LogEntry.sent ⟨s, j, j'⟩ = LogEntry.begun ⟨s, j, j'⟩ ++ j'.inbox ∧
      j.ticket?.toList ++ LogEntry.begun ⟨s, j, j'⟩ =
        LogEntry.recorded ⟨s, j, j'⟩ ++ j'.ticket?.toList := by
  cases s with
  | call c =>
    cases h
    -- a call takes nothing up and records nothing, and at most sends
    have hinbox : j.inbox <+: (c.apply j).inbox ∧ (c.apply j).ticket? = j.ticket? := by
      rcases apply_cases c j with ⟨_, _, heq⟩ | ⟨_, _, heq⟩ | ⟨_, _, status, _, heq⟩
      · rw [heq]
        cases hext : j.spec.external with
        | true => rw [trigger_of_external hext]; exact ⟨List.prefix_rfl, rfl⟩
        | false => rw [trigger_of_not_external hext]; exact ⟨List.prefix_append _ _, rfl⟩
      · rw [heq]
        rcases spawn_eq j with hsame | ⟨_, hphase, hsame⟩
        · rw [hsame]; exact ⟨List.prefix_rfl, rfl⟩
        · rw [hsame]; exact ⟨List.prefix_rfl, by simp [ticket?, hphase]⟩
      · rw [heq]; exact ⟨List.prefix_rfl, rfl⟩
    refine ⟨?_, ?_⟩
    · obtain ⟨more, hmore⟩ := hinbox.1
      simp [LogEntry.sent, LogEntry.begun, ← hmore]
    · simp [LogEntry.begun, LogEntry.recorded, hinbox.2]
  | loop a own =>
    cases a with
    | spawn => cases own
    | trigger => cases own
    | receive =>
      obtain ⟨ticket, rest, hphase, hinbox, rfl⟩ := receive?_eq_some h
      simp [LogEntry.sent, LogEntry.begun, LogEntry.recorded, ticket?, hphase, hinbox]
    | finishAttempt r =>
      obtain ⟨ticket, n, hphase, ⟨e, _, rfl⟩ | ⟨_, rfl⟩⟩ := finishAttempt?_eq_some h <;>
        simp [LogEntry.sent, LogEntry.begun, LogEntry.recorded, ticket?, hphase]
    | resume =>
      obtain ⟨ticket, n, hphase, rfl⟩ := resume?_eq_some h
      simp [LogEntry.sent, LogEntry.begun, LogEntry.recorded, ticket?, hphase]
    | record now =>
      obtain ⟨ticket, e, hphase, rfl⟩ := record?_eq_some h
      simp [LogEntry.sent, LogEntry.begun, LogEntry.recorded, ticket?, hphase]
    | publish =>
      obtain ⟨ticket, hphase, rfl⟩ := publish?_eq_some h
      simp [LogEntry.sent, LogEntry.begun, LogEntry.recorded, ticket?, hphase]

/-- On a job that is run here every call for an execution sends the next ticket, and nothing else
    does. -/
theorem step?_issued (h : j.step? s = some j') (hext : j.spec.external = false) :
    let asked := (LogEntry.call? ⟨s, j, j'⟩).toList.countP JobCall.asks
    LogEntry.sent ⟨s, j, j'⟩ = List.range' (j.issued + 1) asked ∧ j'.issued = j.issued + asked := by
  cases s with
  | call c =>
    cases h
    rcases apply_cases c j with ⟨hasks, _, heq⟩ | ⟨hasks, _, heq⟩ | ⟨hasks, _, status, _, heq⟩
    · rw [trigger_of_not_external hext] at heq
      simp [LogEntry.call?, LogEntry.sent, hasks, heq, send]
    · have hsame : j.spawn.1.inbox = j.inbox ∧ j.spawn.1.issued = j.issued := by
        rcases spawn_eq j with hsame | ⟨_, _, hsame⟩ <;> rw [hsame] <;> exact ⟨rfl, rfl⟩
      simp [LogEntry.call?, LogEntry.sent, hasks, heq, hsame]
    · simp [LogEntry.call?, LogEntry.sent, hasks, heq]
  | loop a own =>
    refine ⟨rfl, ?_⟩
    cases a with
    | spawn => cases own
    | trigger => cases own
    | receive => obtain ⟨_, _, _, _, rfl⟩ := receive?_eq_some h; rfl
    | finishAttempt r =>
      obtain ⟨_, _, _, ⟨_, _, rfl⟩ | ⟨_, rfl⟩⟩ := finishAttempt?_eq_some h <;> rfl
    | resume => obtain ⟨_, _, _, rfl⟩ := resume?_eq_some h; rfl
    | record now => obtain ⟨_, _, _, rfl⟩ := record?_eq_some h; rfl
    | publish => obtain ⟨_, _, rfl⟩ := publish?_eq_some h; rfl

/-- A step of the loop finds the loop started and leaves it so. -/
theorem started_of_own {a : JobAction} (own : a.isOwn = true) (h : j.act? a = some j') :
    j.phase ≠ .dormant ∧ j'.phase ≠ .dormant := by
  cases a with
  | spawn => cases own
  | trigger => cases own
  | receive => obtain ⟨_, _, hphase, _, rfl⟩ := receive?_eq_some h; simp [hphase]
  | finishAttempt r =>
    obtain ⟨_, _, hphase, ⟨_, _, rfl⟩ | ⟨_, rfl⟩⟩ := finishAttempt?_eq_some h <;> simp [hphase]
  | resume => obtain ⟨_, _, hphase, rfl⟩ := resume?_eq_some h; simp [hphase]
  | record now => obtain ⟨_, _, hphase, rfl⟩ := record?_eq_some h; simp [hphase]
  | publish => obtain ⟨_, hphase, rfl⟩ := publish?_eq_some h; simp [hphase]

/-- A call starts the loop if it finds it dormant, and then leaves it started. -/
theorem spawn_started (j : Job) :
    (j.spawn.2 = true ∧ j.phase = .dormant ∧ j.spawn.1.phase ≠ .dormant) ∨
      (j.spawn.2 = false ∧ j.spawn.1 = j) := by
  unfold spawn
  cases j.spec.external with
  | true => exact Or.inr ⟨rfl, rfl⟩
  | false =>
    rw [if_neg Bool.false_ne_true]
    split
    · rename_i hphase
      exact Or.inl ⟨rfl, hphase, by simp⟩
    · exact Or.inr ⟨rfl, rfl⟩

/-- The loop is started by the one call that finds it dormant. -/
theorem step?_starts (h : j.step? s = some j') :
    (LogEntry.startsLoop ⟨s, j, j'⟩ = true ∧ j.phase = .dormant ∧ j'.phase ≠ .dormant) ∨
      (LogEntry.startsLoop ⟨s, j, j'⟩ = false ∧ (j'.phase = .dormant ↔ j.phase = .dormant)) := by
  cases s with
  | call c =>
    cases h
    rcases apply_cases c j with ⟨_, hstarts, heq⟩ | ⟨_, hstarts, heq⟩ | ⟨_, hstarts, status, _, heq⟩
    · refine Or.inr ⟨hstarts, ?_⟩
      rw [heq]
      cases hext : j.spec.external with
      | true => rw [trigger_of_external hext]
      | false => rw [trigger_of_not_external hext]; rfl
    · rcases spawn_started j with ⟨hdid, hphase, hphase'⟩ | ⟨hdid, hsame⟩
      · exact Or.inl ⟨hstarts.trans hdid, hphase, heq ▸ hphase'⟩
      · exact Or.inr ⟨hstarts.trans hdid, by rw [heq, hsame]⟩
    · exact Or.inr ⟨hstarts, by rw [heq]⟩
  | loop a own =>
    obtain ⟨hbefore, hafter⟩ := started_of_own own h
    exact Or.inr ⟨rfl, iff_of_false hafter hbefore⟩

/-! ### Whole lives -/

theorem Life.trans {later : List LogEntry} (h : j₀.Life log j) (hlater : j.Life later j') :
    j₀.Life (log ++ later) j' := by
  induction hlater with
  | nil =>
    rw [List.append_nil]
    exact h
  | snoc _ hstep ih =>
    rw [← List.append_assoc]
    exact ih.snoc hstep

theorem Life.spec (h : j₀.Life log j) : j.spec = j₀.spec := by
  induction h with
  | nil => rfl
  | snoc _ hstep ih => exact (spec_step? hstep).trans ih

/-- A loop that was started is not stopped. -/
theorem Life.started (h : j₀.Life log j) (hstarted : j₀.phase ≠ .dormant) : j.phase ≠ .dormant := by
  induction h with
  | nil => exact hstarted
  | snoc _ hstep ih =>
    rcases step?_starts hstep with ⟨_, _, hafter⟩ | ⟨_, hsame⟩
    · exact hafter
    · exact fun hdormant => ih (hsame.mp hdormant)

section NewJob

variable {spec : JobSpec} {now : Instant}

/-- The tickets that were sent are those that were taken up and those that wait, and of the tickets
    that were taken up all are recorded but the one that is being executed. -/
theorem Life.conserved (h : (new spec now).Life log j) :
    sentTickets log = begunTickets log ++ j.inbox ∧
      begunTickets log = recordedTickets log ++ j.ticket?.toList := by
  induction h with
  | nil => exact ⟨rfl, rfl⟩
  | snoc _ hstep ih =>
    obtain ⟨hinbox, hticket⟩ := step?_conserves hstep
    rw [sentTickets_append, begunTickets_append, recordedTickets_append, sentTickets_singleton,
      begunTickets_singleton, recordedTickets_singleton]
    constructor
    · rw [ih.1, List.append_assoc, hinbox, List.append_assoc]
    · rw [ih.2, List.append_assoc, hticket, List.append_assoc]

/-- Each call for an execution sends one ticket, and the tickets are numbered from one. -/
theorem Life.numbered (h : (new spec now).Life log j) (hext : spec.external = false) :
    sentTickets log = List.range' 1 j.issued ∧ j.issued = (callsOf log).countP JobCall.asks := by
  induction h with
  | nil => exact ⟨rfl, rfl⟩
  | snoc hlife hstep ih =>
    obtain ⟨hsent, hissued⟩ := step?_issued hstep (hlife.spec ▸ hext)
    rw [sentTickets_append, callsOf_append, sentTickets_singleton, callsOf_singleton,
      List.countP_append, ← ih.2]
    refine ⟨?_, hissued⟩
    rw [ih.1, hsent, hissued, Nat.add_comm, List.range'_append_1]

/-- The loop is started once, or not yet. -/
theorem Life.loops (h : (new spec now).Life log j) :
    log.countP LogEntry.startsLoop = if j.phase = .dormant then 0 else 1 := by
  induction h with
  | nil => rfl
  | snoc _ hstep ih =>
    rw [List.countP_append, ih, List.countP_singleton]
    rcases step?_starts hstep with ⟨hstarts, hbefore, hafter⟩ | ⟨hstarts, hsame⟩
    · rw [hstarts, if_pos hbefore, if_neg hafter, if_pos rfl]
    · simp only [hstarts, Bool.false_eq_true, if_false, Nat.add_zero, hsame]

/-- Before the loop is started there are calls only. -/
theorem Life.calls_of_dormant (h : (new spec now).Life log j) (hdormant : j.phase = .dormant) :
    ∀ e ∈ log, e.call? ≠ none := by
  induction h with
  | nil => exact fun e he => absurd he List.not_mem_nil
  | @snoc log j j' s _ hstep ih =>
    rcases step?_starts hstep with ⟨_, _, hafter⟩ | ⟨_, hsame⟩
    · exact absurd hdormant hafter
    · intro e he
      rcases List.mem_append.mp he with he | he
      · exact ih (hsame.mp hdormant) e he
      · rw [List.mem_singleton.mp he]
        cases s with
        | call c => exact Option.some_ne_none c
        | loop a own => exact absurd hdormant (started_of_own own hstep).2

/-- The loop of a job that is looked after elsewhere is never started, and no call sends it a
    ticket. -/
theorem Life.untouched (h : (new spec now).Life log j) (hext : spec.external = true) :
    j.issued = 0 ∧ j.inbox = [] ∧ j.phase = .dormant := by
  induction h with
  | nil => exact ⟨rfl, rfl, rfl⟩
  | @snoc log j j' s hlife hstep ih =>
    cases s with
    | loop a own => exact absurd ih.2.2 (started_of_own own hstep).1
    | call c =>
      cases hstep
      have hspec : j.spec.external = true := hlife.spec ▸ hext
      rcases apply_cases c j with ⟨_, _, heq⟩ | ⟨_, _, heq⟩ | ⟨_, _, status, _, heq⟩
      · rw [heq, trigger_of_external hspec]; exact ih
      · rcases spawn_eq j with hsame | ⟨hnot, _, _⟩
        · rw [heq, hsame]; exact ih
        · rw [hspec] at hnot; cases hnot
      · rw [heq]; exact ih

end NewJob

/-! ### Playing a life -/

/-- Take the steps of a list in order: the log, and the job after it. -/
def play? (j : Job) : List JobStep → Option (List LogEntry × Job)
  | [] => some ([], j)
  | s :: rest =>
    match j.step? s with
    | none => none
    | some j' => (j'.play? rest).map fun r => (⟨s, j, j'⟩ :: r.1, r.2)

/-- The steps that were played make a life. -/
theorem life_of_play? {steps : List JobStep} (h : j.play? steps = some (log, j')) :
    j.Life log j' := by
  induction steps generalizing j log with
  | nil =>
    cases h
    exact .nil
  | cons s rest ih =>
    unfold play? at h
    split at h
    · cases h
    · rename_i j₁ hstep
      obtain ⟨⟨later, j₂⟩, hplay, heq⟩ := Option.map_eq_some_iff.mp h
      cases heq
      exact (Life.nil.snoc hstep).trans (ih hplay)

theorem life_played {steps : List JobStep} (h : (j.play? steps).isSome) :
    j.Life ((j.play? steps).get h).1 ((j.play? steps).get h).2 :=
  life_of_play? (Option.some_get h).symm

end Job

end SyncFleet

/-
  SyncFleet/Proofs/Job/Step.lean
  ==============================
  **What can happen to one job, and what each of these things does.**

  Callers spawn a job's loop and trigger the job; everything else is a step of
  the loop.  `Job.act?` is all of it in one function, and every lemma about a
  job's life is an induction over its actions.  Each step has one lemma that
  says when it can be taken and what is left behind; no later proof opens the
  steps themselves.

  The second half counts a job's open tickets.  A job that nobody triggers
  while it is busy has an open ticket exactly when it reports to be busy
  (`Job.InStep`), and every action but a trigger keeps it so.
-/
import SyncFleet.Job.Basic

namespace SyncFleet

open Calendar

/-- What can happen to a job. -/
inductive JobAction where
  /-- somebody starts its loop: the manager, or whoever runs the job on demand -/
  | spawn
  /-- somebody asks for an execution -/
  | trigger
  /-- the loop takes the next ticket -/
  | receive
  /-- the attempt under way ends -/
  | finishAttempt (r : AttemptResult)
  /-- the delay between two attempts is over -/
  | resume
  /-- the execution that has ended is recorded -/
  | record (now : Instant)
  /-- the recorded ticket is published -/
  | publish

namespace Job

/-- The job after an action, if the action can be taken. -/
def act? (j : Job) : JobAction → Option Job
  | .spawn => some j.spawn.1
  | .trigger => some j.trigger
  | .receive => j.receive?
  | .finishAttempt r => j.finishAttempt? r
  | .resume => j.resume?
  | .record now => j.record? now
  | .publish => j.publish?

variable {j j' : Job}

/-! ### Each step by itself -/

theorem spawn_eq (j : Job) :
    j.spawn.1 = j ∨
      (j.spec.external = false ∧ j.phase = .dormant ∧ j.spawn.1 = { j with phase := .waiting }) := by
  unfold spawn
  cases hext : j.spec.external with
  | true => exact Or.inl rfl
  | false =>
    rw [if_neg Bool.false_ne_true]
    split
    · rename_i hphase
      exact Or.inr ⟨rfl, hphase, rfl⟩
    · exact Or.inl rfl

theorem receive?_eq_some (h : j.receive? = some j') :
    ∃ ticket rest, j.phase = .waiting ∧ j.inbox = ticket :: rest ∧
      j' = { j with
        status := { j.status with idle := false }
        inbox := rest
        phase := .attempting ticket 1 } := by
  unfold receive? at h
  split at h
  · rename_i ticket rest hphase hinbox
    exact ⟨ticket, rest, hphase, hinbox, (Option.some.inj h).symm⟩
  · cases h

theorem finishAttempt?_eq_some {r : AttemptResult} (h : j.finishAttempt? r = some j') :
    ∃ ticket n, j.phase = .attempting ticket n ∧
      ((∃ e, j.spec.policy.conclude? n r = some e ∧ j' = { j with phase := .concluded ticket e }) ∨
        (j.spec.policy.conclude? n r = none ∧ j' = { j with phase := .resting ticket n })) := by
  unfold finishAttempt? at h
  split at h
  · rename_i ticket n hphase
    refine ⟨ticket, n, hphase, ?_⟩
    split at h
    · rename_i e he
      exact Or.inl ⟨e, he, (Option.some.inj h).symm⟩
    · rename_i he
      exact Or.inr ⟨he, (Option.some.inj h).symm⟩
  · cases h

theorem resume?_eq_some (h : j.resume? = some j') :
    ∃ ticket n, j.phase = .resting ticket n ∧
      j' = { j with phase := .attempting ticket (n + 1) } := by
  unfold resume? at h
  split at h
  · rename_i ticket n hphase
    exact ⟨ticket, n, hphase, (Option.some.inj h).symm⟩
  · cases h

theorem record?_eq_some {now : Instant} (h : j.record? now = some j') :
    ∃ ticket e, j.phase = .concluded ticket e ∧
      j' = { j with status := j.status.record e now, phase := .recorded ticket } := by
  unfold record? at h
  split at h
  · rename_i ticket e hphase
    exact ⟨ticket, e, hphase, (Option.some.inj h).symm⟩
  · cases h

theorem publish?_eq_some (h : j.publish? = some j') :
    ∃ ticket, j.phase = .recorded ticket ∧
      j' = { j with completed := ticket, phase := .waiting } := by
  unfold publish? at h
  split at h
  · rename_i ticket hphase
    exact ⟨ticket, hphase, (Option.some.inj h).symm⟩
  · cases h

theorem trigger_of_external (h : j.spec.external = true) : j.trigger = j := by
  rw [trigger, if_pos h]

theorem trigger_of_not_external (h : j.spec.external = false) : j.trigger = j.send := by
  rw [trigger, if_neg (by rw [h]; exact Bool.false_ne_true)]

/-! ### What no action changes -/

@[simp] theorem spec_trigger (j : Job) : j.trigger.spec = j.spec := by
  cases hext : j.spec.external with
  | true => rw [trigger_of_external hext]
  | false => rw [trigger_of_not_external hext]; rfl

/-- What is fixed about a job stays fixed. -/
theorem spec_act? {a : JobAction} (h : j.act? a = some j') : j'.spec = j.spec := by
  cases a with
  | spawn =>
    cases h
    rcases spawn_eq j with heq | ⟨_, _, heq⟩ <;> rw [heq]
  | trigger => cases h; exact spec_trigger j
  | receive => obtain ⟨_, _, _, _, rfl⟩ := receive?_eq_some h; rfl
  | finishAttempt r =>
    obtain ⟨_, _, _, ⟨_, _, rfl⟩ | ⟨_, rfl⟩⟩ := finishAttempt?_eq_some h <;> rfl
  | resume => obtain ⟨_, _, _, rfl⟩ := resume?_eq_some h; rfl
  | record now => obtain ⟨_, _, _, rfl⟩ := record?_eq_some h; rfl
  | publish => obtain ⟨_, _, rfl⟩ := publish?_eq_some h; rfl

/-! ### What makes a job busy -/

theorem isIdle_record? {now : Instant} (h : j.record? now = some j') : j'.isIdle = true := by
  obtain ⟨_, _, _, rfl⟩ := record?_eq_some h
  simp [isIdle]

/-- A job becomes busy by a trigger, or by taking a ticket. -/
theorem isIdle_act? {a : JobAction} (h : j.act? a = some j') (htrigger : a ≠ .trigger)
    (hreceive : a ≠ .receive) (hidle : j.isIdle = true) : j'.isIdle = true := by
  cases a with
  | trigger => exact absurd rfl htrigger
  | receive => exact absurd rfl hreceive
  | spawn =>
    cases h
    rcases spawn_eq j with heq | ⟨_, _, heq⟩ <;> rw [heq] <;> exact hidle
  | finishAttempt r =>
    obtain ⟨_, _, _, ⟨_, _, rfl⟩ | ⟨_, rfl⟩⟩ := finishAttempt?_eq_some h <;> exact hidle
  | resume => obtain ⟨_, _, _, rfl⟩ := resume?_eq_some h; exact hidle
  | record now => exact isIdle_record? h
  | publish => obtain ⟨_, _, rfl⟩ := publish?_eq_some h; exact hidle

/-- A triggered job is busy, whatever it was before. -/
theorem isBusy_trigger (hext : j.spec.external = false) : j.trigger.isIdle = false := by
  rw [trigger_of_not_external hext, isIdle_send, hext]

theorem isBusy_receive? (h : j.receive? = some j') (hext : j.spec.external = false) :
    j'.isIdle = false := by
  obtain ⟨_, _, _, _, rfl⟩ := receive?_eq_some h
  simp [isIdle, hext]

/-- A busy job is busy until its execution is recorded. -/
theorem isBusy_act? {a : JobAction} (h : j.act? a = some j') (hrecord : ∀ now, a ≠ .record now)
    (hbusy : j.isIdle = false) : j'.isIdle = false := by
  have hext : j.spec.external = false := (Bool.or_eq_false_iff.mp hbusy).1
  cases a with
  | trigger => cases h; exact isBusy_trigger hext
  | receive => exact isBusy_receive? h hext
  | record now => exact absurd rfl (hrecord now)
  | spawn =>
    cases h
    rcases spawn_eq j with heq | ⟨_, _, heq⟩ <;> rw [heq] <;> exact hbusy
  | finishAttempt r =>
    obtain ⟨_, _, _, ⟨_, _, rfl⟩ | ⟨_, rfl⟩⟩ := finishAttempt?_eq_some h <;> exact hbusy
  | resume => obtain ⟨_, _, _, rfl⟩ := resume?_eq_some h; exact hbusy
  | publish => obtain ⟨_, _, rfl⟩ := publish?_eq_some h; exact hbusy

/-! ### Open tickets -/

/-- Whether an execution is under way: begun, and not recorded yet. -/
def isExecuting (j : Job) : Bool :=
  match j.phase with
  | .attempting .. | .resting .. | .concluded .. => true
  | .dormant | .waiting | .recorded _ => false

/-- The number of tickets that have been sent and not recorded: those in the inbox, and the one
    that is being executed. -/
def openTickets (j : Job) : Nat := j.inbox.length + if j.isExecuting then 1 else 0

@[simp] theorem openTickets_new (spec : JobSpec) (now : Instant) :
    (Job.new spec now).openTickets = 0 := rfl

@[simp] theorem openTickets_restore (j : Job) (lastFinished : Instant) (result : Bool) :
    (j.restore lastFinished result).openTickets = j.openTickets := rfl

/-- One open ticket when the job reports to be busy, and none when it reports to be idle. -/
def InStep (j : Job) : Prop := j.openTickets = if j.isIdle then 0 else 1

theorem InStep.idle_iff (h : j.InStep) : j.isIdle = true ↔ j.openTickets = 0 := by
  unfold InStep at h
  cases hidle : j.isIdle with
  | true => rw [hidle] at h; exact ⟨fun _ => h, fun _ => rfl⟩
  | false =>
    rw [hidle] at h
    constructor
    · intro habs; cases habs
    · intro hzero; rw [h] at hzero; cases hzero

theorem InStep.openTickets_le (h : j.InStep) : j.openTickets ≤ 1 := by
  unfold InStep at h
  rw [h]
  split <;> decide

/-- Whether nothing is to be done for a job: it was not triggered, or that is all done. -/
structure AtRest (j : Job) : Prop where
  closed : j.openTickets = 0
  idle : j.isIdle = true

theorem atRest_new (spec : JobSpec) (now : Instant) : (Job.new spec now).AtRest :=
  ⟨openTickets_new spec now, isIdle_new spec now⟩

theorem AtRest.restore (h : j.AtRest) (finished : Instant) (result : Bool) :
    (j.restore finished result).AtRest :=
  ⟨(openTickets_restore j finished result).trans h.closed,
    (isIdle_restore j finished result).trans h.idle⟩

theorem AtRest.inStep (h : j.AtRest) : j.InStep := by
  rw [InStep, h.closed, h.idle]
  rfl

/-- Only a trigger opens a ticket: without one a job stays in step, and idle if it was. -/
theorem InStep.act? {a : JobAction} (hj : j.InStep) (h : j.act? a = some j') (ha : a ≠ .trigger) :
    j'.InStep ∧ (j.isIdle = true → j'.isIdle = true) := by
  cases a with
  | trigger => exact absurd rfl ha
  | spawn =>
    cases h
    rcases spawn_eq j with heq | ⟨_, hphase, heq⟩
    · rw [heq]; exact ⟨hj, id⟩
    · rw [heq]
      refine ⟨?_, id⟩
      simpa [InStep, openTickets, isExecuting, isIdle, hphase] using hj
  | receive =>
    obtain ⟨ticket, rest, hphase, hinbox, rfl⟩ := receive?_eq_some h
    have hbusy : j.isIdle = false := by
      refine Bool.eq_false_iff.mpr fun hidle => ?_
      have hzero := hj.idle_iff.mp hidle
      simp [openTickets, hinbox] at hzero
    refine ⟨?_, fun hidle => absurd hidle (by rw [hbusy]; exact Bool.false_ne_true)⟩
    simp only [isIdle, Bool.or_eq_false_iff] at hbusy
    simpa [InStep, openTickets, isExecuting, isIdle, hphase, hinbox, hbusy] using hj
  | finishAttempt r =>
    obtain ⟨ticket, n, hphase, ⟨e, _, rfl⟩ | ⟨_, rfl⟩⟩ := finishAttempt?_eq_some h
    all_goals
      refine ⟨?_, id⟩
      simpa [InStep, openTickets, isExecuting, isIdle, hphase] using hj
  | resume =>
    obtain ⟨ticket, n, hphase, rfl⟩ := resume?_eq_some h
    refine ⟨?_, id⟩
    simpa [InStep, openTickets, isExecuting, isIdle, hphase] using hj
  | record now =>
    obtain ⟨ticket, e, hphase, rfl⟩ := record?_eq_some h
    refine ⟨?_, fun _ => by simp [isIdle]⟩
    -- the recorded ticket was the only one open, so the inbox is empty
    have hinbox : j.inbox.length = 0 := by
      have hle := hj.openTickets_le
      simp only [openTickets, isExecuting, hphase, if_true] at hle
      omega
    simp [InStep, openTickets, isExecuting, isIdle, hinbox]
  | publish =>
    obtain ⟨ticket, hphase, rfl⟩ := publish?_eq_some h
    refine ⟨?_, id⟩
    simpa [InStep, openTickets, isExecuting, isIdle, hphase] using hj

/-- A trigger opens one ticket. -/
@[simp] theorem openTickets_send (j : Job) : j.send.openTickets = j.openTickets + 1 := by
  show (j.inbox ++ [j.issued + 1]).length + (if j.isExecuting then 1 else 0) = j.openTickets + 1
  rw [List.length_append, List.length_singleton, openTickets]
  omega

/-- A job that is triggered while it is idle stays in step. -/
theorem InStep.trigger (hj : j.InStep) (hidle : j.isIdle = true) (hext : j.spec.external = false) :
    j.trigger.InStep := by
  have hzero := hj.idle_iff.mp hidle
  have hbusy := isBusy_trigger hext
  unfold InStep
  rw [hbusy, trigger_of_not_external hext, openTickets_send, hzero]
  rfl

/-- A job in step is executing or holds a ticket exactly when it reports to be busy. -/
theorem InStep.occupied_iff (hj : j.InStep) :
    (j.isExecuting || !j.inbox.isEmpty) = !j.isIdle := by
  have hidle := hj.idle_iff
  simp only [openTickets] at hidle
  cases hexec : j.isExecuting <;> cases hinbox : j.inbox <;> cases hi : j.isIdle <;>
    simp_all

end Job

end SyncFleet

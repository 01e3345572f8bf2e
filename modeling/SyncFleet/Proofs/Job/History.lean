/-
  SyncFleet/Proofs/Job/History.lean
  =================================
  **What a job shows is the fold of its executions.**

  The executions of the past are read off a log: an execution counts from the
  moment at which it is recorded, and what is left of it is how its last
  attempt ended.  `Job.Recalls` says that a status is what a list of such
  executions leads to: the outcome of the last one, the time of the last
  success, and the newest outputs.  Every step keeps this
  (`Recalls.step?`), since only a record touches the status.

  When an execution is recorded its reports are due, and the ticket is not
  published before all of them were made.  Other steps may come in between, so
  a `Job.ReportingLife` makes them one by one; the reports that were made and
  those that are due are together those of the executions so far
  (`ReportingLife.reports_eq`).
-/
import SyncFleet.Job.StatusReport
import SyncFleet.Proofs.Job.Life

namespace SyncFleet

open Calendar

/-! ### Executions of the past -/

/-- An execution of the past: how its last attempt ended, and when it was recorded. -/
structure PastExecution where
  last : AttemptResult
  time : Instant

namespace PastExecution

/-- Whether it succeeded: its last attempt did. -/
def succeeded (x : PastExecution) : Bool :=
  match x.last with
  | .ok _ => true
  | .error _ => false

/-- The output of its last attempt.  Of the failures only a command that has run leaves any. -/
def output (x : PastExecution) : Output :=
  match x.last with
  | .ok out | .error (.commandFailed _ out) => out
  | .error (.spawnFailed _) | .error (.environment _) | .error (.failed _) => ⟨"", ""⟩

/-- What the metrics are told of it: whether it succeeded, and where to measure the disk usage if
    the job's path is a string. -/
def reports (spec : JobSpec) (x : PastExecution) : List Report :=
  (if x.succeeded then .success spec.name else .failure spec.name) ::
    match spec.descriptor.get? Key.path with
    | some (.string path) => [.diskUsage spec.name path]
    | _ => []

end PastExecution

def JobCall.restores : JobCall → Bool
  | .restore .. => true
  | _ => false

/-- What a log tells of executions: how the attempt that ended last did so, and the executions that
    were recorded. -/
structure Chronicle where
  last : Option AttemptResult
  past : List PastExecution

def Chronicle.note (c : Chronicle) (e : LogEntry) : Chronicle :=
  match e.step with
  | .loop (.finishAttempt r) _ => { c with last := some r }
  | .loop (.record now) _ => { c with past := c.past ++ (c.last.map fun r => ⟨r, now⟩).toList }
  | _ => c

/-- The chronicle of a log. -/
def chronicle (log : List LogEntry) : Chronicle := log.foldl .note ⟨none, []⟩

@[simp] theorem chronicle_snoc (log : List LogEntry) (e : LogEntry) :
    chronicle (log ++ [e]) = (chronicle log).note e := by
  rw [chronicle, List.foldl_append]
  rfl

/-! ### Reports -/

/-- The reports that are due after the entry: those of the execution that it records. -/
def LogEntry.reports (e : LogEntry) : List Report :=
  match e.step, e.before.phase with
  | .loop (.record _) _, .concluded _ x => e.before.spec.reports x
  | _, _ => []

/-- The lives of a job that reports to the metrics: the log, the job after it, the reports that are
    due, and those that were made. -/
inductive Job.ReportingLife (j₀ : Job) :
    List LogEntry → Job → List Report → List Report → Prop where
  | nil : ReportingLife j₀ [] j₀ [] []
  | step {log : List LogEntry} {j j' : Job} {due made : List Report} {s : JobStep} :
      ReportingLife j₀ log j due made → j.step? s = some j' → (s = .publish → due = []) →
        ReportingLife j₀ (log ++ [⟨s, j, j'⟩]) j' (due ++ LogEntry.reports ⟨s, j, j'⟩) made
  | report {log : List LogEntry} {j : Job} {r : Report} {due made : List Report} :
      ReportingLife j₀ log j (r :: due) made → ReportingLife j₀ log j due (made ++ [r])

/-- What the policy concludes from an attempt is the outcome and the output of that attempt. -/
theorem RetryPolicy.conclude?_eq_some {p : RetryPolicy} {n : UInt32} {r : AttemptResult}
    {e : Execution} (h : p.conclude? n r = some e) (now : Instant) :
    e.succeeded = (PastExecution.mk r now).succeeded ∧
      e.output = (PastExecution.mk r now).output := by
  cases r with
  | ok out =>
    cases h
    exact ⟨rfl, rfl⟩
  | error fault =>
    simp only [conclude?] at h
    split at h
    · cases h
    · cases h
      cases fault <;> exact ⟨rfl, rfl⟩

theorem LogEntry.reports_eq_nil {s : JobStep} {j j' : Job} (h : ∀ now, s ≠ .record now) :
    LogEntry.reports ⟨s, j, j'⟩ = [] := by
  unfold LogEntry.reports
  split
  · rename_i hs _
    exact absurd hs (h _)
  · rfl

theorem Chronicle.past_note {s : JobStep} {j j' : Job} (h : ∀ now, s ≠ .record now)
    (c : Chronicle) : (c.note ⟨s, j, j'⟩).past = c.past := by
  unfold Chronicle.note
  split
  · rfl
  · rename_i hs
    exact absurd hs (h _)
  · rfl

namespace Job

variable {j₀ j j' : Job} {s : JobStep} {c : Chronicle} {log : List LogEntry}
  {due made : List Report} {l₀ : Instant} {r₀ : Bool}

/-! ### One step -/

/-- All but a record and a restoration leave the status alone, apart from the flag. -/
theorem status_step? (h : j.step? s = some j') (hrecord : ∀ now, s ≠ .record now)
    (hrestore : ∀ l r, s ≠ .call (.restore l r)) : ∃ idle, j'.status = { j.status with idle } := by
  cases s with
  | call call =>
    cases h
    have hspawn : ∃ idle, j.spawn.1.status = { j.status with idle } := by
      rcases spawn_eq j with heq | ⟨_, _, heq⟩ <;> rw [heq] <;> exact ⟨j.status.idle, rfl⟩
    have htrigger : ∃ idle, j.trigger.status = { j.status with idle } := by
      cases hext : j.spec.external with
      | true => rw [trigger_of_external hext]; exact ⟨j.status.idle, rfl⟩
      | false => rw [trigger_of_not_external hext]; exact ⟨false, rfl⟩
    cases call with
    | trigger | admission | request => exact htrigger
    | spawn | enter => exact hspawn
    | restore l r => exact absurd rfl (hrestore l r)
  | loop a own =>
    cases a with
    | spawn => cases own
    | trigger => cases own
    | receive => obtain ⟨_, _, _, _, rfl⟩ := receive?_eq_some h; exact ⟨false, rfl⟩
    | finishAttempt r =>
      obtain ⟨_, _, _, ⟨_, _, rfl⟩ | ⟨_, rfl⟩⟩ := finishAttempt?_eq_some h <;>
        exact ⟨j.status.idle, rfl⟩
    | resume => obtain ⟨_, _, _, rfl⟩ := resume?_eq_some h; exact ⟨j.status.idle, rfl⟩
    | record now => exact absurd rfl (hrecord now)
    | publish => obtain ⟨_, _, rfl⟩ := publish?_eq_some h; exact ⟨j.status.idle, rfl⟩

theorem phase_call (call : JobCall) (j : Job) :
    (call.apply j).phase = j.phase ∨ (j.phase = .dormant ∧ (call.apply j).phase = .waiting) := by
  rcases apply_cases call j with ⟨_, _, heq⟩ | ⟨_, _, heq⟩ | ⟨_, _, status, _, heq⟩ <;> rw [heq]
  · cases hext : j.spec.external with
    | true => rw [trigger_of_external hext]; exact Or.inl rfl
    | false => rw [trigger_of_not_external hext]; exact Or.inl rfl
  · rcases spawn_eq j with hsame | ⟨_, hphase, hsame⟩ <;> rw [hsame]
    · exact Or.inl rfl
    · exact Or.inr ⟨hphase, rfl⟩
  · exact Or.inl rfl

/-- An execution is concluded by the end of an attempt, and stays so while there are only calls. -/
theorem concluded_step? {ticket : Nat} {e : Execution} (h : j.step? s = some j')
    (hafter : j'.phase = .concluded ticket e) :
    (∃ r n, s = .finish r ∧ j.spec.policy.conclude? n r = some e) ∨
      (j.phase = .concluded ticket e ∧ ∃ call, s = .call call) := by
  cases s with
  | call call =>
    cases h
    rcases phase_call call j with hphase | ⟨_, hphase⟩ <;> rw [hphase] at hafter
    · exact Or.inr ⟨hafter, call, rfl⟩
    · cases hafter
  | loop a own =>
    cases a with
    | spawn => cases own
    | trigger => cases own
    | receive => obtain ⟨_, _, _, _, rfl⟩ := receive?_eq_some h; cases hafter
    | finishAttempt r =>
      obtain ⟨_, n, _, ⟨_, he, rfl⟩ | ⟨_, rfl⟩⟩ := finishAttempt?_eq_some h
      · cases hafter
        exact Or.inl ⟨r, n, rfl, he⟩
      · cases hafter
    | resume => obtain ⟨_, _, _, rfl⟩ := resume?_eq_some h; cases hafter
    | record now => obtain ⟨_, _, _, rfl⟩ := record?_eq_some h; cases hafter
    | publish => obtain ⟨_, _, rfl⟩ := publish?_eq_some h; cases hafter

/-- After a record there are only calls until the ticket is published. -/
theorem recorded_step? {ticket : Nat} (h : j.step? s = some j')
    (hbefore : j.phase = .recorded ticket) : j'.phase = .recorded ticket ∨ s = .publish := by
  cases s with
  | call call =>
    cases h
    rcases phase_call call j with hphase | ⟨hphase, _⟩
    · exact Or.inl (hphase.trans hbefore)
    · rw [hbefore] at hphase
      cases hphase
  | loop a own =>
    cases a with
    | spawn => cases own
    | trigger => cases own
    | receive =>
      obtain ⟨_, _, hphase, _, _⟩ := receive?_eq_some h
      cases hbefore.symm.trans hphase
    | finishAttempt r =>
      obtain ⟨_, _, hphase, _⟩ := finishAttempt?_eq_some h
      cases hbefore.symm.trans hphase
    | resume =>
      obtain ⟨_, _, hphase, _⟩ := resume?_eq_some h
      cases hbefore.symm.trans hphase
    | record now =>
      obtain ⟨_, _, hphase, _⟩ := record?_eq_some h
      cases hbefore.symm.trans hphase
    | publish => exact Or.inr rfl

/-! ### What the status recalls -/

/-- The status is what the executions of a chronicle lead to, from a restored time and outcome; and
    an execution that has ended did so as the last attempt. -/
structure Recalls (l₀ : Instant) (r₀ : Bool) (c : Chronicle) (j : Job) : Prop where
  concluded : ∀ ticket e, j.phase = .concluded ticket e → ∃ r, c.last = some r ∧
    ∀ now, e.succeeded = (PastExecution.mk r now).succeeded ∧
      e.output = (PastExecution.mk r now).output
  result : j.status.result = (c.past.getLast?.map PastExecution.succeeded).getD r₀
  lastFinished : j.status.lastFinished =
    ((c.past.filter PastExecution.succeeded).getLast?.map PastExecution.time).getD l₀
  stdout : j.status.stdout.capacity = OutputBuffer.jobCapacity ∧
    j.status.stdout.Holds (c.past.map fun x => x.output.stdout)
  stderr : j.status.stderr.capacity = OutputBuffer.jobCapacity ∧
    j.status.stderr.Holds (c.past.map fun x => x.output.stderr)

theorem recalls_restored (spec : JobSpec) (born l₀ : Instant) (r₀ : Bool) :
    Recalls l₀ r₀ ⟨none, []⟩ ((new spec born).restore l₀ r₀) where
  concluded _ _ hphase := nomatch hphase
  result := rfl
  lastFinished := rfl
  stdout := ⟨rfl, OutputBuffer.holds_empty _⟩
  stderr := ⟨rfl, OutputBuffer.holds_empty _⟩

theorem Recalls.record? {now : Instant} (h : Recalls l₀ r₀ c j) (hstep : j.record? now = some j') :
    ∃ x, (c.note ⟨.record now, j, j'⟩) = { c with past := c.past ++ [x] } ∧
      LogEntry.reports ⟨.record now, j, j'⟩ = x.reports j.spec ∧
      Recalls l₀ r₀ { c with past := c.past ++ [x] } j' := by
  obtain ⟨ticket, e, hphase, rfl⟩ := record?_eq_some hstep
  obtain ⟨r, hlast, hends⟩ := h.concluded ticket e hphase
  obtain ⟨hsucceeded, houtput⟩ := hends now
  refine ⟨⟨r, now⟩, ?_, ?_, ?_⟩
  · simp [Chronicle.note, JobStep.record, hlast]
  · have hpath : (j.spec.descriptor.path?.map fun path => Report.diskUsage j.spec.name path).toList =
        match j.spec.descriptor.get? Key.path with
        | some (.string path) => [.diskUsage j.spec.name path]
        | _ => [] := by
      unfold Descriptor.path? Descriptor.string?
      split <;> simp_all
    simp only [LogEntry.reports, JobStep.record, hphase, JobSpec.reports, hsucceeded, hpath,
      PastExecution.reports]
  · refine ⟨fun _ _ hnext => ?_, ?_, ?_, ?_, ?_⟩
    · cases hnext
    · simp [JobStatus.record, hsucceeded]
    · simp only [JobStatus.record, hsucceeded, List.filter_append, List.filter_cons,
        List.filter_nil]
      split
      · simp
      · simpa using h.lastFinished
    · refine ⟨(OutputBuffer.capacity_push _ _).trans h.stdout.1, ?_⟩
      rw [List.map_append, List.map_singleton, ← houtput]
      exact h.stdout.2.push e.output.stdout
    · refine ⟨(OutputBuffer.capacity_push _ _).trans h.stderr.1, ?_⟩
      rw [List.map_append, List.map_singleton, ← houtput]
      exact h.stderr.2.push e.output.stderr

/-- Any step but a restoration keeps the status what the executions lead to. -/
theorem Recalls.step? (h : Recalls l₀ r₀ c j) (hstep : j.step? s = some j')
    (hrestore : ∀ l r, s ≠ .call (.restore l r)) : Recalls l₀ r₀ (c.note ⟨s, j, j'⟩) j' := by
  by_cases hrecord : ∃ now, s = .record now
  · obtain ⟨now, rfl⟩ := hrecord
    obtain ⟨x, hnote, _, hrecalls⟩ := h.record? hstep
    exact hnote ▸ hrecalls
  · have hnot : ∀ now, s ≠ .record now := fun now hs => hrecord ⟨now, hs⟩
    have hpast : (c.note ⟨s, j, j'⟩).past = c.past := Chronicle.past_note hnot c
    obtain ⟨idle, hstatus⟩ := status_step? hstep hnot hrestore
    refine ⟨fun ticket e hphase => ?_, ?_, ?_, ?_, ?_⟩
    · rcases concluded_step? hstep hphase with ⟨r, n, rfl, he⟩ | ⟨hbefore, call, rfl⟩
      · exact ⟨r, rfl, RetryPolicy.conclude?_eq_some he⟩
      · exact h.concluded ticket e hbefore
    all_goals rw [hstatus, hpast]
    · exact h.result
    · exact h.lastFinished
    · exact h.stdout
    · exact h.stderr

/-! ### Whole lives -/

theorem ReportingLife.life (h : j₀.ReportingLife log j due made) : j₀.Life log j := by
  induction h with
  | nil => exact .nil
  | step _ hstep _ ih => exact ih.snoc hstep
  | report _ ih => exact ih

/-- Whatever is due can be reported. -/
theorem ReportingLife.reportAll (h : j₀.ReportingLife log j due made) :
    j₀.ReportingLife log j [] (made ++ due) := by
  induction due generalizing made with
  | nil => rwa [List.append_nil]
  | cons r due ih => simpa using ih h.report

/-- In every life the reports can be made at once. -/
theorem Life.reporting (h : j₀.Life log j) : ∃ made, j₀.ReportingLife log j [] made := by
  induction h with
  | nil => exact ⟨[], .nil⟩
  | snoc _ hstep ih =>
    obtain ⟨made, hmade⟩ := ih
    exact ⟨_, (hmade.step hstep fun _ => rfl).reportAll⟩

/-- Reports are due only between the record of an execution and the publication of its ticket. -/
theorem ReportingLife.due_eq_nil (h : j₀.ReportingLife log j due made)
    (hphase : ∀ ticket, j.phase ≠ .recorded ticket) : due = [] := by
  induction h with
  | nil => rfl
  | report _ ih => cases ih hphase
  | @step log j j' due made s _ hstep hpublish ih =>
    have hnot : ∀ now, s ≠ .record now := by
      rintro now rfl
      obtain ⟨ticket, _, _, rfl⟩ := record?_eq_some hstep
      exact hphase ticket rfl
    have hdue : due = [] := by
      by_cases hbefore : ∃ ticket, j.phase = .recorded ticket
      · obtain ⟨ticket, hbefore⟩ := hbefore
        exact hpublish ((recorded_step? hstep hbefore).resolve_left (hphase ticket))
      · exact ih fun ticket hbefore' => hbefore ⟨ticket, hbefore'⟩
    rw [hdue, LogEntry.reports_eq_nil hnot, List.nil_append]

section Restored

variable {spec : JobSpec} {born : Instant}

/-- Unless the status is restored again, it is what the executions of the log lead to. -/
theorem Life.recalls (h : ((new spec born).restore l₀ r₀).Life log j)
    (hrestore : ∀ call ∈ callsOf log, call.restores = false) : Recalls l₀ r₀ (chronicle log) j := by
  induction h with
  | nil => exact recalls_restored spec born l₀ r₀
  | @snoc log j j' s _ hstep ih =>
    rw [callsOf_append, List.forall_mem_append] at hrestore
    rw [chronicle_snoc]
    refine (ih hrestore.1).step? hstep ?_
    rintro l r rfl
    exact absurd (hrestore.2 (.restore l r) (by simp [LogEntry.call?])) (by simp [JobCall.restores])

/-- Every recorded ticket is an execution of the chronicle. -/
theorem Life.length_past (h : ((new spec born).restore l₀ r₀).Life log j)
    (hrestore : ∀ call ∈ callsOf log, call.restores = false) :
    (chronicle log).past.length = (recordedTickets log).length := by
  induction h with
  | nil => rfl
  | @snoc log j j' s hlife hstep ih =>
    rw [callsOf_append, List.forall_mem_append] at hrestore
    obtain ⟨hbefore, _⟩ := hrestore
    rw [chronicle_snoc, recordedTickets_append, List.length_append, ← ih hbefore,
      recordedTickets_singleton]
    by_cases hrecord : ∃ now, s = .record now
    · obtain ⟨now, rfl⟩ := hrecord
      obtain ⟨x, hnote, _⟩ := (hlife.recalls hbefore).record? hstep
      obtain ⟨ticket, e, hphase, _⟩ := record?_eq_some hstep
      rw [hnote]
      simp [LogEntry.recorded, JobStep.record, ticket?, hphase]
    · have hnot : ∀ now, s ≠ .record now := fun now hs => hrecord ⟨now, hs⟩
      have hnone : LogEntry.recorded ⟨s, j, j'⟩ = [] := by
        unfold LogEntry.recorded
        split
        · rename_i hs
          exact absurd hs (hnot _)
        · rfl
      rw [Chronicle.past_note hnot, hnone, List.length_nil, Nat.add_zero]

/-- The reports that were made and those that are due are those of the executions. -/
theorem ReportingLife.reports_eq
    (h : ((new spec born).restore l₀ r₀).ReportingLife log j due made)
    (hrestore : ∀ call ∈ callsOf log, call.restores = false) :
    made ++ due = (chronicle log).past.flatMap (PastExecution.reports spec) := by
  induction h with
  | nil => rfl
  | report _ ih =>
    rw [← ih hrestore, List.append_assoc, List.singleton_append]
  | @step log j j' due made s hlife hstep _ ih =>
    rw [callsOf_append, List.forall_mem_append] at hrestore
    obtain ⟨hbefore, _⟩ := hrestore
    rw [chronicle_snoc, ← List.append_assoc, ih hbefore]
    by_cases hrecord : ∃ now, s = .record now
    · obtain ⟨now, rfl⟩ := hrecord
      obtain ⟨x, hnote, hreports, _⟩ := (hlife.life.recalls hbefore).record? hstep
      have hspec : j.spec = spec := hlife.life.spec
      rw [hnote, hreports, hspec, List.flatMap_append, List.flatMap_singleton]
    · have hnot : ∀ now, s ≠ .record now := fun now hs => hrecord ⟨now, hs⟩
      rw [Chronicle.past_note hnot, LogEntry.reports_eq_nil hnot, List.append_nil]

/-- **What a job shows is the fold of its executions.**  Restore a new job and let it live, under
    any calls.  It shows the outcome of its last execution, or the restored one; the time of its
    last success, or the restored one; and the outputs of its last twenty executions, oldest first,
    those of its two streams in step.  For each execution the metrics have been told once whether it
    succeeded, and once where to measure the disk usage if the job's path is a string; what is still
    due of this is made before the ticket is published. -/
theorem ReportingLife.status_folds_history (hext : spec.external = false)
    (h : ((new spec born).restore l₀ r₀).ReportingLife log j due made)
    (hrestore : ∀ call ∈ callsOf log, call.restores = false) (now : Instant) :
    let past := (chronicle log).past
    let newest := past.drop (past.length - 20)
    past.length = (recordedTickets log).length ∧
      (j.report now).result = (past.getLast?.map PastExecution.succeeded).getD r₀ ∧
      (j.report now).lastFinished =
        ((past.filter PastExecution.succeeded).getLast?.map PastExecution.time).getD l₀ ∧
      newest.length = min past.length 20 ∧
      (j.report now).stdout = newest.map (fun x => x.output.stdout) ∧
      (j.report now).stderr = newest.map (fun x => x.output.stderr) ∧
      made ++ due = past.flatMap (PastExecution.reports spec) ∧
      ((∀ ticket, j.phase ≠ .recorded ticket) → due = []) := by
  intro past newest
  have hrecalls := h.life.recalls hrestore
  have hreport : j.report now = ⟨⟨j.status.result, j.status.lastFinished, j.status.idle⟩,
      j.status.stdout.entries, j.status.stderr.entries⟩ := by
    have hnot : j.spec.external = false := h.life.spec ▸ hext
    rw [Job.report, hnot]
    rfl
  have hshown : ∀ (b : OutputBuffer) (text : PastExecution → String),
      b.capacity = OutputBuffer.jobCapacity ∧ b.Holds (past.map text) →
        b.entries = newest.map text := by
    rintro b text ⟨hcapacity, hholds⟩
    rw [hholds, hcapacity, List.length_map, ← List.map_drop]
    rfl
  rw [hreport]
  refine ⟨h.life.length_past hrestore, hrecalls.result, hrecalls.lastFinished, ?_,
    hshown _ _ hrecalls.stdout, hshown _ _ hrecalls.stderr, h.reports_eq hrestore,
    h.due_eq_nil⟩
  rw [List.length_drop]
  omega

end Restored

/-! ### A job that fails and recovers -/

/-- A job with a path, which makes two attempts. -/
def seasoned : Job :=
  (new ⟨"mirror", ⟨KeyMap.empty.insert Key.path (.string "/srv")⟩, false, ⟨2, 0⟩⟩ .epoch).restore
    (.addMillis .epoch 1000) false

/-- Its first execution succeeds at the second attempt; its second one, requested meanwhile, cannot
    be started at all. -/
def seasonedSteps : List JobStep :=
  [.call .spawn, .call .trigger, .receive,
    .finish (.error (.commandFailed (some 1) ⟨"partial", "broken pipe"⟩)), .call .trigger, .resume,
    .finish (.ok ⟨"done", ""⟩), .record (.addMillis .epoch 5000), .publish, .receive,
    .finish (.error (.spawnFailed "no such file")), .resume,
    .finish (.error (.spawnFailed "no such file")), .record (.addMillis .epoch 9000), .publish]

/-- The failure leaves the time of the success, and an empty text next to its output. -/
theorem seasoned_status_folds_history :
    ∃ log j made, seasoned.ReportingLife log j [] made ∧ (recordedTickets log).length = 2 ∧
      (j.report .epoch).result = false ∧
      (j.report .epoch).lastFinished = .addMillis .epoch 5000 ∧
      (j.report .epoch).stdout = ["done", ""] ∧
      made = [.success "mirror", .diskUsage "mirror" "/srv", .failure "mirror",
        .diskUsage "mirror" "/srv"] := by
  have hlife : seasoned.Life ((seasoned.play? seasonedSteps).get rfl).1 _ := life_played rfl
  obtain ⟨made, hreporting⟩ := hlife.reporting
  obtain ⟨hlength, hresult, hfinished, _, hstdout, _, hmade, _⟩ :=
    hreporting.status_folds_history rfl (by decide) .epoch
  rw [List.append_nil] at hmade
  exact ⟨_, _, made, hreporting, by decide, hresult.trans (by decide), hfinished.trans (by decide),
    hstdout.trans (by decide), hmade.trans (by decide)⟩

end Job

end SyncFleet

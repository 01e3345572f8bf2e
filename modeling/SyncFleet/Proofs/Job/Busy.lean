/-
  SyncFleet/Proofs/Job/Busy.lean
  ==============================
  **When a job reports to be busy, and when it has something left to do.**

  Sending a ticket and taking one up make a job busy, and recording an
  execution makes it idle, whatever waits behind it.  So the flag says that an
  execution is under way or that a ticket was sent after the last record
  (`Life.busy_iff`), which is not quite that some ticket is still unrecorded.
  The two differ in the moment between two executions: one is recorded, the
  tickets that wait were all sent before that, and the loop has not taken up
  the next of them (`Life.busy_unless_between`).  In that moment the job
  reports to be idle although it has been triggered (`idle_between_executions`).
-/
import SyncFleet.Proofs.Job.Ticket

namespace SyncFleet

open Calendar

/-! ### What a log says about open tickets -/

/-- Whether the entry records an execution. -/
def LogEntry.records (e : LogEntry) : Bool :=
  match e.step with
  | .loop (.record _) _ => true
  | _ => false

theorem LogEntry.recorded_eq_nil {e : LogEntry} (h : e.records = false) : e.recorded = [] := by
  unfold LogEntry.records at h
  unfold LogEntry.recorded
  split
  · rename_i hstep
    rw [hstep] at h
    cases h
  · rfl

/-- Whether a ticket was sent after the last record. -/
def sentSinceRecord (log : List LogEntry) : Bool :=
  (log.reverse.takeWhile fun e => !e.records).any fun e => !e.sent.isEmpty

theorem sentSinceRecord_snoc (log : List LogEntry) (e : LogEntry) :
    sentSinceRecord (log ++ [e]) = (!e.records && (!e.sent.isEmpty || sentSinceRecord log)) := by
  unfold sentSinceRecord
  rw [List.reverse_append, List.reverse_singleton, List.singleton_append, List.takeWhile_cons]
  cases e.records <;> simp

/-- Whether the execution of every ticket that was sent has been recorded. -/
def AllRecorded (log : List LogEntry) : Prop := ∀ t ∈ sentTickets log, t ∈ recordedTickets log

namespace Job

variable {j j' : Job} {s : JobStep} {log : List LogEntry}

/-- The tickets that have been sent and not recorded. -/
def unrecorded (j : Job) : List Nat := j.ticket?.toList ++ j.inbox

theorem isExecuting_eq (j : Job) : j.isExecuting = j.ticket?.isSome := by
  unfold isExecuting ticket?
  cases j.phase <;> rfl

theorem unrecorded_eq_nil : j.unrecorded = [] ↔ j.isExecuting = false ∧ j.inbox = [] := by
  rw [unrecorded, List.append_eq_nil_iff, isExecuting_eq]
  cases j.ticket? <;> simp

/-! ### The flag, step by step -/

/-- A record makes a job idle, sending a ticket or taking one up makes it busy, and no other step
    touches the flag or an execution. -/
theorem step?_flag (h : j.step? s = some j') (hext : j.spec.external = false) :
    let e : LogEntry := ⟨s, j, j'⟩
    (e.records = true ∧ j'.isIdle = true ∧ j'.isExecuting = false) ∨
      (e.records = false ∧ e.sent ≠ [] ∧ j'.isIdle = false) ∨
      (e.records = false ∧ e.sent = [] ∧ j'.isIdle = false ∧ j'.isExecuting = true) ∨
      (e.records = false ∧ e.sent = [] ∧ j'.isIdle = j.isIdle ∧ j'.isExecuting = j.isExecuting) := by
  cases s with
  | call c =>
    cases h
    rcases apply_cases c j with ⟨_, _, heq⟩ | ⟨_, _, heq⟩ | ⟨_, _, status, hidle, heq⟩
    · refine Or.inr (Or.inl ⟨rfl, ?_, heq ▸ isBusy_trigger hext⟩)
      rw [trigger_of_not_external hext] at heq
      simp [LogEntry.sent, heq, send]
    · refine Or.inr (Or.inr (Or.inr ?_))
      rcases spawn_eq j with hsame | ⟨_, hphase, hsame⟩ <;> rw [hsame] at heq
      · simp [LogEntry.records, LogEntry.sent, heq]
      · simp [LogEntry.records, LogEntry.sent, heq, isIdle, isExecuting, hphase]
    · refine Or.inr (Or.inr (Or.inr ?_))
      simp [LogEntry.records, LogEntry.sent, heq, isIdle, isExecuting, hidle]
  | loop a own =>
    cases a with
    | spawn => cases own
    | trigger => cases own
    | receive =>
      refine Or.inr (Or.inr (Or.inl ⟨rfl, rfl, isBusy_receive? h hext, ?_⟩))
      obtain ⟨_, _, _, _, rfl⟩ := receive?_eq_some h
      rfl
    | finishAttempt r =>
      refine Or.inr (Or.inr (Or.inr ⟨rfl, rfl, ?_⟩))
      obtain ⟨ticket, n, hphase, ⟨e, _, rfl⟩ | ⟨_, rfl⟩⟩ := finishAttempt?_eq_some h <;>
        exact ⟨rfl, by simp [isExecuting, hphase]⟩
    | resume =>
      refine Or.inr (Or.inr (Or.inr ⟨rfl, rfl, ?_⟩))
      obtain ⟨ticket, n, hphase, rfl⟩ := resume?_eq_some h
      exact ⟨rfl, by simp [isExecuting, hphase]⟩
    | record now =>
      refine Or.inl ⟨rfl, isIdle_record? h, ?_⟩
      obtain ⟨_, _, _, rfl⟩ := record?_eq_some h
      rfl
    | publish =>
      refine Or.inr (Or.inr (Or.inr ⟨rfl, rfl, ?_⟩))
      obtain ⟨ticket, hphase, rfl⟩ := publish?_eq_some h
      exact ⟨rfl, by simp [isExecuting, hphase]⟩

/-- Until the next record, what is sent is added to what is unrecorded. -/
theorem unrecorded_step? (h : j.step? s = some j')
    (hrecords : LogEntry.records ⟨s, j, j'⟩ = false) :
    j'.unrecorded = j.unrecorded ++ LogEntry.sent ⟨s, j, j'⟩ := by
  obtain ⟨hinbox, hticket⟩ := step?_conserves h
  rw [LogEntry.recorded_eq_nil hrecords, List.nil_append] at hticket
  rw [unrecorded, ← hticket, List.append_assoc, ← hinbox, ← List.append_assoc, unrecorded]

/-! ### Whole lives -/

section NewJob

variable {spec : JobSpec} {now : Instant}

/-- A job is busy exactly while an execution is under way, or once a ticket was sent after the last
    record. -/
theorem Life.busy_iff (h : (new spec now).Life log j) (hext : spec.external = false) :
    j.isIdle = false ↔ j.isExecuting = true ∨ sentSinceRecord log = true := by
  induction h with
  | nil => simp [new, JobStatus.fresh, isIdle, isExecuting, sentSinceRecord]
  | snoc hlife hstep ih =>
    rw [sentSinceRecord_snoc]
    rcases step?_flag hstep (hlife.spec ▸ hext) with ⟨hrecords, hidle, hexec⟩ |
      ⟨hrecords, hsent, hidle⟩ | ⟨hrecords, hsent, hidle, hexec⟩ | ⟨hrecords, hsent, hidle, hexec⟩
    · simp [hrecords, hidle, hexec]
    · simp [hrecords, hidle, hsent]
    · simp [hidle, hexec]
    · simp [hrecords, hidle, hexec, hsent, ih]

theorem Life.unrecorded_ne_nil (h : (new spec now).Life log j)
    (hsince : sentSinceRecord log = true) : j.unrecorded ≠ [] := by
  induction h with
  | nil => cases hsince
  | snoc _ hstep ih =>
    simp only [sentSinceRecord_snoc, Bool.and_eq_true, Bool.not_eq_true', Bool.or_eq_true,
      List.isEmpty_eq_false_iff] at hsince
    obtain ⟨hrecords, hsent⟩ := hsince
    rw [unrecorded_step? hstep hrecords]
    intro hnil
    obtain ⟨hold, hnew⟩ := List.append_eq_nil_iff.mp hnil
    exact hsent.elim (fun h => h hnew) fun h => ih h hold

/-- All that was sent is recorded, or else it is executed or waits. -/
theorem Life.allRecorded_iff (h : (new spec now).Life log j) (hext : spec.external = false) :
    AllRecorded log ↔ j.unrecorded = [] := by
  obtain ⟨hsent, hbegun⟩ := h.conserved
  have hsplit : sentTickets log = recordedTickets log ++ j.unrecorded := by
    rw [hsent, hbegun, unrecorded, List.append_assoc]
  have hnodup : (recordedTickets log ++ j.unrecorded).Nodup := by
    rw [← hsplit, (h.numbered hext).1]
    exact List.nodup_range'
  constructor
  · intro hall
    refine List.eq_nil_iff_forall_not_mem.mpr fun t ht => ?_
    have hrecorded : t ∈ recordedTickets log := by
      refine hall t ?_
      rw [hsplit]
      exact List.mem_append_right _ ht
    exact (List.nodup_append.mp hnodup).2.2 t hrecorded t ht rfl
  · intro hnil t ht
    rwa [hsplit, hnil, List.append_nil] at ht

/-- **A job is busy while a ticket is unrecorded, unless it is between two executions.**  A busy
    job has a ticket that is not recorded.  An idle job has one exactly when no execution is under
    way, tickets wait, and all of them were sent before the last record. -/
theorem Life.busy_unless_between (h : (new spec now).Life log j) (hext : spec.external = false) :
    (j.isIdle = false ↔ j.isExecuting = true ∨ sentSinceRecord log = true) ∧
      (j.isIdle = false → ¬ AllRecorded log) ∧
      (j.isIdle = true ∧ ¬ AllRecorded log ↔
        j.isExecuting = false ∧ j.inbox ≠ [] ∧ sentSinceRecord log = false) := by
  have hbusy := h.busy_iff hext
  have hidle : j.isIdle = true ↔ j.isExecuting = false ∧ sentSinceRecord log = false := by
    rw [← Bool.not_eq_false, hbusy, not_or, Bool.not_eq_true, Bool.not_eq_true]
  rw [h.allRecorded_iff hext]
  refine ⟨hbusy, fun hbusy' hnil => ?_, ?_⟩
  · rcases hbusy.mp hbusy' with hexec | hsince
    · rw [(unrecorded_eq_nil.mp hnil).1] at hexec
      cases hexec
    · exact h.unrecorded_ne_nil hsince hnil
  · rw [hidle, unrecorded_eq_nil]
    constructor
    · rintro ⟨⟨hexec, hsince⟩, hopen⟩
      exact ⟨hexec, fun hinbox => hopen ⟨hexec, hinbox⟩, hsince⟩
    · rintro ⟨hexec, hinbox, hsince⟩
      exact ⟨⟨hexec, hsince⟩, fun hnone => hinbox hnone.2⟩

end NewJob

/-! ### Between two executions -/

/-- A job is triggered again while it is executing, and the first execution is recorded. -/
def betweenSteps : List JobStep :=
  [.call .spawn, .call .trigger, .receive, .call .trigger, .finish (.ok .none), .record .epoch]

/-- A job can report to be idle although a ticket waits. -/
theorem idle_between_executions :
    ¬ ∀ (spec : JobSpec) (now : Instant) (log : List LogEntry) (j : Job),
      spec.external = false → (new spec now).Life log j →
        (j.isIdle = true ↔ AllRecorded log) := by
  intro hexact
  have hlife : crowded.Life ((crowded.play? betweenSteps).get rfl).1 _ := life_played rfl
  have hall := (hexact _ _ _ _ rfl hlife).mp rfl
  exact absurd (hall 2 (by decide)) (by decide)

/-- The job that was triggered twice is idle after its first execution, with its second ticket
    waiting. -/
theorem crowded_busy_unless_between :
    let r := (crowded.play? betweenSteps).get rfl
    crowded.Life r.1 r.2 ∧ r.2.inbox = [2] ∧
      (r.2.isIdle = true ∧ ¬ AllRecorded r.1 ↔
        r.2.isExecuting = false ∧ r.2.inbox ≠ [] ∧ sentSinceRecord r.1 = false) := by
  intro r
  have hlife : crowded.Life r.1 r.2 := life_played rfl
  exact ⟨hlife, rfl, (hlife.busy_unless_between rfl).2.2⟩

end Job

end SyncFleet
